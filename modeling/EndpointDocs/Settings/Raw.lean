import EndpointDocs.Entries
import EndpointDocs.Settings.Basic
import EndpointDocs.Text.Blank

/-!
# Reading settings

* `Raw`: a value as a settings file holds it.
* `Settings.ofRaw?`: the settings that raw values give, or every fault of theirs in order.
* `Settings.int`, `Settings.wholeNumber?`: what counts as a whole number.
-/

namespace EndpointDocs

/-- A value in a settings file. -/
inductive Raw where
  | null
  | bool (b : Bool)
  | int (n : Int)
  | float (x : Float)
  | text (s : String)
  /-- A date or a time. -/
  | date (s : String)
  | list (items : List Raw)
  | map (entries : List (Raw × Raw))
  deriving Inhabited

/-- The name that a key of a map is, if it is a text. -/
def Raw.name? : Raw → Option String
  | text s => some s
  | _ => none

/-- What is wrong with a setting. -/
inductive SettingFault where
  | notInt
  | unreadableInt
  | hugeInt
  | fractional
  | infinite
  | notText
  | notList
  | noSuchMode
  deriving DecidableEq, Repr

/-- A setting that is wrong: its name, the position inside it if it is a list, and the fault. -/
structure SettingError where
  name : String
  item : Option Nat
  fault : SettingFault
  deriving DecidableEq, Repr

namespace Settings

/-! ## Whole numbers -/

/-- White space around numbers; the separators U+001C to U+001F do not count. -/
def isSpace (c : Char) : Bool := Text.isBlank c && !(0x1c ≤ c.toNat && c.toNat ≤ 0x1f)

/-- A number from its first digit other than zero on; what is dropped are zeros and underscores, of
which the last one stays if a point or nothing follows. -/
def dropLeading? (last : Char) : List Char → Option (List Char)
  | [] => some [last]
  | c :: cs =>
    if c = '0' || c = '_' then dropLeading? c cs
    else if c.isDigit then some (c :: cs)
    else if c = '.' then some (last :: c :: cs)
    else none

/-- A number without a plus and zeros in front; zeros behind a minus stay. -/
def front? : List Char → Option (List Char)
  | '-' :: cs => some ('-' :: cs)
  | '+' :: '0' :: cs | '0' :: cs => dropLeading? '0' cs
  | '+' :: c :: cs | c :: cs => if c.isDigit then some (c :: cs) else none
  | [] => none

/-- The text without a decimal point that only zeros follow. -/
def dropZeros (cs : List Char) : List Char :=
  if ((cs.dropWhile (· != '.')).drop 1).all (· == '0') then cs.takeWhile (· != '.') else cs

/-- The text without underscores, which have to stand alone and not at an end. -/
def dropUnderscores? (cs : List Char) : Option (List Char) :=
  if cs.head? = some '_' || cs.getLast? = some '_' || (cs.zip cs.tail).contains ('_', '_') then none
  else some (cs.filter (· != '_'))

/-- The number that digits write; no zero stands in front of other digits. -/
def digits? : List Char → Option Nat
  | [] => none
  | ['0'] => some 0
  | c :: cs =>
    if c != '0' && (c :: cs).all Char.isDigit then
      some ((c :: cs).foldl (fun n d => 10 * n + (d.toNat - 48)) 0)
    else none

/-- The whole number that a text writes in decimal. -/
def wholeNumber? (s : String) : Option Int := do
  let cs := ((s.toList.dropWhile isSpace).reverse.dropWhile isSpace).reverse
  match ← dropUnderscores? (dropZeros (← front? cs)) with
  | '-' :: cs => (digits? cs).map fun n => -(n : Int)
  | cs => (digits? cs).map fun n => (n : Int)

/-- The whole number that a float is equal to. -/
def ofFloat (x : Float) : Except SettingFault Int :=
  if x.isNaN || x.isInf then .error .infinite
  else if x.floor != x then .error .fractional
  else if x.abs < 9223372036854775808.0 then .ok x.toInt64.toInt
  else .error .hugeInt

def int : Raw → Except SettingFault Int
  | .int n => .ok n
  | .bool b => .ok (if b then 1 else 0)
  | .float x => ofFloat x
  | .text s => (wholeNumber? s).elim (.error .unreadableInt) .ok
  | _ => .error .notInt

/-! ## Other settings -/

def text : Raw → Except SettingFault String
  | .text s => .ok s
  | _ => .error .notText

def mode : Raw → Except SettingFault CacheMode
  | .text s => (CacheMode.named? s).elim (.error .noSuchMode) .ok
  | _ => .error .noSuchMode

/-- The texts of a list and the errors of its other items, from a position on. -/
def items (name : String) : (position : Nat) → List Raw → List String × List SettingError
  | _, [] => ([], [])
  | n, r :: rs =>
    let (texts, errors) := items name (n + 1) rs
    match text r with
    | .ok s => (s :: texts, errors)
    | .error e => (texts, ⟨name, some n, e⟩ :: errors)

/-- A raw value as a list of texts. -/
def texts (name : String) : Raw → Except (List SettingError) (List String)
  | .list rs =>
    match items name 0 rs with
    | (ss, []) => .ok ss
    | (_, errors) => .error errors
  | _ => .error [⟨name, none, .notList⟩]

/-- A setting read from the raw values, or its default if it is not there. -/
def setting {α : Type} (raw : List (String × Raw)) (name : String) (otherwise : α)
    (read : Raw → Except (List SettingError) α) : Except (List SettingError) α :=
  (Entries.find? name raw).elim (.ok otherwise) read

/-- A reader whose fault concerns a setting as a whole. -/
def whole {α : Type} (name : String) (read : Raw → Except SettingFault α) (r : Raw) :
    Except (List SettingError) α :=
  match read r with
  | .ok v => .ok v
  | .error e => .error [⟨name, none, e⟩]

def errors {α : Type} : Except (List SettingError) α → List SettingError
  | .ok _ => []
  | .error es => es

/-- The settings of raw values; unknown names do not matter. -/
def ofRaw? (raw : List (String × Raw)) : Except (List SettingError) Settings :=
  let d := standard
  let depthLimit := setting raw "depth_limit" d.depthLimit (whole "depth_limit" int)
  let cacheMode := setting raw "cache_mode" d.cacheMode (whole "cache_mode" mode)
  let sourceRoot := setting raw "source_root" d.sourceRoot (whole "source_root" text)
  let baseUrl := setting raw "base_url" d.baseUrl (whole "base_url" text)
  let excludedPaths := setting raw "excluded_paths" d.excludedPaths (texts "excluded_paths")
  let noDescription := setting raw "no_description" d.noDescription (whole "no_description" text)
  match depthLimit, cacheMode, sourceRoot, baseUrl, excludedPaths, noDescription with
  | .ok depthLimit, .ok cacheMode, .ok sourceRoot, .ok baseUrl, .ok excludedPaths,
    .ok noDescription =>
    .ok { depthLimit, cacheMode, sourceRoot, baseUrl, excludedPaths, noDescription }
  | _, _, _, _, _, _ =>
    .error (errors depthLimit ++ errors cacheMode ++ errors sourceRoot ++ errors baseUrl ++
      errors excludedPaths ++ errors noDescription)

end Settings

end EndpointDocs
