import EndpointDocs.Settings.Raw
import EndpointDocs.Yaml.Tree

/-!
# What YAML scalars stand for

* `Scalar.read`: a scalar without quotes as null, a truth value, a number, a date or a text.
* `Tree.raw`: a tree as a raw value; keys have to be scalars.
* `Yaml.read?`: the raw value of a text.
-/

namespace EndpointDocs.Yaml

namespace Scalar

/-- The words for nothing. -/
def nullWords : List String := ["", "~", "null", "Null", "NULL"]

/-- The words for truth values. -/
def boolWords : List (String × Bool) := [
  ("yes", true), ("Yes", true), ("YES", true), ("no", false), ("No", false), ("NO", false),
  ("true", true), ("True", true), ("TRUE", true), ("false", false), ("False", false),
  ("FALSE", false), ("on", true), ("On", true), ("ON", true), ("off", false), ("Off", false),
  ("OFF", false)]

/-- The digits of a number without underscores. -/
def bare (cs : List Char) : List Char := cs.filter (· != '_')

/-- The number that digits of a base write; no digit writes no number. -/
def ofDigits (base : Nat) (cs : List Char) : Except Fault Nat :=
  let cs := bare cs
  if cs.isEmpty then .error .noSuchValue
  else .ok (cs.foldl (fun n c => base * n + (hexValue? c).getD 0) 0)

/-- The sign of a number and what follows it. -/
def signed : List Char → Int × List Char
  | '-' :: cs => (-1, cs)
  | '+' :: cs => (1, cs)
  | cs => (1, cs)

/-- Whether a character is a decimal digit or an underscore. -/
def isDigitMark (c : Char) : Bool := c.isDigit || c == '_'

/-- Whether a text is a number below sixty in at most two digits. -/
def isSixtieth : List Char → Bool
  | [a] => a.isDigit
  | [a, b] => '0' ≤ a && a ≤ '5' && b.isDigit
  | _ => false

/-- The parts of a text between colons. -/
def parts (cs : List Char) : List (List Char) := cs.splitOn ':'

/-- Whether a text is a decimal number without a zero in front. -/
def isDecimal : List Char → Bool
  | c :: cs => c.isDigit && c != '0' && cs.all isDigitMark
  | [] => false

/-- A whole number; none if the text is not written as one. -/
def int? (cs : List Char) : Option (Except Fault Int) :=
  let (sign, cs) := signed cs
  let times (n : Except Fault Nat) : Option (Except Fault Int) := some (n.map fun n => sign * n)
  match cs with
  | ['0'] => some (.ok 0)
  | '0' :: 'b' :: ds =>
    if !ds.isEmpty && ds.all fun c => c == '0' || c == '1' || c == '_' then times (ofDigits 2 ds)
    else none
  | '0' :: 'x' :: ds =>
    if !ds.isEmpty && ds.all fun c => (hexValue? c).isSome || c == '_' then times (ofDigits 16 ds)
    else none
  | '0' :: ds =>
    let isOctal := ds.all fun c => ('0' ≤ c && c ≤ '7') || c == '_'
    if isOctal then times (ofDigits 8 ('0' :: ds)) else none
  | cs =>
    match parts cs with
    | first :: rest =>
      if isDecimal first && rest.all isSixtieth then
        times ((first :: rest).foldlM (fun n p => do return 60 * n + (← ofDigits 10 p)) 0)
      else none
    | [] => none

/-- The digits of an exponent with its sign; nothing counts as zero. -/
def exponent? : List Char → Option Int
  | [] => some 0
  | e :: s :: ds =>
    if (e == 'e' || e == 'E') && (s == '-' || s == '+') && !ds.isEmpty && ds.all Char.isDigit then
      match ofDigits 10 ds with
      | .ok n => some (if s = '-' then -n else n)
      | .error _ => none
    else none
  | _ => none

/-- The float of digits before and after the point and an exponent. Beyond ten to the power of 400
every float is infinite or zero, so the exponent is kept within that. -/
def floatOf (whole fraction : List Char) (exponent : Int) : Float :=
  let fraction := bare fraction
  let digits := bare whole ++ fraction
  let n := digits.foldl (fun n c => 10 * n + (c.toNat - 48)) 0
  let e : Int := max (-400 - digits.length) (min 400 (exponent - fraction.length))
  if e < 0 then Float.ofScientific n true e.natAbs else Float.ofScientific n false e.natAbs

/-- A float with a point, or in parts of sixty with a point. -/
def pointFloat? (cs : List Char) : Option Float := do
  let whole := cs.takeWhile (· != '.')
  let rest ← match cs.dropWhile (· != '.') with
    | '.' :: rest => some rest
    | _ => none
  let fraction := rest.takeWhile isDigitMark
  let tail := rest.dropWhile isDigitMark
  match parts whole with
  | [w] =>
    let e ← exponent? tail
    if w.isEmpty then
      if fraction.head?.any Char.isDigit then some (floatOf [] fraction e) else none
    else if w.head?.any Char.isDigit && w.all isDigitMark then some (floatOf w fraction e)
    else none
  | w :: ws =>
    if tail.isEmpty && w.head?.any Char.isDigit && w.all isDigitMark && ws.all isSixtieth then
      let seconds := ws.getLastD []
      let value := fun p => (ofDigits 10 p).toOption.getD 0
      let minutes := (w :: ws.dropLast).foldl (fun n p => 60 * n + value p) 0
      some (60 * minutes.toFloat + floatOf seconds fraction 0)
    else none
  | [] => none

/-- The words for the infinite float. -/
def infinityWords : List (List Char) := [".inf".toList, ".Inf".toList, ".INF".toList]

/-- The words for no number. -/
def nanWords : List (List Char) := [".nan".toList, ".NaN".toList, ".NAN".toList]

/-- A float; none if the text is not written as one. -/
def float? (cs : List Char) : Option Float :=
  let (sign, ds) := signed cs
  let times (x : Float) : Float := if sign < 0 then -x else x
  if infinityWords.contains ds then some (times (1.0 / 0.0))
  else if nanWords.contains cs then some (0.0 / 0.0)
  else if ds.head? = some '.' && ds.length < cs.length then none
  else (pointFloat? ds).map times

/-! ## Dates -/

/-- So many digits at the start of a text and what follows them. -/
def digits? (least most : Nat) (cs : List Char) : Option (Nat × List Char) :=
  let ds := (cs.take most).takeWhile Char.isDigit
  if ds.length < least then none
  else some (ds.foldl (fun n c => 10 * n + (c.toNat - 48)) 0, cs.drop ds.length)

/-- What follows a character at the start of a text. -/
def after? (c : Char) : List Char → Option (List Char)
  | d :: cs => if d = c then some cs else none
  | [] => none

def daysIn (year month : Nat) : Nat :=
  if month = 2 then
    if year % 4 = 0 && (year % 100 != 0 || year % 400 = 0) then 29 else 28
  else if month = 4 || month = 6 || month = 9 || month = 11 then 30
  else 31

def isDay (year month day : Nat) : Bool :=
  1 ≤ year && 1 ≤ month && month ≤ 12 && 1 ≤ day && day ≤ daysIn year month

/-- The blanks between the parts of a time. -/
def isGap (c : Char) : Bool := c == ' ' || c == '\t'

/-- Whether a text is a time zone, and whether the zone exists. -/
def zone? (cs : List Char) : Option Bool :=
  match cs.dropWhile isGap with
  | [] => if cs.isEmpty then some true else none
  | ['Z'] => some true
  | s :: cs =>
    if s = '-' || s = '+' then do
      let (hours, cs) ← digits? 1 2 cs
      match cs with
      | [] => some (hours < 24)
      | ':' :: cs => do
        let (minutes, cs) ← digits? 2 2 cs
        if cs.isEmpty then some (60 * hours + minutes < 1440) else none
      | _ => none
    else none

/-- Whether a text is a time with an optional zone, and whether the time exists. -/
def time? (cs : List Char) : Option Bool := do
  let (hour, cs) ← digits? 1 2 cs
  let (minute, cs) ← digits? 2 2 (← after? ':' cs)
  let (second, cs) ← digits? 2 2 (← after? ':' cs)
  let cs := match cs with
    | '.' :: cs => cs.dropWhile Char.isDigit
    | cs => cs
  let zone ← zone? cs
  return hour < 24 && minute < 60 && second < 60 && zone

/-- What separates a date from a time. -/
def afterGap? : List Char → Option (List Char)
  | 'T' :: cs | 't' :: cs => some cs
  | c :: cs => if isGap c then some (cs.dropWhile isGap) else none
  | [] => none

/-- Whether a text is a date or a date with a time, and whether the date exists. -/
def date? (cs : List Char) : Option Bool := do
  let (year, cs) ← digits? 4 4 cs
  let start ← after? '-' cs
  let (month, cs) ← digits? 1 2 start
  let (day, rest) ← digits? 1 2 (← after? '-' cs)
  if rest.isEmpty then
    if start.length = 5 then some (isDay year month day) else none
  else return isDay year month day && (← time? (← afterGap? rest))

/-- A scalar without quotes. -/
def read (s : String) : Except Fault Raw :=
  let cs := s.toList
  if nullWords.contains s then .ok .null
  else match Entries.find? s boolWords with
    | some b => .ok (.bool b)
    | none =>
      match float? cs, int? cs, date? cs with
      | some x, _, _ => .ok (.float x)
      | none, some n, _ => n.map .int
      | none, none, some true => .ok (.date s)
      | none, none, some false => .error .noSuchValue
      | none, none, none => if s = "=" || s = "<<" then .error .malformed else .ok (.text s)

end Scalar

namespace Tree

/-- A scalar as a key; an equals sign stands for itself. -/
def key (text : String) (plain : Bool) : Except Fault Raw :=
  if !plain || text = "=" then .ok (.text text) else Scalar.read text

mutual

/-- The raw value of a tree. -/
def raw : Tree → Except Fault Raw
  | .scalar s plain => if plain then Scalar.read s else .ok (.text s)
  | .list ts => return .list (← rawItems ts)
  | .map es => return .map (← rawEntries es)

def rawItems : List Tree → Except Fault (List Raw)
  | [] => .ok []
  | t :: ts => do return (← raw t) :: (← rawItems ts)

def rawEntries : List (Tree × Tree) → Except Fault (List (Raw × Raw))
  | [] => .ok []
  | (.scalar s plain, v) :: es => do
    return (← key s plain, ← raw v) :: (← rawEntries es)
  | _ :: _ => .error .malformed

end

end Tree

/-- The raw value of a text; none if the text holds no document. The part of the format that is read
are collections in both styles, plain and quoted scalars, and comments. -/
def read? (text : String) : Except Fault (Option Raw) := do
  match ← Tree.ofTokens? (← Token.ofText? text.toList) with
  | none => return none
  | some t => return some (← t.raw)

end EndpointDocs.Yaml
