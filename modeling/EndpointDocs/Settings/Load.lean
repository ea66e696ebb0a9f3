import EndpointDocs.Settings.Raw
import EndpointDocs.Text.LineBreak
import EndpointDocs.Yaml.Scalar

/-!
# Loading settings

* `ConfigFault`: why a settings file cannot be used, and `ConfigFault.message`, the same in words.
* `Settings.Reader`: what parses a settings file, and what validates the values in it.
* `Settings.Reader.load?`: the settings of a file with the overrides of the environment.
* `Settings.load?`: the same with the parser and the validation that are written here.
-/

namespace EndpointDocs

/-- Why a settings file cannot be used. -/
inductive ConfigFault where
  | cannotRead
  | notYaml
  | notAMap
  | invalid (errors : List SettingError)
  deriving DecidableEq, Repr

/-- A fault of a file in words. -/
def ConfigFault.message (path : String) : ConfigFault → String
  | cannotRead => "Cannot read settings file " ++ path
  | notYaml => "Invalid YAML in " ++ path
  | notAMap => "Settings file " ++ path ++ " must contain a mapping"
  | invalid _ => "Invalid settings"

/-- Why settings cannot be loaded. -/
inductive SettingsFault where
  | config (fault : ConfigFault)
  /-- The file is not valid UTF-8. -/
  | notText
  /-- The parser stops at a value that does not exist, not at a fault of the format. -/
  | noSuchValue
  /-- The file holds a setting whose name is no text. -/
  | unnamed
  deriving DecidableEq, Repr

namespace Settings

/-- The variable that overrides the base URL. -/
def baseUrlVariable : String := "API_DASHBOARD_BASE_URL"

/-- The variable that overrides the cache mode. -/
def cacheModeVariable : String := "API_DASHBOARD_CACHE_MODE"

/-- A variable of the environment that is there and not empty. -/
def setIn (env : List (String × String)) (name : String) : Option String :=
  (Entries.find? name env).filter (· != "")

/-! ## Any parser and any validation -/

/-- What a settings file holds. -/
inductive Loaded (V : Type) where
  | nothing
  /-- A map; a key that is no text is no name. -/
  | map (entries : List (Option String × V))
  | other

/-- An entry whose key is a text. -/
def named {V : Type} : Option String × V → Except SettingsFault (String × V)
  | (some name, v) => .ok (name, v)
  | (none, _) => .error .unnamed

/-- What settings are read with: a parser of files, and a validation of named values. -/
structure Reader (V : Type) where
  parse : String → Except Yaml.Fault (Loaded V)
  ofText : String → V
  validate : List (String × V) → Except (List SettingError) Settings

namespace Reader

variable {V : Type} (rd : Reader V)

/-- What a file holds. -/
def loaded? (bytes : ByteArray) : Except SettingsFault (Loaded V) :=
  match String.fromUTF8? bytes with
  | none => .error .notText
  | some s =>
    match rd.parse (String.ofList (Text.unifyLineBreaks s.toList)) with
    | .ok v => .ok v
    | .error .malformed => .error (.config .notYaml)
    | .error .noSuchValue => .error .noSuchValue

/-- The entries of a file; an empty file has none. -/
def entriesOf (bytes : ByteArray) : Except SettingsFault (List (Option String × V)) := do
  match ← rd.loaded? bytes with
  | .nothing => return []
  | .map es => return es
  | .other => throw (.config .notAMap)

/-- The entries with a setting overridden, if there is a text for it. -/
def override (name : String) (text : Option String) (es : List (Option String × V)) :
    List (Option String × V) :=
  text.elim es fun s => es ++ [(some name, rd.ofText s)]

/-- The settings of a file, if one is given, with the overrides of the environment. -/
def load? (file : Option (Option ByteArray)) (env : List (String × String)) :
    Except SettingsFault Settings := do
  let es ← match file with
    | none => pure []
    | some none => throw (.config .cannotRead)
    | some (some bytes) => rd.entriesOf bytes
  let es := rd.override "base_url" (setIn env baseUrlVariable) es
  let es := rd.override "cache_mode" (setIn env cacheModeVariable) es
  match rd.validate (Entries.ofPairs (← es.mapM named)) with
  | .ok s => return s
  | .error errors => throw (.config (.invalid errors))

end Reader

/-! ## The parser and the validation that are written here -/

/-- A raw value as what a settings file holds. -/
def Loaded.ofRaw : Option Raw → Loaded Raw
  | none | some .null => .nothing
  | some (.map es) => .map (es.map fun (k, v) => (k.name?, v))
  | some _ => .other

/-- The reader of raw values. -/
def Reader.raw : Reader Raw where
  parse s := (Yaml.read? s).map Loaded.ofRaw
  ofText := .text
  validate := ofRaw?

/-- The settings of a file, if one is given, with the overrides of the environment. -/
def load? : Option (Option ByteArray) → List (String × String) → Except SettingsFault Settings :=
  Reader.raw.load?

end Settings

end EndpointDocs
