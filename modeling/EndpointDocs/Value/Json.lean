import EndpointDocs.Text.LineBreak
import EndpointDocs.Value.Basic

/-!
# Pretty-printed JSON

* `Json.escape`: a text between double quotes; only quotes, backslashes and controls are escaped.
* `Value.pretty`: two blanks per level, one item or entry a line, empty containers closed at once.
-/

namespace EndpointDocs

namespace Json

/-- The hexadecimal digits of a number below 256. -/
def twoHex (n : Nat) : List Char := [Nat.digitChar (n / 16), Nat.digitChar (n % 16)]

/-- A character inside a quoted text. -/
def escapeChar (c : Char) : List Char :=
  match c with
  | '"' => ['\\', '"']
  | '\\' => ['\\', '\\']
  | '\n' => ['\\', 'n']
  | '\r' => ['\\', 'r']
  | '\t' => ['\\', 't']
  | '\x0c' => ['\\', 'f']
  | '\x08' => ['\\', 'b']
  | c => if c.toNat < 0x20 then ['\\', 'u', '0', '0'] ++ twoHex c.toNat else [c]

/-- A text between double quotes. -/
def escape (s : String) : List Char := '"' :: s.toList.flatMap escapeChar ++ ['"']

/-- A new line at a nesting level. -/
def newLine (level : Nat) : List Char := '\n' :: List.replicate (2 * level) ' '

/-- Members between brackets, each on a line of its own one level deeper. -/
def bracketed (opening closing : Char) (level : Nat) : List (List Char) → List Char
  | [] => [opening, closing]
  | ms => opening :: newLine (level + 1) ++ Text.joinWith (',' :: newLine (level + 1)) ms ++
      newLine level ++ [closing]

end Json

namespace Value

open Json

mutual

/-- The layout of a value whose first line stands at a nesting level. -/
def layout (level : Nat) : Value → List Char
  | .null => "null".toList
  | .bool b => (if b then "true" else "false").toList
  | .int n => (toString n).toList
  | .text s => escape s
  | .list items => bracketed '[' ']' level (layoutItems (level + 1) items)
  | .object entries => bracketed '{' '}' level (layoutEntries (level + 1) entries)

def layoutItems (level : Nat) : List Value → List (List Char)
  | [] => []
  | v :: vs => layout level v :: layoutItems level vs

def layoutEntries (level : Nat) : List (String × Value) → List (List Char)
  | [] => []
  | (k, v) :: es => (escape k ++ [':', ' '] ++ layout level v) :: layoutEntries level es

end

/-- A value as an indented JSON document. -/
def pretty (v : Value) : String := String.ofList (v.layout 0)

end Value

end EndpointDocs
