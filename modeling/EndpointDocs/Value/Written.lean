import EndpointDocs.Text.Quoted
import EndpointDocs.Value.Basic

/-!
# Values on one line

* `Value.written`: a value on one line, every text quoted.
* `Value.shown`: the same, but a text that is the whole value stands without quotes.
-/

namespace EndpointDocs.Value

mutual

/-- A value on one line, texts quoted. -/
def written : Value → String
  | .null => "None"
  | .bool b => if b then "True" else "False"
  | .int n => toString n
  | .text s => Text.quote s
  | .list items => "[" ++ ", ".intercalate (writtenItems items) ++ "]"
  | .object entries => "\x7b" ++ ", ".intercalate (writtenEntries entries) ++ "\x7d"

def writtenItems : List Value → List String
  | [] => []
  | v :: vs => written v :: writtenItems vs

def writtenEntries : List (String × Value) → List String
  | [] => []
  | (k, v) :: es => (Text.quote k ++ ": " ++ written v) :: writtenEntries es

end

/-- A value on one line; a text is shown as it is. -/
def shown : Value → String
  | .text s => s
  | v => written v

end EndpointDocs.Value
