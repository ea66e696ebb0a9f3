/-!
# Plain values

* `Value`: null, truth values, whole numbers, texts, lists and ordered objects.
-/

namespace EndpointDocs

/-- A plain value; the keys of an object stay in order. -/
inductive Value where
  | null
  | bool (b : Bool)
  | int (n : Int)
  | text (s : String)
  | list (items : List Value)
  | object (entries : List (String × Value))
  deriving Inhabited, BEq, Repr

namespace Value

def isContainer : Value → Bool
  | .list _ | .object _ => true
  | _ => false

end Value

end EndpointDocs
