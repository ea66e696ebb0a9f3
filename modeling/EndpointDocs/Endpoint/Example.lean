import EndpointDocs.Descriptor.Describe
import EndpointDocs.Value.Json

/-!
# Example payloads

* `Example.fill`: an example of a type with room for so many nesting levels, given the types of
  fields.
* `Example.make`: an example of a type below a limit of nesting.
* `Example.render`: the example as a JSON document.
-/

namespace EndpointDocs.Example

/-- What stands where nesting goes too deep. -/
def tooDeep : Value := .text "Recursion Limit Reached"

/-- What stands for a type of which only a name is known. -/
def placeholder (name : String) : Value := .text ("Unknown type: " ++ name)

/-- What asks for a value of a type. -/
def request (name : String) : Value := .text ("Please fill in " ++ name)

/-- The example of every mapping. -/
def mapping : Value := .object [("demoKey", .text "demoValue")]

/-- An example of a type, `depth` nesting levels of which are filled in. A field whose type cannot be
had has a placeholder for its annotation. -/
def fill (typeOf : Field → Option Descriptor) (textOf : Field → String) :
    (depth : Nat) → Descriptor → Value
  | 0, _ => tooDeep
  | n + 1, d =>
    match d.kind with
    | .numeric => .int 0
    | .boolean => .bool false
    | .string | .scalar => request d.name
    | .sequence => .list (d.element.elim [] fun e => [fill typeOf textOf n e])
    | .mapping => mapping
    | .record => .object <| Entries.ofPairs <| (d.fields.filter (!·.static)).map fun f =>
        (f.name, (typeOf f).elim (placeholder (textOf f)) (fill typeOf textOf n))
    | .unknown => placeholder d.name

variable (u : Universe)

/-- The example when the types of fields are described. -/
def ofDepth (depth : Nat) (d : Descriptor) : Value :=
  fill u.describeField? (fun f => f.type.shown u) depth d

/-- How many nesting levels fit between a depth and a limit, both included. -/
def room (depth limit : Int) : Nat := (limit + 1 - depth).toNat

/-- An example of a type that stands at a depth of nesting. -/
def make (d : Descriptor) (depth limit : Int) : Value := ofDepth u (room depth limit) d

def render (limit : Int) (d : Descriptor) : String := (make u d 0 limit).pretty

end EndpointDocs.Example
