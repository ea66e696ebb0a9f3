import EndpointDocs.Comment.Cell
import EndpointDocs.Endpoint.Example
import EndpointDocs.Source.Store

/-!
# Field rows

* `Row`: the path of a field inside a response, its type and its description.
* `Rows.gather`: the rows of a type put after others, given the types and descriptions of fields;
  nested fields follow their own record.
* `Rows.ofType`: the rows of a type below a limit of nesting.
-/

namespace EndpointDocs

/-- A field inside a response. -/
structure Row where
  path : String
  typeName : String
  description : String
  deriving DecidableEq, Repr

namespace Rows

variable (u : Universe) {σ : Type}

/-- The path of a field below another path; the empty path is the response itself. -/
def extend (path name : String) : String := if path = "" then name else path ++ "." ++ name

/-- The description of a field as a table cell; empty without a source or an owner. -/
def fieldCell (docs : Option (Docs σ)) (f : Field) : Lookup σ String :=
  match docs, f.owner with
  | some d, some o => return Cell.ofOption (← d.fieldText (some o) f.name) ""
  | _, _ => return ""

/-- The rows of a type below a path put after other rows. A field is left out if its type or its
description cannot be had. -/
def gather (typeOf : Field → Option Descriptor) (cellOf : Field → Lookup σ String) :
    (depth : Nat) → (path : String) → Descriptor → Array Row → StateM σ (Array Row)
  | 0, _, _, rows => pure rows
  | n + 1, path, d, rows =>
    d.recordFields.foldlM (fun rows f =>
      if f.static then pure rows
      else match typeOf f with
        | none => pure rows
        | some t => do
          let path := extend path f.name
          match ← (cellOf f).run with
          | .error _ => pure rows
          | .ok cell => gather typeOf cellOf n path t (rows.push ⟨path, t.name, cell⟩))
      rows

/-- The rows when the types of fields are described. -/
def collect (docs : Option (Docs σ)) (depth : Nat) (path : String) (d : Descriptor)
    (rows : Array Row) : StateM σ (Array Row) :=
  gather u.describeField? (fieldCell docs) depth path d rows

/-- The rows of a type that stands below a path at a depth of nesting. -/
def ofType (docs : Option (Docs σ)) (d : Descriptor) (path : String) (depth limit : Int) :
    StateM σ (Array Row) :=
  collect u docs (Example.room depth limit) path d #[]

end Rows

end EndpointDocs
