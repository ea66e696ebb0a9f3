import EndpointDocs.Types.Universe

/-!
# Type descriptors

* `Kind`: what shape the values of a type have.
* `Field`, `Descriptor`: the description of a type; the type of a field is described on demand.
* `Descriptor.recordFields`: the fields of the record that a collection holds in the end.
-/

namespace EndpointDocs

/-- The shape of the values of a type. -/
inductive Kind where
  | string
  | boolean
  | numeric
  | scalar
  | sequence
  | mapping
  | record
  | unknown
  deriving DecidableEq, Repr

namespace Kind

/-- The word for a kind. -/
def name : Kind → String
  | string => "string"
  | boolean => "boolean"
  | numeric => "numeric"
  | scalar => "scalar"
  | sequence => "sequence"
  | mapping => "mapping"
  | record => "record"
  | unknown => "unknown"

/-- The kind of a word. -/
def named? (n : String) : Option Kind :=
  [string, boolean, numeric, scalar, sequence, mapping, record, unknown].find? (·.name == n)

def isScalar : Kind → Bool
  | string | boolean | numeric | scalar | unknown => true
  | sequence | mapping | record => false

end Kind

/-- A field of a record. -/
structure Field where
  name : String
  type : TypeExpr
  /-- The class that declares the field. -/
  owner : Option Owner
  /-- Whether the field belongs to the class and not to its values. -/
  static : Bool
  /-- Whether the type of the field can be described at all. -/
  readable : Bool := true

/-- The description of a type. -/
inductive Descriptor where
  | mk (kind : Kind) (name fullName : String) (key element : Option Descriptor)
    (fields : List Field)

namespace Descriptor

/-- The shape of the values. -/
def kind : Descriptor → Kind | mk k _ _ _ _ _ => k

def name : Descriptor → String | mk _ n _ _ _ _ => n

def fullName : Descriptor → String | mk _ _ n _ _ _ => n

def key : Descriptor → Option Descriptor | mk _ _ _ k _ _ => k

def element : Descriptor → Option Descriptor | mk _ _ _ _ e _ => e

def fields : Descriptor → List Field | mk _ _ _ _ _ fs => fs

/-- A type without parts. -/
def leaf (kind : Kind) (name fullName : String) : Descriptor := mk kind name fullName none none []

/-- A type of which nothing but a name is known. -/
def unknown (name : String) : Descriptor := leaf .unknown name ""

def isScalar (d : Descriptor) : Bool := d.kind.isScalar

/-- The fields of the record reached through any number of sequences and mappings. -/
def recordFields : Descriptor → List Field
  | mk .sequence _ _ _ (some e) _ => recordFields e
  | mk .mapping _ _ _ (some e) _ => recordFields e
  | mk .record _ _ _ _ fs => fs
  | _ => []

end Descriptor

end EndpointDocs
