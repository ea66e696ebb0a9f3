import EndpointDocs.Descriptor.Basic
import EndpointDocs.Types.Declare
import EndpointDocs.Types.Display

/-!
# Describing types

* `Universe.hints`: the annotations of a class and its ancestors, texts evaluated if all can be.
* `Universe.recordFields?`: the fields of a record class in order of declaration.
* `Universe.reflect?`: the description of a type, unless one of its classes cannot be read.
* `Universe.describe`: the description of a type; what cannot be read is unknown by name.
-/

namespace EndpointDocs

namespace Universe

variable (u : Universe)

/-! ## Fields of classes -/

/-- The annotations of a class and its ancestors with all texts evaluated. -/
def resolvedHints? (lineage : List ClassRef) : Option (List (String × TypeExpr)) :=
  lineage.reverse.foldlM (fun es c => do
    let own ← ((u.info? c).elim [] (·.own)).mapM fun (n, t) => do
      return (n, ← t.resolveHint? (u.scope (u.siteOf c)))
    return Entries.merge es own) []

/-- The annotations of a class and its ancestors; as written if one text cannot be evaluated. -/
def hints (lineage : List ClassRef) : List (String × TypeExpr) :=
  (u.resolvedHints? lineage).getD (u.annotationsOf lineage)

/-- The nearest class of a lineage that annotates a name itself, else the class at its start. -/
def declarer (c : ClassRef) (name : String) : ClassRef :=
  ((u.lineageOf c).find? fun d => (Entries.find? name ((u.info? d).elim [] (·.own))).isSome).getD c

def fieldOf (c : ClassRef) (static : Bool) (name : String) (t : TypeExpr) : Field :=
  { name, type := t, owner := some (u.ownerOf (u.declarer c name)), static }

/-- The fields of a dataclass: its entries but class variables. -/
def dataclassFields (c : ClassRef) : List Field :=
  let hints := u.hints (u.lineageOf c)
  ((u.entriesOf c).filter fun (_, t) => !t.isClassVar).map fun (n, t) =>
    u.fieldOf c false n ((Entries.find? n hints).getD t)

/-- The type of a class variable. -/
def staticType : TypeExpr → TypeExpr
  | .qualified .classVar t => t
  | _ => .any

/-- The annotated names of a class as fields; class variables are static. -/
def annotatedFields (c : ClassRef) : List Field :=
  (u.hints (u.lineageOf c)).map fun (n, t) =>
    if t.isClassVar then u.fieldOf c true n (staticType t) else u.fieldOf c false n t

def modelFields (c : ClassRef) (fields : List (String × TypeExpr)) : List Field :=
  fields.map fun (n, t) => u.fieldOf c false n t

/-- The fields of a record class, unless the annotations of a class cannot be read. -/
def recordFields? (c : ClassRef) : Option (List Field) :=
  if u.isModel c then some (u.modelFields c (u.settledOf (.cls c)))
  else if u.hasForm c .broken then none
  else if u.hasForm c .dataclass then some (u.dataclassFields c)
  else some (u.annotatedFields c)

/-! ## Kinds of classes -/

/-- The kind of a class whose values have no parts. -/
def scalarKind? (c : ClassRef) : Option Kind :=
  if u.descends c (· == .bool) then some .boolean
  else if u.descends c (· == .enum) then some .scalar
  else if u.descends c (· == .str) then some .string
  else if u.descends c fun s => s == .int || s == .float || s == .decimal || s == .complex then
    some .numeric
  else if u.descends c fun s => s == .bytes || s == .bytearray || s == .datetime || s == .date ||
      s == .time || s == .timedelta || s == .uuid || s == .purePath || s == .noneType then
    some .scalar
  else if u.moduleOf c == StandardClass.builtinModule && !(c == .standard .list ||
      c == .standard .tuple || c == .standard .set || c == .standard .frozenset ||
      c == .standard .dict || c == .standard .object) then
    some .scalar
  else none

def isMapping (c : ClassRef) : Bool :=
  u.descends c fun s => s == .dict || s == .abstract .mapping

/-- Whether a class is one of the built-in sequences and sets or below one. -/
def isBuiltinSequence (c : ClassRef) : Bool :=
  u.descends c fun s => s == .list || s == .tuple || s == .set || s == .frozenset

def isIterable (c : ClassRef) : Bool := u.descends c StandardClass.iterates

def isTypedDict (c : ClassRef) : Bool := (u.info? c).any (·.form == .typedDict)

def isNamedTuple (c : ClassRef) : Bool := u.hasForm c .namedTuple

/-! ## Descriptions -/

/-- A record type: the fields of a class under the name of a type, unknown without fields. -/
def describeRecord (name fullName : String) : List Field → Descriptor
  | [] => .unknown name
  | fs => .mk .record name fullName none none fs

/-- A class under the names of a type, by its kind; a record has the given fields. -/
def reflectAs? (c : ClassRef) (name fullName : String) (fields : Option (List Field)) :
    Option Descriptor :=
  match u.scalarKind? c with
  | some kind => some (.leaf kind name fullName)
  | none =>
    if u.isMapping c && !u.isTypedDict c then some (.leaf .mapping name fullName)
    else if u.isBuiltinSequence c && !u.isNamedTuple c then some (.leaf .sequence name fullName)
    else fields.map (describeRecord name fullName)

/-- A type without arguments that is a class. -/
def reflectClass? (c : ClassRef) : Option Descriptor :=
  u.reflectAs? c (TypeExpr.display u (.cls c)) (u.fullNameOf c) (u.recordFields? c)

/-- A class with arguments, whose descriptions are given: a mapping, a sequence or a record. -/
def reflectGeneric? (c : ClassRef) (name : String) (silent : Bool) (args : List Descriptor) :
    Option Descriptor :=
  let fullName := u.fullNameOf c
  if u.isMapping c then
    match args with
    | [k, e] => some (.mk .mapping name fullName (some k) (some e) [])
    | _ => some (.leaf .mapping name fullName)
  else if u.isIterable c then
    some (.mk .sequence name fullName none (if silent then none else args.head?) [])
  else (u.recordFields? c).map (describeRecord name fullName)

/-- The class that arguments make of a model class. -/
def reflectModel? (c : ClassRef) (args : List TypeExpr) : Option Descriptor :=
  let t := TypeExpr.generic c args
  u.reflectAs? c (TypeExpr.display u t) (TypeExpr.fullName u t)
    (some (u.modelFields c (u.settledOf t)))

/-- The class of a plain value. -/
def classOf : Value → StandardClass
  | .null => .noneType
  | .bool _ => .bool
  | .int _ => .int
  | .text _ => .str
  | .list _ => .list
  | .object _ => .dict

/-- Whether the first argument says nothing about elements: an ellipsis or the absent value. -/
def saysNothing : List TypeExpr → Bool
  | .ellipsis :: _ | .none :: _ => true
  | _ => false

mutual

/-- The description of a type, unless a class that it needs cannot be read. -/
def reflect? : TypeExpr → Option Descriptor
  | .annotated t _ => reflect? t
  | .union _ ts => reflectFirst? ts
  | .literal (v :: _) => u.reflectClass? (.standard (classOf v))
  | .cls c => u.reflectClass? c
  | .generic c ts =>
    let t := TypeExpr.generic c ts
    if u.specializes c then u.reflectModel? c ts
    else u.reflectGeneric? c (t.display u) (saysNothing ts) (describeAll ts)
  | .aliased a ts =>
    let t := TypeExpr.aliased a ts
    u.reflectGeneric? (.standard a.origin) (t.display u) (saysNothing ts) (describeAll ts)
  | .alias a => u.reflectGeneric? (.standard a.origin) a.origin.name false []
  | t => some (.unknown (t.display u))

/-- The description of the first type that is not the absent value. -/
def reflectFirst? : List TypeExpr → Option Descriptor
  | [] => u.reflectClass? (.standard .noneType)
  | t :: ts => if t.isNoneType then reflectFirst? ts else reflect? t

def describeAll : List TypeExpr → List Descriptor
  | [] => []
  | t :: ts => (reflect? t).getD (.unknown (t.display u)) :: describeAll ts

end

def describe (t : TypeExpr) : Descriptor := (u.reflect? t).getD (.unknown (t.display u))

/-- The description of the type of a field, if the field can be read. -/
def describeField? (f : Field) : Option Descriptor :=
  if f.readable then some (u.describe f.type) else none

end Universe

end EndpointDocs
