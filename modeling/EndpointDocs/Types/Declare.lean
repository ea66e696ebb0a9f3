import EndpointDocs.Types.Lineage
import EndpointDocs.Types.Universe

/-!
# Declaring classes

* `ClassDecl`: a class as it is written.
* `Universe.declare?`: the classes with one more; its lineage, and the fields of a model or of a
  dataclass, are settled once and for all.
-/

namespace EndpointDocs

/-- A class as it is written. -/
structure ClassDecl where
  key : String
  name : String
  module : String
  qualname : String
  form : ClassForm
  fields : List (String × TypeExpr)
  bases : List TypeExpr
  params : List String

/-- What can go wrong when a class is declared. -/
inductive DeclareFault where
  /-- The lineages of the bases have no common order. -/
  | noCommonOrder
  deriving DecidableEq, Repr

namespace TypeExpr

/-- The class that a base stands for. -/
def baseClass? : TypeExpr → Option ClassRef
  | .cls c | .generic c _ => some c
  | .alias a | .aliased a _ => some (.standard a.origin)
  | _ => .none

def isClassVar : TypeExpr → Bool
  | .qualified .classVar _ | .bareClassVar => true
  | _ => false

end TypeExpr

namespace Universe

variable (u : Universe)

/-- The form that a class takes: every class below a typed dictionary is one. -/
def formOf (d : ClassDecl) : ClassForm :=
  if d.form == .plain && d.bases.any fun b =>
      b.baseClass?.any fun c => (u.info? c).any (·.form == .typedDict)
    then .typedDict else d.form

/-- The bases of a class; some forms bring a base of their own. -/
def basesOf (d : ClassDecl) : List ClassRef :=
  let bases := d.bases.filterMap TypeExpr.baseClass?
  match u.formOf d with
  | .typedDict => [.standard .dict]
  | .namedTuple => [.standard .tuple]
  | .enum => bases ++ [.standard .enum]
  | .model => if bases.any u.isModel then bases else bases ++ [.standard .model]
  | _ => if bases.isEmpty then [.standard .object] else bases

/-- The annotations that a class keeps as its own. -/
def ownOf (d : ClassDecl) : List (String × TypeExpr) :=
  match u.formOf d with
  | .typedDict =>
    let inherited := d.bases.flatMap fun b =>
      (b.baseClass?.bind u.info?).elim [] fun i => if i.form == .typedDict then i.own else []
    Entries.merge (Entries.ofPairs inherited) <| d.fields.map fun
      | (n, .text s) => (n, .forward s (some d.module))
      | (n, t) => (n, t.converted)
  | .namedTuple => Entries.ofPairs (d.fields.map fun (n, t) => (n, t.converted))
  | _ => Entries.ofPairs d.fields

/-- The annotations of a lineage, those of the most basic class first. -/
def annotationsOf (lineage : List ClassRef) : List (String × TypeExpr) :=
  lineage.reverse.foldl (fun es c => Entries.merge es ((u.info? c).elim [] (·.own))) []

/-- The fields that a dataclass, or the dataclass above a class, was made with. -/
def entriesOf (c : ClassRef) : List (String × TypeExpr) :=
  ((u.lineageOf c).findSome? fun d =>
    ((u.info? d).filter (·.form == .dataclass)).map (·.settled)).getD []

/-- The fields of a dataclass: those of its ancestors, basic ones first, then its own. -/
def dataclassEntries (ancestors : List ClassRef) (own : List (String × TypeExpr)) :
    List (String × TypeExpr) :=
  Entries.merge (ancestors.reverse.foldl (fun es c => Entries.merge es (u.entriesOf c)) []) own

/-- The settled fields of a model; arguments may change their types. -/
def settledOf : TypeExpr → List (String × TypeExpr)
  | .cls c => (u.info? c).elim [] (·.settled)
  | .generic c args => (u.info? c).elim [] fun i =>
    if u.specializes c then u.reading.specialize i args else i.settled
  | _ => []

/--
The type of a model field: its own annotation resolved as far as the classes declared so far allow,
else the type in the first base that has the field.
-/
def settle (s : Scope) (bases : List TypeExpr) (own : List (String × TypeExpr))
    (name : String) (t : TypeExpr) : TypeExpr :=
  let resolved := ((t.resolve? s).getD t.converted).fieldType
  if (Entries.find? name own).isSome then resolved
  else (bases.findSome? fun b => Entries.find? name (u.settledOf b)).getD resolved

/-- The fields of a model class that is already among the classes. -/
def settledFields (c : ClassInfo) (bases : List TypeExpr) : List (String × TypeExpr) :=
  (u.annotationsOf c.lineage).filterMap fun (n, t) =>
    if n.startsWith "_" || t.isClassVar then none
    else some (n, u.settle (u.scope (.inClass c.module c.qualname)) bases c.own n t)

/-- The classes with one more. -/
def declare? (d : ClassDecl) : Except DeclareFault Universe := do
  let self := ClassRef.declared d.key
  let bases := u.basesOf d
  let some ancestors := mergeLineages (bases.map u.lineageOf ++ [bases])
    | throw .noCommonOrder
  let info : ClassInfo := {
    key := d.key, name := d.name, module := d.module, qualname := d.qualname
    form := u.formOf d, params := d.params, lineage := self :: ancestors
    own := u.ownOf d, settled := [] }
  let u' := { u with classes := u.classes ++ [info] }
  let settled :=
    if u'.isModel self then u'.settledFields info d.bases
    else if info.form == .dataclass then u.dataclassEntries ancestors info.own
    else []
  return { u with classes := u.classes ++ [{ info with settled }] }

/-- All classes of a list, declared in turn. -/
def ofDecls? (ds : List ClassDecl) : Except DeclareFault Universe :=
  ds.foldlM (fun u d => u.declare? d) empty

end Universe

end EndpointDocs
