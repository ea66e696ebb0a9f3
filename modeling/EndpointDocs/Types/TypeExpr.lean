import EndpointDocs.Types.Standard
import EndpointDocs.Value.Basic

/-!
# Type expressions

* `TypeExpr`: what a field, a parameter or a result is annotated with.
* `ClassRef`, `Mark`, `Qualifier`, `Binding`: the parts of a type expression.
* `TypeExpr.checked`: what is accepted as a part of another type expression.
* `TypeExpr.union?`, `TypeExpr.either?`, `TypeExpr.annotate?`, …: type expressions in normal form:
  unions are flat and without duplicates, annotations do not nest.
-/

namespace EndpointDocs

/-- A class, standard or known by the key of its declaration. -/
inductive ClassRef where
  | standard (c : StandardClass)
  | declared (key : String)
  deriving DecidableEq, Repr

/-- Where a parameter is bound from. -/
inductive Role where
  | query
  | path
  | body
  deriving DecidableEq, Repr

def Role.name : Role → String
  | query => "Query"
  | path => "Path"
  | body => "Body"

/-- A marker that gives a parameter its role and a description. -/
structure Binding where
  role : Role
  description : String
  deriving DecidableEq, Repr

/-- What an annotated type carries besides the type. -/
inductive Mark where
  | binding (b : Binding)
  | value (v : Value)
  deriving BEq, Repr

/-- A word that qualifies the type of a field. -/
inductive Qualifier where
  | classVar
  | final
  | required
  | notRequired
  deriving DecidableEq, Repr

def Qualifier.name : Qualifier → String
  | classVar => "ClassVar"
  | final => "Final"
  | required => "Required"
  | notRequired => "NotRequired"

/-- A type expression. -/
inductive TypeExpr where
  /-- The absent value, not its class. -/
  | none
  | any
  | ellipsis
  | noReturn
  /-- The word for class variables without a type. -/
  | bareClassVar
  | cls (c : ClassRef)
  | alias (a : Alias)
  | generic (c : ClassRef) (args : List TypeExpr)
  | aliased (a : Alias) (args : List TypeExpr)
  /-- One of several types; `piped` tells how the union is written. -/
  | union (piped : Bool) (members : List TypeExpr)
  | annotated (t : TypeExpr) (marks : List Mark)
  | literal (values : List Value)
  | qualified (q : Qualifier) (t : TypeExpr)
  | typeVar (name : String)
  | newType (name : String) (base : TypeExpr)
  | callable (params : List TypeExpr) (result : TypeExpr)
  /-- A text that stands for a type. -/
  | text (s : String)
  /-- A text wrapped as a reference to a type, with the module that it was written in. -/
  | forward (s : String) (home : Option String)
  | value (v : Value)
  deriving Inhabited, Repr

/-- What can go wrong when a type expression is put together. -/
inductive TypeFault where
  | notAType
  | wrongArity
  deriving DecidableEq, Repr

namespace TypeExpr

/-- The class of the absent value. -/
def noneType : TypeExpr := .cls (.standard .noneType)

def isNoneType : TypeExpr → Bool
  | .cls (.standard .noneType) => true
  | _ => false

/-- Whether all values of one list are in another one of the same length. -/
def sameValues (vs ws : List Value) : Bool := vs.length == ws.length && vs.all ws.contains

mutual

/-- Whether two type expressions are the same; the order in a union does not matter. -/
def same : TypeExpr → TypeExpr → Bool
  | .none, .none => true
  | .any, .any => true
  | .ellipsis, .ellipsis => true
  | .noReturn, .noReturn => true
  | .bareClassVar, .bareClassVar => true
  | .cls c, .cls d => c == d
  | .alias a, .alias b => a == b
  | .generic c ts, .generic d us => c == d && sameAll ts us
  | .aliased a ts, .aliased b us => a == b && sameAll ts us
  | .union _ ts, .union _ us => ts.length == us.length && allIn ts us
  | .annotated t ms, .annotated u ns => same t u && ms == ns
  | .literal vs, .literal ws => sameValues vs ws
  | .qualified q t, .qualified r u => q == r && same t u
  | .typeVar n, .typeVar m => n == m
  | .newType n t, .newType m u => n == m && same t u
  | .callable ts r, .callable us s => sameAll ts us && same r s
  | .text s, .text t => s == t
  | .forward s m, .forward t n => s == t && m == n
  | .value v, .value w => v == w
  | _, _ => false

/-- Whether two lists hold the same type expressions one by one. -/
def sameAll : List TypeExpr → List TypeExpr → Bool
  | [], [] => true
  | t :: ts, u :: us => same t u && sameAll ts us
  | _, _ => false

/-- Whether every type expression of one list is in the other. -/
def allIn : List TypeExpr → List TypeExpr → Bool
  | [], _ => true
  | t :: ts, us => us.any (same t) && allIn ts us

end

/-- The type expression that a part is read as: the absent value as its class, a text as a
reference. -/
def converted : TypeExpr → TypeExpr
  | .none => noneType
  | .text s => .forward s .none
  | t => t

/-- A part of another type expression; `ClassVar` and `Final` are refused. -/
def checked : TypeExpr → Except TypeFault TypeExpr
  | .qualified .classVar _ | .qualified .final _ | .bareClassVar | .annotated .bareClassVar _ =>
    .error .notAType
  | t => .ok t.converted

/-- The members of a union, or the type expression itself. -/
def members : TypeExpr → List TypeExpr
  | .union _ ts => ts
  | t => [t]

/-- The list without later copies of its members. -/
def dedupe (ts : List TypeExpr) : List TypeExpr :=
  ts.foldl (fun kept t => if kept.any t.same then kept else kept ++ [t]) []

/-- The union of parts; one part alone is no union. -/
def unite (piped : Bool) (parts : List TypeExpr) : TypeExpr :=
  match dedupe (parts.flatMap members) with
  | [t] => t
  | ts => .union piped ts

def union? (ts : List TypeExpr) : Except TypeFault TypeExpr :=
  return unite false (← ts.mapM checked)

def optional? (t : TypeExpr) : Except TypeFault TypeExpr := union? [t, .none]

/-- A type with marks; the marks of an annotated type come first. -/
def mark (t : TypeExpr) (ms : List Mark) : TypeExpr :=
  match t.converted with
  | .annotated u ns => .annotated u (ns ++ ms)
  | t => .annotated t ms

/-- A type with marks, at least one. -/
def annotate? (t : TypeExpr) (ms : List Mark) : Except TypeFault TypeExpr :=
  if ms.isEmpty then .error .wrongArity else .ok (mark t ms)

/-- A qualified type. -/
def qualify? (q : Qualifier) (t : TypeExpr) : Except TypeFault TypeExpr :=
  return .qualified q (← checked t)

/-- One of several fixed values; a value that comes again counts once. -/
def oneOf (vs : List Value) : TypeExpr :=
  if vs.any Value.isContainer then .literal vs else .literal vs.eraseDups

/-- Whether a parameter stands for a list of parameters. -/
def isParams : TypeExpr → Bool
  | .ellipsis | .value (.list _) => true
  | _ => false

/-- A function type; a parameter alone may stand for all of them. -/
def callable? (params : List TypeExpr) (result : TypeExpr) : Except TypeFault TypeExpr := do
  let result ← checked result
  match params with
  | [p] =>
    return if p.isParams then .aliased .callable [p, result] else .callable [p.converted] result
  | ps => return .callable (ps.map converted) result

/-- An alias with arguments; a function type reads its first one as parameters. -/
def aliased? (a : Alias) (args : List TypeExpr) : Except TypeFault TypeExpr := do
  if a.arity?.any (· != args.length) then throw .wrongArity
  match a, args with
  | .callable, [p, result] => callable? [p] result
  | a, args => return .aliased a (← args.mapM checked)

/-- A function type with parameters of any kind. -/
def anyCallable? (result : TypeExpr) : Except TypeFault TypeExpr := callable? [.ellipsis] result

/-- Whether a type is written with brackets after a class that reads them as they are. -/
def isPlainUnionPart (rawGeneric : ClassRef → Bool) : TypeExpr → Bool
  | .none | .any | .cls _ | .union true _ => true
  | .generic c _ => rawGeneric c
  | _ => false

/-- Whether a type expression is an object of the typing vocabulary. -/
def isTypingObject (rawGeneric : ClassRef → Bool) : TypeExpr → Bool
  | .none | .any | .cls _ | .union true _ | .text _ | .value _ | .ellipsis => false
  | .generic c _ => !rawGeneric c
  | _ => true

/-- Two types with a bar between them; `rawGeneric` tells the classes whose generic forms are
plain. -/
def either? (rawGeneric : ClassRef → Bool) (l r : TypeExpr) : Except TypeFault TypeExpr :=
  match l, r with
  | .ellipsis, _ | _, .ellipsis | .none, .none => .error .notAType
  | l, r =>
    if isPlainUnionPart rawGeneric l && isPlainUnionPart rawGeneric r then
      .ok (unite true [l.converted, r.converted])
    else if isTypingObject rawGeneric l || isTypingObject rawGeneric r then union? [l, r]
    else .error .notAType

/-- Types with bars between them. -/
def anyOf? (rawGeneric : ClassRef → Bool) : List TypeExpr → Except TypeFault TypeExpr
  | [] => .error .notAType
  | t :: ts => ts.foldlM (either? rawGeneric) t

end TypeExpr

end EndpointDocs
