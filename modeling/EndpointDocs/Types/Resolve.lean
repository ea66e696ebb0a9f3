import EndpointDocs.Types.TypeExpr

/-!
# Resolving references

* `Scope`: what a text in an annotation stands for.
* `TypeExpr.resolve?`: a type expression with every text in it evaluated.
* `TypeExpr.substitute`: a type expression with types in place of its variables.
-/

namespace EndpointDocs

/-- What texts stand for, if they can be evaluated: by themselves, or as written in a module. -/
structure Scope where
  eval : (home : Option String) → (text : String) → Option TypeExpr
  /-- Whether a class with arguments is a class of its own. -/
  specializes : ClassRef → Bool

namespace TypeExpr

mutual

/-- The type expression with all texts evaluated, if each of them can be. -/
def resolve? (s : Scope) : TypeExpr → Option TypeExpr
  | .text w => s.eval .none w
  | .forward w home => s.eval home w
  | .generic c ts =>
    if s.specializes c then some (.generic c ts) else (resolveAll? s ts).map (.generic c)
  | .aliased a ts => (resolveAll? s ts).map (.aliased a)
  | .union piped ts => (resolveAll? s ts).map fun ts => unite piped (ts.map converted)
  | .annotated t ms => (resolve? s t).map (mark · ms)
  | .qualified q t => (resolve? s t).map (.qualified q)
  | .callable ts r => do return .callable (← resolveAll? s ts) (← resolve? s r)
  | t => some t

/-- Every type expression of a list resolved, if all can be. -/
def resolveAll? (s : Scope) : List TypeExpr → Option (List TypeExpr)
  | [] => some []
  | t :: ts => do return (← resolve? s t) :: (← resolveAll? s ts)

end

/-- An annotation resolved as a whole: an absent value means its class. -/
def resolveHint? (s : Scope) : TypeExpr → Option TypeExpr
  | .none => some noneType
  | t => resolve? s t

mutual

/-- The type expression with types in place of variables. -/
def substitute (vars : String → Option TypeExpr) : TypeExpr → TypeExpr
  | .typeVar n => (vars n).getD (.typeVar n)
  | .generic c ts => .generic c (substituteAll vars ts)
  | .aliased a ts => .aliased a ((substituteAll vars ts).map converted)
  | .union piped ts => unite piped ((substituteAll vars ts).map converted)
  | .annotated t ms => mark (substitute vars t) ms
  | .qualified q t => .qualified q (substitute vars t)
  | .callable ts r =>
    .callable ((substituteAll vars ts).map converted) (substitute vars r).converted
  | t => t

/-- The same for each type expression of a list. -/
def substituteAll (vars : String → Option TypeExpr) : List TypeExpr → List TypeExpr
  | [] => []
  | t :: ts => substitute vars t :: substituteAll vars ts

end

/-- The type of a model field: marks and `Final` around it are dropped. -/
def fieldType : TypeExpr → TypeExpr
  | .none => noneType
  | .annotated t _ => fieldType t
  | .qualified .final t => fieldType t
  | t => t

end TypeExpr

end EndpointDocs
