import EndpointDocs.Endpoint.Builder
import EndpointDocs.Route.Path
import EndpointDocs.Text.Scan

/-!
# Handlers

* `Handler`: a function that answers requests, by its signature.
* `Program`: the classes and the loaded modules that handlers live among.
* `Program.describeHandler`: the endpoint of a handler at a path.
-/

namespace EndpointDocs

/-- How a parameter takes its arguments. -/
inductive ParamForm where
  | single
  /-- Takes any number of further arguments. -/
  | variadic
  deriving DecidableEq, Repr

/-- A parameter in a signature. -/
structure HandlerParam where
  name : String
  type : Option TypeExpr
  form : ParamForm
  /-- The default; `some none` is the absent value as a default. -/
  default : Option (Option Default)

/-- A function that answers requests. -/
structure Handler where
  name : String
  module : String
  qualname : String
  params : List HandlerParam
  result : Option TypeExpr
  /-- Whether the function can be called as it is stored. -/
  callable : Bool := true
  deriving Inhabited

/-- The classes and the modules of a program. -/
structure Program where
  classes : Universe
  modules : List String

/-- What can go wrong when a handler is described. -/
inductive HandlerFault where
  | notCallable
  deriving DecidableEq, Repr

namespace Handler

/-- Whether a function is a member of a class, by its qualified name. -/
def isMethod (h : Handler) : Bool :=
  match (Text.splitOn '.' h.qualname).reverse with
  | _ :: outer :: _ => outer != "<locals>"
  | _ => false

/-- The annotations of a function: of each parameter, then of the result. -/
def annotations (h : Handler) : List (Option TypeExpr) := h.params.map (·.type) ++ [h.result]

end Handler

/-- The first binding among the marks of a type. -/
def TypeExpr.binding? : TypeExpr → Option Binding
  | .annotated _ ms => ms.findSome? fun
    | .binding b => some b
    | .value _ => Option.none
  | _ => Option.none

namespace Program

variable (p : Program)

/-- A module as an owner, if it is loaded. -/
def moduleOwner? (module : String) : Option Owner :=
  if p.modules.contains module then some (.module module) else none

/-- What texts in the annotations of a function stand for. -/
def scope (h : Handler) : Scope :=
  p.classes.scope (.atFunction h.module h.qualname (p.modules.contains h.module))

/-- An annotation with its texts evaluated, if all can be; there may be no annotation. -/
def resolved? (s : Scope) : Option TypeExpr → Option (Option TypeExpr)
  | none => some none
  | some t => (t.resolveHint? s).map some

/-- The annotations of a function, all texts evaluated or none. -/
def hints (h : Handler) : List (Option TypeExpr) :=
  (h.annotations.mapM (resolved? (p.scope h))).getD h.annotations

/-- The group of an endpoint by its owner: the class, or the last part of the module's name. -/
def defaultGroup : Option Owner → String
  | some (.cls _ name _) => name
  | some (.module name) =>
    (Text.splitOn '.' (if name = "" then "default" else name)).getLastD ""
  | _ => "default"

/-- Whether a parameter is told about: not the receiver and not variadic. -/
def isTold (q : HandlerParam) : Bool :=
  q.name != "self" && q.name != "cls" && q.form == .single

/-- A parameter with the annotation that it ended up with. -/
def parameter (inPath : List (List Char)) (q : HandlerParam) (hint : Option TypeExpr) :
    Parameter :=
  let t := hint.getD .any
  let binding := t.binding?.getD
    ⟨if inPath.contains q.name.toList then .path else .query, ""⟩
  { name := q.name
    type := p.classes.describe t
    role := binding.role
    description := binding.description
    required := q.default.isNone
    default := q.default.getD none }

/-- The endpoint of a handler at a path. -/
def describeHandler (h : Handler) (path : String) (methods : List String) (group : Option String)
    (owner : Option Owner) : Except HandlerFault Endpoint :=
  if !h.callable then .error .notCallable
  else
    let owner := owner.or (p.moduleOwner? h.module)
    let hints := p.hints h
    let inPath := Route.pathVariables path.toList
    .ok {
      path, methods, owner
      group := (group.bind Builder.nonEmpty?).getD (defaultGroup owner)
      handler := h.name
      parameters := (h.params.zip hints).filterMap fun (q, hint) =>
        if isTold q then some (p.parameter inPath q hint) else none
      response := p.classes.describe ((hints.getLastD none).getD .any) }

end Program

end EndpointDocs
