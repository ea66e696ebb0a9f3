import EndpointDocs.Endpoint.Basic

/-!
# Building metadata

* `Builder`: where descriptions, examples and rows come from.
* `Builder.detail?`: what is told about one parameter.
* `Builder.parameters`: the parameters, the body example and whether there is a body.
* `Builder.build`: the metadata of an endpoint; a parameter that fails is left out.
* `Builder.standard`: examples and rows below a limit of nesting.
-/

namespace EndpointDocs

/-- Where the parts of metadata come from; an example or rows may fail. -/
structure Builder (σ : Type) where
  docs : Docs σ
  noDescription : String
  example? : Descriptor → Option String
  rows? : Descriptor → StateM σ (Option (List Row))

/-- What the parameters of an endpoint add up to. -/
structure ParameterSummary where
  details : List ParameterDetail
  bodyExample : String
  hasBody : Bool

namespace Builder

variable {σ : Type} (b : Builder σ)

/-- A builder with examples and rows below a limit of nesting. -/
def standard (u : Universe) (docs : Docs σ) (limit : Int) (noDescription : String) : Builder σ where
  docs
  noDescription
  example? d := some (Example.render u limit d)
  rows? d := do return some (← Rows.ofType u (some docs) d "" 0 limit).toList

/-- A text, unless it is empty. -/
def nonEmpty? (s : String) : Option String := if s = "" then none else some s

/-- The description of a parameter: its own, else the one in the text of the handler. -/
def paramText (e : Endpoint) (p : Parameter) : Lookup σ (Option String) :=
  if p.description ≠ "" then return some p.description
  else b.docs.paramText e.owner e.handler p.name

/-- What is told about a parameter, if its description can be found and its default be printed. -/
def detail? (e : Endpoint) (p : Parameter) : StateM σ (Option ParameterDetail) := do
  match ← (b.paramText e p).run with
  | .error _ => return none
  | .ok text =>
    let detail (default : Option String) : ParameterDetail := {
      name := p.name, typeName := p.type.name, role := p.role, required := p.required, default
      description := Cell.ofOption (text.bind nonEmpty?) b.noDescription }
    match p.default with
    | none => return some (detail none)
    | some d => return d.text?.map fun s => detail (some s)

/-- What is told about a body of which no example can be made. -/
def complexBody (p : Parameter) : ParameterDetail :=
  { name := p.name, typeName := "ComplexType", role := .body, description := "", required := false,
    default := none }

/-- The summary with one more parameter. -/
def addParameter (e : Endpoint) (s : ParameterSummary) (p : Parameter) :
    StateM σ ParameterSummary := do
  if p.role = .body then
    let s := { s with hasBody := true }
    if p.type.isScalar then
      return { s with details := s.details ++ (← b.detail? e p).toList }
    else
      match b.example? p.type with
      | some text => return { s with bodyExample := text }
      | none => return { s with bodyExample := "", details := s.details ++ [complexBody p] }
  else return { s with details := s.details ++ (← b.detail? e p).toList }

def parameters (e : Endpoint) : StateM σ ParameterSummary :=
  e.parameters.foldlM (b.addParameter e) ⟨[], "", false⟩

/-- The name that an endpoint is listed under: the first line of its owner's text, or its group. -/
def groupName (e : Endpoint) : Lookup σ String := do
  match e.owner with
  | none => return e.group
  | some o =>
    match (← b.docs.classText (some o)).bind nonEmpty? with
    | none => return e.group
    | some text => return String.ofList ((Text.splitLines text.toList).headD [])

/-- The metadata of an endpoint, unless the text of its owner or its handler cannot be looked up. -/
def build (e : Endpoint) : Lookup σ Metadata := do
  let params ← b.parameters e
  let groupName ← b.groupName e
  let rows ← b.rows? e.response
  let text ← b.docs.methodText e.owner e.handler
  return {
    endpoint := e, groupName
    contentType := if params.hasBody then "JSON" else "FORM"
    bodyExample := params.bodyExample
    parameters := params.details
    responseExample := (b.example? e.response).getD "\x7b\x7d"
    responseFields := rows.getD []
    description := text.getD "" }

end Builder

end EndpointDocs
