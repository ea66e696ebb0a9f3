import EndpointDocs.Descriptor.Basic
import EndpointDocs.Endpoint.Rows

/-!
# Endpoints and their metadata

* `Endpoint`, `Parameter`: a route with the contract of its handler.
* `Metadata`, `ParameterDetail`: everything that is told about an endpoint.
-/

namespace EndpointDocs

/-- The default of a parameter: a value, or something that has no text. -/
inductive Default where
  | value (v : Value)
  | unprintable

/-- The text of a default, if it has one. -/
def Default.text? : Default → Option String
  | value v => some v.shown
  | unprintable => none

/-- A parameter of a handler. -/
structure Parameter where
  name : String
  type : Descriptor
  role : Role
  description : String
  required : Bool
  default : Option Default

/-- A route and the contract of its handler. -/
structure Endpoint where
  path : String
  methods : List String
  group : String
  owner : Option Owner
  handler : String
  parameters : List Parameter
  response : Descriptor

def Endpoint.methodLabel (e : Endpoint) : String :=
  if e.methods.isEmpty then "ALL" else ", ".intercalate e.methods

/-- What is told about a parameter. -/
structure ParameterDetail where
  name : String
  typeName : String
  role : Role
  description : String
  required : Bool
  default : Option String
  deriving DecidableEq, Repr

/-- Everything that is told about an endpoint. -/
structure Metadata where
  endpoint : Endpoint
  groupName : String
  contentType : String
  bodyExample : String
  parameters : List ParameterDetail
  responseExample : String
  responseFields : List Row
  description : String

namespace Metadata

def path (m : Metadata) : String := m.endpoint.path

def methodLabel (m : Metadata) : String := m.endpoint.methodLabel

end Metadata

end EndpointDocs
