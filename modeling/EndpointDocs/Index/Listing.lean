import EndpointDocs.Index.Basic

/-!
# The listing of an index

* `Index.listing`: an index as a plain value, groups as entries of an object.
-/

namespace EndpointDocs

/-- A text, or null. -/
def Value.ofText? (s : Option String) : Value := s.elim .null .text

def ParameterDetail.listing (p : ParameterDetail) : Value := .object [
  ("name", .text p.name),
  ("type_name", .text p.typeName),
  ("role", .text p.role.name),
  ("description", .text p.description),
  ("required", .bool p.required),
  ("default", .ofText? p.default)]

def Row.listing (r : Row) : Value := .object [
  ("path", .text r.path),
  ("type_name", .text r.typeName),
  ("description", .text r.description)]

namespace Index

def entry (i : Index) (m : Metadata) : Value := .object [
  ("url", .text (i.urlOf m)),
  ("path", .text m.path),
  ("method", .text m.methodLabel),
  ("bean", .text m.endpoint.group),
  ("function", .text m.endpoint.handler),
  ("paramType", .text m.contentType),
  ("params", .list (m.parameters.map ParameterDetail.listing)),
  ("bodyTemplate", .text m.bodyExample),
  ("responseExample", .text m.responseExample),
  ("responseFields", .list (m.responseFields.map Row.listing)),
  ("description", .text m.description)]

/-- The groups of a listing. -/
def groupListing (i : Index) : List (String × Value) :=
  i.groups.map fun (name, ms) => (name, .list (ms.map i.entry))

def listing (i : Index) : Value := .object [
  ("baseUrl", .text i.baseUrl),
  ("controllerGroups", .object i.groupListing)]

end Index

end EndpointDocs
