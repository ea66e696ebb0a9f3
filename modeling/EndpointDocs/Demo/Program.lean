import EndpointDocs.Demo.Source
import EndpointDocs.Route.Registry

/-!
# The demo program

* `Demo.classes`: the classes that the demo handlers use.
* `Demo.registry`: the demo routes.
* `Demo.program`: the demo with further modules beside it.
-/

namespace EndpointDocs.Demo

/-- The key of a demo class. -/
def key (name : String) : String := module ++ "." ++ name

/-- A demo class without bases. -/
def decl (form : ClassForm) (name : String) (fields : List (String × TypeExpr)) : ClassDecl :=
  { key := key name, name, module, qualname := name, form, fields, bases := [], params := [] }

def std (c : StandardClass) : TypeExpr := .cls (.standard c)

def cls (name : String) : TypeExpr := .cls (.declared (key name))

/-- A type or nothing, with a bar between them. -/
def orNone (t : TypeExpr) : TypeExpr := .union true [t, .noneType]

/-- Named values of any type. -/
def anyMap : TypeExpr := .generic (.standard .dict) [std .str, .any]

/-- The demo classes in order of declaration. -/
def classes : List ClassDecl := [
  decl .dataclass "OrderRequest" [("code", std .int), ("msg", std .str), ("data", anyMap)],
  decl .model "Address" [("city", std .str), ("zip", std .str)],
  decl .model "UserDetail" [
    ("id", std .int), ("name", std .str), ("status", std .str),
    ("tags", .generic (.standard .list) [std .str]), ("address", orNone (cls "Address"))],
  decl .model "LoginResult" [
    ("status", std .str), ("user", orNone (std .str)), ("message", orNone (std .str))]]

def param (name : String) (t : TypeExpr) (default : Option Value) : HandlerParam :=
  { name, type := some t, form := .single, default := default.map fun v => some (.value v) }

def handler (name : String) (params : List HandlerParam) (result : TypeExpr) : Handler :=
  { name, module, qualname := name, params, result := some result }

/-- A body of a type. -/
def body (t : TypeExpr) : TypeExpr := .annotated t [.binding ⟨.body, ""⟩]

/-- The demo routes in order of registration. -/
def routes : List (String × String × Handler) := [
  ("GET", "/demo/hello",
    handler "hello" [param "name" (std .str) (some (.text "World"))] (std .str)),
  ("POST", "/demo/order",
    handler "create_order" [param "order" (body (cls "OrderRequest")) none] anyMap),
  ("POST", "/demo/login",
    handler "login" [param "username" (std .str) none, param "password" (std .str) none]
      (cls "LoginResult")),
  ("GET", "/demo/users/\x7bid\x7d",
    handler "get_user_detail" [param "id" (std .str) none] (cls "UserDetail"))]

/-- The registry of the demo. -/
def registry : Registry :=
  routes.foldl (fun r (method, path, h) => r.add h ⟨path, [method], none⟩) .empty

/-- The demo classes as they exist. -/
def knownClasses : Universe := (Universe.ofDecls? classes).toOption.getD .empty

/-- The demo with further modules beside it. -/
def program (modules : List String) : Program :=
  { classes := knownClasses, modules := module :: modules }

end EndpointDocs.Demo
