import EndpointDocs.Demo.Program
import EndpointDocs.Route.Load

/-!
# The modules beside the demo

* `Demo.modules`: the modules that exist; only the demo module holds a registry.
* `Demo.load?`: the registry that a name stands for among them.
-/

namespace EndpointDocs.Demo

/-- The packages that exist. -/
def packages : List String := ["api_dashboard", "api_dashboard.parser", "api_dashboard.generator"]

/-- The modules that exist and are no packages. -/
def plainModules : List String := [
  "api_dashboard.cache", "api_dashboard.cli", "api_dashboard.config", "api_dashboard.dashboard",
  "api_dashboard.demo", "api_dashboard.errors", "api_dashboard.routing",
  "api_dashboard.generator.fields", "api_dashboard.generator.markdown",
  "api_dashboard.generator.metadata", "api_dashboard.generator.template",
  "api_dashboard.parser.base", "api_dashboard.parser.comments", "api_dashboard.parser.source",
  "api_dashboard.parser.types"]

/-- The beginnings of a dotted name, the shortest first. -/
def beginnings (name : String) : List String :=
  let parts := Text.splitOn '.' name
  (List.range parts.length).map fun i => ".".intercalate (parts.take (i + 1))

/-- The first part of a module's name that is missing, if one is. -/
def missing? (module : String) : Option MissingModule :=
  let parts := beginnings module
  (parts.zip ("" :: parts)).findSome? fun (part, parent) =>
    if packages.contains part || plainModules.contains part then none
    else some ⟨part, if plainModules.contains parent then some parent else none⟩

/-- The modules that can be imported. -/
def modules (name : String) : Except MissingModule LoadedModule :=
  match missing? name with
  | some e => .error e
  | none => .ok fun entry => if name = module && entry = "registry" then some registry else none

/-- The registry of a target `module:attribute`. -/
def load? : String → Except LoadFault Registry := Registry.load? modules

end EndpointDocs.Demo
