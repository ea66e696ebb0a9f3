import EndpointDocs.Route.Registry
import EndpointDocs.Text.Quoted

/-!
# Loading a registry by name

* `LoadFault`: why `module:attribute` names no registry.
* `Registry.load?`: the registry that a name stands for, given the modules that can be imported.
-/

namespace EndpointDocs

/-- Why a name stands for no registry. -/
inductive LoadFault where
  | emptyModule
  | relativeModule
  /-- The part of a module's name that is missing, below a module that is no package if given. -/
  | missing (module part : String) (below : Option String)
  | notARegistry (target : String)
  deriving DecidableEq, Repr

/-- A fault in words; the first two have none. -/
def LoadFault.message : LoadFault → String
  | emptyModule | relativeModule => ""
  | missing module part below =>
    s!"Cannot import {module}: No module named {Text.quote part}" ++
      below.elim "" fun m => s!"; {Text.quote m} is not a package"
  | notARegistry target => target ++ " is not a RouteRegistry"

/-- The part of a module's name that is missing, below a module that is no package if given. -/
structure MissingModule where
  part : String
  below : Option String
  deriving DecidableEq, Repr

/-- A module that is imported, by the registries among its attributes. -/
abbrev LoadedModule := String → Option Registry

/-- The module and the attribute of a target; the attribute may be left out. -/
def splitTarget (target : String) : String × String :=
  let cs := target.toList
  let entry := String.ofList ((cs.dropWhile (· != ':')).drop 1)
  (String.ofList (cs.takeWhile (· != ':')), if entry = "" then "registry" else entry)

/-- The registry of a target `module:attribute`. A module without a name and a relative one are
refused before any module is looked for. -/
def Registry.load? (modules : String → Except MissingModule LoadedModule) (target : String) :
    Except LoadFault Registry :=
  let (name, entry) := splitTarget target
  if name = "" then .error .emptyModule
  else if name.startsWith "." then .error .relativeModule
  else match modules name with
    | .error e => .error (.missing name e.part e.below)
    | .ok m =>
      match m entry with
      | some r => .ok r
      | none => .error (.notARegistry target)

end EndpointDocs
