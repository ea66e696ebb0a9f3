import EndpointDocs.Endpoint.Basic

/-!
# The index of metadata

* `Groups`: metadata under group names.
* `Groups.ofMetadata`: groups in ascending order; a group is sorted by path and methods.
* `Groups.build?`: the groups of a list of endpoints; excluded and failing ones are left out.
* `Index`: groups whose paths are rooted at a base URL.
-/

namespace EndpointDocs

/-- Metadata under group names. -/
abbrev Groups := List (String × List Metadata)

namespace Groups

/-- Whether metadata may stand before other metadata: by path, then by methods. -/
def precedes (m n : Metadata) : Bool :=
  m.path < n.path || (m.path == n.path && m.methodLabel ≤ n.methodLabel)

/-- The metadata of a group name, in order. -/
def entriesOf (name : String) (ms : List Metadata) : List Metadata :=
  (ms.filter (·.groupName == name)).mergeSort precedes

/-- Metadata grouped by name, groups in ascending order. -/
def ofMetadata (ms : List Metadata) : Groups :=
  ((ms.map (·.groupName)).eraseDups.mergeSort (· ≤ ·)).map fun name => (name, entriesOf name ms)

variable {σ ε : Type}

/-- The metadata of endpoints one after the other; an endpoint that cannot be read ends it all. -/
def collect? (excluded : List String) (build : Endpoint → Lookup σ Metadata) :
    List (Except ε Endpoint) → StateM σ (Except ε (List Metadata))
  | [] => return .ok []
  | .error e :: _ => return .error e
  | .ok e :: es => do
    let found ← if excluded.contains e.path then pure [] else do
      match ← (build e).run with
      | .ok m => pure [m]
      | .error _ => pure []
    return (← collect? excluded build es).map (found ++ ·)

/-- The groups of a list of endpoints. -/
def build? (excluded : List String) (build : Endpoint → Lookup σ Metadata)
    (endpoints : List (Except ε Endpoint)) : StateM σ (Except ε Groups) :=
  return (← collect? excluded build endpoints).map ofMetadata

end Groups

/-- Groups whose paths are rooted at a base URL. -/
structure Index where
  baseUrl : String := ""
  groups : Groups

namespace Index

def urlOf (i : Index) (m : Metadata) : String := i.baseUrl ++ m.path

/-- The same groups at another base URL. -/
def withBaseUrl (i : Index) (baseUrl : String) : Index := { i with baseUrl }

/-- All metadata, group by group. -/
def all (i : Index) : List Metadata := i.groups.flatMap (·.2)

end Index

end EndpointDocs
