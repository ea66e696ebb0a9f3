import EndpointDocs.Index.Basic

/-!
# The index cache

* `CacheMode`: rebuild on every read, or keep what was built.
* `Cache.get`: the index at a base URL; a build that fails changes nothing.
* `Cache.invalidate`: forget what was built.
-/

namespace EndpointDocs

/-- How long an index is kept. -/
inductive CacheMode where
  | fresh
  | cached
  deriving DecidableEq, Repr

namespace CacheMode

/-- The word for a mode. -/
def name : CacheMode → String
  | fresh => "fresh"
  | cached => "cached"

/-- The mode of a word. -/
def named? (s : String) : Option CacheMode := [fresh, cached].find? (·.name == s)

end CacheMode

/-- The groups that were built, if they are kept. -/
structure Cache where
  mode : CacheMode
  built : Option Groups

namespace Cache

variable {σ ε : Type}

/-- A cache that holds nothing. -/
def ofMode (mode : CacheMode) : Cache := ⟨mode, none⟩

def isBuilt (c : Cache) : Bool := c.built.isSome

/-- The index at a base URL: from what was built, else built now and kept if the mode says so. -/
def get (build : StateM σ (Except ε Groups)) (baseUrl : String) (c : Cache) :
    StateM σ (Except ε Index × Cache) := do
  match c.mode, c.built with
  | .cached, some groups => return (.ok (Index.withBaseUrl { groups } baseUrl), c)
  | mode, _ =>
    match ← build with
    | .error e => return (.error e, c)
    | .ok groups =>
      return (.ok (Index.withBaseUrl { groups } baseUrl),
        if mode = .cached then { c with built := some groups } else c)

def invalidate (c : Cache) : Cache := { c with built := none }

end Cache

end EndpointDocs
