import EndpointDocs.Endpoint.Builder
import EndpointDocs.Index.Cache
import EndpointDocs.Report.Markdown
import EndpointDocs.Route.Registry
import EndpointDocs.Settings.Basic

/-!
# The dashboard

* `Index.find?`: the endpoint of a key: a URL, a path, or a method and a path.
* `Dashboard`: routes, settings, source comments and the index cache.
* `Dashboard.index`, `Dashboard.find`, `Dashboard.report`: what a reader asks for.
* `Dashboard.refresh`, `Dashboard.close`: forget what was built, and what was read.
-/

namespace EndpointDocs

/-- A key: the word before its first space, in capitals, and what follows without blanks around. -/
def splitKey (key : String) : List Char × List Char :=
  let cs := Text.trim key.toList
  (Text.toCapitals (cs.takeWhile (· != ' ')), Text.trim ((cs.dropWhile (· != ' ')).drop 1))

def Endpoint.accepts (e : Endpoint) (method : String) : Bool :=
  e.methods.isEmpty || e.methods.contains method

/-- Whether metadata is meant by a key. -/
def Index.isMeant (i : Index) (key : String) (m : Metadata) : Bool :=
  let (method, path) := splitKey key
  key == i.urlOf m || key == m.path ||
    (!path.isEmpty && String.ofList path == m.path && m.endpoint.accepts (String.ofList method))

/-- The first metadata in the index that a key means. -/
def Index.find? (i : Index) (key : String) : Option Metadata := i.all.find? (i.isMeant key)

/-- Routes, settings, source comments and the index cache. -/
structure Dashboard where
  program : Program
  settings : Settings
  style : Comment.Style
  registry : Registry
  store : Source.Store
  cache : Cache

namespace Dashboard

/-- A dashboard that has built and read nothing. -/
def make (program : Program) (settings : Settings) (style : Comment.Style) (registry : Registry)
    (tree : Source.Tree) : Dashboard :=
  { program, settings, style, registry
    store := .ofTree tree, cache := .ofMode settings.cacheMode }

def builder (d : Dashboard) : Builder Source.Store :=
  .standard d.program.classes (Source.Store.docs d.style) d.settings.depthLimit
    d.settings.noDescription

/-- The groups of all routes, built from the sources. -/
def groups (d : Dashboard) : StateM Source.Store (Except HandlerFault Groups) :=
  Groups.build? d.settings.excludedPaths d.builder.build (d.registry.endpoints d.program)

/-- A question to a dashboard. -/
abbrev Query (α : Type) := ExceptT HandlerFault (StateM Dashboard) α

/-- The index at a base URL, or at the one of the settings. -/
def index (baseUrl : Option String) : Query Index := do
  let d ← get
  let baseUrl := baseUrl.getD d.settings.baseUrl
  let ((result, cache), store) := (d.cache.get d.groups baseUrl).run d.store
  set { d with cache, store }
  ExceptT.mk (pure result)

def find (key : String) (baseUrl : Option String) : Query (Option Metadata) :=
  return (← index baseUrl).find? key

def report (key : String) (actual baseUrl : Option String) : Query String := do
  return (← find key baseUrl).elim (Report.notFound key) (Report.render · actual)

/-- The dashboard with no index built. -/
def refresh (d : Dashboard) : Dashboard := { d with cache := d.cache.invalidate }

/-- The dashboard with no index built and no source read. -/
def close (d : Dashboard) : Dashboard := { d.refresh with store := d.store.clear }

/-- The dashboard after files of the source root were written. -/
def write (d : Dashboard) (files : List (String × ByteArray)) : Dashboard :=
  { d with store := d.store.write files }

end Dashboard

end EndpointDocs
