import EndpointDocs.Route.Handler
import EndpointDocs.Text.Capital

/-!
# The route registry

* `RouteSpec`, `Route`: a route as it is asked for, and with its handler.
* `Registry.decorate`: a route for a function; a method keeps it for a controller.
* `Routing`: the registry, and the route that waits on each function.
* `Routing.collect`: what a controller does: it registers the routes that wait on the functions of
  its class, where they stay.
* `Registry.controller`: a class that is written with its members and a controller.
* `Registry.endpoints`: the endpoints of all routes in order of registration.
-/

namespace EndpointDocs

/-- A route that is asked for. -/
structure RouteSpec where
  path : String
  methods : List String
  group : Option String

/-- A registered route. -/
structure Route where
  path : String
  methods : List String
  handler : Handler
  group : Option String
  owner : Option Owner

/-- The registered routes, the first one first. -/
structure Registry where
  routes : List Route

namespace RouteSpec

/-- A route with its methods in capitals. -/
def capital (s : RouteSpec) : RouteSpec :=
  { s with methods := s.methods.map fun m => String.ofList (Text.toCapitals m.toList) }

end RouteSpec

namespace Registry

def empty : Registry := ⟨[]⟩

def size (r : Registry) : Nat := r.routes.length

/-- The registry with one more route. -/
def push (r : Registry) (route : Route) : Registry := ⟨r.routes ++ [route]⟩

/-- The registry with a route for a handler, whether it is a method or not. -/
def add (r : Registry) (h : Handler) (s : RouteSpec) : Registry :=
  let s := s.capital
  r.push { path := s.path, methods := s.methods, handler := h, group := s.group, owner := none }

/-- The registry without the routes of a path. -/
def remove (r : Registry) (path : String) : Registry := ⟨r.routes.filter (·.path != path)⟩

/-- A route for a handler: a method keeps it for a controller, any other function is registered. -/
def decorate (r : Registry) (h : Handler) (s : RouteSpec) : Registry × Option RouteSpec :=
  if h.isMethod then (r, some s.capital) else (r.add h s, none)

end Registry

/-! ## Routes on functions -/

/-- A controller of a class, and the function that the class holds under each of its names, by its
number; what shows no route is none. -/
structure Controller where
  owner : Owner
  name : String
  base : String
  group : Option String
  attributes : List (String × Option Nat)

namespace Controller

variable (c : Controller)

/-- The group of routes that have none of their own. -/
def groupName : String := (c.group.bind Builder.nonEmpty?).getD c.name

/-- The route that the controller registers for one that waits on a method. -/
def route (h : Handler) (s : RouteSpec) : Route :=
  { path := Route.join c.base s.path, methods := s.methods, handler := h
    group := some ((s.group.bind Builder.nonEmpty?).getD c.groupName), owner := some c.owner }

end Controller

/-- The use of a decorator: a route on a function, or a controller on a class. -/
inductive Decoration where
  | route (f : Nat) (s : RouteSpec)
  | controller (c : Controller)

/-- The registered routes, and the route that waits on each function, by its number. -/
structure Routing where
  registry : Registry
  waiting : List (Nat × RouteSpec)

namespace Routing

variable (functions : Nat → Handler) (t : Routing)

/-- A route on a function. A method has room for one: a later route takes the place of an earlier. -/
def decorate (f : Nat) (s : RouteSpec) : Routing :=
  let (r, kept) := t.registry.decorate (functions f) s
  { registry := r, waiting := kept.elim t.waiting fun s => Entries.put f s t.waiting }

/-- The route that a controller finds under a name of its class. -/
def found? (c : Controller) (f : Option Nat) : Option Route := do
  let f ← f
  return c.route (functions f) (← Entries.find? f t.waiting)

/-- A controller on a class: it reads the routes that wait, and leaves them where they are. -/
def collect (c : Controller) : Routing :=
  { t with registry :=
      ⟨t.registry.routes ++ c.attributes.filterMap fun (_, f) => t.found? functions c f⟩ }

def step : Decoration → Routing
  | .route f s => t.decorate functions f s
  | .controller c => t.collect functions c

/-- Decorators one after the other. -/
def run (ds : List Decoration) : Routing := ds.foldl (step functions) t

end Routing

/-! ## Classes with a controller -/

/-- What stands around the function of a member of a class. -/
inductive Wrapper where
  /-- Nothing that matters to routes. -/
  | none
  /-- Something that hides the route of the function. -/
  | hiding
  deriving DecidableEq, Repr

/-- A member of a class under its name. -/
structure Member where
  name : String
  /-- The function and its routes, innermost first; other members have none. -/
  routes : Option (Handler × List RouteSpec)
  wrapper : Wrapper

namespace Member

/-- The routes on the function of a member, which has a number. -/
def decorations (m : Member) (f : Nat) : List Decoration :=
  (m.routes.elim [] (·.2)).map (.route f)

/-- What a class shows under the name of a member. -/
def held (m : Member) (f : Nat) : String × Option Nat :=
  (m.name, if m.routes.isNone || m.wrapper = .hiding then none else some f)

end Member

namespace Registry

/-- The registry after a class is written: each member has a function of its own, whose routes come
first; of several members of a name, the class holds the last one. -/
def controller (r : Registry) (owner : Owner) (name : String) (base : String)
    (group : Option String) (members : List Member) : Registry :=
  let functions (f : Nat) : Handler := (members[f]?.bind (·.routes)).elim default (·.1)
  let attributes := Entries.ofPairs (members.zipIdx.map fun (m, f) => m.held f)
  let decorations := members.zipIdx.flatMap fun (m, f) => m.decorations f
  (Routing.run functions ⟨r, []⟩ <|
    decorations ++ [.controller { owner, name, base, group, attributes }]).registry

def endpoints (p : Program) (r : Registry) : List (Except HandlerFault Endpoint) :=
  r.routes.map fun t => p.describeHandler t.handler t.path t.methods t.group t.owner

end Registry

end EndpointDocs
