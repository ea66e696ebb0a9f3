import EndpointDocs.Route.Registry
import Mathlib.Data.List.Perm.Basic

/-!
# Stacked decorators

A function is registered for each route that it is decorated with. The route of a method waits on it
to be read by a controller, and gives way to the next route on the method.

* `Entries.flatMap_put_perm`: what is put takes the place of what was there.
* `Decoration.share`, `shares`: the routes that are registered for each route on a function.
* `Routing.Parked`: routes wait on methods, one on each.
* `Routing.prospect`: the routes that are registered in the end; a step does not change them.
* `Decoration.EachReadOnce`: every route on a method is read once before the next one.
* **`Routing.endpoints_run`**: the endpoints of any sequence of decorators, and when each route has
  one.
* `Routing.not_endpoint_for_each_all`: a method with two routes loses one of them.
-/

namespace EndpointDocs

namespace Entries

variable {α β γ : Type} [BEq α] [LawfulBEq α] [DecidableEq α]

theorem flatMap_put_perm {es : List (α × β)} (h : (es.map (·.1)).Nodup) (k : α) (v : β)
    (g : α × β → List γ) :
    ((put k v es).flatMap g).Perm
      (g (k, v) ++ es.flatMap fun e => if e.1 = k then [] else g e) := by
  induction es with
  | nil => exact .refl _
  | cons e es ih =>
    rw [List.map_cons, List.nodup_cons] at h
    rw [put, List.flatMap_cons]
    by_cases hk : e.1 = k
    · have hes : (es.flatMap fun e => if e.1 = k then [] else g e) = es.flatMap g := by
        refine List.flatMap_congr fun e' he' => if_neg ?_
        rintro rfl
        exact h.1 (hk ▸ List.mem_map_of_mem he')
      rw [if_pos (beq_iff_eq.mpr hk), if_pos hk, hes, hk]
      exact .refl _
    · rw [if_neg (by simpa using hk), if_neg hk]
      exact ((ih h.2).append_left (g e)).trans (List.perm_append_comm_assoc _ _ _)

end Entries

/-! ## What becomes of a route -/

/-- The route that a function is registered for. -/
def Handler.plainRoute (h : Handler) (s : RouteSpec) : Route :=
  { path := s.capital.path, methods := s.capital.methods, handler := h, group := s.capital.group,
    owner := none }

namespace Decoration

variable (functions : Nat → Handler) (f : Nat)

def isRoute : Decoration → Bool
  | .route .. => true
  | .controller _ => false

/-- Whether a decorator puts a route on a function. -/
def isOn : Decoration → Bool
  | .route g _ => g == f
  | .controller _ => false

/-- How often a decorator reads the route on a function: a controller does for each name that its
class holds the function under. -/
def reads : Decoration → Nat
  | .route .. => 0
  | .controller c => c.attributes.countP (·.2 == some f)

/-- How often the route on a function is read before the next one. -/
def readings : List Decoration → Nat
  | [] => 0
  | d :: ds => if d.isOn f then 0 else d.reads f + readings ds

/-- The routes that a decorator registers for a route that waits on a function. -/
def registers (s : RouteSpec) : Decoration → List Route
  | .route .. => []
  | .controller c => .replicate (reads f (.controller c)) (c.route (functions f) s)

/-- The routes that are registered for one that waits on a function, before the next one. -/
def registered (s : RouteSpec) : List Decoration → List Route
  | [] => []
  | d :: ds => if d.isOn f then [] else d.registers functions f s ++ registered s ds

/-- Each route on a method is read exactly once before the next route on the same method. -/
def EachReadOnce (ds : List Decoration) : Prop :=
  ∀ before f s after, ds = before ++ .route f s :: after → (functions f).isMethod = true →
    readings f after = 1

/-- The routes that are registered for a route on a function, by what comes after it. -/
def share (s : RouteSpec) (ds : List Decoration) : List Route :=
  if (functions f).isMethod then registered functions f s.capital ds
  else [(functions f).plainRoute s]

/-- The routes that are registered for each route on a function, in order. -/
def shares : List Decoration → List (List Route)
  | [] => []
  | .route f s :: ds => share functions f s ds :: shares ds
  | .controller _ :: ds => shares ds

variable {functions f} {ds : List Decoration}

theorem registered_route (g : Nat) (s s' : RouteSpec) :
    registered functions f s (.route g s' :: ds) =
      if f = g then [] else registered functions f s ds := by
  by_cases hfg : f = g
  · simp [registered, isOn, hfg]
  · simp [registered, isOn, registers, hfg, Ne.symm hfg]

theorem registered_controller (c : Controller) (s : RouteSpec) :
    registered functions f s (.controller c :: ds) =
      registers functions f s (.controller c) ++ registered functions f s ds := rfl

theorem length_shares : (shares functions ds).length = ds.countP isRoute := by
  fun_induction shares functions ds with
  | case1 => rfl
  | case2 f s ds ih => rw [List.length_cons, ih, List.countP_cons_of_pos (by rfl)]
  | case3 c ds ih => rw [ih, List.countP_cons_of_neg (by simp [isRoute])]

theorem length_registers (s : RouteSpec) (d : Decoration) :
    (d.registers functions f s).length = d.reads f := by
  cases d with
  | route g s' => rfl
  | controller c => exact List.length_replicate

theorem length_registered (s : RouteSpec) :
    (registered functions f s ds).length = readings f ds := by
  induction ds with
  | nil => rfl
  | cons d ds ih =>
    rw [registered, readings]
    split
    · rfl
    · rw [List.length_append, length_registers, ih]

/-- Exactly one route is registered for a function; for a method this depends on its readings. -/
theorem length_share_iff (s : RouteSpec) : (share functions f s ds).length = 1 ↔
    ((functions f).isMethod = true → readings f ds = 1) := by
  unfold share
  by_cases hmethod : (functions f).isMethod = true
  · simp [hmethod, length_registered]
  · simp [hmethod]

theorem eachReadOnce_cons {d : Decoration} : EachReadOnce functions (d :: ds) ↔
    (∀ f s, d = .route f s → (functions f).isMethod = true → readings f ds = 1) ∧
      EachReadOnce functions ds := by
  constructor
  · refine fun h => ⟨fun f s hd => h [] f s ds (by rw [hd]; rfl), fun before f s after he => ?_⟩
    exact h (d :: before) f s after (by rw [he]; rfl)
  · rintro ⟨hhead, hrest⟩ (_ | ⟨b, before⟩) f s after he
    · obtain ⟨rfl, rfl⟩ := List.cons.inj he
      exact hhead f s rfl
    · exact hrest before f s after (List.cons.inj he).2

theorem forall_length_shares_iff :
    (∀ rs ∈ shares functions ds, rs.length = 1) ↔ EachReadOnce functions ds := by
  induction ds with
  | nil => simp [shares, EachReadOnce]
  | cons d ds ih =>
    rw [eachReadOnce_cons, ← ih]
    cases d with
    | route f s => simp [shares, length_share_iff]
    | controller c => simp [shares]

end Decoration

/-! ## A run of decorators -/

namespace Routing

open Decoration

/-- Routes wait on methods only, one on each. -/
structure Parked (functions : Nat → Handler) (t : Routing) : Prop where
  nodup : (t.waiting.map (·.1)).Nodup
  methods : ∀ e ∈ t.waiting, (functions e.1).isMethod = true

/-- The routes that are registered in the end: those that are, those for the routes that wait, and
those for the routes to come. -/
def prospect (functions : Nat → Handler) (t : Routing) (ds : List Decoration) : List Route :=
  t.registry.routes ++
    ((t.waiting.flatMap fun e => registered functions e.1 e.2 ds) ++ (shares functions ds).flatten)

variable {functions : Nat → Handler} {t : Routing}

theorem step_method {f : Nat} (hmethod : (functions f).isMethod = true) (s : RouteSpec) :
    t.step functions (.route f s) = { t with waiting := Entries.put f s.capital t.waiting } := by
  simp [step, decorate, Registry.decorate, hmethod]

theorem step_function {f : Nat} (hfunction : (functions f).isMethod = false) (s : RouteSpec) :
    t.step functions (.route f s) =
      { t with registry := ⟨t.registry.routes ++ [(functions f).plainRoute s]⟩ } := by
  simp [step, decorate, Registry.decorate, hfunction, Registry.add, Registry.push,
    Handler.plainRoute]

theorem Parked.step (ht : t.Parked functions) (d : Decoration) :
    (t.step functions d).Parked functions := by
  cases d with
  | controller c => exact ⟨ht.nodup, ht.methods⟩
  | route f s =>
    cases hmethod : (functions f).isMethod with
    | false =>
      rw [step_function hmethod]
      exact ⟨ht.nodup, ht.methods⟩
    | true =>
      rw [step_method hmethod]
      refine ⟨Entries.nodup_keys_put ht.nodup, fun e he => ?_⟩
      obtain rfl | he := Entries.eq_or_mem_of_mem_put he
      · exact hmethod
      · exact ht.methods e he

/-- What a controller finds under one name. -/
theorem flatMap_found {c : Controller} (ht : (t.waiting.map (·.1)).Nodup) (g : Option Nat) :
    (t.waiting.flatMap fun e => if g = some e.1 then [c.route (functions e.1) e.2] else []) =
      (t.found? functions c g).toList := by
  cases g with
  | none => simp [found?]
  | some g =>
    obtain ⟨registry, waiting⟩ := t
    show _ = ((Entries.find? g waiting).bind fun s => some (c.route (functions g) s)).toList
    dsimp only at ht ⊢
    induction waiting with
    | nil => rfl
    | cons e es ih =>
      rw [List.map_cons, List.nodup_cons] at ht
      rw [List.flatMap_cons, Entries.find?, ih ht.2]
      by_cases hg : e.1 = g
      · subst hg
        simp [Entries.find?_eq_none_iff.mpr ht.1]
      · simp [hg, Ne.symm hg]

/-- **What a controller finds** is registered for the routes that wait. -/
theorem found_perm (functions : Nat → Handler) (c : Controller)
    (ht : (t.waiting.map (·.1)).Nodup) :
    (c.attributes.filterMap fun a => t.found? functions c a.2).Perm
      (t.waiting.flatMap fun e => registers functions e.1 e.2 (.controller c)) := by
  simp only [registers, reads]
  induction c.attributes with
  | nil => simp
  | cons a as ih =>
    have hfound : (a :: as).filterMap (fun a => t.found? functions c a.2) =
        (t.found? functions c a.2).toList ++ as.filterMap fun a => t.found? functions c a.2 := by
      rw [List.filterMap_cons]
      cases t.found? functions c a.2 <;> rfl
    have hcount (e : Nat × RouteSpec) :
        List.replicate ((a :: as).countP (·.2 == some e.1)) (c.route (functions e.1) e.2) =
          (if a.2 = some e.1 then [c.route (functions e.1) e.2] else []) ++
            List.replicate (as.countP (·.2 == some e.1)) (c.route (functions e.1) e.2) := by
      rw [List.countP_cons]
      by_cases ha : a.2 = some e.1
      · simp [ha, List.replicate_succ]
      · simp [ha]
    rw [hfound, ← flatMap_found ht, List.flatMap_congr fun e _ => hcount e]
    exact (ih.append_left _).trans (List.flatMap_append_perm _ _ _)

/-- **A step does not change the prospect.** -/
theorem prospect_step (ht : t.Parked functions) (d : Decoration) (ds : List Decoration) :
    ((t.step functions d).prospect functions ds).Perm (t.prospect functions (d :: ds)) := by
  cases d with
  | controller c =>
    have hwaiting := ((found_perm functions c ht.nodup).append_right
      (t.waiting.flatMap fun e => registered functions e.1 e.2 ds)).trans
        (List.flatMap_append_perm t.waiting _ _)
    have hprospect := (hwaiting.append_right (shares functions ds).flatten).append_left
      t.registry.routes
    simp only [prospect, registered_controller, shares]
    simpa [step, collect] using hprospect
  | route f s =>
    cases hmethod : (functions f).isMethod with
    | false =>
      have hwaiting : (t.waiting.flatMap fun e =>
          registered functions e.1 e.2 (.route f s :: ds)) =
            t.waiting.flatMap fun e => registered functions e.1 e.2 ds := by
        refine List.flatMap_congr fun e he => ?_
        rw [registered_route, if_neg]
        rintro rfl
        rw [ht.methods e he] at hmethod
        cases hmethod
      rw [step_function hmethod, prospect, prospect, hwaiting, shares, share, hmethod,
        List.flatten_cons, List.append_assoc]
      exact .append_left _ (List.perm_append_comm_assoc _ _ _)
    | true =>
      have hput := Entries.flatMap_put_perm ht.nodup f s.capital fun e =>
        registered functions e.1 e.2 ds
      rw [step_method hmethod, prospect, prospect, shares, share, hmethod, List.flatten_cons]
      simp only [registered_route, if_true]
      refine .append_left _ ((hput.append_right _).trans ?_)
      rw [List.append_assoc]
      exact List.perm_append_comm_assoc _ _ _

/-- **A run registers what was in prospect.** -/
theorem run_perm (ht : t.Parked functions) (ds : List Decoration) :
    (t.run functions ds).registry.routes.Perm (t.prospect functions ds) := by
  induction ds generalizing t with
  | nil =>
    have hnone : (t.waiting.flatMap fun e => registered functions e.1 e.2 []) = [] :=
      List.flatMap_eq_nil_iff.mpr fun _ _ => rfl
    rw [prospect, hnone]
    simp [shares, run]
  | cons d ds ih => exact (ih (ht.step d)).trans (prospect_step ht d ds)

/-- The endpoint of a route. -/
def endpointOf (p : Program) (t : Route) : Except HandlerFault Endpoint :=
  p.describeHandler t.handler t.path t.methods t.group t.owner

/--
**Which endpoints decorators register.** Whatever routes are put on functions and whatever
controllers on classes, one after the other, the endpoints that come in are those of the shares, one
share for each application of a route. Every application has exactly one endpoint just if each route
on a method is read exactly once before the next route on the same method; a route on any other
function always has its endpoint.
-/
theorem endpoints_run (p : Program) (functions : Nat → Handler) (r : Registry)
    (ds : List Decoration) :
    (((Routing.run functions ⟨r, []⟩ ds).registry.endpoints p).Perm
        (r.endpoints p ++ (shares functions ds).flatten.map (endpointOf p)) ∧
      (shares functions ds).length = ds.countP isRoute) ∧
      ((∀ rs ∈ shares functions ds, rs.length = 1) ↔ EachReadOnce functions ds) := by
  have hstart : Parked functions ⟨r, []⟩ := ⟨.nil, nofun⟩
  have hperm := (run_perm hstart ds).map (endpointOf p)
  rw [prospect, List.map_append] at hperm
  exact ⟨⟨hperm, length_shares⟩, forall_length_shares_iff⟩

/-- A function outside of classes and a method; all others are the latter. -/
def userFunctions : Nat → Handler
  | 0 => { name := "hello", module := "app", qualname := "hello", params := [], result := none }
  | _ => { name := "detail", module := "app", qualname := "UserController.detail", params := []
           result := none }

/-- A controller of a class that holds the method. -/
def userController : Controller :=
  ⟨.cls "app" "UserController" "UserController", "UserController", "/users", none,
    [("detail", some 1)]⟩

/-- Two routes on the function and two on the method of a class. -/
example : (shares userFunctions [.route 0 ⟨"/a", ["GET"], none⟩, .route 0 ⟨"/b", ["GET"], none⟩,
    .route 1 ⟨"/{id}", ["GET"], none⟩, .route 1 ⟨"/by-id/{id}", ["GET"], none⟩,
    .controller userController]).map (·.map (·.path)) =
      [["/a"], ["/b"], [], ["/users/by-id/{id}"]] := by decide +kernel

/-- **Not every application has its endpoint**, though a controller reads each function once: of two
routes on a method the outer one is left. -/
theorem not_endpoint_for_each_all :
    ¬ ∀ (p : Program) (functions : Nat → Handler) (routes : List (Nat × RouteSpec))
      (c : Controller), (∀ e ∈ routes, reads e.1 (.controller c) = 1) →
        ((Routing.run functions ⟨.empty, []⟩ (routes.map (fun e => .route e.1 e.2) ++
          [.controller c])).registry.endpoints p).length = routes.length := by
  intro hall
  have hboth := hall ⟨.empty, ["app"]⟩ userFunctions
    [(1, ⟨"/{id}", ["GET"], none⟩), (1, ⟨"/by-id/{id}", ["GET"], none⟩)] userController (by decide)
  revert hboth
  decide +kernel

end Routing

end EndpointDocs
