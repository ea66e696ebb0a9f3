import EndpointDocs.Proofs.Route.Pattern
import EndpointDocs.Proofs.Types.Origin
import EndpointDocs.Route.Handler
import Mathlib.Data.List.Forall2

/-!
# Signatures of handlers

* `TypeExpr.Carries`: the first marker of an annotation gives a binding.
* `TypeExpr.KeepsMarks`, `binding?_resolveHint?`: where evaluating texts leaves markers as written.
* `Program.settled`, `hints_eq`: the texts of a function are evaluated together or not at all.
* `Program.Describes`: what is told about one parameter of a signature.
* **`Program.describeHandler_signature`**: the parameters of a signature, one by one.
-/

namespace EndpointDocs

/-! ## Markers -/

namespace TypeExpr

variable {s : Scope} {t t' : TypeExpr} {b : Binding}

/-- An annotated type whose first marker gives a binding. -/
def Carries (t : TypeExpr) (b : Binding) : Prop :=
  ∃ u before after, t = .annotated u (before ++ .binding b :: after) ∧
    ∀ b', Mark.binding b' ∉ before

theorem binding?_eq_some_iff : t.binding? = some b ↔ t.Carries b := by
  constructor
  · intro h
    cases t with
    | annotated u ms =>
      obtain ⟨before, m, after, rfl, hm, hbefore⟩ := List.findSome?_eq_some_iff.mp h
      cases m with
      | binding b' =>
        cases hm
        exact ⟨u, before, after, rfl, fun b' hb' => nomatch hbefore _ hb'⟩
      | value v => cases hm
    | _ => cases h
  · rintro ⟨u, before, after, rfl, hbefore⟩
    refine List.findSome?_eq_some_iff.mpr ⟨before, .binding b, after, rfl, rfl, fun m hm => ?_⟩
    cases m with
    | binding b' => exact absurd hm (hbefore b')
    | value v => rfl

theorem binding?_eq_none (h : ∀ b, ¬ t.Carries b) : t.binding? = Option.none :=
  Option.eq_none_iff_forall_ne_some.mpr fun b hb => h b (binding?_eq_some_iff.mp hb)

/-! ### Markers of evaluated annotations -/

def isAnnotated : TypeExpr → Bool
  | .annotated _ _ => true
  | _ => false

/-- Whether an annotation ends up with no marks but those written around it: what they are written
around, or the annotation itself, does not turn out to be marked. -/
def KeepsMarks (s : Scope) : TypeExpr → Prop
  | .annotated u _ => ∀ u', resolve? s u = some u' → u'.isAnnotated = false
  | t => ∀ t', resolveHint? s t = some t' → t'.isAnnotated = false

theorem binding?_of_not_isAnnotated (h : t.isAnnotated = false) : t.binding? = Option.none := by
  cases t with
  | annotated => cases h
  | _ => rfl

theorem mark_of_not_isAnnotated (h : t.isAnnotated = false) (ms : List Mark) :
    mark t ms = .annotated t.converted ms := by
  cases t with
  | annotated => cases h
  | _ => rfl

/-- **Markers stay as written** when the texts in an annotation are evaluated. -/
theorem binding?_resolveHint? (h : resolveHint? s t = some t') (ht : t.KeepsMarks s) :
    t'.binding? = t.binding? := by
  cases t with
  | annotated u ms =>
    obtain ⟨u', hu, rfl⟩ := Option.map_eq_some_iff.mp h
    rw [mark_of_not_isAnnotated (ht u' hu)]
    rfl
  | _ => exact binding?_of_not_isAnnotated (ht t' h)

end TypeExpr

/-! ## Annotations of a function -/

/-- The parameters of a signature that are told about: neither a receiver nor a variadic one is. -/
def Handler.told (h : Handler) : List HandlerParam :=
  h.params.filter fun q => q.name ≠ "self" ∧ q.name ≠ "cls" ∧ q.form ≠ .variadic

namespace Program

variable (p : Program) (h : Handler)

theorem told_eq : h.told = h.params.filter isTold := by
  refine List.filter_congr fun q _ => ?_
  rw [Bool.eq_iff_iff]
  cases hform : q.form <;> simp [isTold, hform]

/-- Whether all texts in the annotations of a function can be evaluated. -/
def isSettled : Bool := h.annotations.all fun a => (resolved? (p.scope h) a).isSome

/-- An annotation of a function: with its texts evaluated if all of the function can be, else as it
is written. -/
def settled (a : Option TypeExpr) : Option TypeExpr :=
  if p.isSettled h then (resolved? (p.scope h) a).getD a else a

theorem mapM_eq {α : Type} (f : α → Option α) (xs : List α) :
    xs.mapM f = if xs.all fun x => (f x).isSome then some (xs.map fun x => (f x).getD x)
      else none := by
  induction xs with
  | nil => rfl
  | cons x xs ih =>
    rw [List.mapM_cons, ih, List.all_cons, List.map_cons]
    cases hx : f x with
    | none => rfl
    | some y => cases hxs : xs.all fun x => (f x).isSome <;> rfl

/-- **The annotations of a function** end up evaluated together or as they are written. -/
theorem hints_eq : p.hints h = h.annotations.map (p.settled h) := by
  unfold hints settled isSettled
  rw [mapM_eq]
  split <;> simp

/-- What a parameter ends up annotated with; without an annotation it is any type. -/
def annotationOf (q : HandlerParam) : TypeExpr := (p.settled h q.type).getD .any

/-- **The markers of a parameter** are those in its signature. -/
theorem binding?_annotationOf {q : HandlerParam} (hq : ∀ t ∈ q.type, t.KeepsMarks (p.scope h)) :
    (p.annotationOf h q).binding? = (q.type.getD .any).binding? := by
  unfold annotationOf settled
  split
  · cases ht : q.type with
    | none => rfl
    | some t =>
      cases hresolve : t.resolveHint? (p.scope h) with
      | none => simp [resolved?, hresolve]
      | some t' =>
        simpa [resolved?, hresolve] using TypeExpr.binding?_resolveHint? hresolve (hq t ht)
  · rfl

/-! ## Parameters -/

/-- What is told about a parameter of a signature at a path. -/
structure Describes (path : Route.FullPath) (q : HandlerParam) (d : Parameter) : Prop where
  name_eq : d.name = q.name
  /-- The first marker of the annotation decides. -/
  marked : ∀ b, (p.annotationOf h q).Carries b → d.role = b.role ∧ d.description = b.description
  /-- Without a marker the variables of the path decide. -/
  unmarked : (∀ b, ¬ (p.annotationOf h q).Carries b) → d.description = "" ∧
    (d.role = .path ↔ q.name.toList ∈ path.names) ∧ (d.role = .query ↔ q.name.toList ∉ path.names)
  required_iff : d.required = true ↔ q.default = none

theorem describes_parameter (path : Route.FullPath) (q : HandlerParam) :
    p.Describes h path q (p.parameter path.names q (p.settled h q.type)) where
  name_eq := rfl
  marked b hb := by
    have hbinding := TypeExpr.binding?_eq_some_iff.mpr hb
    rw [annotationOf] at hbinding
    simp [parameter, hbinding]
  unmarked hb := by
    have hbinding := TypeExpr.binding?_eq_none hb
    rw [annotationOf] at hbinding
    by_cases hmem : q.name.toList ∈ path.names <;> simp [parameter, hbinding, hmem]
  required_iff := Option.isNone_iff_eq_none

theorem zip_hints : h.params.zip (p.hints h) = h.params.map fun q => (q, p.settled h q.type) := by
  have hzip : ∀ (qs : List HandlerParam) (rest : List (Option TypeExpr)),
      qs.zip (qs.map (fun q => p.settled h q.type) ++ rest) =
        qs.map fun q => (q, p.settled h q.type) := by
    intro qs rest
    induction qs with
    | nil => rfl
    | cons q qs ih => rw [List.map_cons, List.cons_append, List.zip_cons_cons, ih, List.map_cons]
  rw [hints_eq, Handler.annotations, List.map_append, List.map_map]
  exact hzip h.params _

theorem parameters_eq (inPath : List (List Char)) :
    ((h.params.zip (p.hints h)).filterMap fun (q, hint) =>
      if isTold q then some (p.parameter inPath q hint) else none) =
        h.told.map fun q => p.parameter inPath q (p.settled h q.type) := by
  rw [zip_hints, told_eq]
  induction h.params with
  | nil => rfl
  | cons q qs ih =>
    rw [List.map_cons, List.filterMap_cons, List.filter_cons, ih]
    cases htold : isTold q <;> simp [htold]

/--
**The parameters of a signature**, whatever the texts in annotations stand for. At every path, the
own one of a function or one below a prefix, the endpoint tells the parameters of the signature in
order and each once, without receivers and variadic ones: the first marker of an annotation decides
on role and description, else the variables of the prefix and of the path; a parameter is required
just when it has no default. An annotation is read with its texts evaluated, if all of the function
can be; its markers are those written in the signature, unless what they are written around turns
out to be marked as well.
-/
theorem describeHandler_signature (hcallable : h.callable = true) (path : Route.FullPath)
    (methods : List String) (group : Option String) (owner : Option Owner) :
    ∃ e, p.describeHandler h path.text methods group owner = .ok e ∧
      List.Forall₂ (p.Describes h path) h.told e.parameters ∧
      ((h.params.map (·.name)).Nodup → (e.parameters.map (·.name)).Nodup) ∧
      ∀ q ∈ h.told, (∀ t ∈ q.type, t.KeepsMarks (p.scope h)) →
        ∀ b, (p.annotationOf h q).Carries b ↔ (q.type.getD .any).Carries b := by
  obtain ⟨e, he, hparameters⟩ : ∃ e,
      p.describeHandler h path.text methods group owner = .ok e ∧
        e.parameters = h.told.map fun q => p.parameter path.names q (p.settled h q.type) := by
    refine ⟨_, by rw [describeHandler, hcallable]; rfl, ?_⟩
    rw [← path.pathVariables_text]
    exact p.parameters_eq h _
  refine ⟨e, he, ?_, fun hnodup => ?_, fun q _ hq b => ?_⟩
  · rw [hparameters, List.forall₂_map_right_iff, List.forall₂_same]
    exact fun q _ => p.describes_parameter h path q
  · have hnames : e.parameters.map (·.name) = h.told.map (·.name) := by
      rw [hparameters, List.map_map]
      rfl
    rw [hnames]
    exact hnodup.sublist (List.filter_sublist.map _)
  · rw [← TypeExpr.binding?_eq_some_iff, ← TypeExpr.binding?_eq_some_iff,
      p.binding?_annotationOf h hq]

/-- A parameter in the path of its handler. -/
def shopParam : HandlerParam := ⟨"shop", some (.cls (.standard .int)), .single, none⟩

/-- A parameter with two markers behind another mark; its name is in the path as well. -/
def keyParam : HandlerParam :=
  ⟨"key", some (.annotated (.union false [.cls (.standard .str), .forward "Item" none])
    [.value (.int 8), .binding ⟨.body, "What is found."⟩, .binding ⟨.query, ""⟩]), .single, none⟩

/-- A parameter whose annotation is a text, with a marker in it. -/
def itemParam : HandlerParam :=
  ⟨"item", some (.text "Annotated[Item, Body('the item')]"), .single, none⟩

/-- A parameter with a default. -/
def limitParam : HandlerParam := ⟨"limit", none, .single, some none⟩

/-- A method with these parameters, a receiver and a variadic one. -/
def findHandler : Handler where
  name := "find"
  module := "stock"
  qualname := "Shop.find"
  params := [⟨"self", none, .single, none⟩, shopParam, keyParam, itemParam, limitParam,
    ⟨"more", none, .variadic, none⟩]
  result := none

/-- A program that can evaluate the annotation of the item. -/
def shopProgram : Program where
  classes := Universe.stockFor [("list[Item]", .generic (.standard .list) [.cls (.declared "Item")]),
    ("Annotated[Item, Body('the item')]",
      .annotated (.cls (.declared "Item")) [.binding ⟨.body, "the item"⟩])]
  modules := ["stock"]

/-- The path `/find/{key}` below `/shops/{shop:int}/`. -/
def findPath : Route.FullPath :=
  .below
    ⟨"/shops/".toList, [(⟨"shop".toList, some "int".toList, by decide,
      List.all_eq_true.mp (by decide), by decide⟩, ['/'])], by decide, by decide⟩
    ⟨"/find/".toList, [(⟨"key".toList, none, by decide,
      List.all_eq_true.mp (by decide), by decide⟩, [])], by decide, by decide⟩

theorem describeHandler_signature_find :
    findHandler.callable = true ∧ (∀ t ∈ keyParam.type, t.KeepsMarks (shopProgram.scope findHandler)) ∧
      ∃ e, shopProgram.describeHandler findHandler findPath.text ["GET"] none none = .ok e ∧
        List.Forall₂ (shopProgram.Describes findHandler findPath)
          [shopParam, keyParam, itemParam, limitParam] e.parameters ∧
        (shopProgram.annotationOf findHandler keyParam).Carries ⟨.body, "What is found."⟩ ∧
        (shopProgram.annotationOf findHandler itemParam).Carries ⟨.body, "the item"⟩ ∧
        e.parameters.map (fun d => (d.name, d.role, d.description)) = [("shop", .path, ""),
          ("key", .body, "What is found."), ("item", .body, "the item"), ("limit", .query, "")] := by
  have hkeeps : ∀ t ∈ keyParam.type, t.KeepsMarks (shopProgram.scope findHandler) := by
    rintro t ⟨⟩ u ⟨⟩
    rfl
  obtain ⟨e, he, htold, -, hmarks⟩ :=
    describeHandler_signature shopProgram findHandler rfl findPath ["GET"] none none
  have htexts : ((shopProgram.describeHandler findHandler findPath.text ["GET"] none
      none).toOption.map fun e => e.parameters.map fun d => (d.name, d.role, d.description)) =
      some [("shop", .path, ""), ("key", .body, "What is found."), ("item", .body, "the item"),
        ("limit", .query, "")] := by decide +kernel
  rw [he] at htexts
  refine ⟨rfl, hkeeps, e, he, htold, (hmarks keyParam ?_ hkeeps _).mpr ?_, ?_,
    Option.some.inj htexts⟩
  · exact .tail _ (.head _)
  · exact ⟨_, [.value (.int 8)], [.binding ⟨.query, ""⟩], rfl, by simp⟩
  · exact ⟨_, [], [], rfl, nofun⟩

end Program

end EndpointDocs
