import EndpointDocs.Types.Declare
import Mathlib.Data.List.Basic

/-!
# Hierarchies of classes

Classes are declared one by one, each below classes that are there already. What a class was made
with can be found in its lineage then, and stays there when more classes come.

* `Merges`, **`Merges.mem_iff`**: merging keeps all ancestors and brings in no other.
* `Universe.ownAnnotations`: the annotations of a class itself.
* `Universe.Hierarchy`: the classes that declarations give.
* `ClassInfo.Coherent`: what a class remembers fits the other classes.
* **`exists_annotation_of_entriesOf`**: an ancestor annotates each entry of a dataclass.
* `Universe.Adds`, `declare?_eq`: the class that a declaration adds.
* `coherent_old`, `coherent_new`, **`Hierarchy.coherent`**: all classes of a hierarchy fit.
-/

namespace EndpointDocs

/-! ## Merging -/

section Merge

variable {α : Type} [DecidableEq α] {lists : List (List α)} {out : List α} {c x : α}

/-- Ancestors merged one after the other. -/
inductive Merges : List (List α) → List α → Prop
  | done {lists : List (List α)} : (∀ l ∈ lists, l = []) → Merges lists []
  | step {lists : List (List α)} {c : α} {out : List α} : nextAncestor? lists = some c →
    Merges (dropHead c lists) out → Merges lists (c :: out)

theorem merges_of_isEmpty (hempty : lists.all List.isEmpty = true) : Merges lists [] :=
  .done fun l hl => List.isEmpty_iff.mp (List.all_eq_true.mp hempty l hl)

theorem merges_of_mergeUpTo {n : Nat} (h : mergeUpTo n lists = some out) : Merges lists out := by
  induction n generalizing lists out with
  | zero =>
    rw [mergeUpTo] at h
    split_ifs at h with hempty
    obtain rfl := Option.some.inj h
    exact merges_of_isEmpty hempty
  | succ n ih =>
    rw [mergeUpTo] at h
    split_ifs at h with hempty
    · obtain rfl := Option.some.inj h
      exact merges_of_isEmpty hempty
    · obtain ⟨c, hc, h⟩ := Option.bind_eq_some_iff.mp h
      obtain ⟨rest, hrest, h⟩ := Option.bind_eq_some_iff.mp h
      obtain rfl := Option.some.inj h
      exact .step hc (ih hrest)

theorem exists_mem_of_nextAncestor? (h : nextAncestor? lists = some c) : ∃ l ∈ lists, c ∈ l := by
  obtain ⟨l, hl, hc⟩ := List.exists_of_findSome?_eq_some h
  cases l with
  | nil => cases hc
  | cons d ds =>
    dsimp only at hc
    split_ifs at hc
    obtain rfl := Option.some.inj hc
    exact ⟨_, hl, List.mem_cons_self⟩

theorem exists_mem_of_mem_dropHead {l : List α} (hl : l ∈ dropHead c lists) (hx : x ∈ l) :
    ∃ l' ∈ lists, x ∈ l' := by
  obtain ⟨l', hl', rfl⟩ := List.mem_map.mp hl
  refine ⟨l', hl', ?_⟩
  cases l' with
  | nil => exact hx
  | cons d ds =>
    dsimp only at hx
    split_ifs at hx
    · exact List.mem_cons_of_mem _ hx
    · exact hx

theorem eq_or_mem_dropHead (c : α) {l : List α} (hl : l ∈ lists) (hx : x ∈ l) :
    x = c ∨ ∃ l' ∈ dropHead c lists, x ∈ l' := by
  cases l with
  | nil => cases hx
  | cons d ds =>
    have hdrop : (if d = c then ds else d :: ds) ∈ dropHead c lists :=
      List.mem_map.mpr ⟨_, hl, rfl⟩
    split_ifs at hdrop with hd
    · obtain rfl | hx := List.mem_cons.mp hx
      · exact .inl hd
      · exact .inr ⟨_, hdrop, hx⟩
    · exact .inr ⟨_, hdrop, hx⟩

/-- **Merging keeps all ancestors** and brings in no other. -/
theorem Merges.mem_iff (h : Merges lists out) : x ∈ out ↔ ∃ l ∈ lists, x ∈ l := by
  induction h with
  | done hempty =>
    refine iff_of_false List.not_mem_nil ?_
    rintro ⟨l, hl, hx⟩
    rw [hempty l hl] at hx
    cases hx
  | @step lists c out hc _ ih =>
    rw [List.mem_cons, ih]
    constructor
    · rintro (rfl | ⟨l, hl, hx⟩)
      · exact exists_mem_of_nextAncestor? hc
      · exact exists_mem_of_mem_dropHead hl hx
    · rintro ⟨l, hl, hx⟩
      exact eq_or_mem_dropHead c hl hx

end Merge

namespace Entries

variable {α β γ : Type} [BEq α] [LawfulBEq α] {f : γ → List (α × β)} {es : List (α × β)} {k : α}

theorem nodup_keys_foldl_merge (cs : List γ) (h : (es.map (·.1)).Nodup) :
    ((cs.foldl (fun es c => merge es (f c)) es).map (·.1)).Nodup := by
  induction cs generalizing es with
  | nil => exact h
  | cons c cs ih => exact ih (nodup_keys_merge h)

theorem mem_keys_foldl_merge {cs : List γ} :
    k ∈ (cs.foldl (fun es c => merge es (f c)) es).map (·.1) ↔
      k ∈ es.map (·.1) ∨ ∃ c ∈ cs, k ∈ (f c).map (·.1) := by
  induction cs generalizing es with
  | nil => simp
  | cons c cs ih => rw [List.foldl_cons, ih, mem_keys_merge, or_assoc, List.exists_mem_cons_iff]

end Entries

/-! ## Declared classes -/

namespace Universe

variable (u : Universe)

/-- The annotations of a class itself. -/
def ownAnnotations (c : ClassRef) : List (String × TypeExpr) := (u.info? c).elim [] (·.own)

/-- Whether a class is there; standard classes always are. -/
def knows : ClassRef → Bool
  | .standard _ => true
  | .declared key => (u.find? key).isSome

/-- Whether all classes that a class is declared below are there. -/
def KnowsBases (d : ClassDecl) : Prop := ∀ b ∈ d.bases, ∀ c ∈ b.baseClass?, u.knows c = true

instance (d : ClassDecl) : Decidable (u.KnowsBases d) :=
  inferInstanceAs (Decidable (∀ b ∈ d.bases, ∀ c ∈ b.baseClass?, u.knows c = true))

/-- The classes that declarations give in any reading, each below classes that are there. -/
inductive Hierarchy : Universe → Prop
  | empty (reading : Reading) : Hierarchy { classes := [], reading }
  | declare {u u' : Universe} {d : ClassDecl} : Hierarchy u → u.KnowsBases d →
    u.declare? d = .ok u' → Hierarchy u'

end Universe

/--
What a class remembers fits the other classes: its lineage has all ancestors of those in it, and what
a dataclass was made with is annotated there.
-/
structure ClassInfo.Coherent (u : Universe) (i : ClassInfo) : Prop where
  nodup_own : (i.own.map (·.1)).Nodup
  known : ∀ c ∈ i.lineage, u.knows c = true
  closed : ∀ key j, .declared key ∈ i.lineage → u.find? key = some j → j.lineage ⊆ i.lineage
  nodup_settled : i.form = .dataclass → .standard .model ∉ i.lineage →
    (i.settled.map (·.1)).Nodup
  annotated : i.form = .dataclass → .standard .model ∉ i.lineage →
    ∀ n ∈ i.settled.map (·.1), ∃ c ∈ i.lineage, n ∈ (u.ownAnnotations c).map (·.1)

namespace Universe

variable {u u' : Universe} {c : ClassRef} {d : ClassDecl} {key : String} {i : ClassInfo}

/-- All classes fit each other. -/
def Coherent (u : Universe) : Prop := ∀ key i, u.find? key = some i → i.Coherent u

theorem isModel_eq_false_iff : u.isModel c = false ↔ .standard .model ∉ u.lineageOf c := by
  rw [Bool.eq_false_iff, Ne, not_iff_not, isModel, descends, List.any_eq_true]
  constructor
  · rintro ⟨d, hd, hmodel⟩
    cases d with
    | standard s =>
      obtain rfl := eq_of_beq hmodel
      exact hd
    | declared key => cases hmodel
  · exact fun h => ⟨_, h, rfl⟩

theorem lineageOf_declared (h : u.find? key = some i) :
    u.lineageOf (.declared key) = i.lineage := by
  rw [lineageOf, h]
  rfl

theorem ownAnnotations_declared (h : u.find? key = some i) :
    u.ownAnnotations (.declared key) = i.own := by
  rw [ownAnnotations, info?, h]
  rfl

theorem nodup_ownAnnotations (hu : u.Coherent) (c : ClassRef) :
    ((u.ownAnnotations c).map (·.1)).Nodup := by
  cases c with
  | standard s => exact .nil
  | declared key =>
    cases hi : u.find? key with
    | none =>
      rw [ownAnnotations, info?, hi]
      exact .nil
    | some i =>
      rw [ownAnnotations_declared hi]
      exact (hu key i hi).nodup_own

theorem not_mem_standard_lineage {s : StandardClass} : .declared key ∉ u.lineageOf (.standard s) := by
  intro h
  obtain ⟨_, -, h⟩ := List.mem_map.mp h
  cases h

theorem lineage_subset_lineageOf (hu : u.Coherent) (h : .declared key ∈ u.lineageOf c)
    (hi : u.find? key = some i) : i.lineage ⊆ u.lineageOf c := by
  cases c with
  | standard s => exact absurd h not_mem_standard_lineage
  | declared k =>
    cases hj : u.find? k with
    | none =>
      rw [lineageOf, hj, Option.elim_none, List.mem_singleton] at h
      obtain rfl := ClassRef.declared.inj h
      cases hj.symm.trans hi
    | some j =>
      rw [lineageOf_declared hj] at h ⊢
      exact (hu k j hj).closed key i h hi

theorem entriesOf_standard (u : Universe) (s : StandardClass) : u.entriesOf (.standard s) = [] := by
  have hnone : (u.lineageOf (.standard s)).findSome? (fun d =>
      ((u.info? d).filter (·.form == .dataclass)).map (·.settled)) = none := by
    rw [List.findSome?_eq_none_iff]
    intro d hd
    cases d with
    | standard s => rfl
    | declared key => exact absurd hd not_mem_standard_lineage
  rw [entriesOf, hnone, Option.getD_none]

/-- **An ancestor annotates each entry** of a dataclass. -/
theorem exists_annotation_of_entriesOf (hu : u.Coherent) (hmodel : .standard .model ∉ u.lineageOf c) :
    ((u.entriesOf c).map (·.1)).Nodup ∧
      ∀ n ∈ (u.entriesOf c).map (·.1), ∃ d ∈ u.lineageOf c, n ∈ (u.ownAnnotations d).map (·.1) := by
  unfold entriesOf
  cases hfound : (u.lineageOf c).findSome? fun d =>
      ((u.info? d).filter (·.form == .dataclass)).map (·.settled) with
  | none => exact ⟨.nil, nofun⟩
  | some settled =>
    obtain ⟨d, hd, hsettled⟩ := List.exists_of_findSome?_eq_some hfound
    obtain ⟨j, hj, rfl⟩ := Option.map_eq_some_iff.mp hsettled
    obtain ⟨hj, hform⟩ := Option.filter_eq_some_iff.mp hj
    have hform := eq_of_beq hform
    -- only a declared class is a dataclass
    cases d with
    | standard s => cases hj
    | declared k =>
      have hsubset := lineage_subset_lineageOf hu hd hj
      have hj' := hu k j hj
      have hnot : .standard .model ∉ j.lineage := fun h => hmodel (hsubset h)
      refine ⟨hj'.nodup_settled hform hnot, fun n hn => ?_⟩
      obtain ⟨e, he, hn⟩ := hj'.annotated hform hnot n hn
      exact ⟨e, hsubset he, hn⟩

/-! ## One more class -/

/-- A class that a declaration adds to others. -/
structure Adds (u : Universe) (d : ClassDecl) (ancestors : List ClassRef) (i : ClassInfo) :
    Prop where
  key : i.key = d.key
  lineage : i.lineage = .declared d.key :: ancestors
  own : i.own = u.ownOf d
  merges : Merges ((u.basesOf d).map u.lineageOf ++ [u.basesOf d]) ancestors
  settled : u.find? d.key = none → i.form = .dataclass → .standard .model ∉ i.lineage →
    i.settled = u.dataclassEntries ancestors i.own

/-- The classes with one more. -/
def add (u : Universe) (i : ClassInfo) : Universe := { u with classes := u.classes ++ [i] }

theorem find?_add (u : Universe) (i : ClassInfo) (key : String) :
    (u.add i).find? key = (u.find? key).or (if i.key == key then some i else none) := by
  rw [find?, add, List.find?_append, List.find?_singleton]
  rfl

theorem find?_add_of_isSome (h : (u.find? key).isSome = true) :
    (u.add i).find? key = u.find? key := by
  rw [find?_add, Option.or_of_isSome h]

theorem find?_add_self (h : u.find? i.key = none) : (u.add i).find? i.key = some i := by
  rw [find?_add, h, Option.none_or, if_pos (beq_self_eq_true _)]

theorem isModel_add_self (h : u.find? i.key = none) :
    (u.add i).isModel (.declared i.key) = true ↔ .standard .model ∈ i.lineage := by
  rw [← not_iff_not, Bool.not_eq_true, isModel_eq_false_iff,
    lineageOf_declared (find?_add_self h)]

theorem declare?_eq (h : u.declare? d = .ok u') :
    ∃ ancestors i, Adds u d ancestors i ∧ u' = u.add i := by
  simp only [declare?] at h
  cases hmerge : mergeLineages ((u.basesOf d).map u.lineageOf ++ [u.basesOf d]) with
  | none =>
    rw [hmerge] at h
    cases h
  | some ancestors =>
    rw [hmerge] at h
    obtain rfl := Except.ok.inj h
    refine ⟨ancestors, _, ⟨rfl, rfl, rfl, merges_of_mergeUpTo hmerge, fun hnew hform hmodel => ?_⟩,
      rfl⟩
    dsimp only at hform hmodel ⊢
    -- whether the class is a model is asked before it has settled fields
    rw [if_neg, if_pos (beq_iff_eq.mpr hform)]
    refine fun h => hmodel ?_
    exact (isModel_add_self (i := ⟨d.key, d.name, d.module, d.qualname, u.formOf d, d.params,
      .declared d.key :: ancestors, u.ownOf d, []⟩) hnew).mp h

theorem nodup_ownOf (u : Universe) (d : ClassDecl) : ((u.ownOf d).map (·.1)).Nodup := by
  unfold ownOf
  split
  · exact Entries.nodup_keys_merge (Entries.nodup_keys_ofPairs _)
  · exact Entries.nodup_keys_ofPairs _
  · exact Entries.nodup_keys_ofPairs _

/-- Declared classes among the bases of a class are bases that were written. -/
theorem find?_of_mem_basesOf (hknown : u.KnowsBases d) (h : .declared key ∈ u.basesOf d) :
    (u.find? key).isSome = true := by
  have hwritten (h : .declared key ∈ d.bases.filterMap TypeExpr.baseClass?) :
      (u.find? key).isSome = true := by
    obtain ⟨b, hb, hkey⟩ := List.mem_filterMap.mp h
    exact hknown b hb _ hkey
  unfold basesOf at h
  dsimp only at h
  split at h
  · simp at h
  · simp at h
  · exact hwritten (by simpa using h)
  · split_ifs at h
    · exact hwritten h
    · exact hwritten (by simpa using h)
  · split_ifs at h
    · simp at h
    · exact hwritten h

namespace Adds

variable {ancestors : List ClassRef} (hadds : Adds u d ancestors i)
include hadds

theorem find?_self (hnew : u.find? d.key = none) : (u.add i).find? d.key = some i :=
  hadds.key ▸ find?_add_self (hadds.key ▸ hnew)

theorem mem_ancestors_of_base {b : ClassRef} (hb : b ∈ u.basesOf d) (hc : c ∈ u.lineageOf b) :
    c ∈ ancestors :=
  hadds.merges.mem_iff.mpr ⟨_, List.mem_append_left _ (List.mem_map_of_mem hb), hc⟩

/-- A declared ancestor is there, and its own ancestors are ancestors as well. -/
theorem ancestor (hu : u.Coherent) (hknown : u.KnowsBases d) (h : .declared key ∈ ancestors) :
    ∃ j, u.find? key = some j ∧ j.lineage ⊆ ancestors := by
  obtain ⟨l, hl, hmem⟩ := hadds.merges.mem_iff.mp h
  obtain hl | hl := List.mem_append.mp hl
  · obtain ⟨b, hb, rfl⟩ := List.mem_map.mp hl
    cases b with
    | standard s => exact absurd hmem not_mem_standard_lineage
    | declared k =>
      obtain ⟨i', hi'⟩ := Option.isSome_iff_exists.mp (find?_of_mem_basesOf hknown hb)
      have hkey : u.knows (.declared key) = true :=
        (hu k i' hi').known _ (lineageOf_declared hi' ▸ hmem)
      obtain ⟨j, hj⟩ := Option.isSome_iff_exists.mp hkey
      exact ⟨j, hj, fun e he =>
        hadds.mem_ancestors_of_base hb (lineage_subset_lineageOf hu hmem hj he)⟩
  · obtain rfl := List.mem_singleton.mp hl
    obtain ⟨j, hj⟩ := Option.isSome_iff_exists.mp (find?_of_mem_basesOf hknown hmem)
    refine ⟨j, hj, fun e he => hadds.mem_ancestors_of_base hmem ?_⟩
    rwa [lineageOf_declared hj]

theorem knows_ancestor (hu : u.Coherent) (hknown : u.KnowsBases d) (h : c ∈ ancestors) :
    u.knows c = true := by
  cases c with
  | standard s => rfl
  | declared key =>
    obtain ⟨j, hj, -⟩ := hadds.ancestor hu hknown h
    exact Option.isSome_iff_exists.mpr ⟨j, hj⟩

theorem annotated_ancestor {n : String} (hu : u.Coherent) (hknown : u.KnowsBases d)
    (hmodel : .standard .model ∉ ancestors) (hc : c ∈ ancestors)
    (hn : n ∈ (u.entriesOf c).map (·.1)) :
    ∃ e ∈ ancestors, n ∈ (u.ownAnnotations e).map (·.1) := by
  cases c with
  | standard s =>
    rw [entriesOf_standard] at hn
    cases hn
  | declared key =>
    obtain ⟨j, hj, hsubset⟩ := hadds.ancestor hu hknown hc
    rw [← lineageOf_declared hj] at hsubset
    obtain ⟨e, he, hn⟩ := (exists_annotation_of_entriesOf hu fun h => hmodel (hsubset h)).2 n hn
    exact ⟨e, hsubset he, hn⟩

end Adds

theorem knows_add (i : ClassInfo) (h : u.knows c = true) : (u.add i).knows c = true := by
  cases c with
  | standard s => rfl
  | declared key => exact (congrArg Option.isSome (find?_add_of_isSome h)).trans h

theorem ownAnnotations_add (i : ClassInfo) (h : u.knows c = true) :
    (u.add i).ownAnnotations c = u.ownAnnotations c := by
  cases c with
  | standard s => rfl
  | declared key => rw [ownAnnotations, info?, find?_add_of_isSome h]; rfl

/-- A class that was there still fits. -/
theorem coherent_old {j : ClassInfo} (hj : j.Coherent u) (i : ClassInfo) : j.Coherent (u.add i) where
  nodup_own := hj.nodup_own
  known c hc := knows_add i (hj.known c hc)
  closed key k h hk := by
    rw [find?_add_of_isSome (hj.known _ h)] at hk
    exact hj.closed key k h hk
  nodup_settled := hj.nodup_settled
  annotated hform hmodel n hn := by
    obtain ⟨c, hc, hn⟩ := hj.annotated hform hmodel n hn
    refine ⟨c, hc, ?_⟩
    rwa [ownAnnotations_add i (hj.known c hc)]

/-- A class that is added fits. -/
theorem coherent_new {ancestors : List ClassRef} (hu : u.Coherent) (hknown : u.KnowsBases d)
    (hadds : Adds u d ancestors i) (hnew : u.find? d.key = none) : i.Coherent (u.add i) where
  nodup_own := hadds.own ▸ u.nodup_ownOf d
  known c hc := by
    rw [hadds.lineage, List.mem_cons] at hc
    obtain rfl | hc := hc
    · exact Option.isSome_iff_exists.mpr ⟨i, hadds.find?_self hnew⟩
    · exact knows_add i (hadds.knows_ancestor hu hknown hc)
  closed key j h hj := by
    rw [hadds.lineage] at h ⊢
    obtain h | h := List.mem_cons.mp h
    · obtain rfl := ClassRef.declared.inj h
      obtain rfl := Option.some.inj ((hadds.find?_self hnew).symm.trans hj)
      rw [hadds.lineage]
      exact List.Subset.refl _
    · obtain ⟨j', hj', hsubset⟩ := hadds.ancestor hu hknown h
      rw [find?_add_of_isSome (Option.isSome_iff_exists.mpr ⟨j', hj'⟩), hj'] at hj
      obtain rfl := Option.some.inj hj
      exact List.Subset.trans hsubset (List.subset_cons_self _ _)
  nodup_settled hform hmodel := by
    rw [hadds.settled hnew hform hmodel]
    exact Entries.nodup_keys_merge (Entries.nodup_keys_foldl_merge _ .nil)
  annotated hform hmodel n hn := by
    rw [hadds.settled hnew hform hmodel, dataclassEntries, Entries.mem_keys_merge,
      Entries.mem_keys_foldl_merge] at hn
    rw [hadds.lineage] at hmodel ⊢
    obtain (hn | ⟨c, hc, hn⟩) | hn := hn
    · cases hn
    · -- an ancestor was made with the entry, so an ancestor of that one annotates it
      obtain ⟨e, he, hn⟩ := hadds.annotated_ancestor hu hknown
        (fun h => hmodel (List.mem_cons_of_mem _ h)) (List.mem_reverse.mp hc) hn
      refine ⟨e, List.mem_cons_of_mem _ he, ?_⟩
      rwa [ownAnnotations_add i (hadds.knows_ancestor hu hknown he)]
    · exact ⟨_, List.mem_cons_self, by rwa [ownAnnotations_declared (hadds.find?_self hnew)]⟩

/-- **All classes of a hierarchy fit** each other. -/
theorem Hierarchy.coherent (h : Hierarchy u) : u.Coherent := by
  induction h with
  | empty reading => exact nofun
  | @declare u u' d _ hknown hu' ih =>
    obtain ⟨ancestors, i, hadds, rfl⟩ := declare?_eq hu'
    intro key j hj
    rw [find?_add] at hj
    cases hfound : u.find? key with
    | some k =>
      rw [hfound] at hj
      obtain rfl := Option.some.inj hj
      exact coherent_old (ih key k hfound) i
    | none =>
      rw [hfound, Option.none_or] at hj
      split_ifs at hj with hkey
      obtain rfl := Option.some.inj hj
      obtain rfl := eq_of_beq hkey
      exact coherent_new ih hknown hadds (hadds.key ▸ hfound)

end Universe

end EndpointDocs
