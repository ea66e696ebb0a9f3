import EndpointDocs.Index.Basic
import Mathlib.Data.List.Nodup
import Mathlib.Data.List.Perm.Basic
import Mathlib.Data.String.Basic
import Mathlib.Tactic.Common

/-!
# Grouping metadata

* `IsGroupingOf`: ascending groups, each sorted by path and methods, that hold some metadata.
* `pairwise_entriesOf`, `filter_entriesOf`: a group is sorted, and stable.
* **`isGroupingOf_ofMetadata`**: metadata is grouped without loss.
* **`ofMetadata_perm`**: metadata with places of their own is grouped alike in any order.
* `outcomes`: what a builder answers for endpoints, one after the other.
* **`run_collect?`**: excluded endpoints are not asked for, failing ones are dropped.
* **`build?_isGroupingOf`**: the index holds the metadata of all other endpoints.
-/

namespace EndpointDocs.Groups

/-! ## The order inside a group -/

theorem precedes_iff (m n : Metadata) : precedes m n = true ↔
    m.path < n.path ∨ m.path = n.path ∧ m.methodLabel ≤ n.methodLabel := by
  simp [precedes]

theorem precedes_trans (l m n : Metadata) (h : precedes l m = true) (h' : precedes m n = true) :
    precedes l n = true := by
  rw [precedes_iff] at h h' ⊢
  obtain h | ⟨h, hl⟩ := h <;> obtain h' | ⟨h', hl'⟩ := h'
  · exact .inl (h.trans h')
  · exact .inl (h' ▸ h)
  · exact .inl (h ▸ h')
  · exact .inr ⟨h.trans h', hl.trans hl'⟩

theorem precedes_total (m n : Metadata) : (precedes m n || precedes n m) = true := by
  rw [Bool.or_eq_true, precedes_iff, precedes_iff]
  obtain h | h | h := lt_trichotomy m.path n.path
  · exact .inl (.inl h)
  · obtain hl | hl := le_total m.methodLabel n.methodLabel
    · exact .inl (.inr ⟨h, hl⟩)
    · exact .inr (.inr ⟨h.symm, hl⟩)
  · exact .inr (.inl h)

theorem entriesOf_perm (name : String) (ms : List Metadata) :
    (entriesOf name ms).Perm (ms.filter (·.groupName == name)) :=
  List.mergeSort_perm _ _

theorem mem_entriesOf {name : String} {ms : List Metadata} {m : Metadata} :
    m ∈ entriesOf name ms ↔ m ∈ ms ∧ m.groupName = name := by
  rw [(entriesOf_perm name ms).mem_iff, List.mem_filter, beq_iff_eq]

theorem pairwise_entriesOf (name : String) (ms : List Metadata) :
    (entriesOf name ms).Pairwise fun m n => precedes m n = true :=
  List.pairwise_mergeSort precedes_trans precedes_total _

theorem filter_entriesOf (name : String) (ms : List Metadata) (path label : String) :
    (entriesOf name ms).filter (fun m => m.path == path && m.methodLabel == label) =
      ms.filter fun m => m.groupName == name && (m.path == path && m.methodLabel == label) := by
  set same : Metadata → Bool := fun m => m.path == path && m.methodLabel == label with hsame
  set own := ms.filter (·.groupName == name)
  have hown : ms.filter (fun m => m.groupName == name && same m) = own.filter same := by
    rw [List.filter_filter]
    exact List.filter_congr fun m _ => Bool.and_comm _ _
  have hsorted : (own.filter same).Pairwise fun m n => precedes m n = true := by
    refine List.pairwise_of_forall_mem_list fun m hm n hn => ?_
    simp only [hsame, List.mem_filter, Bool.and_eq_true, beq_iff_eq] at hm hn
    rw [precedes_iff, hm.2.1, hm.2.2, hn.2.1, hn.2.2]
    exact .inr ⟨rfl, le_rfl⟩
  have hsub := List.sublist_mergeSort precedes_trans precedes_total hsorted List.filter_sublist
  have hsub' : (own.filter same).Sublist ((entriesOf name ms).filter same) := by
    have := hsub.filter same
    rwa [List.filter_filter, List.filter_congr fun m _ => Bool.and_self (same m)] at this
  rw [hown]
  exact (hsub'.eq_of_length ((entriesOf_perm name ms).filter same).length_eq.symm).symm

/-! ## The names of the groups -/

theorem nodup_eraseDups (names : List String) : names.eraseDups.Nodup := by
  induction h : names.length using Nat.strongRecOn generalizing names with
  | _ n ih =>
    cases names with
    | nil => simp
    | cons name rest =>
      have hlt : (rest.filter fun other => !other == name).length < n := by
        have := List.length_filter_le (fun other => !other == name) rest
        rw [List.length_cons] at h
        omega
      rw [List.eraseDups_cons, List.nodup_cons]
      exact ⟨fun hmem => by simpa using List.mem_eraseDups.mp hmem, ih _ hlt _ rfl⟩

/-- The group names of some metadata, each once, in ascending order. -/
def names (ms : List Metadata) : List String :=
  (ms.map (·.groupName)).eraseDups.mergeSort (· ≤ ·)

theorem ofMetadata_eq (ms : List Metadata) :
    ofMetadata ms = (names ms).map fun name => (name, entriesOf name ms) := rfl

theorem mem_names {ms : List Metadata} {name : String} :
    name ∈ names ms ↔ ∃ m ∈ ms, m.groupName = name := by
  rw [names, List.mem_mergeSort, List.mem_eraseDups, List.mem_map]

theorem nodup_names (ms : List Metadata) : (names ms).Nodup :=
  (List.mergeSort_perm _ _).nodup_iff.mpr (nodup_eraseDups _)

theorem pairwise_lt_names (ms : List Metadata) : (names ms).Pairwise (· < ·) := by
  have hle : (names ms).Pairwise fun m n => decide (m ≤ n) = true :=
    List.pairwise_mergeSort (fun a b c hab hbc => by
      simp only [decide_eq_true_eq] at hab hbc ⊢; exact hab.trans hbc)
      (fun a b => by simp only [Bool.or_eq_true, decide_eq_true_eq]; exact le_total a b) _
  refine (hle.and (nodup_names ms)).imp fun {m n} h => ?_
  exact lt_of_le_of_ne (of_decide_eq_true h.1) h.2

/-! ## Grouping without loss -/

theorem flatMap_filter_perm {ns : List String} (hns : ns.Nodup) (ms : List Metadata)
    (hall : ∀ m ∈ ms, m.groupName ∈ ns) :
    (ns.flatMap fun name => ms.filter (·.groupName == name)).Perm ms := by
  induction ns generalizing ms with
  | nil =>
    cases ms with
    | nil => exact .refl _
    | cons m ms => simpa using hall m List.mem_cons_self
  | cons name ns ih =>
    obtain ⟨hname, hns⟩ := List.nodup_cons.mp hns
    set others := ms.filter (!·.groupName == name)
    have hothers : ∀ other ∈ ns, ms.filter (·.groupName == other) =
        others.filter (·.groupName == other) := by
      intro other hother
      rw [List.filter_filter]
      refine List.filter_congr fun m _ => ?_
      have : other ≠ name := fun h => hname (h ▸ hother)
      by_cases hm : m.groupName = other <;> simp [hm, this]
    have hcover : ∀ m ∈ others, m.groupName ∈ ns := by
      intro m hm
      obtain ⟨hm, hne⟩ := List.mem_filter.mp hm
      exact (List.mem_cons.mp (hall m hm)).resolve_left (by simpa using hne)
    rw [List.flatMap_cons, List.flatMap_congr hothers]
    exact ((ih hns others hcover).append_left _).trans (List.filter_append_perm _ ms)

/-- Groups in ascending order, each sorted by path and methods, that hold metadata without loss. -/
structure IsGroupingOf (gs : Groups) (ms : List Metadata) : Prop where
  distinct : (gs.map (·.1)).Nodup
  ascending : (gs.map (·.1)).Pairwise (· < ·)
  nonempty : ∀ g ∈ gs, g.2 ≠ []
  named : ∀ g ∈ gs, ∀ m ∈ g.2, m.groupName = g.1
  sorted : ∀ g ∈ gs, g.2.Pairwise fun m n =>
    m.path < n.path ∨ m.path = n.path ∧ m.methodLabel ≤ n.methodLabel
  stable : ∀ g ∈ gs, ∀ path label, g.2.filter (fun m => m.path == path && m.methodLabel == label) =
    ms.filter fun m => m.groupName == g.1 && (m.path == path && m.methodLabel == label)
  perm : (gs.flatMap (·.2)).Perm ms

/-- **Metadata is grouped without loss.** -/
theorem isGroupingOf_ofMetadata (ms : List Metadata) : IsGroupingOf (ofMetadata ms) ms := by
  have hnames : (ofMetadata ms).map (·.1) = names ms := by
    rw [ofMetadata_eq, List.map_map]
    exact List.map_id _
  have hgroup : ∀ g ∈ ofMetadata ms, g.1 ∈ names ms ∧ g.2 = entriesOf g.1 ms := by
    intro g hg
    rw [ofMetadata_eq, List.mem_map] at hg
    obtain ⟨name, hname, rfl⟩ := hg
    exact ⟨hname, rfl⟩
  refine ⟨hnames ▸ nodup_names ms, hnames ▸ pairwise_lt_names ms, fun g hg => ?_,
    fun g hg m hm => ?_, fun g hg => ?_, fun g hg path label => ?_, ?_⟩
  · obtain ⟨hname, hentries⟩ := hgroup g hg
    obtain ⟨m, hm, hm'⟩ := mem_names.mp hname
    rw [hentries]
    exact List.ne_nil_of_mem (mem_entriesOf.mpr ⟨hm, hm'⟩)
  · rw [(hgroup g hg).2] at hm
    exact (mem_entriesOf.mp hm).2
  · rw [(hgroup g hg).2]
    exact (pairwise_entriesOf g.1 ms).imp fun {m n} h => (precedes_iff m n).mp h
  · rw [(hgroup g hg).2]
    exact filter_entriesOf g.1 ms path label
  · rw [ofMetadata_eq, List.flatMap_map]
    refine (List.Perm.flatMap_left _ fun name _ => entriesOf_perm name ms).trans ?_
    exact flatMap_filter_perm (nodup_names ms) ms fun m hm => mem_names.mpr ⟨m, hm, rfl⟩

/-! ## Grouping in any order -/

/-- What the place of metadata depends on: the group, then path and methods. -/
def placeOf (m : Metadata) : String × String × String := (m.groupName, m.path, m.methodLabel)

theorem names_perm {ms ms' : List Metadata} (h : ms.Perm ms') : names ms = names ms' := by
  have hperm : (names ms).Perm (names ms') := by
    refine (List.perm_ext_iff_of_nodup (nodup_names ms) (nodup_names ms')).mpr fun name => ?_
    rw [mem_names, mem_names]
    simp only [h.mem_iff]
  exact hperm.eq_of_pairwise (fun _ _ _ _ hlt hlt' => absurd hlt' hlt.asymm)
    (pairwise_lt_names ms) (pairwise_lt_names ms')

/-- Only one metadata of a group may stand before another, if no two have the same place. -/
theorem precedes_antisymm {ms : List Metadata} (hplaces : (ms.map placeOf).Nodup) {m n : Metadata}
    (hm : m ∈ ms) (hn : n ∈ ms) (hname : m.groupName = n.groupName) (hmn : precedes m n = true)
    (hnm : precedes n m = true) : m = n := by
  rw [precedes_iff] at hmn hnm
  have hpath : m.path = n.path := by
    obtain hlt | ⟨hpath, -⟩ := hmn
    · obtain hlt' | ⟨hpath, -⟩ := hnm
      · exact absurd hlt' hlt.asymm
      · exact hpath.symm
    · exact hpath
  have hlabel : m.methodLabel = n.methodLabel := by
    obtain hlt | ⟨-, hle⟩ := hmn
    · exact absurd hpath hlt.ne
    obtain hlt | ⟨-, hle'⟩ := hnm
    · exact absurd hpath.symm hlt.ne
    exact le_antisymm hle hle'
  refine List.inj_on_of_nodup_map hplaces hm hn ?_
  rw [placeOf, placeOf, hname, hpath, hlabel]

/-- **Metadata with places of their own is grouped alike** in any order. -/
theorem ofMetadata_perm {ms ms' : List Metadata} (h : ms.Perm ms')
    (hplaces : (ms.map placeOf).Nodup) : ofMetadata ms = ofMetadata ms' := by
  rw [ofMetadata_eq, ofMetadata_eq, names_perm h]
  refine List.map_congr_left fun name _ => ?_
  have hperm : (entriesOf name ms).Perm (entriesOf name ms') :=
    ((entriesOf_perm name ms).trans (h.filter _)).trans (entriesOf_perm name ms').symm
  have hentries : entriesOf name ms = entriesOf name ms' := by
    refine hperm.eq_of_pairwise (fun m n hm hn hmn hnm => ?_) (pairwise_entriesOf name ms)
      (pairwise_entriesOf name ms')
    obtain ⟨hm, hmname⟩ := mem_entriesOf.mp hm
    obtain ⟨hn, hnname⟩ := mem_entriesOf.mp hn
    exact precedes_antisymm hplaces hm (h.mem_iff.mpr hn) (hmname.trans hnname.symm) hmn hnm
  rw [hentries]

/-! ## What is grouped -/

section Collect

variable {σ ε : Type} (excluded : List String) (build : Endpoint → Lookup σ Metadata)

/-- What a builder answers for endpoints, one after the other. -/
def outcomes (es : List Endpoint) : StateM σ (List (Except Source.Fault Metadata)) :=
  es.mapM fun e => (build e).run

/-- The endpoints whose path is not excluded. -/
def included (es : List Endpoint) : List Endpoint := es.filter fun e => e.path ∉ excluded

theorem included_cons_of_mem {e : Endpoint} (he : e.path ∈ excluded) (es : List Endpoint) :
    included excluded (e :: es) = included excluded es := by
  simp [included, he]

theorem included_cons_of_not_mem {e : Endpoint} (he : e.path ∉ excluded) (es : List Endpoint) :
    included excluded (e :: es) = e :: included excluded es := by
  simp [included, he]

theorem run_outcomes_cons (e : Endpoint) (es : List Endpoint) (s : σ) :
    ((outcomes build (e :: es)).run s).1 =
      ((build e).run.run s).1 :: ((outcomes build es).run ((build e).run.run s).2).1 := by
  rw [outcomes, List.mapM_cons]
  rfl

theorem collect?_of_mem {e : Endpoint} (he : e.path ∈ excluded) (es : List (Except ε Endpoint)) :
    collect? excluded build (.ok e :: es) = collect? excluded build es := by
  have hid : (Except.map fun ms : List Metadata => ms) = (id : Except ε _ → _) := Except.map_id
  simp [collect?, he, hid]

theorem collect?_of_not_mem {e : Endpoint} (he : e.path ∉ excluded)
    (es : List (Except ε Endpoint)) : collect? excluded build (.ok e :: es) = do
      let o ← (build e).run
      return (← collect? excluded build es).map (o.toOption.toList ++ ·) := by
  simp only [collect?, List.contains_iff_mem, he, if_false]
  refine bind_congr fun o => ?_
  cases o <;> simp [Except.toOption]

theorem mapM_ok_cons (e : Endpoint) (es : List (Except ε Endpoint)) :
    (.ok e :: es).mapM id = (es.mapM id).map (e :: ·) := by
  rw [List.mapM_cons]
  cases es.mapM id <;> rfl

theorem mapM_map_ok (es : List Endpoint) :
    (es.map .ok : List (Except ε Endpoint)).mapM id = .ok es := by
  induction es with
  | nil => rfl
  | cons e es ih =>
    rw [List.map_cons, mapM_ok_cons, ih]
    rfl

/--
**What is collected.** An endpoint that cannot be read ends it all; excluded endpoints are not asked
for, and those that the builder fails on are dropped.
-/
theorem run_collect? (es : List (Except ε Endpoint)) (s : σ) :
    ((collect? excluded build es).run s).1 = (es.mapM id).map fun es' =>
      ((outcomes build (included excluded es')).run s).1.filterMap Except.toOption := by
  induction es generalizing s with
  | nil => rfl
  | cons e es ih =>
    cases e with
    | error f => rfl
    | ok e =>
      rw [mapM_ok_cons]
      by_cases he : e.path ∈ excluded
      · rw [collect?_of_mem excluded build he, ih]
        cases es.mapM id with
        | error f => rfl
        | ok es' => simp only [Except.map, included_cons_of_mem excluded he]
      · have hstep : ((collect? excluded build (.ok e :: es)).run s).1 =
            ((collect? excluded build es).run ((build e).run.run s).2).1.map
              (((build e).run.run s).1.toOption.toList ++ ·) := by
          rw [collect?_of_not_mem excluded build he]
          rfl
        rw [hstep, ih]
        cases es.mapM id with
        | error f => rfl
        | ok es' =>
          simp only [Except.map, included_cons_of_not_mem excluded he, run_outcomes_cons,
            List.filterMap_cons]
          cases ((build e).run.run s).1 <;> rfl

theorem run_build? (es : List (Except ε Endpoint)) (s : σ) :
    ((build? excluded build es).run s).1 = (es.mapM id).map fun es' => ofMetadata
      (((outcomes build (included excluded es')).run s).1.filterMap Except.toOption) := by
  have h : ((build? excluded build es).run s).1 =
      ((collect? excluded build es).run s).1.map ofMetadata := rfl
  rw [h, run_collect?]
  cases es.mapM id <;> rfl

/--
**The index of some endpoints.** However the builder answers, the groups are in ascending order, each
is sorted and stable, and together they hold exactly the metadata of the endpoints that are not
excluded and do not fail.
-/
theorem build?_isGroupingOf (es : List Endpoint) (s : σ) :
    ∃ gs, ((build? (ε := ε) excluded build (es.map .ok)).run s).1 = .ok gs ∧
      IsGroupingOf gs
        (((outcomes build (included excluded es)).run s).1.filterMap Except.toOption) := by
  refine ⟨_, ?_, isGroupingOf_ofMetadata _⟩
  rw [run_build?, mapM_map_ok]
  rfl

end Collect

end EndpointDocs.Groups
