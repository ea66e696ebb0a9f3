import EndpointDocs.Proofs.Endpoint.Levels

/-!
# Examples below a larger limit

With a larger limit of nesting an example changes only where it was cut off.

* `Value.Abridges`: a value is another one with what stands for too deep levels in some places.
* `Abridges.refl`, `Abridges.eq`: nothing is cut off a value in itself, or in one without a cut.
* `Entries.Alike`, `Alike.ofPairs`: entries with the same keys and related values.
* `abridges_ofDepth`: an example with fewer levels abridges one with more.
* **`make_abridges`**: an example below a limit abridges those below larger ones.
-/

namespace EndpointDocs

/-! ## Values that are cut off -/

namespace Value

/--
A value is another one in which some parts are replaced by what stands for too deep levels: lists
are as long as before, objects have the same keys in the same order, and all else is the same.
-/
inductive Abridges : Value → Value → Prop
  | cut (w : Value) : Abridges Example.tooDeep w
  | leaf {v : Value} : v.isContainer = false → Abridges v v
  | list {vs ws : List Value} : List.Forall₂ Abridges vs ws → Abridges (.list vs) (.list ws)
  | object {es fs : List (String × Value)} : es.map (·.1) = fs.map (·.1) →
    List.Forall₂ Abridges (es.map (·.2)) (fs.map (·.2)) → Abridges (.object es) (.object fs)

mutual

theorem Abridges.refl : ∀ v : Value, Abridges v v
  | .null | .bool _ | .int _ | .text _ => .leaf rfl
  | .list vs => .list (forall₂_refl vs)
  | .object es => .object rfl (forall₂_refl_entries es)

theorem forall₂_refl : ∀ vs : List Value, List.Forall₂ Abridges vs vs
  | [] => .nil
  | v :: vs => .cons (Abridges.refl v) (forall₂_refl vs)

theorem forall₂_refl_entries :
    ∀ es : List (String × Value), List.Forall₂ Abridges (es.map (·.2)) (es.map (·.2))
  | [] => .nil
  | (_, v) :: es => .cons (Abridges.refl v) (forall₂_refl_entries es)

end

/-- **A value that is cut off nowhere** is the one that it abridges. -/
theorem Abridges.eq {v w : Value} (h : Abridges v w) (hcut : ∀ a, ¬ At v a Example.tooDeep) :
    v = w := by
  -- the induction goes through the lists of items and of values, so it is about these as well
  refine @Abridges.rec (fun v w _ => (∀ a, ¬ At v a Example.tooDeep) → v = w)
    (fun vs ws _ => (∀ v ∈ vs, ∀ a, ¬ At v a Example.tooDeep) → vs = ws) ?cut ?leaf ?list ?object
    ?nil ?cons v w h hcut
  case cut => exact fun w hcut => absurd (.here _) (hcut [])
  case leaf => exact fun _ _ => rfl
  case list =>
    intro vs ws _ ih hcut
    rw [ih]
    intro v hv a hat
    obtain ⟨i, hi⟩ := List.getElem?_of_mem hv
    exact hcut (.item i :: a) (.item hi hat)
  case object =>
    intro es fs hkeys _ ih hcut
    rw [List.zip_of_prod hkeys (ih ?_), ← List.zip_of_prod rfl rfl]
    intro v hv a hat
    obtain ⟨⟨k, v⟩, he, rfl⟩ := List.mem_map.mp hv
    exact hcut (.entry k :: a) (.entry he hat)
  case nil => exact fun _ => rfl
  case cons =>
    intro v w vs ws _ _ ih ihs hcut
    obtain ⟨hv, hvs⟩ := List.forall_mem_cons.mp hcut
    rw [ih hv, ihs hvs]

end Value

open Value (Abridges At)

/-! ## Entries with the same keys -/

namespace Entries

variable {α β : Type} {R : β → β → Prop}

/-- Entries with the same keys in the same order, whose values are related. -/
def Alike (R : β → β → Prop) (es fs : List (α × β)) : Prop :=
  es.map (·.1) = fs.map (·.1) ∧ List.Forall₂ R (es.map (·.2)) (fs.map (·.2))

theorem alike_cons {e f : α × β} {es fs : List (α × β)} :
    Alike R (e :: es) (f :: fs) ↔ e.1 = f.1 ∧ R e.2 f.2 ∧ Alike R es fs := by
  simp [Alike, and_assoc, and_left_comm]

variable [BEq α]

theorem Alike.put {es fs : List (α × β)} (h : Alike R es fs) (k : α) {v w : β} (hvw : R v w) :
    Alike R (put k v es) (put k w fs) := by
  induction es generalizing fs with
  | nil =>
    obtain rfl : fs = [] := List.map_eq_nil_iff.mp h.1.symm
    exact alike_cons.mpr ⟨rfl, hvw, h⟩
  | cons e es ih =>
    cases fs with
    | nil => cases h.1
    | cons f fs =>
      obtain ⟨hkey, hvalue, hrest⟩ := alike_cons.mp h
      rw [Entries.put, Entries.put, hkey]
      split
      · exact alike_cons.mpr ⟨rfl, hvw, hrest⟩
      · exact alike_cons.mpr ⟨rfl, hvalue, ih hrest⟩

theorem Alike.merge {es fs ps qs : List (α × β)} (h : Alike R es fs) (hps : Alike R ps qs) :
    Alike R (merge es ps) (merge fs qs) := by
  induction ps generalizing es fs qs with
  | nil =>
    obtain rfl : qs = [] := List.map_eq_nil_iff.mp hps.1.symm
    exact h
  | cons p ps ih =>
    cases qs with
    | nil => cases hps.1
    | cons q qs =>
      obtain ⟨hkey, hvalue, hrest⟩ := alike_cons.mp hps
      show Alike R (Entries.merge (Entries.put p.1 p.2 es) ps)
        (Entries.merge (Entries.put q.1 q.2 fs) qs)
      rw [hkey]
      exact ih (h.put q.1 hvalue) hrest

/-- **Entries are alike if the pairs are** that they are made of. -/
theorem Alike.ofPairs {ps qs : List (α × β)} (h : Alike R ps qs) :
    Alike R (ofPairs ps) (ofPairs qs) :=
  Alike.merge ⟨rfl, .nil⟩ h

end Entries

/-! ## Examples with more levels -/

namespace Example

variable {u : Universe}

theorem abridges_ofField {m n : Nat} (h : ∀ d, Abridges (ofDepth u m d) (ofDepth u n d))
    (f : Field) : Abridges (ofField u m f) (ofField u n f) := by
  unfold ofField
  cases u.describeField? f with
  | none => exact .refl _
  | some t => exact h t

/-- **An example with fewer levels** abridges one with more. -/
theorem abridges_ofDepth {m n : Nat} (hmn : m ≤ n) (d : Descriptor) :
    Abridges (ofDepth u m d) (ofDepth u n d) := by
  induction m generalizing n d with
  | zero => exact .cut _
  | succ m ih =>
    obtain ⟨n, rfl⟩ : ∃ k, n = k + 1 := ⟨n - 1, by omega⟩
    have hbelow : ∀ d, Abridges (ofDepth u m d) (ofDepth u n d) := ih (by omega)
    cases layer u d with
    | fixed hv _ _ =>
      rw [hv, hv]
      exact .refl _
    | @element e he =>
      rw [he, he]
      exact .list (.cons (hbelow e) .nil)
    | record hfields =>
      have hpairs : Entries.Alike Abridges (d.shown.map fun f => (f.name, ofField u m f))
          (d.shown.map fun f => (f.name, ofField u n f)) := by
        refine ⟨by simp, ?_⟩
        rw [List.map_map, List.map_map, List.forall₂_map_left_iff, List.forall₂_map_right_iff]
        exact List.forall₂_same.mpr fun f _ => abridges_ofField hbelow f
      rw [hfields, hfields]
      exact .object hpairs.ofPairs.1 hpairs.ofPairs.2

end Example

open Example in
/--
**An example below a limit abridges those below larger ones.** The larger limit adds to it only
where it was cut off; so an example that is cut off nowhere is the same below all larger limits.
-/
theorem make_abridges (u : Universe) (d : Descriptor) (depth : Int) {limit limit' : Int}
    (hle : limit ≤ limit') :
    Abridges (make u d depth limit) (make u d depth limit') ∧
      ((∀ a, ¬ At (make u d depth limit) a tooDeep) →
        make u d depth limit = make u d depth limit') := by
  have hroom : room depth limit ≤ room depth limit' := by
    unfold room
    omega
  have habridges : Abridges (make u d depth limit) (make u d depth limit') :=
    abridges_ofDepth hroom d
  exact ⟨habridges, habridges.eq⟩

/-- A list of whole numbers. -/
def numbersSample : Descriptor :=
  .mk .sequence "list[int]" "builtins.list" none (some (.leaf .numeric "int" "builtins.int")) []

open Example in
theorem make_abridges_samples :
    (0 : Int) ≤ 1 ∧
      Abridges (make nodeClasses nodeSample 0 0) (make nodeClasses nodeSample 0 1) ∧
      At (make nodeClasses nodeSample 0 0) [.entry "next"] tooDeep ∧ (1 : Int) ≤ 7 ∧
      (∀ a, ¬ At (make .empty numbersSample 0 1) a tooDeep) ∧
      make .empty numbersSample 0 1 = make .empty numbersSample 0 7 := by
  have hnext : At (make nodeClasses nodeSample 0 0) [.entry "next"] tooDeep :=
    .entry (List.mem_cons_of_mem _ List.mem_cons_self) (.here _)
  have hwhole : ∀ a, ¬ At (make .empty numbersSample 0 1) a tooDeep := by
    rintro a (_ | ⟨hitem, h⟩)
    obtain rfl := List.mem_singleton.mp (List.mem_of_getElem? hitem)
    cases h
  exact ⟨by decide, (make_abridges nodeClasses nodeSample 0 (by decide)).1, hnext, by decide,
    hwhole, (make_abridges .empty numbersSample 0 (by decide)).2 hwhole⟩

end EndpointDocs
