/-!
# Ordered entries

Pairs of a key and a value in the order in which the keys were first put.

* `put`: a key keeps its place, a later value replaces the earlier one.
* `find?`, `ofPairs`, `merge`.
-/

namespace EndpointDocs.Entries

variable {α β : Type} [BEq α]

/-- Put a value under a key: in place if the key is there, else at the end. -/
def put (k : α) (v : β) : List (α × β) → List (α × β)
  | [] => [(k, v)]
  | (k', v') :: es => if k' == k then (k', v) :: es else (k', v') :: put k v es

def find? (k : α) : List (α × β) → Option β
  | [] => none
  | (k', v) :: es => if k' == k then some v else find? k es

/-- The entries with each pair of a list put in turn. -/
def merge (es : List (α × β)) (pairs : List (α × β)) : List (α × β) :=
  pairs.foldl (fun es p => put p.1 p.2 es) es

/-- The pairs as entries: one per key. -/
def ofPairs (pairs : List (α × β)) : List (α × β) := merge [] pairs

theorem find?_put [LawfulBEq α] [DecidableEq α] (k k' : α) (v : β) (es : List (α × β)) :
    find? k' (put k v es) = if k = k' then some v else find? k' es := by
  induction es with
  | nil => simp [put, find?]
  | cons e es ih =>
    by_cases hk : e.1 = k
    · subst hk
      by_cases hk' : e.1 = k' <;> simp [put, find?, hk']
    · by_cases hk' : e.1 = k'
      · subst hk'
        simp [put, find?, hk, Ne.symm hk]
      · simp [put, find?, hk, hk', ih]

theorem put_of_not_mem [LawfulBEq α] {k : α} {es : List (α × β)} (h : k ∉ es.map (·.1)) (v : β) :
    put k v es = es ++ [(k, v)] := by
  induction es with
  | nil => rfl
  | cons e es ih =>
    rw [List.map_cons, List.mem_cons, not_or] at h
    simp [put, Ne.symm h.1, ih h.2]

theorem merge_of_nodup [LawfulBEq α] {es pairs : List (α × β)}
    (h : ((es ++ pairs).map (·.1)).Nodup) : merge es pairs = es ++ pairs := by
  induction pairs generalizing es with
  | nil => simp [merge]
  | cons p pairs ih =>
    rw [List.append_cons] at h
    have hp : p.1 ∉ es.map (·.1) := by
      rw [List.append_assoc, List.map_append, List.nodup_append] at h
      intro hmem
      exact h.2.2 _ hmem _ (by simp) rfl
    rw [merge, List.foldl_cons, put_of_not_mem hp, ← merge, ih h, List.append_cons es p pairs]

/-- Pairs with different keys are entries already. -/
theorem ofPairs_of_nodup [LawfulBEq α] {pairs : List (α × β)} (h : (pairs.map (·.1)).Nodup) :
    ofPairs pairs = pairs := merge_of_nodup h

/-! ## What entries hold -/

section Mem

variable [LawfulBEq α] {k : α} {v : β} {e : α × β} {es pairs : List (α × β)}

theorem eq_or_mem_of_mem_put (h : e ∈ put k v es) : e = (k, v) ∨ e ∈ es := by
  induction es with
  | nil => exact .inl (List.mem_singleton.mp h)
  | cons e' es ih =>
    rw [put] at h
    split at h
    next hk =>
      obtain rfl | h := List.mem_cons.mp h
      · exact .inl (by rw [eq_of_beq hk])
      · exact .inr (List.mem_cons_of_mem _ h)
    next =>
      obtain rfl | h := List.mem_cons.mp h
      · exact .inr List.mem_cons_self
      · exact (ih h).imp_right (List.mem_cons_of_mem _)

theorem mem_or_mem_of_mem_merge (h : e ∈ merge es pairs) : e ∈ es ∨ e ∈ pairs := by
  induction pairs generalizing es with
  | nil => exact .inl h
  | cons p pairs ih =>
    obtain h | h := ih h
    · obtain rfl | h := eq_or_mem_of_mem_put h
      · exact .inr List.mem_cons_self
      · exact .inl h
    · exact .inr (List.mem_cons_of_mem _ h)

theorem mem_of_mem_ofPairs (h : e ∈ ofPairs pairs) : e ∈ pairs :=
  (mem_or_mem_of_mem_merge h).resolve_left List.not_mem_nil

theorem mem_put_self (k : α) (v : β) (es : List (α × β)) : (k, v) ∈ put k v es := by
  induction es with
  | nil => exact List.mem_singleton_self _
  | cons e' es ih =>
    rw [put]
    split
    next hk => rw [eq_of_beq hk]; exact List.mem_cons_self
    next => exact List.mem_cons_of_mem _ ih

theorem mem_put_of_ne (h : e ∈ es) (hk : e.1 ≠ k) : e ∈ put k v es := by
  induction es with
  | nil => cases h
  | cons e' es ih =>
    rw [put]
    obtain rfl | h := List.mem_cons.mp h
    · rw [if_neg (by simpa using hk)]
      exact List.mem_cons_self
    · split
      · exact List.mem_cons_of_mem _ h
      · exact List.mem_cons_of_mem _ (ih h)

theorem mem_merge_of_mem (h : e ∈ es) (hk : ∀ p ∈ pairs, p.1 ≠ e.1) : e ∈ merge es pairs := by
  induction pairs generalizing es with
  | nil => exact h
  | cons p pairs ih =>
    obtain ⟨hp, hpairs⟩ := List.forall_mem_cons.mp hk
    exact ih (mem_put_of_ne h hp.symm) hpairs

/-- The last pair of a key is the entry of the key. -/
theorem mem_ofPairs_append_cons (before : List (α × β)) {after : List (α × β)}
    (hk : ∀ p ∈ after, p.1 ≠ e.1) : e ∈ ofPairs (before ++ e :: after) := by
  rw [ofPairs, merge, List.foldl_append, List.foldl_cons]
  exact mem_merge_of_mem (mem_put_self e.1 e.2 _) hk

end Mem

/-! ## Keys -/

section Keys

variable [LawfulBEq α] {k k' : α} {v : β} {es pairs : List (α × β)}

theorem isSome_find?_iff : (find? k es).isSome = true ↔ k ∈ es.map (·.1) := by
  induction es with
  | nil => simp [find?]
  | cons e es ih =>
    rw [find?, List.map_cons, List.mem_cons, ← ih]
    by_cases hk : e.1 = k
    · simp [hk]
    · simp [hk, Ne.symm hk]

theorem find?_eq_none_iff : find? k es = none ↔ k ∉ es.map (·.1) := by
  rw [← isSome_find?_iff, Bool.not_eq_true, Option.isSome_eq_false_iff, Option.isNone_iff_eq_none]

theorem mem_of_find? (h : find? k es = some v) : (k, v) ∈ es := by
  induction es with
  | nil => cases h
  | cons e es ih =>
    rw [find?] at h
    split at h
    next hk =>
      obtain rfl := Option.some.inj h
      rw [← eq_of_beq hk]
      exact List.mem_cons_self
    next => exact List.mem_cons_of_mem _ (ih h)

theorem find?_eq_some_of_mem (hkeys : (es.map (·.1)).Nodup) (h : (k, v) ∈ es) :
    find? k es = some v := by
  induction es with
  | nil => cases h
  | cons e es ih =>
    rw [List.map_cons, List.nodup_cons] at hkeys
    rw [find?]
    obtain rfl | h := List.mem_cons.mp h
    · simp
    · have hne : e.1 ≠ k := by
        rintro rfl
        exact hkeys.1 (List.mem_map.mpr ⟨_, h, rfl⟩)
      simp [hne, ih hkeys.2 h]

theorem mem_keys_put : k' ∈ (put k v es).map (·.1) ↔ k' = k ∨ k' ∈ es.map (·.1) := by
  induction es with
  | nil => simp [put]
  | cons e es ih =>
    rw [put]
    by_cases hk : e.1 = k
    · simp [hk]
    · simp only [beq_iff_eq, hk, if_false, List.map_cons, List.mem_cons, ih]
      exact or_left_comm

theorem nodup_keys_put (h : (es.map (·.1)).Nodup) : ((put k v es).map (·.1)).Nodup := by
  induction es with
  | nil => simp [put]
  | cons e es ih =>
    rw [List.map_cons, List.nodup_cons] at h
    rw [put]
    by_cases hk : e.1 = k
    · simpa [hk] using h
    · simp only [beq_iff_eq, hk, if_false, List.map_cons, List.nodup_cons, mem_keys_put]
      exact ⟨by simp [h.1], ih h.2⟩

theorem mem_keys_merge :
    k ∈ (merge es pairs).map (·.1) ↔ k ∈ es.map (·.1) ∨ k ∈ pairs.map (·.1) := by
  induction pairs generalizing es with
  | nil => simp [merge]
  | cons p pairs ih =>
    rw [merge, List.foldl_cons, ← merge, ih, mem_keys_put, List.map_cons, List.mem_cons, or_assoc,
      or_left_comm]

theorem nodup_keys_merge (h : (es.map (·.1)).Nodup) : ((merge es pairs).map (·.1)).Nodup := by
  induction pairs generalizing es with
  | nil => exact h
  | cons p pairs ih => exact ih (nodup_keys_put h)

theorem nodup_keys_ofPairs (pairs : List (α × β)) : ((ofPairs pairs).map (·.1)).Nodup :=
  nodup_keys_merge .nil

/-- What is merged in comes first. -/
theorem find?_merge [DecidableEq α] (h : (pairs.map (·.1)).Nodup) (k : α) :
    find? k (merge es pairs) = (find? k pairs).or (find? k es) := by
  induction pairs generalizing es with
  | nil => rfl
  | cons p pairs ih =>
    rw [List.map_cons, List.nodup_cons] at h
    rw [merge, List.foldl_cons, ← merge, ih h.2, find?_put, find?]
    by_cases hk : p.1 = k
    · subst hk
      simp [find?_eq_none_iff.mpr h.1]
    · simp [hk]

end Keys

/-! ## Entries with other values -/

section Map

variable {γ : Type} (g : β → γ)

theorem map_put (k : α) (v : β) (es : List (α × β)) :
    (put k v es).map (Prod.map id g) = put k (g v) (es.map (Prod.map id g)) := by
  induction es with
  | nil => rfl
  | cons e es ih =>
    rw [put, List.map_cons, put]
    split
    next h => exact (if_pos h).symm
    next h => rw [List.map_cons, ih]; exact (if_neg h).symm

theorem map_merge (es pairs : List (α × β)) :
    (merge es pairs).map (Prod.map id g) =
      merge (es.map (Prod.map id g)) (pairs.map (Prod.map id g)) := by
  induction pairs generalizing es with
  | nil => rfl
  | cons p pairs ih =>
    show (merge (put p.1 p.2 es) pairs).map _ = _
    rw [ih, map_put]
    rfl

/-- Values can be replaced before or after pairs are put in turn. -/
theorem map_ofPairs (pairs : List (α × β)) :
    (ofPairs pairs).map (Prod.map id g) = ofPairs (pairs.map (Prod.map id g)) :=
  map_merge g [] pairs

end Map

end EndpointDocs.Entries
