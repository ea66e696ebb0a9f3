import EndpointDocs.Proofs.Endpoint.Paths

/-!
# The levels of an example

Nothing but the limit of nesting ends the example of a type that is a part of itself. The levels of
an example are counted in its value: a value inside a container stands one level below it.

* `Step`, `Value.At`: what stands at an address in a value; the length of the address is its level.
* `Value.nesting`: how many containers stand inside each other.
* `Example.Layer`, `layer`: what one level of an example is made of.
* `nesting_ofDepth`, `length_of_at_tooDeep`: how deep an example goes, and where it is cut off.
* `Example.Unfolds`, `at_of_unfolds`: the types whose examples stand in the example of a type.
* **`make_levels`**: the levels of an example between a depth and a limit.
-/

namespace EndpointDocs

/-! ## Addresses in values -/

/-- A step from a container to what it holds: an item of a list, or the value of a key. -/
inductive Step where
  | item (i : Nat)
  | entry (key : String)
  deriving DecidableEq, Repr

namespace Value

/-- What stands at an address in a value. -/
inductive At : Value → List Step → Value → Prop
  | here (v : Value) : At v [] v
  | item {vs : List Value} {i : Nat} {v w : Value} {a : List Step} :
    vs[i]? = some v → At v a w → At (.list vs) (.item i :: a) w
  | entry {es : List (String × Value)} {k : String} {v w : Value} {a : List Step} :
    (k, v) ∈ es → At v a w → At (.object es) (.entry k :: a) w

mutual

/-- How many containers stand inside each other at most. -/
def nesting : Value → Nat
  | .list vs => nestingItems vs + 1
  | .object es => nestingEntries es + 1
  | _ => 0

def nestingItems : List Value → Nat
  | [] => 0
  | v :: vs => max (nesting v) (nestingItems vs)

def nestingEntries : List (String × Value) → Nat
  | [] => 0
  | (_, v) :: es => max (nesting v) (nestingEntries es)

end

theorem nestingEntries_le_iff {es : List (String × Value)} {n : Nat} :
    nestingEntries es ≤ n ↔ ∀ e ∈ es, nesting e.2 ≤ n := by
  induction es with
  | nil => simp [nestingEntries]
  | cons e es ih => rw [nestingEntries, Nat.max_le, ih, List.forall_mem_cons]

/-- A value that holds nothing has no address but its own. -/
theorem At.eq_of_text {s : String} {a : List Step} {w : Value} (h : At (.text s) a w) :
    a = [] ∧ w = .text s := by
  cases h
  exact ⟨rfl, rfl⟩

end Value

open Value (At nesting)

/-! ## What a level is made of -/

variable {u : Universe} {d : Descriptor}

namespace Example

/--
What one level of an example is made of. It may hold the example of an element, or those of fields;
else it is the same at all depths, has one container at most and is cut off nowhere.
-/
inductive Layer (u : Universe) (d : Descriptor) : Prop
  | fixed {v : Value} : (∀ n, ofDepth u (n + 1) d = v) → nesting v ≤ 1 →
    (∀ a, ¬ At v a tooDeep) → Layer u d
  | element {e : Descriptor} : (∀ n, ofDepth u (n + 1) d = .list [ofDepth u n e]) → Layer u d
  | record : (∀ n, ofDepth u (n + 1) d =
    .object (Entries.ofPairs (d.shown.map fun f => (f.name, ofField u n f)))) → Layer u d

theorem ofDepth_sequence {e : Descriptor} (hkind : d.kind = .sequence) (he : d.element = some e)
    (n : Nat) : ofDepth u (n + 1) d = .list [ofDepth u n e] := by
  rw [ofDepth, fill, hkind, he]
  rfl

theorem not_at_request (name : String) (a : List Step) : ¬ At (request name) a tooDeep :=
  fun h => request_ne (by decide) name h.eq_of_text.2.symm

theorem not_at_placeholder (name : String) (a : List Step) : ¬ At (placeholder name) a tooDeep :=
  fun h => placeholder_ne (by decide) name h.eq_of_text.2.symm

theorem not_at_mapping (a : List Step) : ¬ At mapping a tooDeep := by
  rintro (_ | _ | ⟨hmem, h⟩)
  obtain ⟨rfl, rfl⟩ := Prod.mk.inj (List.mem_singleton.mp hmem)
  simpa [tooDeep] using h.eq_of_text.2

theorem layer (u : Universe) (d : Descriptor) : Layer u d := by
  cases hkind : d.kind with
  | numeric =>
    refine .fixed (v := .int 0) (fun n => by rw [ofDepth, fill, hkind]) (Nat.zero_le 1) ?_
    rintro a ⟨⟩
  | boolean =>
    refine .fixed (v := .bool false) (fun n => by rw [ofDepth, fill, hkind]) (Nat.zero_le 1) ?_
    rintro a ⟨⟩
  | string | scalar =>
    exact .fixed (v := request d.name) (fun n => by rw [ofDepth, fill, hkind]) (Nat.zero_le 1)
      (not_at_request d.name)
  | unknown =>
    exact .fixed (v := placeholder d.name) (fun n => by rw [ofDepth, fill, hkind]) (Nat.zero_le 1)
      (not_at_placeholder d.name)
  | mapping =>
    exact .fixed (v := mapping) (fun n => by rw [ofDepth, fill, hkind]) (Nat.le_refl 1) not_at_mapping
  | record => exact .record fun n => ofDepth_record hkind
  | sequence =>
    cases he : d.element with
    | some e => exact .element (ofDepth_sequence hkind he)
    | none =>
      refine .fixed (v := .list []) (fun n => by rw [ofDepth, fill, hkind, he]; rfl) (Nat.le_refl 1) ?_
      rintro a (_ | ⟨hitem, _⟩)
      cases hitem

/-! ## How deep an example goes -/

theorem nesting_ofField {n : Nat} (h : ∀ d, nesting (ofDepth u n d) ≤ n) (f : Field) :
    nesting (ofField u n f) ≤ n := by
  unfold ofField
  cases u.describeField? f with
  | none => exact Nat.zero_le n
  | some t => exact h t

/-- **An example has no more containers inside each other** than levels that are filled in. -/
theorem nesting_ofDepth (n : Nat) (d : Descriptor) : nesting (ofDepth u n d) ≤ n := by
  induction n generalizing d with
  | zero => exact Nat.le_refl 0
  | succ n ih =>
    cases layer u d with
    | fixed hv hnesting _ =>
      rw [hv]
      omega
    | @element e he =>
      have := ih e
      rw [he]
      show max (nesting (ofDepth u n e)) 0 + 1 ≤ n + 1
      omega
    | record hfields =>
      rw [hfields]
      apply Nat.succ_le_succ
      rw [Value.nestingEntries_le_iff]
      intro e he
      obtain ⟨f, -, rfl⟩ := List.mem_map.mp (Entries.mem_of_mem_ofPairs he)
      exact nesting_ofField ih f

/-- **An example is cut off at one level only**: the first one that is not filled in. -/
theorem length_of_at_tooDeep {n : Nat} {a : List Step} (h : At (ofDepth u n d) a tooDeep) :
    a.length = n := by
  induction n generalizing d a with
  | zero =>
    obtain ⟨rfl, -⟩ := h.eq_of_text
    rfl
  | succ n ih =>
    cases layer u d with
    | fixed hv _ hmarker =>
      rw [hv] at h
      exact absurd h (hmarker a)
    | element he =>
      rw [he] at h
      rcases h with _ | ⟨hitem, h⟩
      obtain rfl := List.mem_singleton.mp (List.mem_of_getElem? hitem)
      rw [List.length_cons, ih h]
    | record hfields =>
      rw [hfields] at h
      rcases h with _ | _ | ⟨hmem, h⟩
      obtain ⟨f, -, he⟩ := List.mem_map.mp (Entries.mem_of_mem_ofPairs hmem)
      obtain ⟨rfl, rfl⟩ := Prod.mk.inj he
      unfold ofField at h
      cases ht : u.describeField? f with
      | none =>
        rw [ht] at h
        exact absurd h (not_at_placeholder _ _)
      | some t =>
        rw [ht] at h
        rw [List.length_cons, ih h]

/-! ## The types whose examples stand in an example -/

/--
The example of a type shows that of another one at an address: through the elements of sequences and
the fields of records. Of several fields of one name, it shows the last one.
-/
inductive Unfolds (u : Universe) : Descriptor → List Step → Descriptor → Prop
  | here (d : Descriptor) : Unfolds u d [] d
  | element {d e r : Descriptor} {a : List Step} : d.kind = .sequence → d.element = some e →
    Unfolds u e a r → Unfolds u d (.item 0 :: a) r
  | field {d t r : Descriptor} {f : Field} {before after : List Field} {a : List Step} :
    d.shown = before ++ f :: after → (∀ g ∈ after, g.name ≠ f.name) →
    u.describeField? f = some t → Unfolds u t a r → Unfolds u d (.entry f.name :: a) r

theorem kind_of_mem_shown {f : Field} (h : f ∈ d.shown) : d.kind = .record := by
  obtain ⟨kind, name, fullName, key, element, fields⟩ := d
  cases kind with
  | record => rfl
  | _ => cases h

/-- **At its address** stands the example of a type, with as many levels fewer as there are steps. -/
theorem at_of_unfolds {r : Descriptor} {a : List Step} (h : Unfolds u d a r) (n : Nat) :
    At (ofDepth u (a.length + n) d) a (ofDepth u n r) := by
  induction h with
  | here d =>
    rw [List.length_nil, Nat.zero_add]
    exact .here _
  | element hkind he _ ih =>
    rw [List.length_cons, Nat.add_right_comm, ofDepth_sequence hkind he]
    exact .item rfl ih
  | @field d t r f before after a hshown hlast ht _ ih =>
    have hkind : d.kind = .record := kind_of_mem_shown (f := f) (by simp [hshown])
    rw [List.length_cons, Nat.add_right_comm, ofDepth_record hkind, hshown, List.map_append,
      List.map_cons]
    refine .entry (v := ofField u (a.length + n) f) (Entries.mem_ofPairs_append_cons _ ?_) ?_
    · simpa using hlast
    · rw [ofField, ht]
      exact ih

end Example

open Example in
/--
**The levels of an example** between a depth and a limit. Containers stand inside each other as
often as there are levels, or less often. What stands for deeper levels does so right below the last
one, and nowhere else. Each record above, whose fields have different names, is an object with a key
for each of them that its values have, in the order of their declaration.
-/
theorem make_levels (u : Universe) (d : Descriptor) {depth limit : Int} (hle : depth ≤ limit) :
    (nesting (make u d depth limit) : Int) ≤ limit - depth + 1 ∧
      (∀ a, At (make u d depth limit) a tooDeep → (a.length : Int) = limit - depth + 1) ∧
      ∀ a r, Unfolds u d a r → (a.length : Int) ≤ limit - depth → r.kind = .record →
        (r.shown.map (·.name)).Nodup →
        ∃ es, At (make u d depth limit) a (.object es) ∧ es.map (·.1) = r.shown.map (·.name) := by
  have hroom : (room depth limit : Int) = limit - depth + 1 := by
    unfold room
    omega
  refine ⟨?_, fun a h => ?_, fun a r hunfolds hlevel hkind hnames => ?_⟩
  · have := nesting_ofDepth (u := u) (room depth limit) d
    unfold make
    omega
  · rw [length_of_at_tooDeep h, hroom]
  · obtain ⟨n, hn⟩ : ∃ n, room depth limit = a.length + (n + 1) :=
      ⟨room depth limit - a.length - 1, by omega⟩
    refine ⟨r.shown.map fun f => (f.name, ofField u n f), ?_, by simp⟩
    rw [make, hn, ← ofPairs_fields hnames, ← ofDepth_record hkind]
    exact at_of_unfolds hunfolds (n + 1)

open Example in
theorem make_levels_node :
    let v := make nodeClasses nodeSample 0 1
    (0 : Int) ≤ 1 ∧ Unfolds nodeClasses nodeSample [.entry "next"] nodeSample ∧
      (nodeSample.shown.map (·.name)).Nodup ∧ (nesting v : Int) ≤ 2 ∧
      At v [.entry "next", .entry "next"] tooDeep ∧
      (∀ a, At v a tooDeep → (a.length : Int) = 2) ∧
      ∃ es, At v [.entry "next"] (.object es) ∧ es.map (·.1) = ["id", "next", "children"] := by
  intro v
  have hlast : ∀ g ∈ [nodeField "children" (.generic (.standard .list) [.cls (.declared "Node")])],
      g.name ≠ "next" := by decide
  have hnext {a : List Step} {r : Descriptor} (h : Unfolds nodeClasses nodeSample a r) :
      Unfolds nodeClasses nodeSample (.entry "next" :: a) r :=
    .field (show nodeSample.shown = [nodeField "id" (.cls (.standard .int))] ++
      nodeField "next" (.cls (.declared "Node")) :: _ from rfl) hlast rfl h
  have hnames : (nodeSample.shown.map (·.name)).Nodup := by decide
  obtain ⟨hnesting, hmarker, hrecords⟩ := make_levels nodeClasses nodeSample
    (show (0 : Int) ≤ 1 by decide)
  exact ⟨by decide, hnext (.here _), hnames, hnesting, at_of_unfolds (hnext (hnext (.here _))) 0,
    hmarker, hrecords _ _ (hnext (.here _)) (by decide) rfl hnames⟩

end EndpointDocs
