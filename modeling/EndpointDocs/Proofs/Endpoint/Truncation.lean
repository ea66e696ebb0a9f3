import EndpointDocs.Proofs.Endpoint.Preorder

/-!
# Rows below a smaller limit

The limit of nesting cuts the walk of a type. A row tells by the names in its path how deep it
stands, so the rows below a limit can be found among those below a larger one.

* `Undotted`: the names of fields can be told apart in a path.
* `length_trail_of_mem`: each row of a type stands below the path of the type.
* `filter_below`: the rows within a depth, picked by the length of their paths.
* **`rows_truncated`**: a smaller limit leaves out the deeper rows and nothing else.
-/

namespace EndpointDocs

/-- No field of a record has an empty name or a name with a dot; a name may come again. -/
structure Undotted (d : Descriptor) : Prop where
  nonempty : ∀ f ∈ d.shown, f.name ≠ ""
  undotted : ∀ f ∈ d.shown, '.' ∉ f.name.toList

variable {u : Universe} {d : Descriptor} {f : Field} {path : String}

namespace Rows

variable {cell : Field → Except Source.Fault String}

/-- The path of a field has one name more than that of its record. -/
theorem length_trail_extend (hd : Throughout u Undotted d) (hf : f ∈ d.recordFields)
    (hstatic : f.static = false) (path typeName text : String) :
    (Row.trail ⟨extend path f.name, typeName, text⟩).length = (segments path).length + 1 := by
  obtain ⟨r, hr, hmem⟩ := hd.exists_mem_shown hf hstatic
  show (Text.splitOn '.' (extend path f.name)).length = _
  rw [splitOn_extend (hr.here.undotted f hmem), List.length_append, List.length_singleton]

/-- The same for the path that the rows of the field stand below. -/
theorem length_segments_extend (hd : Throughout u Undotted d) (hf : f ∈ d.recordFields)
    (hstatic : f.static = false) (path : String) :
    (segments (extend path f.name)).length = (segments path).length + 1 := by
  obtain ⟨r, hr, hmem⟩ := hd.exists_mem_shown hf hstatic
  rw [segments_extend (hr.here.nonempty f hmem) (hr.here.undotted f hmem), List.length_append,
    List.length_singleton]

theorem length_trail_of_mem {n : Nat} {r : Row} (hd : Throughout u Undotted d)
    (hr : r ∈ below u cell n path d) : (segments path).length < r.trail.length := by
  induction n generalizing d path with
  | zero => cases hr
  | succ n ih =>
    rw [below_succ, List.mem_flatMap] at hr
    obtain ⟨f, hf, hr⟩ := hr
    cases hstatic : f.static with
    | true => simp [hstatic] at hr
    | false =>
      cases ht : u.describeField? f with
      | none => simp [hstatic, ht] at hr
      | some t =>
        cases htext : cell f with
        | error e => simp [hstatic, ht, htext] at hr
        | ok text =>
          simp only [hstatic, ht, htext, Bool.false_eq_true, if_false, List.mem_cons] at hr
          obtain rfl | hr := hr
          · rw [length_trail_extend hd hf hstatic]
            omega
          · have hbelow := ih (hd.field hf hstatic ht) hr
            rw [length_segments_extend hd hf hstatic] at hbelow
            omega

/--
**The rows within a depth** are those whose paths are short enough. The depth counts the records
that are passed, and so do the names in a path: collections add to neither.
-/
theorem filter_below (hd : Throughout u Undotted d) {m n : Nat} (hmn : m ≤ n) (path : String) :
    (below u cell n path d).filter (·.trail.length ≤ (segments path).length + m) =
      below u cell m path d := by
  induction m generalizing n d path with
  | zero =>
    show _ = []
    rw [List.filter_eq_nil_iff]
    intro r hr
    have hlen := length_trail_of_mem hd hr
    simp only [decide_eq_true_eq]
    omega
  | succ m ih =>
    obtain ⟨n, rfl⟩ : ∃ k, n = k + 1 := ⟨n - 1, by omega⟩
    rw [below_succ, below_succ, List.filter_flatMap]
    refine List.flatMap_congr fun f hf => ?_
    by_cases hstatic : f.static = true
    · simp [hstatic]
    rw [Bool.not_eq_true] at hstatic
    cases ht : u.describeField? f with
    | none => simp [hstatic]
    | some t =>
      cases htext : cell f with
      | error e => simp [hstatic]
      | ok text =>
        have hrow : (Row.trail ⟨extend path f.name, t.name, text⟩).length ≤
            (segments path).length + (m + 1) := by
          rw [length_trail_extend hd hf hstatic]
          omega
        have hrest := ih (hd.field hf hstatic ht) (n := n) (by omega) (extend path f.name)
        rw [length_segments_extend hd hf hstatic, Nat.add_right_comm, Nat.add_assoc] at hrest
        simp only [hstatic, Bool.false_eq_true, if_false]
        rw [List.filter_cons_of_pos, hrest]
        exact decide_eq_true hrow

end Rows

/--
**A smaller limit leaves out the deeper rows** and nothing else. Let no field of a record in a type
have an empty name or a name with a dot. The rows below a limit are then those below any larger one
whose paths have at most one name more than the limit, in the same order and each as it is; a limit
below zero leaves none.
-/
theorem rows_truncated (u : Universe) (style : Option Comment.Style) (s : Source.Store)
    (d : Descriptor) {limit limit' : Int} (hd : Throughout u Undotted d) (hle : limit ≤ limit') :
    let rows (limit : Int) :=
      ((Rows.ofType u (style.map Source.Store.docs) d "" 0 limit).run s).1.toList
    rows limit = (rows limit').filter (fun r => r.trail.length ≤ limit + 1) ∧
      (limit < 0 → rows limit = []) := by
  simp only [Rows.run_ofType]
  have hroom : Example.room 0 limit ≤ Example.room 0 limit' := by
    unfold Example.room
    omega
  refine ⟨?_, fun hneg => ?_⟩
  · rw [← Rows.filter_below hd hroom ""]
    refine List.filter_congr fun r hr => ?_
    have hlen := Rows.length_trail_of_mem hd hr
    show decide (r.trail.length ≤ 0 + Example.room 0 limit) = _
    rw [decide_eq_decide]
    unfold Example.room
    omega
  · have hnone : Example.room 0 limit = 0 := by
      unfold Example.room
      omega
    rw [hnone]
    rfl

theorem rows_truncated_node :
    let rows (limit : Int) :=
      ((Rows.ofType nodeClasses ((some Comment.Style.hash).map Source.Store.docs) nodeSample "" 0
        limit).run nodeStore).1.toList
    Throughout nodeClasses Undotted nodeSample ∧ (0 : Int) ≤ 1 ∧
      (rows 0).map (·.path) = ["id", "next", "children"] ∧
      ⟨"children.next", "Node", ""⟩ ∈ rows 1 ∧
      rows 0 = (rows 1).filter (fun r => r.trail.length ≤ (0 : Int) + 1) := by
  intro rows
  have hnames : ∀ f ∈ nodeSample.shown, f.name ≠ "" ∧ '.' ∉ f.name.toList := by decide +kernel
  have hundotted : Throughout nodeClasses Undotted nodeSample :=
    nodeSample_closed ⟨fun f hf => (hnames f hf).1, fun f hf => (hnames f hf).2⟩
      ⟨nofun, nofun⟩ ⟨nofun, nofun⟩
  have hcut := (rows_truncated nodeClasses (some .hash) nodeStore nodeSample hundotted
    (show (0 : Int) ≤ 1 by decide)).1
  exact ⟨hundotted, by decide, by decide +kernel, by decide +kernel, hcut⟩

end EndpointDocs
