import EndpointDocs.Proofs.Endpoint.Walk
import Mathlib.Data.List.Flatten

/-!
# The paths of an example and of rows

* `Value.keyPaths`: the paths of the keys in a value, from the top, record by record.
* `keyPaths_record`, `paths_record`: both lists for a record, field by field.
* `keyPaths_sublist_below`, `keyPaths_eq_below`: the walks compared, each with a depth of its own.
* **`keyPaths_sublist_rows`**: every key of an example has its row, in the same order.
-/

namespace EndpointDocs

/-! ## Keys of values -/

/-- Whether entries are those of the example of every mapping. -/
def Example.isMapping : List (String × Value) → Bool
  | [(k, .text s)] => k == "demoKey" && s == "demoValue"
  | _ => false

namespace Value

mutual

/--
The paths of the keys in a value that stands below a path: a list adds nothing to the path of its
items, and the example of a mapping has no keys of its own.
-/
def keyPaths (path : String) : Value → List String
  | .list items => itemPaths path items
  | .object entries => if Example.isMapping entries then [] else entryPaths path entries
  | _ => []

/-- The paths of the keys in the items of a list. -/
def itemPaths (path : String) : List Value → List String
  | [] => []
  | v :: vs => keyPaths path v ++ itemPaths path vs

def entryPaths (path : String) : List (String × Value) → List String
  | [] => []
  | (k, v) :: es => Rows.extend path k :: keyPaths (Rows.extend path k) v ++ entryPaths path es

end

end Value

open Value (keyPaths entryPaths)

variable {u : Universe}

/-! ## The example of a record -/

theorem append_ne {s w : String} {c : Char} (hs : s.toList.head? = some c)
    (hw : w.toList.head? ≠ some c) (t : String) : s ++ t ≠ w := by
  intro he
  apply hw
  rw [← he, String.toList_append, List.head?_append, hs]
  rfl

theorem placeholder_ne {w : String} (hw : w.toList.head? ≠ some 'U') (name : String) :
    Example.placeholder name ≠ .text w := by
  rw [Example.placeholder, Ne, Value.text.injEq]
  exact append_ne (by decide) hw name

theorem request_ne {w : String} (hw : w.toList.head? ≠ some 'P') (name : String) :
    Example.request name ≠ .text w := by
  rw [Example.request, Ne, Value.text.injEq]
  exact append_ne (by decide) hw name

theorem ofDepth_ne (n : Nat) (d : Descriptor) : Example.ofDepth u n d ≠ .text "demoValue" := by
  cases n with
  | zero => simp [Example.ofDepth, Example.fill, Example.tooDeep]
  | succ n =>
    unfold Example.ofDepth Example.fill
    cases d.kind with
    | string | scalar => exact request_ne (by decide) d.name
    | unknown => exact placeholder_ne (by decide) d.name
    | numeric | boolean | sequence | mapping | record => simp [Example.mapping]

/-- The example of a field: a placeholder without a type. -/
def Example.ofField (u : Universe) (n : Nat) (f : Field) : Value :=
  (u.describeField? f).elim (placeholder (f.type.shown u)) (ofDepth u n)

theorem ofField_ne (n : Nat) (f : Field) : Example.ofField u n f ≠ .text "demoValue" := by
  unfold Example.ofField
  cases u.describeField? f with
  | none => exact placeholder_ne (by decide) _
  | some t => exact ofDepth_ne n t

theorem isMapping_fields (n : Nat) (fs : List Field) :
    Example.isMapping (fs.map fun f => (f.name, Example.ofField u n f)) = false := by
  match fs with
  | [] => rfl
  | [f] =>
    have hne := ofField_ne (u := u) n f
    rw [List.map_singleton]
    cases hv : Example.ofField u n f with
    | text s =>
      rw [hv, Ne, Value.text.injEq] at hne
      simp [Example.isMapping, hne]
    | _ => rfl
  | f :: g :: fs => simp [Example.isMapping]

theorem entryPaths_fields (n : Nat) (path : String) (fs : List Field) :
    entryPaths path (fs.map fun f => (f.name, Example.ofField u n f)) =
      fs.flatMap fun f => Rows.extend path f.name ::
        keyPaths (Rows.extend path f.name) (Example.ofField u n f) := by
  induction fs with
  | nil => rfl
  | cons f fs ih => rw [List.map_cons, entryPaths, ih, List.flatMap_cons]

/-- What an example has for a field, the types of fields given. -/
def Example.fieldValue (typeOf : Field → Option Descriptor) (textOf : Field → String) (n : Nat)
    (f : Field) : Value :=
  (typeOf f).elim (placeholder (textOf f)) (fill typeOf textOf n)

/-- The example of a record has an entry for each field, the last one of a name. -/
theorem fill_record {typeOf : Field → Option Descriptor} {textOf : Field → String} {n : Nat}
    {d : Descriptor} (hkind : d.kind = .record) : Example.fill typeOf textOf (n + 1) d =
      .object (Entries.ofPairs (d.shown.map fun f =>
        (f.name, Example.fieldValue typeOf textOf n f))) := by
  obtain ⟨_, name, fullName, key, element, fields⟩ := d
  obtain rfl : _ = Kind.record := hkind
  rfl

theorem ofDepth_record {n : Nat} {d : Descriptor} (hkind : d.kind = .record) :
    Example.ofDepth u (n + 1) d =
      .object (Entries.ofPairs (d.shown.map fun f => (f.name, Example.ofField u n f))) :=
  fill_record hkind

theorem ofPairs_fields {n : Nat} {d : Descriptor} (hnames : (d.shown.map (·.name)).Nodup) :
    Entries.ofPairs (d.shown.map fun f => (f.name, Example.ofField u n f)) =
      d.shown.map fun f => (f.name, Example.ofField u n f) :=
  Entries.ofPairs_of_nodup (by simpa [Function.comp_def] using hnames)

/-- **The keys of a record's example** are its fields, each followed by the keys in its example. -/
theorem keyPaths_record {n : Nat} {d : Descriptor} (hkind : d.kind = .record)
    (hnames : (d.shown.map (·.name)).Nodup) (path : String) :
    keyPaths path (Example.ofDepth u (n + 1) d) = d.shown.flatMap fun f =>
      Rows.extend path f.name :: keyPaths (Rows.extend path f.name) (Example.ofField u n f) := by
  rw [ofDepth_record hkind, ofPairs_fields hnames, keyPaths, isMapping_fields, if_neg (by simp),
    entryPaths_fields]

/-! ## The two walks -/

/-- Whether a record has fields of different names, each with a type. -/
structure Regular (u : Universe) (d : Descriptor) : Prop where
  names : (d.shown.map (·.name)).Nodup
  typed : ∀ f ∈ d.shown, (u.describeField? f).isSome = true

/-- Whether there is a description for each field of a record. -/
def Described (cell : Field → Except Source.Fault String) (d : Descriptor) : Prop :=
  ∀ f ∈ d.shown, (cell f).isOk = true

variable {cell : Field → Except Source.Fault String}

theorem flatMap_filter {α β : Type} (p : α → Bool) (f : α → List β) (xs : List α) :
    (xs.filter p).flatMap f = xs.flatMap fun x => if p x then f x else [] := by
  induction xs with
  | nil => rfl
  | cons x xs ih =>
    rw [List.flatMap_cons, ← ih, List.filter_cons]
    split_ifs
    · exact List.flatMap_cons
    · rfl

/-- **The paths of a record's rows** are its fields, each followed by the rows of its type. -/
theorem paths_record {n : Nat} {d : Descriptor} (hkind : d.kind = .record) (hd : Regular u d)
    (hcell : Described cell d) (path : String) :
    (Rows.below u cell (n + 1) path d).map (·.path) = d.shown.flatMap fun f =>
      Rows.extend path f.name :: (u.describeField? f).elim [] fun t =>
        (Rows.below u cell n (Rows.extend path f.name) t).map (·.path) := by
  obtain ⟨_, name, fullName, key, element, fields⟩ := d
  obtain rfl : _ = Kind.record := hkind
  rw [Descriptor.shown, flatMap_filter, Rows.below_succ, List.map_flatMap]
  refine List.flatMap_congr fun f hf => ?_
  cases hstatic : f.static with
  | true => rfl
  | false =>
    have hshown : f ∈ (Descriptor.mk .record name fullName key element fields).shown :=
      List.mem_filter.mpr ⟨hf, by simp [hstatic]⟩
    obtain ⟨t, ht⟩ := Option.isSome_iff_exists.mp (hd.typed f hshown)
    have hf := hcell f hshown
    cases hc : cell f with
    | error e =>
      rw [hc] at hf
      cases hf
    | ok text => simp [ht]

theorem below_collection {d e : Descriptor} (hkind : d.kind.isCollection = true)
    (he : d.element = some e) (n : Nat) (path : String) :
    Rows.below u cell n path d = Rows.below u cell n path e := by
  obtain ⟨kind, name, fullName, key, element, fields⟩ := d
  obtain rfl : element = some e := he
  have hfields : (Descriptor.mk kind name fullName key (some e) fields).recordFields =
      e.recordFields := by
    cases kind <;> first | rfl | cases hkind
  cases n with
  | zero => rfl
  | succ n => rw [Rows.below_succ, Rows.below_succ, hfields]

/--
**The keys of an example have rows**, even if the example fills in fewer levels: each sequence takes
a level from the example and none from the rows.
-/
theorem keyPaths_sublist_below {m n : Nat} (hmn : m ≤ n) {d : Descriptor}
    (hd : Throughout u (Regular u) d) (hcell : Throughout u (Described cell) d) (path : String) :
    (keyPaths path (Example.ofDepth u m d)).Sublist
      ((Rows.below u cell n path d).map (·.path)) := by
  induction m generalizing n d path with
  | zero => exact List.nil_sublist _
  | succ m ih =>
    cases hkind : d.kind with
    | string | scalar | unknown | numeric | boolean | mapping =>
      have hnil : keyPaths path (Example.ofDepth u (m + 1) d) = [] := by
        rw [Example.ofDepth, Example.fill, hkind]
        rfl
      rw [hnil]
      exact List.nil_sublist _
    | sequence =>
      have hcollection : d.kind.isCollection = true := by rw [hkind]; rfl
      cases he : d.element with
      | none =>
        have hnil : keyPaths path (Example.ofDepth u (m + 1) d) = [] := by
          rw [Example.ofDepth, Example.fill, hkind, he]
          rfl
        rw [hnil]
        exact List.nil_sublist _
      | some e =>
        have hitem : keyPaths path (Example.ofDepth u (m + 1) d) =
            keyPaths path (Example.ofDepth u m e) := by
          rw [Example.ofDepth, Example.fill, hkind, he]
          exact List.append_nil _
        have hpart : Part u d e := .element hcollection he
        rw [hitem, below_collection hcollection he]
        exact ih (by omega) (hd.part hpart) (hcell.part hpart) path
    | record =>
      obtain ⟨n, rfl⟩ : ∃ k, n = k + 1 := ⟨n - 1, by omega⟩
      rw [keyPaths_record hkind hd.here.names, paths_record hkind hd.here hcell.here]
      refine List.Sublist.flatMap_right _ fun f hf => .cons_cons _ ?_
      obtain ⟨t, ht⟩ := Option.isSome_iff_exists.mp (hd.here.typed f hf)
      rw [Example.ofField, ht]
      exact ih (by omega) (hd.part (.field hf ht)) (hcell.part (.field hf ht)) _

theorem keyPaths_eq_below (n : Nat) {d : Descriptor} (hd : Throughout u (Regular u) d)
    (hcell : Throughout u (Described cell) d)
    (hflat : Throughout u (fun r => r.kind.isCollection = false) d) (path : String) :
    keyPaths path (Example.ofDepth u n d) = (Rows.below u cell n path d).map (·.path) := by
  induction n generalizing d path with
  | zero => rfl
  | succ n ih =>
    cases hkind : d.kind with
    | sequence | mapping =>
      have := hflat.here
      rw [hkind] at this
      cases this
    | string | scalar | unknown | numeric | boolean =>
      obtain ⟨kind, name, fullName, key, element, fields⟩ := d
      cases hkind
      rfl
    | record =>
      rw [keyPaths_record hkind hd.here.names, paths_record hkind hd.here hcell.here]
      refine List.flatMap_congr fun f hf => ?_
      obtain ⟨t, ht⟩ := Option.isSome_iff_exists.mp (hd.here.typed f hf)
      have hpart : Part u d t := .field hf ht
      rw [Example.ofField, ht, Option.elim_some, Option.elim_some,
        ih (hd.part hpart) (hcell.part hpart) (hflat.part hpart)]

/--
**Every key of an example has its row.** Let the records of a type have fields of different names,
each with a type and a description that can be looked up. The paths of the keys in the example of
the type are then among those of its rows, in the same order, for every limit of nesting; and they
are all of these if no sequence and no mapping is a part of the type.
-/
theorem keyPaths_sublist_rows (u : Universe) (style : Option Comment.Style) (s : Source.Store)
    (d : Descriptor) (limit : Int) (hd : Throughout u (Regular u) d)
    (hcell : Throughout u (Described fun f =>
      ((Rows.fieldCell (style.map Source.Store.docs) f).run.run s).1) d) :
    let keys := keyPaths "" (Example.make u d 0 limit)
    let rows := ((Rows.ofType u (style.map Source.Store.docs) d "" 0 limit).run s).1.toList
    keys.Sublist (rows.map (·.path)) ∧
      (Throughout u (fun r => r.kind ≠ .sequence ∧ r.kind ≠ .mapping) d →
        keys = rows.map (·.path)) := by
  have hview : (fun f => ((Rows.fieldCell (style.map Source.Store.docs) f).run.run s).1) =
      Rows.viewCell style s.view := by
    funext f
    exact (Rows.fieldCell_tells style s.view f s rfl).1
  rw [hview] at hcell
  simp only [Rows.run_ofType, Example.make]
  refine ⟨keyPaths_sublist_below (Nat.le_refl _) hd hcell "", fun hflat => ?_⟩
  refine keyPaths_eq_below _ hd hcell (fun r hr => ?_) ""
  obtain ⟨hsequence, hmapping⟩ := hflat r hr
  cases hkind : r.kind with
  | sequence => exact absurd hkind hsequence
  | mapping => exact absurd hkind hmapping
  | _ => rfl

/-- A class with a field of its own type and a list of its own type. -/
def nodeClass : ClassInfo where
  key := "Node"
  name := "Node"
  module := "app"
  qualname := "Node"
  form := .plain
  params := []
  lineage := [.declared "Node", .standard .object]
  own := [("id", .cls (.standard .int)), ("next", .cls (.declared "Node")),
    ("children", .generic (.standard .list) [.cls (.declared "Node")])]
  settled := []

def nodeClasses : Universe where
  classes := [nodeClass]

def nodeField (name : String) (type : TypeExpr) : Field :=
  { name, type, owner := some (.cls "app" "Node" "Node"), static := false }

def nodeSample : Descriptor := .mk .record "Node" "app.Node" none none [
  nodeField "id" (.cls (.standard .int)), nodeField "next" (.cls (.declared "Node")),
  nodeField "children" (.generic (.standard .list) [.cls (.declared "Node")])]

/-- The source of the class. One field is described. -/
def nodeStore : Source.Store :=
  .ofTree ⟨[("app.py", "class Node:\n    ## Own id.\n    id: int\n".toUTF8)], [], []⟩

theorem nodeSample_closed {P : Descriptor → Prop} (hnode : P nodeSample)
    (hlist : P (.mk .sequence "list[Node]" "builtins.list" none (some nodeSample) []))
    (hint : P (.leaf .numeric "int" "builtins.int")) : Throughout nodeClasses P nodeSample := by
  refine throughout_of_closed (P := fun r => r = nodeSample ∨
    r = .mk .sequence "list[Node]" "builtins.list" none (some nodeSample) [] ∨
      r = .leaf .numeric "int" "builtins.int") (.inl rfl) ?_ ?_
  · rintro r e (rfl | rfl | rfl) (⟨hk, he⟩ | ⟨hf, ht⟩)
    · cases hk
    · simp only [nodeSample, Descriptor.shown, nodeField, List.mem_cons, List.mem_filter,
        List.not_mem_nil, or_false] at hf
      rcases hf with rfl | rfl | rfl
      · exact .inr (.inr (Option.some.inj ht).symm)
      · exact .inl (Option.some.inj ht).symm
      · exact .inr (.inl (Option.some.inj ht).symm)
    · exact .inl (Option.some.inj he).symm
    · cases hf
    · cases hk
    · cases hf
  · rintro r (rfl | rfl | rfl)
    · exact hnode
    · exact hlist
    · exact hint

theorem keyPaths_sublist_rows_node :
    Throughout nodeClasses (Regular nodeClasses) nodeSample ∧
      Throughout nodeClasses (Described fun f =>
        ((Rows.fieldCell ((some Comment.Style.hash).map Source.Store.docs) f).run.run
          nodeStore).1) nodeSample ∧
      ["id", "next", "next.id", "next.next", "next.children", "children"].Sublist
        (((Rows.ofType nodeClasses ((some Comment.Style.hash).map Source.Store.docs)
          nodeSample "" 0 1).run nodeStore).1.toList.map (·.path)) := by
  have htyped : ∀ f ∈ nodeSample.shown,
      (nodeClasses.describeField? f).isSome = true := by decide +kernel
  have hregular : Throughout nodeClasses (Regular nodeClasses) nodeSample :=
    nodeSample_closed ⟨by decide, htyped⟩ ⟨by decide, nofun⟩ ⟨by decide, nofun⟩
  have hcells : ∀ f ∈ nodeSample.shown,
      ((Rows.fieldCell ((some Comment.Style.hash).map Source.Store.docs) f).run.run
        nodeStore).1.isOk = true := by decide +kernel
  have hdescribed : Throughout nodeClasses (Described fun f =>
      ((Rows.fieldCell ((some Comment.Style.hash).map Source.Store.docs) f).run.run
        nodeStore).1) nodeSample :=
    nodeSample_closed hcells nofun nofun
  have hkeys : Value.keyPaths "" (Example.make nodeClasses nodeSample 0 1) =
      ["id", "next", "next.id", "next.next", "next.children", "children"] := by decide +kernel
  have hrows :=
    (keyPaths_sublist_rows _ (some .hash) nodeStore nodeSample 1 hregular hdescribed).1
  rw [hkeys] at hrows
  exact ⟨hregular, hdescribed, hrows⟩

end EndpointDocs
