import EndpointDocs.Proofs.Endpoint.Paths

/-!
# Fields that fail

The type of a field cannot always be had, and its description cannot always be looked up. Rows leave
such a field out; an example has a placeholder for it. Neither touches any other field, however deep
the field stands.

* `typesBut`: the types of all fields but those that fail.
* `Descriptor.without`: a type without some fields of its record.
* `Rows.fails`, **`walk_typesBut`**: fields that fail leave no trace among rows, at any level.
* `Descriptor.fieldsByName`, `Example.patch`: an example with placeholders put in for some fields.
* **`fill_typesBut`**: an example with fields that fail is the one without, patched.
* **`failing_fields_isolated`**: both at once, for any place of a type and for any sources.
-/

namespace EndpointDocs

/-- The types of all fields but those that fail. -/
def typesBut (bad : Field → Bool) (typeOf : Field → Descriptor) (f : Field) : Option Descriptor :=
  if bad f then none else some (typeOf f)

/-! ## Types without some fields -/

namespace Descriptor

/-- A type without the fields that pass a test, in the record that it is or that it holds. -/
def without (test : Field → Bool) : Descriptor → Descriptor
  | .mk .sequence name fullName key (some e) fields =>
    .mk .sequence name fullName key (some (without test e)) fields
  | .mk .mapping name fullName key (some e) fields =>
    .mk .mapping name fullName key (some (without test e)) fields
  | .mk .record name fullName key element fields =>
    .mk .record name fullName key element (fields.filter (!test ·))
  | d => d

variable (test : Field → Bool) (d : Descriptor)

@[simp] theorem name_without : (d.without test).name = d.name := by
  fun_cases without test d <;> rfl

@[simp] theorem recordFields_without :
    (d.without test).recordFields = d.recordFields.filter (!test ·) := by
  fun_induction without test d with
  | case1 name fullName key e fields ih => exact ih
  | case2 name fullName key e fields ih => exact ih
  | case3 => rfl
  | case4 d hsequence hmapping hrecord =>
    rw [recordFields]
    · rfl
    all_goals assumption

theorem without_without : (d.without test).without test = d.without test := by
  fun_induction without test d with
  | case1 name fullName key e fields ih => rw [without, ih]
  | case2 name fullName key e fields ih => rw [without, ih]
  | case3 => simp [without]
  | case4 d hsequence hmapping hrecord =>
    rw [without]
    all_goals assumption

end Descriptor

/-! ## Rows -/

namespace Rows

variable {bad : Field → Bool} {typeOf : Field → Descriptor}
  {cell : Field → Except Source.Fault String}

/-- Whether a field has no type or no description. -/
def fails (bad : Field → Bool) (cell : Field → Except Source.Fault String) (f : Field) : Bool :=
  bad f || !(cell f).isOk

/--
**Fields that fail leave no trace** among rows: these are the rows of the type without such fields,
where the type of every field is had and is without such fields again.
-/
theorem walk_typesBut (n : Nat) (path : String) (d : Descriptor) :
    walk (typesBut bad typeOf) cell n path d =
      walk (fun f => some ((typeOf f).without (fails bad cell))) cell n path
        (d.without (fails bad cell)) := by
  induction n generalizing path d with
  | zero => rfl
  | succ n ih =>
    rw [walk, walk, Descriptor.recordFields_without, flatMap_filter]
    refine List.flatMap_congr fun f _ => ?_
    by_cases hbad : bad f = true
    · simp [typesBut, fails, hbad]
    · cases hcell : cell f with
      | error e => simp [fails, hcell]
      | ok text => simp [typesBut, fails, hbad, hcell, ih]

theorem walk_without (n : Nat) (path : String) (d : Descriptor) :
    walk (typesBut bad typeOf) cell n path (d.without (fails bad cell)) =
      walk (typesBut bad typeOf) cell n path d := by
  rw [walk_typesBut, Descriptor.without_without, ← walk_typesBut]

end Rows

/-! ## Examples -/

/-- The shown fields of a record by name, the last one of each name. -/
def Descriptor.fieldsByName (d : Descriptor) : List (String × Field) :=
  Entries.ofPairs (d.shown.map fun f => (f.name, f))

namespace Descriptor

variable {d : Descriptor}

/-- Entries with values for the fields of a record are its fields by name, with these values. -/
theorem ofPairs_shown {β : Type} (value : Field → β) (d : Descriptor) :
    Entries.ofPairs (d.shown.map fun f => (f.name, value f)) =
      d.fieldsByName.map (Prod.map id value) := by
  rw [fieldsByName, Entries.map_ofPairs, List.map_map]
  rfl

theorem find?_fieldsByName {e : String × Field} (he : e ∈ d.fieldsByName) :
    Entries.find? e.1 d.fieldsByName = some e.2 :=
  Entries.find?_eq_some_of_mem (Entries.nodup_keys_ofPairs _) he

theorem fieldsByName_of_nodup (hnames : (d.shown.map (·.name)).Nodup) :
    d.fieldsByName = d.shown.map fun f => (f.name, f) :=
  Entries.ofPairs_of_nodup (by simpa [Function.comp_def] using hnames)

theorem fieldsByName_of_ne (hkind : d.kind ≠ .record) : d.fieldsByName = [] := by
  obtain ⟨kind, name, fullName, key, element, fields⟩ := d
  cases kind with
  | record => exact absurd rfl hkind
  | _ => rfl

end Descriptor

namespace Example

section Patch

variable (bad : Field → Bool) (typeOf : Field → Descriptor) (textOf : Field → String)

mutual

/--
A value of a type with placeholders put in for some fields: under the names of these, in the record
that the type is and in all records inside the value.
-/
def patch (d : Descriptor) : Value → Value
  | .list vs => .list (patchItems d.element vs)
  | .object es => .object (patchEntries d.fieldsByName es)
  | v => v

def patchItems (element : Option Descriptor) : List Value → List Value
  | [] => []
  | v :: vs => element.elim v (fun e => patch e v) :: patchItems element vs

def patchEntries (fields : List (String × Field)) : List (String × Value) → List (String × Value)
  | [] => []
  | (k, v) :: es =>
    (k, (Entries.find? k fields).elim v fun f =>
      if bad f then placeholder (textOf f) else patch (typeOf f) v) :: patchEntries fields es

end

/-- The entry of a field, patched. -/
def patchField (f : Field) (v : Value) : Value :=
  if bad f then placeholder (textOf f) else patch bad typeOf textOf (typeOf f) v

theorem patchEntries_eq_map (fields : List (String × Field)) (es : List (String × Value)) :
    patchEntries bad typeOf textOf fields es = es.map fun e =>
      (e.1, (Entries.find? e.1 fields).elim e.2 fun f => patchField bad typeOf textOf f e.2) := by
  induction es with
  | nil => rw [patchEntries, List.map_nil]
  | cons e es ih => rw [patchEntries, ih, List.map_cons]; rfl

/-- **The entries of a record**, patched: those of its fields, each patched. -/
theorem patchEntries_fieldsByName (d : Descriptor) (value : Field → Value) :
    patchEntries bad typeOf textOf d.fieldsByName (d.fieldsByName.map (Prod.map id value)) =
      d.fieldsByName.map (Prod.map id fun f => patchField bad typeOf textOf f (value f)) := by
  rw [patchEntries_eq_map, List.map_map]
  refine List.map_congr_left fun e he => ?_
  show (e.1, (Entries.find? e.1 d.fieldsByName).elim _ _) = _
  rw [Descriptor.find?_fieldsByName he]
  rfl

theorem fieldValue_eq_patchField {n : Nat}
    (h : ∀ d, fill (typesBut bad typeOf) textOf n d =
      patch bad typeOf textOf d (fill (fun f => some (typeOf f)) textOf n d)) (f : Field) :
    fieldValue (typesBut bad typeOf) textOf n f =
      patchField bad typeOf textOf f (fieldValue (fun f => some (typeOf f)) textOf n f) := by
  by_cases hbad : bad f = true
  · simp [fieldValue, typesBut, patchField, hbad]
  · simp [fieldValue, typesBut, patchField, hbad, h]

/-- **An example with fields that fail** is the example without, patched. -/
theorem fill_typesBut (n : Nat) (d : Descriptor) :
    fill (typesBut bad typeOf) textOf n d =
      patch bad typeOf textOf d (fill (fun f => some (typeOf f)) textOf n d) := by
  induction n generalizing d with
  | zero => simp only [fill, tooDeep, patch]
  | succ n ih =>
    cases hkind : d.kind with
    | numeric | boolean => simp only [fill, hkind, patch]
    | string | scalar => simp only [fill, hkind, request, patch]
    | unknown => simp only [fill, hkind, placeholder, patch]
    | mapping =>
      have hfields : d.fieldsByName = [] := d.fieldsByName_of_ne (by simp [hkind])
      simp only [fill, hkind, mapping, patch, hfields, patchEntries]
      rfl
    | sequence =>
      cases he : d.element with
      | none => simp only [fill, hkind, he, Option.elim_none, patch, patchItems]
      | some e => simp only [fill, hkind, he, Option.elim_some, patch, patchItems, ih]
    | record =>
      have hfield := funext (fieldValue_eq_patchField bad typeOf textOf ih)
      rw [fill_record hkind, fill_record hkind, Descriptor.ofPairs_shown, Descriptor.ofPairs_shown,
        patch, patchEntries_fieldsByName, hfield]

end Patch

end Example

theorem find?_fields {fs : List Field} (hnames : (fs.map (·.name)).Nodup) {f : Field} (hf : f ∈ fs)
    (value : Field → Value) :
    Entries.find? f.name (fs.map fun f => (f.name, value f)) = some (value f) := by
  refine Entries.find?_eq_some_of_mem ?_ (List.mem_map_of_mem hf)
  simpa [Function.comp_def] using hnames

/--
**Fields that fail are isolated.** Take any types for the fields of records, and let any of the
fields have none; let the answers of sources, if there are any, not depend on what was asked before.
Below any path the rows of a type are those of the type without the fields that fail, at every
level: no other row is touched. They are the same if only the type itself is without these fields.
The example of the type is the one with all types had, in which each field that has none got a
placeholder for its annotation, at every level. If the type is a record whose shown fields have
different names, both examples have these names as keys, in order of declaration. Under the name of
a field without a type is the placeholder, under any other what would be there, patched below.
-/
theorem failing_fields_isolated {σ : Type} {docs : Option (Docs σ)} {I : σ → Prop}
    {cell : Field → Except Source.Fault String}
    (hcell : ∀ f, Rows.Tells I (Rows.fieldCell docs f) (cell f)) {s : σ} (hs : I s)
    (typeOf : Field → Descriptor) (textOf : Field → String) (bad : Field → Bool) (d : Descriptor)
    (path : String) (depth limit : Int) :
    let room := Example.room depth limit
    let rows (typeOf : Field → Option Descriptor) (d : Descriptor) :=
      ((Rows.gather typeOf (Rows.fieldCell docs) room path d #[]).run s).1.toList
    let value (typeOf : Field → Option Descriptor) := Example.fill typeOf textOf room d
    let fails := Rows.fails bad cell
    let patch := Example.patch bad typeOf textOf
    (rows (typesBut bad typeOf) d =
        rows (fun f => some ((typeOf f).without fails)) (d.without fails) ∧
      rows (typesBut bad typeOf) d = rows (typesBut bad typeOf) (d.without fails)) ∧
    value (typesBut bad typeOf) = patch d (value fun f => some (typeOf f)) ∧
    (d.kind = .record → (d.shown.map (·.name)).Nodup → depth ≤ limit →
      ∃ entries whole, value (typesBut bad typeOf) = .object entries ∧
        (value fun f => some (typeOf f)) = .object whole ∧
        entries.map (·.1) = d.shown.map (·.name) ∧ whole.map (·.1) = d.shown.map (·.name) ∧
        ∀ f ∈ d.shown, Entries.find? f.name entries =
          if bad f then some (Example.placeholder (textOf f))
          else (Entries.find? f.name whole).map (patch (typeOf f))) := by
  intro room rows value fails patch
  have hrows (typeOf : Field → Option Descriptor) (d : Descriptor) :
      rows typeOf d = Rows.walk typeOf cell room path d := Rows.run_gather hcell room path d hs
  refine ⟨⟨?_, ?_⟩, ?_, fun hkind hnames hdepth => ?_⟩
  · rw [hrows, hrows, Rows.walk_typesBut]
  · rw [hrows, hrows, Rows.walk_without]
  · exact Example.fill_typesBut bad typeOf textOf room d
  · obtain ⟨n, hroom⟩ : ∃ n, room = n + 1 := ⟨room - 1, by unfold room Example.room; omega⟩
    have hvalue (typeOf : Field → Option Descriptor) : value typeOf =
        .object (d.shown.map fun f => (f.name, Example.fieldValue typeOf textOf n f)) := by
      show Example.fill typeOf textOf room d = _
      rw [hroom, fill_record hkind, Descriptor.ofPairs_shown,
        Descriptor.fieldsByName_of_nodup hnames, List.map_map]
      rfl
    refine ⟨_, _, hvalue _, hvalue _, by simp, by simp, fun f hf => ?_⟩
    rw [find?_fields hnames hf, find?_fields hnames hf, Example.fieldValue_eq_patchField bad typeOf
      textOf (Example.fill_typesBut bad typeOf textOf n)]
    unfold Example.patchField
    split_ifs <;> rfl

/-- Three sources. One of them cannot be read. -/
def pageStore : Source.Store :=
  .ofTree ⟨[("web.py", "class Page:\n    ## All nodes.\n    total: int\n".toUTF8),
    ("app.py", "class Node:\n    ## Own id.\n    id: int\n".toUTF8), ("lib.py", ⟨#[0xff]⟩)], [], []⟩

def pageField (name module cls : String) (type : TypeExpr) : Field :=
  { name, type, owner := some (.cls module cls cls), static := false }

def rootField : Field := pageField "root" "web" "Page" (.cls (.declared "Node"))

/-- A record with a field of no type, one whose type has another such field, and one of no source. -/
def pageSample : Descriptor := .mk .record "Page" "web.Page" none none [
  pageField "total" "web" "Page" (.cls (.standard .int)),
  pageField "odd" "web" "Page" (.cls (.standard .str)),
  rootField,
  pageField "lost" "lib" "Item" (.cls (.standard .int))]

theorem failing_fields_isolated_page :
    let docs := (some Comment.Style.hash).map Source.Store.docs
    let cell := Rows.viewCell (some .hash) pageStore.view
    let typeOf (f : Field) := nodeClasses.describe f.type
    let textOf (f : Field) := f.type.shown nodeClasses
    let bad (f : Field) := f.name == "odd" || f.name == "next"
    let rows :=
      ((Rows.gather (typesBut bad typeOf) (Rows.fieldCell docs) (Example.room 1 3) "page" pageSample
        #[]).run pageStore).1.toList
    (∀ f, Rows.Tells (fun s => s.view = pageStore.view) (Rows.fieldCell docs f) (cell f)) ∧
      pageSample.kind = .record ∧ (pageSample.shown.map (·.name)).Nodup ∧ (1 : Int) ≤ 3 ∧
      (pageSample.fields.filter (Rows.fails bad cell)).map (·.name) = ["odd", "lost"] ∧
      rows = [⟨"page.total", "int", "All nodes."⟩, ⟨"page.root", "Node", ""⟩,
        ⟨"page.root.id", "int", "Own id."⟩, ⟨"page.root.children", "list[Node]", ""⟩,
        ⟨"page.root.children.id", "int", "Own id."⟩,
        ⟨"page.root.children.children", "list[Node]", ""⟩] ∧
      ∃ entries, Example.fill (typesBut bad typeOf) textOf (Example.room 1 3) pageSample =
          .object entries ∧
        entries.map (·.1) = ["total", "odd", "root", "lost"] ∧
        Entries.find? "odd" entries = some (Example.placeholder "<class 'str'>") ∧
        Entries.find? "root" entries = some (.object [("id", .int 0),
          ("next", Example.placeholder "<class 'app.Node'>"),
          ("children", .list [Example.tooDeep])]) := by
  intro docs cell typeOf textOf bad rows
  have hcell : ∀ f, Rows.Tells (fun s => s.view = pageStore.view) (Rows.fieldCell docs f)
      (cell f) := Rows.fieldCell_tells (some .hash) pageStore.view
  have hnames : (pageSample.shown.map (·.name)).Nodup := by decide
  obtain ⟨⟨hrows, -⟩, -, hrecord⟩ :=
    failing_fields_isolated hcell (s := pageStore) rfl typeOf textOf bad pageSample "page" 1 3
  obtain ⟨entries, whole, hentries, hwhole, hkeys, -, hfields⟩ :=
    hrecord rfl hnames (by decide)
  have hrest : ((Rows.gather (fun f => some ((typeOf f).without (Rows.fails bad cell)))
      (Rows.fieldCell docs) (Example.room 1 3) "page" (pageSample.without (Rows.fails bad cell))
        #[]).run pageStore).1.toList = [⟨"page.total", "int", "All nodes."⟩,
      ⟨"page.root", "Node", ""⟩, ⟨"page.root.id", "int", "Own id."⟩,
      ⟨"page.root.children", "list[Node]", ""⟩, ⟨"page.root.children.id", "int", "Own id."⟩,
      ⟨"page.root.children.children", "list[Node]", ""⟩] := by decide +kernel
  have hodd : textOf (pageField "odd" "web" "Page" (.cls (.standard .str))) = "<class 'str'>" := by
    decide +kernel
  have hnext : textOf (nodeField "next" (.cls (.declared "Node"))) = "<class 'app.Node'>" := by
    decide +kernel
  refine ⟨hcell, rfl, hnames, by decide, by decide +kernel, hrows.trans hrest, entries, hentries,
    hkeys, ?_, ?_⟩
  · rw [← hodd]
    exact hfields (pageField "odd" "web" "Page" (.cls (.standard .str))) (.tail _ (.head _))
  · have hroot := hfields rootField (.tail _ (.tail _ (.head _)))
    rw [← hnext]
    refine hroot.trans ?_
    rw [← Value.object.inj hwhole]
    rfl

end EndpointDocs
