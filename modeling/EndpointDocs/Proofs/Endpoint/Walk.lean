import EndpointDocs.Proofs.Endpoint.Related
import Mathlib.Logic.Relation

/-!
# Walking a type

An example of a type and its rows are two walks of one graph: the parts of the type, of their parts,
and so on, down to a limit. The graph may have circles.

* `Descriptor.shown`, `Part`, `Reaches`, `Throughout`: the parts of a type, and what holds of all.
* `Rows.walk`, `below`: the rows of a type when the description of each field is given.
* `Appends.foldlM`, **`gather_appends`**: gathering rows puts exactly these behind the others.
* `fieldCell_tells`, `run_ofType`: the rows that a store gives.
-/

namespace EndpointDocs

variable (u : Universe)

/-! ## Parts -/

/-- The fields of a record that its values have; none of another type. -/
def Descriptor.shown : Descriptor → List Field
  | .mk .record _ _ _ _ fs => fs.filter (!·.static)
  | _ => []

/-- Whether values of a type hold elements. -/
def Kind.isCollection : Kind → Bool
  | .sequence | .mapping => true
  | _ => false

/-- A part of a type: the element of a collection, or the type of a field. -/
inductive Part (d : Descriptor) : Descriptor → Prop
  | element {e : Descriptor} : d.kind.isCollection = true → d.element = some e → Part d e
  | field {f : Field} {t : Descriptor} : f ∈ d.shown → u.describeField? f = some t → Part d t

/-- A type has another one as a part, through any number of parts, or is it. -/
def Reaches : Descriptor → Descriptor → Prop := Relation.ReflTransGen (Part u)

/-- What holds of all types that a type reaches. -/
def Throughout (P : Descriptor → Prop) (d : Descriptor) : Prop := ∀ r, Reaches u d r → P r

section Throughout

variable {u} {P Q : Descriptor → Prop} {d e : Descriptor}

theorem Throughout.here (h : Throughout u P d) : P d := h d .refl

theorem Throughout.part (h : Throughout u P d) (hp : Part u d e) : Throughout u P e :=
  fun r hr => h r (.head hp hr)

theorem throughout_of_closed (hd : P d) (hstep : ∀ r e, P r → Part u r e → P e)
    (hPQ : ∀ r, P r → Q r) : Throughout u Q d := by
  intro r hr
  refine hPQ r ?_
  induction hr with
  | refl => exact hd
  | tail _ hp ih => exact hstep _ _ ih hp

end Throughout

/-! ## Rows -/

namespace Rows

/-- The rows of a type below a path when the type and the description of each field are given. -/
def walk (typeOf : Field → Option Descriptor) (cell : Field → Except Source.Fault String) :
    Nat → String → Descriptor → List Row
  | 0, _, _ => []
  | n + 1, path, d => d.recordFields.flatMap fun f =>
    if f.static then []
    else match typeOf f, cell f with
      | some t, .ok text =>
        ⟨extend path f.name, t.name, text⟩ :: walk typeOf cell n (extend path f.name) t
      | _, _ => []

/-- The rows when the types of fields are described. -/
def below (cell : Field → Except Source.Fault String) : Nat → String → Descriptor → List Row :=
  walk u.describeField? cell

theorem below_succ (cell : Field → Except Source.Fault String) (n : Nat) (path : String)
    (d : Descriptor) :
    below u cell (n + 1) path d = d.recordFields.flatMap fun f =>
      if f.static then []
      else match u.describeField? f, cell f with
        | some t, .ok text =>
          ⟨extend path f.name, t.name, text⟩ :: below u cell n (extend path f.name) t
        | _, _ => [] := rfl

section Gather

variable {σ : Type} {I : σ → Prop}

/-- From a memory of a kind, a computation puts elements behind an array; the memory stays so. -/
def Appends {β : Type} (I : σ → Prop) (x : StateM σ (Array β)) (rows : Array β) (out : List β) :
    Prop :=
  ∀ s, I s → (x.run s).1 = rows ++ out.toArray ∧ I (x.run s).2

theorem Appends.nothing {β : Type} (rows : Array β) : Appends I (pure rows) rows [] :=
  fun _ hs => ⟨Array.append_empty.symm, hs⟩

theorem Appends.foldlM {α β : Type} {step : Array β → α → StateM σ (Array β)} {out : α → List β}
    (hstep : ∀ rows x, Appends I (step rows x) rows (out x)) (xs : List α) (rows : Array β) :
    Appends I (xs.foldlM step rows) rows (xs.flatMap out) := by
  induction xs generalizing rows with
  | nil => exact .nothing rows
  | cons x xs ih =>
    intro s hs
    obtain ⟨hrows, hmemory⟩ := hstep rows x s hs
    obtain ⟨hrest, hmemory'⟩ := ih ((step rows x).run s).1 _ hmemory
    rw [List.foldlM_cons]
    refine ⟨hrest.trans ?_, hmemory'⟩
    rw [hrows, List.flatMap_cons, Array.append_assoc, ← List.append_toArray]

/-- Answers that are given, from memories of a kind. -/
def Tells {α : Type} (I : σ → Prop) (x : Lookup σ α) (answer : Except Source.Fault α) : Prop :=
  ∀ s, I s → (x.run.run s).1 = answer ∧ I (x.run.run s).2

theorem Tells.bind {α β : Type} {x : Lookup σ α} {answer : Except Source.Fault α}
    {f : Except Source.Fault α → StateM σ (Array β)} {rows : Array β} {out : List β}
    (hx : Tells I x answer) (hf : Appends I (f answer) rows out) :
    Appends I (x.run >>= f) rows out := by
  intro s hs
  obtain ⟨hanswer, hmemory⟩ := hx s hs
  subst hanswer
  exact hf _ hmemory

variable {typeOf : Field → Option Descriptor} {cellOf : Field → Lookup σ String}
  {cell : Field → Except Source.Fault String}

/-- **Gathered rows** are those of the walk, behind the others. -/
theorem gather_appends (hcell : ∀ f, Tells I (cellOf f) (cell f)) (n : Nat) (path : String)
    (d : Descriptor) (rows : Array Row) :
    Appends I (gather typeOf cellOf n path d rows) rows (walk typeOf cell n path d) := by
  induction n generalizing path d rows with
  | zero => exact .nothing rows
  | succ n ih =>
    unfold gather walk
    refine .foldlM (fun rows f => ?_) _ _
    split_ifs
    · exact .nothing rows
    · cases typeOf f with
      | none => exact .nothing rows
      | some t =>
        refine (hcell f).bind ?_
        cases cell f with
        | error e => exact .nothing rows
        | ok text =>
          have hrest := ih (extend path f.name) t (rows.push ⟨extend path f.name, t.name, text⟩)
          simpa [Appends] using hrest

/-- The rows that are gathered from nothing. -/
theorem run_gather (hcell : ∀ f, Tells I (cellOf f) (cell f)) (n : Nat) (path : String)
    (d : Descriptor) {s : σ} (hs : I s) :
    ((gather typeOf cellOf n path d #[]).run s).1.toList = walk typeOf cell n path d := by
  rw [(gather_appends hcell n path d #[] s hs).1, Array.toList_append, List.nil_append]

end Gather

/-! ## The rows that a store gives -/

/-- The description of a field from the sources of a view; none without a style to read them in. -/
def viewCell (style : Option Comment.Style) (v : Source.View) (f : Field) :
    Except Source.Fault String :=
  ((fieldCell (style.map (Docs.ofView · v)) f).run.run ()).1

theorem fieldCell_tells (style : Option Comment.Style) (v : Source.View) (f : Field) :
    Tells (fun s : Source.Store => s.view = v) (fieldCell (style.map Source.Store.docs) f)
      (viewCell style v f) := by
  intro s hs
  cases style with
  | none => exact ⟨rfl, hs⟩
  | some style =>
    have hagree : ∀ owner, Agree (fun ls ls' => True → ls = ls') (v owner) (v owner) := by
      intro owner
      cases v owner with
      | ok ls => exact .ok fun _ => rfl
      | error e => exact .error e
    have hdocs : DocsRelated (Shows v) True (Source.Store.docs style) (Docs.ofView style v) :=
      docs_related hagree
    obtain ⟨hanswer, hview⟩ := fieldCell_related hdocs f s () hs
    exact ⟨hanswer.eq fun _ _ hab => hab trivial, hview⟩

/-- **The rows that a store gives** are those of its view. -/
theorem run_ofType (style : Option Comment.Style) (s : Source.Store) (d : Descriptor)
    (path : String) (depth limit : Int) :
    ((ofType u (style.map Source.Store.docs) d path depth limit).run s).1.toList =
      below u (viewCell style s.view) (Example.room depth limit) path d :=
  run_gather (fieldCell_tells style s.view) (Example.room depth limit) path d rfl

end Rows

end EndpointDocs
