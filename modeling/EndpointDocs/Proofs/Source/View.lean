import EndpointDocs.Proofs.Source.Related

/-!
# What a store lets its readers see

* `Tree.Broken`: a source file that is there but cannot be read.
* `Store.view`: the lines of every owner's module, whether they were read before or not.
* **`run_lines`**: a question answers from the view and leaves it as it was.
* `Store.Usable`, `view_isOk_iff`: the owners whose module can be looked into.
* `View.silent`: the view with nothing on any line.
* `Docs.ofView`, **`docs_related`**: a store answers as the view does.
-/

namespace EndpointDocs

namespace Source

open Comment (Line Style)

/-! ## Files that cannot be read -/

namespace Tree

/-- A file that is not valid UTF-8, unless it lies in a package of the library. -/
def Broken (t : Tree) (path : String) : Prop :=
  (∃ bytes, file? t.root path = some bytes ∧ String.fromUTF8? bytes = none) ∨
    (file? t.root path = none ∧ path.contains '/' = false ∧
      ∃ bytes, file? t.library path = some bytes ∧ String.fromUTF8? bytes = none)

theorem isOk_decode (bytes : ByteArray) :
    (decode bytes).isOk = (String.fromUTF8? bytes).isSome := by
  unfold decode
  split <;> simp_all

theorem isOk_load_iff (t : Tree) (path : String) : (t.load path).isOk = true ↔ ¬ t.Broken path := by
  unfold load Broken
  cases hroot : file? t.root path with
  | some bytes => simp [isOk_decode, Option.ne_none_iff_isSome]
  | none =>
    cases hlib : file? t.library path with
    | none => simp
    | some bytes =>
      have hdecode := isOk_decode bytes
      cases hd : decode bytes with
      | ok ls =>
        rw [hd, isOk_ok] at hdecode
        have hgood : String.fromUTF8? bytes ≠ none := Option.isSome_iff_ne_none.mp hdecode.symm
        simp [hd, hgood]
      | error e =>
        rw [hd, isOk_error] at hdecode
        have hbad : String.fromUTF8? bytes = none := by simpa using hdecode.symm
        cases hslash : path.contains '/' <;> simp [hd, hbad]

end Tree

/-! ## The view of a store -/

/-- The lines of the module of each owner, or why they cannot be had. -/
abbrev View := Option Owner → Except Fault (List Line)

/-- The view of modules that are there or not alike, but without a line. -/
def View.silent (v : View) : View := fun owner => (v owner).map fun _ => []

@[simp] theorem View.isOk_silent (v : View) (owner : Option Owner) :
    (v.silent owner).isOk = (v owner).isOk := by
  unfold View.silent
  cases v owner <;> rfl

theorem View.agree_silent (v : View) (owner : Option Owner) :
    Agree (fun ls ls' => False → ls = ls') (v owner) (v.silent owner) := by
  unfold View.silent
  cases v owner with
  | ok ls => exact .ok False.elim
  | error f => exact .error f

namespace Store

/-- The lines of a path as the store knows them, or as they would be read now. -/
def linesOf (s : Store) (path : String) : Except Fault (List Line) :=
  match Entries.find? path s.read with
  | some ls => .ok ls
  | none => s.tree.load path

/-- The lines that a store gives for each owner. -/
def view (s : Store) : View := fun owner =>
  match s.tree.pathOf? owner with
  | none => .ok []
  | some path => s.linesOf path

/-- The module of an owner was read before, or is not broken. -/
def Usable (s : Store) (owner : Option Owner) : Prop :=
  ∀ path, s.tree.pathOf? owner = some path → Entries.find? path s.read = none →
    ¬ s.tree.Broken path

theorem view_isOk_iff (s : Store) (owner : Option Owner) :
    (s.view owner).isOk = true ↔ s.Usable owner := by
  unfold view Usable
  cases s.tree.pathOf? owner with
  | none => simp
  | some path =>
    simp only [linesOf, Option.some.injEq, forall_eq']
    cases Entries.find? path s.read with
    | none => simp [Tree.isOk_load_iff]
    | some ls => simp

instance (s : Store) (owner : Option Owner) : Decidable (s.Usable owner) :=
  decidable_of_iff _ (s.view_isOk_iff owner)

theorem run_get_bind {σ α : Type} (f : σ → Lookup σ α) (s : σ) :
    (get >>= f : Lookup σ α).run.run s = (f s).run.run s := rfl

theorem view_put {s : Store} {path : String} {ls : List Line}
    (hread : Entries.find? path s.read = none) (hload : s.tree.load path = .ok ls) :
    view { s with read := Entries.put path ls s.read } = s.view := by
  have hlines : ∀ other, linesOf { s with read := Entries.put path ls s.read } other =
      s.linesOf other := by
    intro other
    unfold linesOf
    rw [Entries.find?_put]
    by_cases h : path = other
    · subst h
      simp [hread, hload]
    · simp [h]
  funext owner
  simp only [view, hlines]

theorem run_linesAt (path : String) (s : Store) :
    ((linesAt path).run.run s).1 = s.linesOf path ∧ ((linesAt path).run.run s).2.view = s.view := by
  rw [linesAt, run_get_bind, linesOf]
  cases hread : Entries.find? path s.read with
  | some ls => exact ⟨rfl, rfl⟩
  | none =>
    cases hload : s.tree.load path with
    | ok ls => exact ⟨rfl, view_put hread hload⟩
    | error e => exact ⟨rfl, rfl⟩

theorem run_lines (owner : Option Owner) (s : Store) :
    ((lines owner).run.run s).1 = s.view owner ∧ ((lines owner).run.run s).2.view = s.view := by
  rw [lines, run_get_bind, view]
  cases s.tree.pathOf? owner with
  | none => exact ⟨rfl, rfl⟩
  | some path => exact run_linesAt path s

end Store

end Source

/-! ## Answers from a view -/

/-- A question about an owner, answered from a view. -/
def Source.View.lines (v : Source.View) (owner : Option Owner) : Lookup Unit (List Comment.Line) :=
  ExceptT.mk (pure (v owner))

/-- The answers of sources that have the lines of a view. -/
def Docs.ofView (style : Comment.Style) (v : Source.View) : Docs Unit where
  classText owner := return Source.classText style owner (← v.lines owner)
  methodText owner name := return Source.methodText style owner name (← v.lines owner)
  fieldText owner name := return Source.fieldText style owner name (← v.lines owner)
  paramText owner method param := return Source.paramText style owner method param (← v.lines owner)

theorem Source.View.run_map {α : Type} (v : Source.View) (owner : Option Owner)
    (f : List Comment.Line → α) :
    ((do return f (← v.lines owner) : Lookup Unit α).run.run ()) = ((v owner).map f, ()) := by
  unfold Source.View.lines
  cases v owner <;> rfl

/-- Texts that are the same, where this matters. -/
abbrev SameText (exact : Prop) (a b : Option String) : Prop := exact → a = b

/-- Sources whose answers are there or not alike, and the same where this matters. -/
structure DocsRelated {σ τ : Type} (I : σ → τ → Prop) (exact : Prop) (docs : Docs σ)
    (docs' : Docs τ) : Prop where
  classText : ∀ owner, Related I (Agree (SameText exact)) (docs.classText owner).run
    (docs'.classText owner).run
  methodText : ∀ owner name, Related I (Agree (SameText exact)) (docs.methodText owner name).run
    (docs'.methodText owner name).run
  fieldText : ∀ owner name, Related I (Agree (SameText exact)) (docs.fieldText owner name).run
    (docs'.fieldText owner name).run
  paramText : ∀ owner method param, Related I (Agree (SameText exact))
    (docs.paramText owner method param).run (docs'.paramText owner method param).run

/-- A store that shows a view. -/
abbrev Shows (v : Source.View) (s : Source.Store) (_ : Unit) : Prop := s.view = v

section

variable {style : Comment.Style} {exact : Prop} {v w : Source.View}

theorem lines_related (hw : ∀ owner, Agree (fun ls ls' => exact → ls = ls') (v owner) (w owner))
    (owner : Option Owner) : Related (Shows v) (Agree fun ls ls' => exact → ls = ls')
      (Source.Store.lines owner).run (w.lines owner).run := by
  intro s t hs
  obtain ⟨hanswer, hview⟩ := Source.Store.run_lines owner s
  rw [hanswer, hs]
  exact ⟨hw owner, hview.trans hs⟩

theorem text_related (hw : ∀ owner, Agree (fun ls ls' => exact → ls = ls') (v owner) (w owner))
    (owner : Option Owner) (f : List Comment.Line → Option String) :
    Related (Shows v) (Agree (SameText exact))
      (do return f (← Source.Store.lines owner) : Lookup Source.Store (Option String)).run
      (do return f (← w.lines owner) : Lookup Unit (Option String)).run :=
  .lookup_bind (lines_related hw owner) fun _ _ h => .lookup_pure fun he => congrArg f (h he)

/-- **A store answers as its view does.** -/
theorem docs_related
    (hw : ∀ owner, Agree (fun ls ls' => exact → ls = ls') (v owner) (w owner)) :
    DocsRelated (Shows v) exact (Source.Store.docs style) (Docs.ofView style w) where
  classText owner := text_related hw owner _
  methodText owner _ := text_related hw owner _
  fieldText owner _ := text_related hw owner _
  paramText owner _ _ := text_related hw owner _

end

end EndpointDocs
