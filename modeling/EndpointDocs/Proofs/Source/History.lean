import EndpointDocs.Proofs.Source.View
import Mathlib.Data.List.Induction

/-!
# The history of a store

A store is asked questions and told to forget, while the files of its source root change.

* `Question`: what a store can be asked; `Question.textIn` answers it from the lines of a module.
* `Store.remember`, `run_lines_eq`: what one question adds to the lines that were read.
* `Step`, `Event`, `run`: any number of steps, with the files as they were at each.
* `firstLoad?`: the lines of a path at the first question that could read it since it was forgotten.
* `remembers_run`: the store remembers exactly these lines.
* **`ask_after_run`**: what a question answers after any steps, and what it leaves.
-/

namespace EndpointDocs.Source

open Comment (Line Style)

/-! ## Questions -/

/-- A question to a store. -/
inductive Question where
  | cls (owner : Option Owner)
  | method (owner : Option Owner) (name : String)
  | field (owner : Option Owner) (name : String)
  | param (owner : Option Owner) (function name : String)

namespace Question

/-- Whose module a question is about. -/
def owner : Question → Option Owner
  | .cls o | .method o _ | .field o _ | .param o _ _ => o

/-- What the lines of a module answer. -/
def textIn (style : Style) : Question → List Line → Option String
  | .cls o => classText style o
  | .method o name => methodText style o name
  | .field o name => fieldText style o name
  | .param o function name => paramText style o function name

/-- The question, put to a store. -/
def ask (style : Style) : Question → Lookup Store (Option String)
  | .cls o => (Store.docs style).classText o
  | .method o name => (Store.docs style).methodText o name
  | .field o name => (Store.docs style).fieldText o name
  | .param o function name => (Store.docs style).paramText o function name

theorem ask_eq (style : Style) (q : Question) :
    q.ask style = do return q.textIn style (← Store.lines q.owner) := by
  cases q <;> rfl

end Question

/-! ## One question -/

namespace Store

/-- The store once a path was asked for: its lines are kept if they could be read. -/
def remember (s : Store) (path : String) : Store :=
  match Entries.find? path s.read, s.tree.load path with
  | none, .ok ls => { s with read := Entries.put path ls s.read }
  | _, _ => s

theorem tree_remember (s : Store) (path : String) : (s.remember path).tree = s.tree := by
  unfold remember
  split <;> rfl

theorem find?_remember (s : Store) (path other : String) :
    Entries.find? other (s.remember path).read =
      (Entries.find? other s.read).or
        (if path = other then (s.tree.load path).toOption else none) := by
  unfold remember
  by_cases h : path = other
  · subst h
    rw [if_pos rfl]
    cases hread : Entries.find? path s.read with
    | some ls => simp [hread]
    | none =>
      cases hload : s.tree.load path with
      | ok ls => simp [Entries.find?_put, Except.toOption]
      | error e => simp [hread, Except.toOption]
  · rw [if_neg h, Option.or_none]
    split
    · rw [Entries.find?_put, if_neg h]
    · rfl

theorem remember_of_error {s : Store} {path : String} {e : Fault} (h : s.linesOf path = .error e) :
    s.remember path = s := by
  unfold linesOf at h
  unfold remember
  cases hread : Entries.find? path s.read with
  | some ls => rfl
  | none =>
    rw [hread] at h
    simp only at h
    rw [h]

theorem run_linesAt_eq (path : String) (s : Store) :
    (linesAt path).run.run s = (s.linesOf path, s.remember path) := by
  rw [linesAt, run_get_bind, linesOf, remember]
  cases Entries.find? path s.read with
  | some ls => rfl
  | none => cases s.tree.load path <;> rfl

/-- **One question** reads what the store knows of a path, and makes the store remember it. -/
theorem run_lines_eq (owner : Option Owner) (s : Store) :
    (lines owner).run.run s =
      match s.tree.pathOf? owner with
      | none => (.ok [], s)
      | some path => (s.linesOf path, s.remember path) := by
  rw [lines, run_get_bind]
  cases s.tree.pathOf? owner with
  | none => rfl
  | some path => exact run_linesAt_eq path s

theorem run_ask (style : Style) (q : Question) (s : Store) :
    (q.ask style).run.run s =
      match s.tree.pathOf? q.owner with
      | none => (.ok (q.textIn style []), s)
      | some path => ((s.linesOf path).map (q.textIn style), s.remember path) := by
  rw [Question.ask_eq, ExceptT.run_bind, StateT.run_bind, run_lines_eq]
  cases s.tree.pathOf? q.owner with
  | none => rfl
  | some path =>
    dsimp only
    cases s.linesOf path <;> rfl

end Store

/-! ## Runs -/

/-- What can happen to a store. -/
inductive Step where
  | ask (q : Question)
  | write (files : List (String × ByteArray))
  | clear

/-- A step that was taken, and the files as they were then. -/
structure Event where
  step : Step
  tree : Tree

/-- The store after a step. -/
def Store.take (style : Style) (s : Store) : Step → Store
  | .ask q => ((q.ask style).run.run s).2
  | .write files => s.write files
  | .clear => s.clear

/-- One more step, put at the end of a history. -/
def advance (style : Style) (r : Store × List Event) (t : Step) : Store × List Event :=
  (r.1.take style t, r.2 ++ [⟨t, r.1.tree⟩])

/-- Steps of a new store one after the other, with their history. -/
def run (style : Style) (t : Tree) (ts : List Step) : Store × List Event :=
  ts.foldl (advance style) (.ofTree t, [])

/-! ## What the history tells -/

/-- The path that a step asks for. -/
def Event.path? (e : Event) : Option String :=
  match e.step with
  | .ask q => e.tree.pathOf? q.owner
  | _ => none

/-- Whether a step makes the store forget. -/
def Event.isClear (e : Event) : Bool :=
  match e.step with
  | .clear => true
  | _ => false

/-- The lines of a path that a step asks for, if they could be read then. -/
def Event.load? (path : String) (e : Event) : Option (List Line) :=
  if e.path? = some path then (e.tree.load path).toOption else none

/-- What happened since the store was last told to forget. -/
def sinceClear (h : List Event) : List Event :=
  (h.reverse.takeWhile fun e => !e.isClear).reverse

/-- The lines of a path at the first question since then that could read them. -/
def firstLoad? (path : String) (h : List Event) : Option (List Line) :=
  (sinceClear h).findSome? (Event.load? path)

theorem firstLoad?_snoc_clear (path : String) (h : List Event) {e : Event}
    (he : e.isClear = true) : firstLoad? path (h ++ [e]) = none := by
  simp [firstLoad?, sinceClear, he]

theorem firstLoad?_snoc (path : String) (h : List Event) {e : Event} (he : e.isClear = false) :
    firstLoad? path (h ++ [e]) = (firstLoad? path h).or (e.load? path) := by
  have hsince : sinceClear (h ++ [e]) = sinceClear h ++ [e] := by simp [sinceClear, he]
  rw [firstLoad?, hsince, List.findSome?_append, List.findSome?_singleton, firstLoad?]

/-- A store remembers the first lines that it could read of each path. -/
def Remembers (s : Store) (h : List Event) : Prop :=
  ∀ path, Entries.find? path s.read = firstLoad? path h

/-- **Every step keeps it.** -/
theorem Remembers.advance (style : Style) {s : Store} {h : List Event} (hs : Remembers s h)
    (t : Step) : Remembers (advance style (s, h) t).1 (advance style (s, h) t).2 := by
  intro path
  change Entries.find? path (s.take style t).read = firstLoad? path (h ++ [⟨t, s.tree⟩])
  cases t with
  | clear => rw [firstLoad?_snoc_clear _ _ rfl]; rfl
  | write files =>
    rw [firstLoad?_snoc _ _ rfl]
    exact (hs path).trans Option.or_none.symm
  | ask q =>
    have hload : Event.load? path ⟨.ask q, s.tree⟩ =
        if s.tree.pathOf? q.owner = some path then (s.tree.load path).toOption else none := rfl
    rw [firstLoad?_snoc _ _ rfl, ← hs path, hload, Store.take, Store.run_ask]
    cases hpath : s.tree.pathOf? q.owner with
    | none => simp
    | some asked =>
      simp only [Store.find?_remember, Option.some.injEq]
      by_cases h : asked = path
      · rw [if_pos h, if_pos h, h]
      · rw [if_neg h, if_neg h]

/-- **After any run**, a store remembers what the first question could read. -/
theorem remembers_run (style : Style) (t : Tree) (ts : List Step) :
    Remembers (run style t ts).1 (run style t ts).2 := by
  induction ts using List.reverseRecOn with
  | nil => exact fun _ => rfl
  | append_singleton ts step ih =>
    rw [run, List.foldl_append]
    exact ih.advance style step

/-- The lines of a path that a question works on: the first ones that could be read since the store
was told to forget, else those of the present files. -/
def seen (h : List Event) (present : Tree) (path : String) : Except Fault (List Line) :=
  ((firstLoad? path h).map Except.ok).getD (present.load path)

theorem Remembers.linesOf_eq {s : Store} {h : List Event} (hs : Remembers s h) (path : String) :
    s.linesOf path = seen h s.tree path := by
  rw [Store.linesOf, hs path, seen]
  cases firstLoad? path h <;> rfl

/--
**What a question answers after any steps**: it works on the lines of its module as they were at the
first question about that path that could read them since the store was last told to forget, also if
there was no such file and so no line; without such a question on those of the present files. What
other paths show does not change, and a question that fails leaves the store as it was.
-/
theorem ask_after_run (style : Style) (t : Tree) (ts : List Step) (q : Question) :
    let s := (run style t ts).1
    let h := (run style t ts).2
    let (answer, s') := (q.ask style).run.run s
    match s.tree.pathOf? q.owner with
    | none => answer = .ok (q.textIn style []) ∧ s' = s
    | some path =>
      answer = (seen h s.tree path).map (q.textIn style) ∧ s'.tree = s.tree ∧
        (∀ other, other ≠ path → Entries.find? other s'.read = Entries.find? other s.read ∧
          s'.linesOf other = s.linesOf other) ∧
        (answer.isOk = false → s' = s) := by
  have hs := remembers_run style t ts
  generalize (run style t ts).1 = s at hs
  generalize (run style t ts).2 = h at hs
  simp only [Store.run_ask]
  cases s.tree.pathOf? q.owner with
  | none => exact ⟨rfl, rfl⟩
  | some path =>
    have hother : ∀ other, other ≠ path →
        Entries.find? other (s.remember path).read = Entries.find? other s.read := by
      intro other hne
      rw [Store.find?_remember, if_neg hne.symm, Option.or_none]
    refine ⟨by rw [hs.linesOf_eq], s.tree_remember path, fun other hne => ⟨hother other hne, ?_⟩,
      fun hfail => ?_⟩
    · rw [Store.linesOf, hother other hne, s.tree_remember path]
      rfl
    · cases hlines : s.linesOf path with
      | ok ls =>
        rw [hlines] at hfail
        cases hfail
      | error e => exact Store.remember_of_error hlines

end EndpointDocs.Source
