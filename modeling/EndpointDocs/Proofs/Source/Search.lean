import EndpointDocs.Proofs.Source.Declaration

/-!
# Where a search stops

* `firstLine?_append`: lines that fail a test are passed.
* `Mentions`, `Ends`, `Hits`: what the search for a class looks at, and that in its body.
* `classLine?_of_first`, `classLine?_eq_none`: a class is found at the first line that mentions it.
* `aboveInBody?_cons`, `aboveInBody?_append`, **`aboveInBody?_eq_some_iff`**: a member is found at
  the first line that passes the test, if no line ends the body before.
* `aboveInBody?_ended`: what comes behind the end of a body does not matter.
-/

namespace EndpointDocs.Source

open Comment Text

variable {style : Style} {name : String} {test : Line → Bool} {depth : Nat} {head t l : Line}
  {above below pre ls found : List Line}

/-! ## The first line that passes a test -/

theorem firstLine?_append (h : ∀ l ∈ ls, test l = false) (above rest : List Line) :
    firstLine? test above (ls ++ rest) = firstLine? test (ls.reverse ++ above) rest := by
  induction ls generalizing above with
  | nil => rfl
  | cons l ls ih =>
    obtain ⟨hl, hls⟩ := List.forall_mem_cons.mp h
    rw [List.cons_append, firstLine?, hl, if_neg Bool.false_ne_true, ih hls, List.reverse_cons,
      List.append_assoc, List.singleton_append]

theorem firstLine?_eq_none (h : ∀ l ∈ ls, test l = false) (above : List Line) :
    firstLine? test above ls = none := by
  rw [← List.append_nil ls, firstLine?_append h]
  rfl

/-! ## What is looked at -/

/-- A line mentions a class as its statement does; it need not be that statement. -/
def Mentions (s : Style) (name : String) (l : Line) : Prop :=
  isComment s l = false ∧ declaresClass name.toList l = true

/-- A line is the statement of a class. -/
def States (s : Style) (name : String) (l : Line) : Prop :=
  Mentions s name l ∧ "class".toList <+: trim l

/-- A line, neither blank nor a comment, ends the body of a class. -/
def Ends (s : Style) (depth : Nat) (l : Line) : Prop :=
  isEmptyLine l = false ∧ isComment s l = false ∧ endsBody depth l = true

/-- A line, neither blank nor a comment, passes a test. -/
def Hits (s : Style) (test : Line → Bool) (l : Line) : Prop :=
  isEmptyLine l = false ∧ isComment s l = false ∧ test l = true

instance : Decidable (Mentions style name l) := inferInstanceAs (Decidable (_ ∧ _))
instance : Decidable (States style name l) := inferInstanceAs (Decidable (_ ∧ _))
instance : Decidable (Ends style depth l) := inferInstanceAs (Decidable (_ ∧ _ ∧ _))
instance : Decidable (Hits style test l) := inferInstanceAs (Decidable (_ ∧ _ ∧ _))

/-! ## The search for a class -/

theorem not_mentions_iff : ¬ Mentions style name l ↔
    (!isComment style l && declaresClass name.toList l) = false := by
  simp [Mentions]

theorem classLine?_of_first (hhead : Mentions style name head)
    (hfirst : ∀ l ∈ pre, ¬ Mentions style name l) (below : List Line) :
    classLine? style name (pre ++ head :: below) = some (pre.reverse, head, below) := by
  rw [classLine?, firstLine?_append fun l hl => not_mentions_iff.mp (hfirst l hl), firstLine?,
    hhead.1, hhead.2, List.append_nil]
  rfl

theorem classLine?_eq_none (h : ∀ l ∈ ls, ¬ Mentions style name l) :
    classLine? style name ls = none :=
  firstLine?_eq_none (fun l hl => not_mentions_iff.mp (h l hl)) []

theorem aboveMember?_of_first (hhead : Mentions style name head)
    (hfirst : ∀ l ∈ pre, ¬ Mentions style name l) (test : Line → Bool) (below : List Line) :
    aboveMember? style name test (pre ++ head :: below) =
      aboveInBody? style (indent head) test (head :: pre.reverse) below := by
  rw [aboveMember?, classLine?_of_first hhead hfirst]
  rfl

/-! ## The search in a body -/

theorem not_ends_of_lt (h : depth < indent l) : ¬ Ends style depth l := by
  rintro ⟨-, -, hends⟩
  simp only [endsBody, Bool.and_eq_true, decide_eq_true_eq] at hends
  omega

theorem passed_of_isComment (h : isComment style l = true) :
    ¬ Ends style depth l ∧ ¬ Hits style test l := by
  simp [Ends, Hits, h]

theorem aboveInBody?_cons : aboveInBody? style depth test above (l :: ls) =
    if Ends style depth l then none
    else if Hits style test l then some above
    else aboveInBody? style depth test (l :: above) ls := by
  rw [aboveInBody?]
  by_cases hskip : isEmptyLine l = true ∨ isComment style l = true
  · have hends : ¬ Ends style depth l := by
      rintro ⟨hne, hnc, -⟩
      simp [hne, hnc] at hskip
    have hhits : ¬ Hits style test l := by
      rintro ⟨hne, hnc, -⟩
      simp [hne, hnc] at hskip
    rw [if_neg hends, if_neg hhits, if_pos (by simpa using hskip)]
  · simp only [not_or, Bool.not_eq_true] at hskip
    simp [Ends, Hits, hskip.1, hskip.2]

theorem aboveInBody?_append {passed : List Line}
    (h : ∀ k ∈ passed, ¬ Ends style depth k ∧ ¬ Hits style test k) (above ls : List Line) :
    aboveInBody? style depth test above (passed ++ ls) =
      aboveInBody? style depth test (passed.reverse ++ above) ls := by
  induction passed generalizing above with
  | nil => rfl
  | cons k passed ih =>
    obtain ⟨hk, hpassed⟩ := List.forall_mem_cons.mp h
    rw [List.cons_append, aboveInBody?_cons, if_neg hk.1, if_neg hk.2, ih hpassed,
      List.reverse_cons, List.append_assoc, List.singleton_append]

/-- **The search in a body** stops at the first line that passes the test, if no line ends the body
before. -/
theorem aboveInBody?_eq_some_iff : aboveInBody? style depth test above ls = some found ↔
    ∃ inner l outer, ls = inner ++ l :: outer ∧ found = inner.reverse ++ above ∧
      (∀ k ∈ inner, ¬ Ends style depth k ∧ ¬ Hits style test k) ∧
      ¬ Ends style depth l ∧ Hits style test l := by
  constructor
  · intro h
    induction ls generalizing above with
    | nil => cases h
    | cons k ls ih =>
      rw [aboveInBody?_cons] at h
      split_ifs at h with hends hhits
      · exact ⟨[], k, ls, rfl, (Option.some.inj h).symm, by simp, hends, hhits⟩
      · obtain ⟨inner, l, outer, rfl, rfl, hinner, hl⟩ := ih h
        refine ⟨k :: inner, l, outer, rfl, by simp, ?_, hl⟩
        exact List.forall_mem_cons.mpr ⟨⟨hends, hhits⟩, hinner⟩
  · rintro ⟨inner, l, outer, rfl, rfl, hinner, hends, hhits⟩
    rw [aboveInBody?_append hinner, aboveInBody?_cons, if_neg hends, if_pos hhits]

theorem aboveInBody?_ended (ht : Ends style depth t) (above ls rest : List Line) :
    aboveInBody? style depth test above (ls ++ t :: rest) =
      aboveInBody? style depth test above ls := by
  induction ls generalizing above with
  | nil => rw [List.nil_append, aboveInBody?_cons, if_pos ht, aboveInBody?]
  | cons l ls ih => rw [List.cons_append, aboveInBody?_cons, aboveInBody?_cons, ih]

end EndpointDocs.Source
