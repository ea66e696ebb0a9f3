import EndpointDocs.Proofs.Source.Member

/-!
# The statement of a class

A class is told from the first line that mentions it: its statement, if nothing above mentions the
class.

* `TellsFrom`, `tellsFrom_first`: a store answers each question about a class from one line.
* `exists_first_mention`: if a line mentions a class, there is a first one.
* **`ask_class_first`**: that line is the statement just when nothing above mentions the class, and
  it is the same for all classes of the same name in a module.
-/

namespace EndpointDocs.Source

open Comment Text

variable {style : Style} {name module qualname : String} {s : Store} {head stmt : Line}
  {before above below after : List Line}

/-- A store tells a class from a line: the class itself from what stands above the line, and its
members from what is found below it. -/
def TellsFrom (style : Style) (s : Store) (owner : Option Owner) (above : List Line) (head : Line)
    (below : List Line) : Prop :=
  (((Question.cls owner).ask style).run.run s).1 =
      .ok (descriptionAbove style false above.reverse) ∧
    ∀ m : Member, (((m.question owner).ask style).run.run s).1 =
      .ok ((aboveInBody? style (indent head) m.declares (head :: above.reverse) below).bind
        (m.tell style))

theorem tellsFrom_first (hhead : Mentions style name head)
    (hfirst : ∀ l ∈ above, ¬ Mentions style name l)
    (hview : s.view (some (.cls module name qualname)) = .ok (above ++ head :: below)) :
    TellsFrom style s (some (.cls module name qualname)) above head below := by
  constructor
  · rw [answer_of_view (q := .cls _) hview, Question.textIn, classText, aboveClass?,
      classLine?_of_first hhead hfirst]
    rfl
  · intro m
    rw [answer_member hview, aboveMember?_of_first hhead hfirst]

theorem exists_first_mention (hstmt : Mentions style name stmt) (before after : List Line) :
    ∃ above head below, before ++ stmt :: after = above ++ head :: below ∧ above <+: before ∧
      Mentions style name head ∧ ∀ l ∈ above, ¬ Mentions style name l := by
  induction before with
  | nil => exact ⟨[], stmt, after, rfl, List.prefix_rfl, hstmt, by simp⟩
  | cons l before ih =>
    by_cases hl : Mentions style name l
    · exact ⟨[], l, before ++ stmt :: after, rfl, List.nil_prefix, hl, by simp⟩
    · obtain ⟨above, head, below, hcut, hprefix, hhead, hfirst⟩ := ih
      refine ⟨l :: above, head, below, ?_, ?_, hhead, List.forall_mem_cons.mpr ⟨hl, hfirst⟩⟩
      · rw [List.cons_append, hcut, List.cons_append]
      · exact List.cons_prefix_cons.mpr ⟨rfl, hprefix⟩

/-- **Where a class is told from.** The search for a class stops at its statement just when nothing
above mentions the class. It always stops at the first line that does, at or above the statement,
and every class of that name in the module is told from there, whatever class it stands in. -/
theorem ask_class_first (hstmt : States style name stmt)
    (hview : s.view (some (.cls module name qualname)) = .ok (before ++ stmt :: after)) :
    let chosen := classLine? style name (before ++ stmt :: after)
    (chosen = some (before.reverse, stmt, after) ↔ ∀ l ∈ before, ¬ Mentions style name l) ∧
      ∃ above head below, before ++ stmt :: after = above ++ head :: below ∧ above <+: before ∧
        Mentions style name head ∧ (∀ l ∈ above, ¬ Mentions style name l) ∧
        chosen = some (above.reverse, head, below) ∧
        ∀ qualname', TellsFrom style s (some (.cls module name qualname')) above head below := by
  intro chosen
  obtain ⟨above, head, below, hcut, hprefix, hhead, hfirst⟩ :=
    exists_first_mention hstmt.1 before after
  have hchosen : chosen = some (above.reverse, head, below) := by
    rw [← classLine?_of_first hhead hfirst, ← hcut]
  refine ⟨⟨fun h => ?_, fun hbefore => classLine?_of_first hstmt.1 hbefore after⟩,
    above, head, below, hcut, hprefix, hhead, hfirst, hchosen, fun qualname' => ?_⟩
  · have habove : above = before := by
      have := hchosen.symm.trans h
      simp only [Option.some.injEq, Prod.mk.injEq, List.reverse_inj] at this
      exact this.1
    exact habove ▸ hfirst
  · -- the file of a class depends on its module only
    have hview' : s.view (some (.cls module name qualname')) = .ok (above ++ head :: below) := by
      rw [← hcut, ← hview]
      rfl
    exact tellsFrom_first hhead hfirst hview'

/-- Two classes of the same name in a module, each in another class. -/
def configLines : List Line :=
  ["class A:", "    ## Settings of A.", "    class Config:", "        depth: int", "", "class B:",
    "    ## Settings of B.", "    class Config:", "        width: int"].map String.toList

theorem ask_class_first_config :
    let owner (qualname : String) : Option Owner := some (.cls "app" "Config" qualname)
    let answer (qualname : String) :=
      (((Question.cls (owner qualname)).ask .hash).run.run (lineStore configLines)).1
    (lineStore configLines).view (owner "B.Config") = .ok configLines ∧
      States .hash "Config" "    class Config:".toList ∧
      classLine? .hash "Config" configLines ≠
        some ((configLines.take 7).reverse, "    class Config:".toList, configLines.drop 8) ∧
      answer "A.Config" = answer "B.Config" := by
  intro owner answer
  have hview : (lineStore configLines).view (owner "B.Config") =
      .ok (configLines.take 7 ++ "    class Config:".toList :: configLines.drop 8) :=
    view_lineStore (by decide) rfl
  have hstmt : States .hash "Config" "    class Config:".toList := by decide +kernel
  obtain ⟨hiff, above, head, below, -, -, -, -, -, htold⟩ := ask_class_first hstmt hview
  refine ⟨hview, hstmt, fun h => ?_, ?_⟩
  · exact hiff.mp h "    class Config:".toList (by decide) hstmt.1
  · exact (htold "A.Config").1.trans (htold "B.Config").1.symm

/-- A module whose docstring mentions a class. -/
def mentioningLines : List Line :=
  ["\"\"\"Shows the class User and its fields.\"\"\"", "", "## A user.", "class User:",
    "    ## The id.", "    id: int"].map String.toList

/-- **Not every class is told from its own statement**: a docstring that mentions a class is taken
for it, and so is the statement of another class of the same name. -/
theorem not_own_statement_all :
    (¬ ∀ (s : Style) (name : String) (before : List Line) (stmt : Line) (after : List Line),
      States s name stmt → ∀ found ∈ classLine? s name (before ++ stmt :: after),
        "class".toList <+: trim found.2.1) ∧
    let answer (qualname : String) :=
      (((Question.cls (some (.cls "app" "Config" qualname))).ask .hash).run.run
        (lineStore configLines)).1
    answer "A.Config" = .ok (some "Settings of A.") ∧
      answer "B.Config" = .ok (some "Settings of A.") ∧
      descriptionAbove .hash false (configLines.take 7).reverse = some "Settings of B." := by
  have hview : ∀ qualname, (lineStore configLines).view (some (.cls "app" "Config" qualname)) =
      .ok configLines := fun _ => view_lineStore (by decide) rfl
  refine ⟨fun h => ?_, ?_, ?_, by decide +kernel⟩
  · have hstated := h .hash "User" (mentioningLines.take 3) "class User:".toList
      (mentioningLines.drop 4) (by decide +kernel)
    have hmentioned : ¬ ∀ found ∈ classLine? .hash "User" mentioningLines,
        "class".toList <+: trim found.2.1 := by decide +kernel
    exact hmentioned hstated
  · exact (answer_of_view (q := .cls _) (hview _) .hash).trans (by decide +kernel)
  · exact (answer_of_view (q := .cls _) (hview _) .hash).trans (by decide +kernel)

end EndpointDocs.Source
