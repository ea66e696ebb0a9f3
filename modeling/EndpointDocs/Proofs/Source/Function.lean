import EndpointDocs.Proofs.Comment.Decorated
import EndpointDocs.Proofs.Comment.Param
import EndpointDocs.Proofs.Source.Layout

/-!
# The parameters of a function

* `HasHead`, `declaresFunction_iff`: what is searched for, as a cut of the line.
* `FunctionLayout`: a module with a function below its decorators and a block about its parameters.
* `aboveTopLevel?_layout`: the search for the function stops at its first head.
* **`ask_param`**: what a store answers about the parameters of the function.
-/

namespace EndpointDocs.Source

open Comment Text

/-! ## Heads of functions -/

/-- A function starts on the line: `def` as a word of its own, blanks, the name, a bracket. -/
def HasHead (name : List Char) (l : Line) : Prop :=
  ∃ before gap gap' rest,
    l = before ++ ("def".toList ++ (gap ++ (name ++ (gap' ++ '(' :: rest)))) ∧
      before.getLast?.any isWordChar = false ∧ gap ≠ [] ∧ Blank gap ∧ Blank gap'

theorem declaresFunction_iff {name : List Char} {l : Line} :
    declaresFunction name l = true ↔ HasHead name l := by
  have hd : isWordChar 'd' = true := by decide
  simp only [declaresFunction, somewhere_iff, functionHere, Bool.and_eq_true, after?_any_iff,
    afterSomeBlanks_iff, afterBlanks_iff, beq_iff_eq, Option.or_none]
  constructor
  · rintro ⟨before, _, rfl, hedge, _, rfl, gap, _, rfl, hne, hgap, _, rfl, gap', rest, rfl, hgap',
      hbracket⟩
    obtain ⟨rest', rfl⟩ := List.head?_eq_some_iff.mp hbracket
    have hword : before.getLast?.any isWordChar = false := by simpa [atWordEdge, hd] using hedge
    exact ⟨before, gap, gap', rest', rfl, hword, hne, hgap, hgap'⟩
  · rintro ⟨before, gap, gap', rest, rfl, hword, hne, hgap, hgap'⟩
    have hedge : atWordEdge before.getLast? (some 'd') = true := by simp [atWordEdge, hword, hd]
    exact ⟨before, _, rfl, hedge, _, rfl, gap, _, rfl, hne, hgap, _, rfl, gap', _, rfl, hgap', rfl⟩

/-! ## Functions as they are written -/

/-- A line that is not indented. -/
def TopLevel (l : Line) : Prop := ∀ c ∈ l.head?, isBlank c = false

/-- A line of code starts a function at top level. -/
structure StartsFunction (name : List Char) (l : Line) : Prop where
  toplevel : TopLevel l
  uncommented : isComment .hash l = false
  head : HasHead name l

theorem startsFunction_iff {name : List Char} {l : Line} :
    (!l.head?.any isBlank && !isComment .hash l && declaresFunction name l) = true ↔
      StartsFunction name l := by
  have htop : l.head?.any isBlank = false ↔ TopLevel l := by
    cases l <;> simp [TopLevel]
  simp only [Bool.and_eq_true, Bool.not_eq_true', declaresFunction_iff, htop]
  exact ⟨fun ⟨⟨h, h'⟩, h''⟩ => ⟨h, h', h''⟩, fun ⟨h, h', h''⟩ => ⟨⟨h, h'⟩, h''⟩⟩

/--
A module with a function: any lines, a block about the parameters, decorators, the line that starts
the function, and any further lines. No line above it starts the function.
-/
structure FunctionLayout where
  before : List Line
  block : ParamBlock
  decorators : List (Decorator .hash)
  name : String
  statement : Line
  after : List Line
  starts : StartsFunction name.toList statement
  first : ∀ l ∈ before ++ decorators.flatMap Decorator.lines, ¬ StartsFunction name.toList l

namespace FunctionLayout

variable (src : FunctionLayout)

def above : List Line :=
  src.before ++ (src.block.lines ++ src.decorators.flatMap Decorator.lines)

def lines : List Line := src.above ++ src.statement :: src.after

theorem not_startsFunction_above : ∀ l ∈ src.above, ¬ StartsFunction src.name.toList l := by
  intro l hl hstarts
  rcases List.mem_append.mp hl with hl | hl
  · exact src.first l (List.mem_append_left _ hl) hstarts
  rcases List.mem_append.mp hl with hl | hl
  · have hcomment := ParamBlock.isComment_of_mem hl
    rw [hstarts.uncommented] at hcomment
    cases hcomment
  · exact src.first l (List.mem_append_right _ hl) hstarts

theorem aboveTopLevel?_layout :
    aboveTopLevel? .hash (declaresFunction src.name.toList) src.lines = some src.above.reverse := by
  have hpass : ∀ l ∈ src.above, (!l.head?.any isBlank && !isComment .hash l &&
      declaresFunction src.name.toList l) = false := by
    intro l hl
    rw [← Bool.not_eq_true, startsFunction_iff]
    exact src.not_startsFunction_above l hl
  rw [aboveTopLevel?, lines, firstLine?_append hpass, firstLine?,
    if_pos (startsFunction_iff.mpr src.starts), Option.map_some, List.append_nil]

theorem paramText_layout (module param : String) :
    paramText .hash (some (.module module)) src.name param src.lines =
      paramText? (String.ofList (joinLines src.block.texts)) param := by
  have hreverse : src.above.reverse = (src.decorators.flatMap Decorator.lines).reverse ++
      (src.block.lines.reverse ++ src.before.reverse) := by
    simp [above]
  simp only [paramText, aboveDeclaration?, src.aboveTopLevel?_layout, Option.bind_eq_bind,
    Option.bind_some]
  rw [hreverse, descriptionAbove_decorators, src.block.descriptionAbove_lines, Option.bind_some]

end FunctionLayout

/--
**Each parameter has its description**, and no other name has any. This is what a store answers that
shows a function as it was written. The names may be parts of each other and may stand in the
descriptions, in any order.
-/
theorem ask_param (src : FunctionLayout) (s : Store) (module : String)
    (hview : s.view (some (.module module)) = .ok src.lines) :
    let answer (param : String) :=
      (((Question.param (some (.module module)) src.name param).ask .hash).run.run s).1
    (∀ p ∈ src.block.params, answer p.1 = .ok (some p.2)) ∧
      ∀ name : String, Solid name.toList → name ∉ src.block.params.map (·.1) →
        answer name = .ok none := by
  intro answer
  have hanswer : ∀ param, answer param =
      .ok (paramText? (String.ofList (joinLines src.block.texts)) param) := by
    intro param
    have hview' := answer_of_view (q := .param (some (.module module)) src.name param) hview .hash
    rw [Question.textIn, src.paramText_layout] at hview'
    exact hview'
  refine ⟨fun p hp => ?_, fun name hsolid hother => ?_⟩
  · rw [hanswer, src.block.tells_texts.paramText?_eq_some hp]
  · rw [hanswer, src.block.tells_texts.paramText?_eq_none hsolid hother]

/-- A line of a block behind one blank. -/
def markedLine (text : String)
    (h : ¬ ['#'] <+: ' ' :: text.toList ∧ '<' ∉ trim (' ' :: text.toList)) : MarkedLine where
  margin := []
  body := ' ' :: text.toList
  margin_blank := by decide
  unmarked := h.1
  untagged := not_hasTag_of_not_mem h.2

/-- A function with two parameters. The name of the one starts with the name of the other. -/
def greetLayout : FunctionLayout where
  before := ["import app".toList]
  block := {
    opener := markedLine "Greets a user." (by decide)
    further := 0
    others := [markedLine "@param id_hint Not the id of a user." (by decide),
      markedLine "@param id The id_hint told apart." (by decide),
      markedLine "@return id" (by decide)]
    params := [("id_hint", "Not the id of a user."), ("id", "The id_hint told apart.")]
    tells := tells_of_paramLine (by decide +kernel) (by decide +kernel) (by decide +kernel)
      (by decide) (by decide +kernel) }
  decorators := [⟨"@cached".toList, [], by decide, by decide, by decide, by decide⟩]
  name := "greet"
  statement := "def greet(id, id_hint):".toList
  after := ["    return id".toList]
  starts := startsFunction_iff.mp (by decide +kernel)
  first := by
    intro l hl
    rw [← startsFunction_iff]
    revert l
    decide +kernel

theorem ask_param_greet :
    let answer (param : String) :=
      (((Question.param (some (.module "app")) "greet" param).ask .hash).run.run
        (lineStore greetLayout.lines)).1
    (lineStore greetLayout.lines).view (some (.module "app")) = .ok greetLayout.lines ∧
      answer "id" = .ok (some "The id_hint told apart.") ∧
      answer "id_hint" = .ok (some "Not the id of a user.") ∧
      answer "i" = .ok none := by
  intro answer
  have hview : (lineStore greetLayout.lines).view (some (.module "app")) = .ok greetLayout.lines :=
    view_lineStore (by decide +kernel) rfl
  obtain ⟨hparams, hothers⟩ := ask_param greetLayout _ "app" hview
  have hhint := hparams ("id_hint", "Not the id of a user.") (.head _)
  have hid := hparams ("id", "The id_hint told apart.") (.tail _ (.head _))
  have hother := hothers "i" (by decide) (by decide)
  exact ⟨hview, hid, hhint, hother⟩

end EndpointDocs.Source
