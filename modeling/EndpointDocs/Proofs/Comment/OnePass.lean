import EndpointDocs.Proofs.Comment.Untagged

/-!
# One pass over markup

Markup is dropped in one pass from left to right. What stands around a dropped tag could make a new
one; it never does, since each `<` that is left has found no partner.

* `Spent`: behind each `<` of a text, a `>` stands at once or not at all.
* `spent_iff`: these are the texts without markup; `spent_dropTags`: one pass leaves such a text.
* `dropTags_eq_self_iff`: the pass changes no other text.
* `exists_block`: the text above a declaration is that of some of the lines.
* **`dropTags_complete`**: no markup is left in cleaned lines and in the lines of a text.
-/

namespace EndpointDocs.Comment

open Text

variable {c : Char} {cs : List Char}

/-! ## Brackets without partners -/

/-- Behind each `<` of a text, a `>` stands at once or not at all. -/
def Spent (cs : List Char) : Prop :=
  ∀ as bs, cs = as ++ '<' :: bs → '>' ∈ bs → bs.head? = some '>'

theorem spent_iff : Spent cs ↔ ¬ HasTag cs := by
  constructor
  · rintro h ⟨inner, hne, hin, as, bs, rfl⟩
    have hhead := h as (inner ++ '>' :: bs) (by simp) (by simp)
    rw [List.head?_append_of_ne_nil _ hne] at hhead
    exact hin (List.mem_of_head? hhead)
  · rintro h as bs rfl hmem
    obtain ⟨inner, rest, rfl, hin⟩ := List.eq_append_cons_of_mem hmem
    by_cases hne : inner = []
    · rw [hne]
      rfl
    · exact absurd ⟨inner, hne, hin, as, rest, by simp⟩ h

theorem Spent.nil : Spent [] := by
  intro as bs h
  simp at h

theorem Spent.cons_iff :
    Spent (c :: cs) ↔ (c = '<' → '>' ∈ cs → cs.head? = some '>') ∧ Spent cs := by
  constructor
  · intro h
    refine ⟨fun hc => h [] cs (by rw [hc]; rfl), fun as bs hcut => h (c :: as) bs ?_⟩
    rw [hcut, List.cons_append]
  · rintro ⟨hc, hcs⟩ as bs hcut
    cases as with
    | nil =>
      obtain ⟨rfl, rfl⟩ := List.cons.inj hcut
      exact hc rfl
    | cons a as => exact hcs as bs (List.cons.inj hcut).2

theorem head?_dropTags (h : cs.head? = some '>') : (dropTags cs).head? = some '>' := by
  obtain ⟨rest, rfl⟩ := List.head?_eq_some_iff.mp h
  rw [dropTags_plain (by decide)]
  rfl

/--
**One pass leaves no `<` with a partner.** A `<` stays because no `>` is behind it, or because one
is right behind it; that one stays as well, so nothing comes between the two.
-/
theorem spent_dropTags (cs : List Char) : Spent (dropTags cs) := by
  fun_induction dropTags cs with
  | case1 => exact .nil
  | case2 cs rest _ ih => exact ih
  | case3 cs hnone ih =>
    refine Spent.cons_iff.mpr ⟨fun _ hmem => ?_, ih⟩
    apply head?_dropTags
    exact head?_of_afterTag?_eq_none hnone ((dropTags_sublist cs).subset hmem)
  | case4 c cs hc ih => exact Spent.cons_iff.mpr ⟨fun hopen => absurd hopen hc, ih⟩

theorem not_hasTag_dropTags (cs : List Char) : ¬ HasTag (dropTags cs) :=
  spent_iff.mp (spent_dropTags cs)

/-- **The pass changes nothing** just when there is no markup. -/
theorem dropTags_eq_self_iff : dropTags cs = cs ↔ ¬ HasTag cs :=
  ⟨fun h => h ▸ not_hasTag_dropTags cs, dropTags_of_not_hasTag⟩

theorem not_hasTag_clean (s : Style) (l : Line) : ¬ HasTag (s.clean l) := not_hasTag_dropTags _

/-! ## Texts -/

section Texts

variable {s : Style} {keepTags : Bool} {lines : List Line} {index : Int} {text : String}

/-- **The text above a declaration** is that of a block of lines. -/
theorem exists_block (h : extract s keepTags lines index = .ok (some text)) :
    ∃ block, (∀ l ∈ block, l ∈ lines) ∧
      text = String.ofList (joinLines (blockText s keepTags block)) := by
  have hindex : index - 1 < lines.length := by
    by_contra hpast
    rw [extract_of_past _ _ (by omega)] at h
    cases h
  rw [extract_eq _ _ hindex, Except.ok.injEq, descriptionAbove, textAbove, Option.map_map,
    Option.map_eq_some_iff] at h
  obtain ⟨block, hblock, rfl⟩ := h
  obtain ⟨j, k, -, -, rfl⟩ := exists_run (by omega) hblock
  exact ⟨between lines j k, fun l => mem_of_mem_between, rfl⟩

theorem not_hasTag_of_mem_text (hlines : ∀ l ∈ lines, '\n' ∉ l)
    (h : extract s keepTags lines index = .ok (some text)) :
    ∀ w ∈ text.toList.splitOn '\n', ¬ HasTag w := by
  obtain ⟨block, hblock, rfl⟩ := exists_block h
  intro w hw
  rw [String.toList_ofList] at hw
  by_cases hnone : blockText s keepTags block = []
  · rw [hnone] at hw
    obtain rfl : w = [] := by simpa [joinLines, joinWith] using hw
    exact not_hasTag_of_not_mem (by simp)
  · rw [splitOn_joinLines hnone] at hw
    · obtain ⟨l, -, rfl, -⟩ := exists_of_mem_blockText hw
      exact not_hasTag_clean s (trim l)
    · intro w hw hnewline
      obtain ⟨l, hl, rfl, -⟩ := exists_of_mem_blockText hw
      exact hlines l (hblock l hl) ((clean_sublist s l).subset hnewline)

end Texts

/--
**One pass drops all markup**, however the brackets of a text are arranged: nothing that is left is
markup, a second pass changes nothing, and the first one changes just the texts with markup. So in
both styles no cleaned line holds markup, nor does any line of the text above a declaration.
-/
theorem dropTags_complete (s : Style) :
    (∀ cs, ¬ HasTag (dropTags cs) ∧ dropTags (dropTags cs) = dropTags cs ∧
      (dropTags cs = cs ↔ ¬ HasTag cs)) ∧
    (∀ l, ¬ HasTag (s.clean (trim l)) ∧ dropTags (s.clean (trim l)) = s.clean (trim l)) ∧
    ∀ (keepTags : Bool) (lines : List Line) (index : Int) (text : String),
      (∀ l ∈ lines, '\n' ∉ l) → extract s keepTags lines index = .ok (some text) →
        ∀ w ∈ text.toList.splitOn '\n', ¬ HasTag w := by
  refine ⟨fun cs => ?_, fun l => ?_, fun keepTags lines index text => not_hasTag_of_mem_text⟩
  · exact ⟨not_hasTag_dropTags cs, dropTags_of_not_hasTag (not_hasTag_dropTags cs),
      dropTags_eq_self_iff⟩
  · exact ⟨not_hasTag_clean s _, dropTags_of_not_hasTag (not_hasTag_clean s _)⟩

/-- A function below a block with brackets that are nested, empty, overlapping or left open. -/
def bracketSample : List Line :=
  ["## <<a>b> Adds <> <c", "#  > <i>two</i> numbers <", "def add(a, b):"].map String.toList

/-- The text of that block: a bracket of one line has a partner on the next one only. -/
def bracketText : String := "b> Adds <> <c\n> two numbers <"

theorem splitOn_bracketText :
    bracketText.toList.splitOn '\n' = ["b> Adds <> <c".toList, "> two numbers <".toList] := by
  decide

theorem dropTags_complete_bracketSample : (∀ l ∈ bracketSample, '\n' ∉ l) ∧
    extract .hash false bracketSample 2 = .ok (some bracketText) ∧ HasTag bracketText.toList ∧
    ¬ HasTag "b> Adds <> <c".toList ∧ ¬ HasTag "> two numbers <".toList := by
  have hlines : ∀ l ∈ bracketSample, '\n' ∉ l := by decide
  have htext : extract .hash false bracketSample 2 = .ok (some bracketText) := by decide +kernel
  have htag : HasTag bracketText.toList :=
    ⟨"c\n".toList, by decide, by decide, "b> Adds <> ".toList, " two numbers <".toList, by decide⟩
  have hparts := (dropTags_complete .hash).2.2 false bracketSample 2 bracketText hlines htext
  rw [splitOn_bracketText] at hparts
  exact ⟨hlines, htext, htag, hparts _ (by simp), hparts _ (by simp)⟩

end EndpointDocs.Comment
