import EndpointDocs.Comment.Tag
import EndpointDocs.Proofs.Comment.Untagged
import EndpointDocs.Proofs.Text.Lines

/-!
# The lines of a text

A line is trimmed before its markup is dropped, and only an empty line is left out. So blanks next
to markup can come to stand at the ends of a line, make up the whole of it, or hide a tag.

* `body`: a line between its marks, with its markup.
* `IsTidy`: a line with something in it and no blank at its ends; `isTidy_clean_iff`.
* `HidesTag`: a tag that only shows once markup and blanks are gone; `tagOf?_trim_clean_iff`.
* `splitLines_blockText`: the lines of a text are the cleaned lines of its block.
* **`extract_tidy_iff`**: when all lines of a text are tidy, and when none of them is a tag.
-/

namespace EndpointDocs.Comment

open Text

/-- A line between its marks, with its markup. -/
def body (s : Style) (l : Line) : Line := trim (s.unmark (trim l))

theorem clean_eq (s : Style) (l : Line) : s.clean (trim l) = dropTags (body s l) := rfl

theorem trim_body (s : Style) (l : Line) : trim (body s l) = body s l := trim_trim _

/-- A line with something in it and no blank at its ends. -/
structure IsTidy (w : Line) : Prop where
  not_blank : ¬ Blank w
  trimmed : trim w = w

/-- **A cleaned line is tidy** unless the line bares a blank. -/
theorem isTidy_clean_iff {s : Style} {l : Line} (hne : s.clean (trim l) ≠ []) :
    IsTidy (s.clean (trim l)) ↔ ¬ Bares (body s l) := by
  rw [clean_eq] at hne ⊢
  rw [← trim_dropTags_iff (trim_body s l) hne]
  refine ⟨fun h => h.trimmed, fun h => ⟨fun hblank => ?_, h⟩⟩
  have hhead := ((trim_eq_self_iff hne).mp h).1
  rw [hblank _ (List.head_mem hne)] at hhead
  cases hhead

/-- A tag that only shows once markup and the blanks behind it are gone. -/
def HidesTag (cs : List Char) : Prop :=
  ∃ c ms rest, (Markups ms ∧ ms ≠ []) ∧ isBlank c = true ∧ cs = ms ++ c :: rest ∧
    tagOf? (trim (dropTags rest)) ≠ none

theorem isAnnotated_cons (c : Char) (cs : List Char) : isAnnotated (c :: cs) = isAt c := rfl

theorem isAnnotated_of_tagOf? {w : Line} (h : tagOf? w ≠ none) : isAnnotated w = true := by
  unfold tagOf? at h
  split at h
  · rfl
  · exact absurd rfl h

theorem trim_cons_blank {c : Char} (hc : isBlank c = true) (cs : List Char) :
    trim (c :: cs) = trim cs := by
  have hblank : Blank [c] := by simpa [Blank] using hc
  exact trim_blank_append hblank cs

/-- **A line that does not start with `@`** is read as a tag only if it hides one. -/
theorem tagOf?_trim_clean_iff {s : Style} {l : Line}
    (hplain : isAnnotated (s.clean (trim l)) = false) :
    tagOf? (trim (s.clean (trim l))) ≠ none ↔ HidesTag (body s l) := by
  rw [clean_eq] at hplain ⊢
  constructor
  · intro htag
    cases hcs : dropTags (body s l) with
    | nil =>
      rw [hcs] at htag
      exact absurd rfl htag
    | cons c ds =>
      rw [hcs] at hplain htag
      have hc : isBlank c = true := by
        by_contra hsolid
        rw [trim_cons (by simpa using hsolid)] at htag
        have hat : isAnnotated (c :: trimEnd ds) = true := isAnnotated_of_tagOf? htag
        rw [isAnnotated_cons] at hat hplain
        rw [hplain] at hat
        cases hat
      obtain ⟨ms, rest, hms, hcut, hds⟩ := exists_head_of_dropTags hcs
      have hne : ms ≠ [] := ne_nil_of_trim_blank (hcut ▸ trim_body s l) hc
      rw [trim_cons_blank hc, hds (ne_of_isBlank hc (by decide))] at htag
      exact ⟨c, ms, rest, ⟨hms, hne⟩, hc, hcut, htag⟩
  · rintro ⟨c, ms, rest, ⟨hms, -⟩, hc, hcut, htag⟩
    rw [hcut, hms.dropTags_cons_blank hc, trim_cons_blank hc]
    exact htag

/-! ## Texts -/

section Texts

variable {s : Style} {keepTags : Bool} {block : List Line}

/-- **The lines of a text** are the cleaned lines of its block. -/
theorem splitLines_blockText (h : ∀ l ∈ block, Unbroken l) :
    splitLines (joinLines (blockText s keepTags block)) = blockText s keepTags block := by
  refine splitLines_joinLines fun w hw => ?_
  obtain ⟨l, hl, rfl, hkept⟩ := exists_of_mem_blockText hw
  refine ⟨?_, fun c hc => h l hl c ((clean_sublist s l).subset hc)⟩
  rintro hnil
  simp [hnil, isKept] at hkept

theorem forall_mem_blockText_iff {p : Line → Prop} : (∀ w ∈ blockText s keepTags block, p w) ↔
    ∀ l ∈ block, isKept keepTags (s.clean (trim l)) = true → p (s.clean (trim l)) := by
  simp only [blockText, List.mem_filter, List.mem_map]
  constructor
  · intro h l hl hkept
    exact h _ ⟨⟨l, hl, rfl⟩, hkept⟩
  · rintro h w ⟨⟨l, hl, rfl⟩, hkept⟩
    exact h l hl hkept

theorem ne_nil_of_isKept {w : Line} (h : isKept keepTags w = true) : w ≠ [] := by
  rintro rfl
  simp [isKept] at h

theorem isKept_false_iff (w : Line) :
    isKept false w = true ↔ w ≠ [] ∧ isAnnotated w = false := by
  simp [isKept]

theorem forall_isTidy_iff : (∀ w ∈ blockText s keepTags block, IsTidy w) ↔
    ∀ l ∈ block, isKept keepTags (s.clean (trim l)) = true → ¬ Bares (body s l) := by
  rw [forall_mem_blockText_iff]
  refine forall₂_congr fun l _ => forall_congr' fun hkept => ?_
  exact isTidy_clean_iff (ne_nil_of_isKept hkept)

theorem forall_tagOf?_iff : (∀ w ∈ blockText s false block, tagOf? (trim w) = none) ↔
    ∀ l ∈ block, ¬ HidesTag (body s l) := by
  rw [forall_mem_blockText_iff]
  refine forall₂_congr fun l _ => ?_
  constructor
  · intro h hhides
    obtain ⟨c, ms, rest, ⟨hms, -⟩, hc, hcut, -⟩ := id hhides
    -- the line starts with a blank, so it is kept
    have hclean : s.clean (trim l) = c :: dropTags rest := by
      rw [clean_eq, hcut, hms.dropTags_cons_blank hc]
    have hat : isAnnotated (s.clean (trim l)) = false := by
      rw [hclean, isAnnotated_cons]
      exact beq_false_of_ne (ne_of_isBlank hc (by decide))
    have hkept := (isKept_false_iff (s.clean (trim l))).mpr ⟨by simp [hclean], hat⟩
    exact (tagOf?_trim_clean_iff hat).mpr hhides (h hkept)
  · intro h hkept
    by_contra htag
    exact h ((tagOf?_trim_clean_iff ((isKept_false_iff _).mp hkept).2).mp htag)

/-- **A text without tag lines** has no tags. -/
theorem tags_eq_nil {text : String}
    (h : ∀ w ∈ splitLines text.toList, tagOf? (trim w) = none) : tags text = [] := by
  rw [tags, List.filterMap_eq_nil_iff.mpr fun w hw => by rw [h w hw]; rfl]
  rfl

end Texts

/--
**The lines of a text** are the cleaned lines of the block above a declaration. All of them are
tidy just when no line that stays in the text bares a blank. Without its tags, the text has no line
that reads as a tag just when no line of the block hides one; then it has no tags.
-/
theorem extract_tidy_iff {lines : List Line} (hlines : ∀ l ∈ lines, Unbroken l) {s : Style}
    {keepTags : Bool} {index : Int} {text : String}
    (h : extract s keepTags lines index = .ok (some text)) :
    ∃ j k : Nat, IsRun lines s j k ∧ k < index ∧
      splitLines text.toList = blockText s keepTags (between lines j k) ∧
      ((∀ w ∈ splitLines text.toList, IsTidy w) ↔ ∀ l ∈ between lines j k,
        isKept keepTags (s.clean (trim l)) = true → ¬ Bares (body s l)) ∧
      (keepTags = false →
        ((∀ w ∈ splitLines text.toList, tagOf? (trim w) = none) ↔
          ∀ l ∈ between lines j k, ¬ HidesTag (body s l)) ∧
        ((∀ l ∈ between lines j k, ¬ HidesTag (body s l)) → tags text = [])) := by
  have hindex : index - 1 < lines.length := by
    by_contra hpast
    rw [extract_of_past _ _ (by omega)] at h
    cases h
  have hn : index.toNat ≤ lines.length := by omega
  rw [extract_eq _ _ hindex, Except.ok.injEq, descriptionAbove, textAbove, Option.map_map,
    Option.map_eq_some_iff] at h
  obtain ⟨block, hblock, rfl⟩ := h
  obtain ⟨j, k, hrun, hk, rfl⟩ := exists_run hn hblock
  have hunbroken : ∀ l ∈ between lines j k, Unbroken l := fun l hl =>
    hlines l (mem_of_mem_between hl)
  have htext : splitLines (String.ofList (joinLines
      (blockText s keepTags (between lines j k)))).toList =
        blockText s keepTags (between lines j k) := by
    rw [String.toList_ofList, splitLines_blockText hunbroken]
  refine ⟨j, k, hrun, by omega, htext, ?_, ?_⟩
  · rw [Function.comp_apply, htext]
    exact forall_isTidy_iff
  · rintro rfl
    have htags : (∀ w ∈ splitLines _, _) ↔ _ := htext ▸ forall_tagOf?_iff
    exact ⟨htags, fun hnone => tags_eq_nil (htags.mpr hnone)⟩

/-- A function below a block with blanks next to its markup. -/
def baringSample : List Line :=
  ["## <b> Adds.", "#  <p> </p>", "#  <i> @param a the first", "def add(a):"].map String.toList

/-- The text of that block: a blank comes to stand in front, a line is blank, a tag is hidden. -/
def baredText : String := " Adds.\n \n @param a the first"

theorem extract_baringSample : extract .hash false baringSample 3 = .ok (some baredText) := by
  decide +kernel

theorem splitLines_baredText : splitLines baredText.toList =
    [" Adds.".toList, " ".toList, " @param a the first".toList] := by
  decide

theorem not_forall_isTidy_baredText : ¬ ∀ w ∈ splitLines baredText.toList, IsTidy w := by
  intro h
  rw [splitLines_baredText] at h
  exact absurd (h " Adds.".toList (by simp)).trimmed (by decide)

theorem extract_tidy_iff_baringSample : (∀ l ∈ baringSample, Unbroken l) ∧
    extract .hash false baringSample 3 = .ok (some baredText) ∧
    ∃ j k, IsRun baringSample .hash j k ∧
      (∃ l ∈ between baringSample j k, Bares (body .hash l)) ∧
      ∃ l ∈ between baringSample j k, HidesTag (body .hash l) := by
  have hlines : ∀ l ∈ baringSample, Unbroken l := by decide
  obtain ⟨j, k, hrun, -, -, htidy, htags⟩ := extract_tidy_iff hlines extract_baringSample
  refine ⟨hlines, extract_baringSample, j, k, hrun, ?_, ?_⟩
  · by_contra hnone
    exact not_forall_isTidy_baredText (htidy.mpr fun l hl _ hbares => hnone ⟨l, hl, hbares⟩)
  · by_contra hnone
    have hplain := (htags rfl).1.mpr fun l hl hhides => hnone ⟨l, hl, hhides⟩
    rw [splitLines_baredText] at hplain
    exact absurd (hplain " @param a the first".toList (by simp)) (by decide)

/-- **The lines of a text need not be tidy**, and one without tags may still have some. -/
theorem not_extract_tidy_all :
    (¬ ∀ (s : Style) (keepTags : Bool) (lines : List Line) (index : Int) (text : String),
      (∀ l ∈ lines, Unbroken l) → extract s keepTags lines index = .ok (some text) →
        text ≠ "" → ∀ w ∈ splitLines text.toList, IsTidy w) ∧
    ¬ ∀ (s : Style) (lines : List Line) (index : Int) (text : String),
      (∀ l ∈ lines, Unbroken l) → extract s false lines index = .ok (some text) →
        text ≠ "" → tags text = [] := by
  have hlines : ∀ l ∈ baringSample, Unbroken l := by decide
  have hne : baredText ≠ "" := by decide
  constructor
  · intro h
    exact not_forall_isTidy_baredText
      (h .hash false baringSample 3 baredText hlines extract_baringSample hne)
  · intro h
    have hnone := h .hash baringSample 3 baredText hlines extract_baringSample hne
    have htags : tags baredText = [("a", "the first")] := by decide +kernel
    rw [htags] at hnone
    cases hnone

end EndpointDocs.Comment
