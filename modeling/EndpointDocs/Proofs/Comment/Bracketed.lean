import EndpointDocs.Proofs.Comment.Region
import Mathlib.Data.List.Basic

/-!
# Blocks between `/**` and `*/`

A comment ends on the first line below its opener that ends with `*/`. The walk over a block only
asks its last line for a `*/`: it goes up to the next `/**`, past any `*/` on its way.

* `nearest_upTo`: the walk over annotations leaves the first lines of a source.
* `EndsBlock`, `IsBlock`: the last line of the block above a line, and all lines of it.
* `descriptionAbove_javadoc_iff`: the text above a line is that of its block.
* `Encloses`, `IsPlainComment`: the lines of one comment, and one without `/**`.
* `IsBlock.encloses_iff`: a block is one comment if its last line ends a `/**` comment at all.
* `IsPlainComment.no_block_iff`: a plain comment ends a block if any `/**` stands above it.
* **`extract_javadoc_eq_block`**: which text is found, and when it is that of one comment.
-/

namespace EndpointDocs.Comment

open Text

variable {lines : List Line}

/-! ## What the walk over annotations leaves -/

theorem aboveWrapped_suffix {n : Int} {ls rest : List Line} (h : aboveWrapped n ls = some rest) :
    rest <:+ ls := by
  induction ls generalizing n with
  | nil => simp [aboveWrapped] at h
  | cons l ls ih =>
    simp only [aboveWrapped] at h
    split_ifs at h
    · exact (ih h).trans (List.suffix_cons l ls)
    · rw [← Option.some_inj.mp h]
      exact List.suffix_cons l ls

theorem nearest_suffix (s : Style) (ls : List Line) : nearest s ls <:+ ls := by
  fun_induction nearest s ls with
  | case1 => exact List.suffix_rfl
  | case2 l ls _ ih => exact ih.trans (List.suffix_cons l ls)
  | case3 l ls _ _ rest hwrapped ih =>
    rw [wrappedAbove?, Option.ite_none_left_eq_some] at hwrapped
    exact (ih.trans (aboveWrapped_suffix hwrapped.2)).trans (List.suffix_cons l ls)
  | case4 => exact List.suffix_rfl
  | case5 => exact List.suffix_rfl

/-- **The walk over annotations** leaves the first lines of a source. -/
theorem nearest_upTo (s : Style) {n : Nat} (hn : n ≤ lines.length) :
    ∃ m ≤ n, nearest s (upTo lines n) = upTo lines m := by
  have hsuffix := nearest_suffix s (upTo lines n)
  have hlen := hsuffix.length_le
  rw [length_upTo hn] at hlen
  refine ⟨(nearest s (upTo lines n)).length, hlen, ?_⟩
  have hprefix : (nearest s (upTo lines n)).reverse <+: lines := by
    rw [← List.reverse_prefix, upTo, List.reverse_reverse] at hsuffix
    exact hsuffix.trans (List.take_prefix n lines)
  have htake := List.prefix_iff_eq_take.mp hprefix
  rw [List.length_reverse] at htake
  conv_rhs => rw [upTo, ← htake, List.reverse_reverse]

theorem upTo_injective {k m : Nat} (hk : k ≤ lines.length) (hm : m ≤ lines.length)
    (h : upTo lines k = upTo lines m) : k = m := by
  rw [← length_upTo hk, h, length_upTo hm]

/-! ## The block above a line -/

theorem opens_javadoc_iff (l : Line) : Style.opens .javadoc l = true ↔ ['/', '*', '*'] <+: l :=
  List.isPrefixOf_iff_prefix

theorem closes_javadoc_iff (l : Line) : Style.closes .javadoc l = true ↔ ['*', '/'] <:+ l :=
  List.isSuffixOf_iff_suffix

variable (lines) in
/-- Line `k` ends with `*/`, and only annotations stand between it and line `n`. -/
structure EndsBlock (n k : Nat) : Prop where
  lt : k < n
  left : nearest .javadoc (upTo lines n) = upTo lines (k + 1)
  closed : ['*', '/'] <:+ lineAt lines k

variable (lines) in
/-- The block above line `n`: up from its last line to the nearest one that starts with `/**`. -/
structure IsBlock (n j k : Nat) : Prop extends EndsBlock lines n k where
  opener : IsGreatest {i | i ≤ k ∧ ['/', '*', '*'] <+: lineAt lines i} j

/-- **The line right above** ends a block if it ends with `*/` and does not start with `@`. -/
theorem endsBlock_succ {k : Nat} (hk : k < lines.length) (hclosed : ['*', '/'] <:+ lineAt lines k)
    (hplain : ¬ ['@'] <+: lineAt lines k) : EndsBlock lines (k + 1) k := by
  refine ⟨Nat.lt_succ_self k, ?_, hclosed⟩
  rw [upTo_succ hk]
  refine nearest_stuck ?_ fun hm => ?_
  · rwa [← Bool.not_eq_true, isAnnotated_iff, ← lineAt_eq hk]
  · rw [lineAt_eq hk, ← closes_javadoc_iff] at hclosed
    simp [mayEndWrapped, hclosed] at hm

theorem EndsBlock.eq_succ {n m k : Nat} (h : EndsBlock lines n k) (hn : n ≤ lines.length)
    (hm : m ≤ n) (hleft : nearest .javadoc (upTo lines n) = upTo lines m) : m = k + 1 := by
  have := h.lt
  exact upTo_injective (by omega) (by omega) (hleft.symm.trans h.left)

theorem EndsBlock.unique {n k k' : Nat} (h : EndsBlock lines n k) (h' : EndsBlock lines n k')
    (hn : n ≤ lines.length) : k = k' := by
  have := h.eq_succ hn h'.lt h'.left
  omega

theorem exists_isBlock {n k i : Nat} (h : EndsBlock lines n k) (hi : i ≤ k)
    (hopen : ['/', '*', '*'] <+: lineAt lines i) : ∃ j, IsBlock lines n j k := by
  have hspec := Nat.findGreatest_spec (P := fun i => ['/', '*', '*'] <+: lineAt lines i) hi hopen
  exact ⟨_, h, ⟨Nat.findGreatest_le k, hspec⟩, fun m hm => Nat.le_findGreatest hm.1 hm.2⟩

theorem region_javadoc_iff {k : Nat} (hk : k < lines.length) (block : List Line) :
    region .javadoc [] (upTo lines (k + 1)) = some block ↔
      ∃ j, IsGreatest {i | i ≤ k ∧ ['/', '*', '*'] <+: lineAt lines i} j ∧
        block = between lines j k := by
  have hcontinues : ∀ l : Line, Style.continues .javadoc l = true := fun _ => rfl
  simp only [region_iff hk, opens_javadoc_iff, hcontinues, implies_true, and_true]

theorem blockLines_javadoc_iff {n : Nat} (hn : n ≤ lines.length) (block : List Line) :
    blockLines .javadoc (upTo lines n) = some block ↔
      ∃ j k, IsBlock lines n j k ∧ block = between lines j k := by
  obtain ⟨m, hm, hleft⟩ := nearest_upTo .javadoc hn
  cases m with
  | zero =>
    -- nothing is left above, so there is no last line either
    simp only [blockLines, hleft, upTo_zero, reduceCtorEq, false_iff, not_exists, not_and]
    intro j k hblock
    have := hblock.eq_succ hn hm hleft
    omega
  | succ k =>
    have hk : k < lines.length := by omega
    have hblock : blockLines .javadoc (upTo lines n) =
        if ['*', '/'] <:+ lineAt lines k then region .javadoc [] (upTo lines (k + 1))
        else none := by
      rw [blockLines, hleft, upTo_succ hk]
      simp only [← lineAt_eq hk, closes_javadoc_iff]
    have hlast : ∀ {k'}, EndsBlock lines n k' → k' = k := by
      intro k' hk'
      have := hk'.eq_succ hn hm hleft
      omega
    rw [hblock]
    split_ifs with hclosed
    · rw [region_javadoc_iff hk]
      constructor
      · rintro ⟨j, hj, rfl⟩
        exact ⟨j, k, ⟨⟨hm, hleft, hclosed⟩, hj⟩, rfl⟩
      · rintro ⟨j, k', hj, rfl⟩
        obtain rfl := hlast hj.toEndsBlock
        exact ⟨j, hj.opener, rfl⟩
    · simp only [false_iff, not_exists, not_and]
      intro j k' hj
      obtain rfl := hlast hj.toEndsBlock
      exact absurd hj.closed hclosed

theorem extract_eq (s : Style) (keepTags : Bool) {index : Int} (h : index - 1 < lines.length) :
    extract s keepTags lines index = .ok (descriptionAbove s keepTags (upTo lines index.toNat)) := by
  rw [extract, linesAbove_eq_upTo h]
  rfl

theorem descriptionAbove_javadoc_iff {n : Nat} (hn : n ≤ lines.length) (keepTags : Bool)
    (text : String) : descriptionAbove .javadoc keepTags (upTo lines n) = some text ↔
      ∃ j k, IsBlock lines n j k ∧
        text = String.ofList (joinLines (blockText .javadoc keepTags (between lines j k))) := by
  simp only [descriptionAbove, textAbove, Option.map_map, Option.map_eq_some_iff,
    Function.comp_apply, blockLines_javadoc_iff hn]
  constructor
  · rintro ⟨_, ⟨j, k, h, rfl⟩, rfl⟩
    exact ⟨j, k, h, rfl⟩
  · rintro ⟨j, k, h, rfl⟩
    exact ⟨_, ⟨j, k, h, rfl⟩, rfl⟩

/-! ## One comment -/

variable (lines) in
/-- One comment from line `j` to line `k`, which is the first to end with `*/`. -/
structure Encloses (start : List Char) (j k : Nat) : Prop where
  le : j ≤ k
  opened : start <+: lineAt lines j
  closed : ['*', '/'] <:+ lineAt lines k
  single : ∀ i, j ≤ i → i < k → ¬ ['*', '/'] <:+ lineAt lines i

variable (lines) in
/-- One comment that is no documentation: no line of it starts with `/**`. -/
structure IsPlainComment (p k : Nat) : Prop extends Encloses lines ['/', '*'] p k where
  plain : ∀ i, p ≤ i → i ≤ k → ¬ ['/', '*', '*'] <+: lineAt lines i

/-- **A block is one comment** if its last line ends a documentation comment at all. -/
theorem IsBlock.encloses_iff {n j k : Nat} (h : IsBlock lines n j k) :
    Encloses lines ['/', '*', '*'] j k ↔ ∃ i, Encloses lines ['/', '*', '*'] i k := by
  constructor
  · intro hj
    exact ⟨j, hj⟩
  · rintro ⟨i, hi⟩
    have hij : i ≤ j := h.opener.2 ⟨hi.le, hi.opened⟩
    exact ⟨h.opener.1.1, h.opener.1.2, h.closed, fun m hm => hi.single m (by omega)⟩

theorem IsBlock.encloses_iff_single {n j k : Nat} (h : IsBlock lines n j k) :
    Encloses lines ['/', '*', '*'] j k ↔
      ∀ i, j ≤ i → i < k → ¬ ['*', '/'] <:+ lineAt lines i :=
  ⟨fun hj => hj.single, fun hsingle => ⟨h.opener.1.1, h.opener.1.2, h.closed, hsingle⟩⟩

/-- **A block below a plain comment** starts above the comment. -/
theorem IsPlainComment.lt_of_isBlock {n p j k : Nat} (h : IsPlainComment lines p k)
    (hblock : IsBlock lines n j k) : j < p := by
  by_contra hpj
  exact h.plain j (by omega) hblock.opener.1.1 hblock.opener.1.2

theorem IsPlainComment.no_block_iff {n p k : Nat} (h : IsPlainComment lines p k)
    (hends : EndsBlock lines n k) :
    (∀ j, ¬ IsBlock lines n j k) ↔ ∀ i < p, ¬ ['/', '*', '*'] <+: lineAt lines i := by
  constructor
  · intro hnone i hi hopen
    have := h.le
    obtain ⟨j, hj⟩ := exists_isBlock hends (by omega) hopen
    exact hnone j hj
  · intro hnone j hj
    exact hnone j (h.lt_of_isBlock hj) hj.opener.1.2

/--
**The block above a declaration, as comments.** A text is that of the lines from the nearest `/**`
to the `*/` above line `index`. No line before the last one ends with `*/` just when the last line
ends a documentation comment. Under a plain comment there is no text just when no line above the
comment starts with `/**`; otherwise the lines of the text start above the comment.
-/
theorem extract_javadoc_eq_block (lines : List Line) (keepTags : Bool) (index : Int)
    (h : index - 1 < lines.length) :
    ∃ found, extract .javadoc keepTags lines index = .ok found ∧
      (∀ text, found = some text ↔ ∃ j k, IsBlock lines index.toNat j k ∧
        text = String.ofList (joinLines (blockText .javadoc keepTags (between lines j k)))) ∧
      (∀ j k, IsBlock lines index.toNat j k →
        ((∀ i, j ≤ i → i < k → ¬ ['*', '/'] <:+ lineAt lines i) ↔
          ∃ i, Encloses lines ['/', '*', '*'] i k)) ∧
      ∀ p k, IsPlainComment lines p k → EndsBlock lines index.toNat k →
        (found = none ↔ ∀ i < p, ¬ ['/', '*', '*'] <+: lineAt lines i) ∧
          ∀ j, IsBlock lines index.toNat j k → j < p := by
  have hn : index.toNat ≤ lines.length := by omega
  have hiff := descriptionAbove_javadoc_iff hn keepTags
  refine ⟨_, extract_eq .javadoc keepTags h, hiff, fun j k hblock => ?_,
    fun p k hplain hends => ⟨?_, fun j hblock => ?_⟩⟩
  · rw [← hblock.encloses_iff_single, hblock.encloses_iff]
  · rw [Option.eq_none_iff_forall_ne_some, ← hplain.no_block_iff hends]
    constructor
    · intro hnone j hj
      exact hnone _ ((hiff _).mpr ⟨j, k, hj, rfl⟩)
    · intro hnone text htext
      obtain ⟨j, k', hj, -⟩ := (hiff text).mp htext
      obtain rfl := hj.toEndsBlock.unique hends hn
      exact hnone j hj
  · exact hplain.lt_of_isBlock hblock

/-- A variable under a plain comment, below one with a documentation comment. -/
def plainSample : List Line :=
  ["/** Docs of a. */", "int a;", "/* plain */", "int b;"].map String.toList

theorem isPlainComment_plainSample : IsPlainComment plainSample 2 2 := by
  refine ⟨⟨le_rfl, by decide, by decide, fun i h1 h2 => by omega⟩, fun i h1 h2 => ?_⟩
  obtain rfl : i = 2 := by omega
  decide

theorem isBlock_plainSample : IsBlock plainSample 3 0 2 := by
  refine ⟨endsBlock_succ (by decide) (by decide) (by decide), ⟨by decide, by decide⟩, ?_⟩
  rintro i ⟨hi, hopen⟩
  obtain rfl | rfl | rfl : i = 0 ∨ i = 1 ∨ i = 2 := by omega
  · exact le_rfl
  all_goals exact absurd hopen (by decide)

theorem extract_javadoc_plainSample : (3 : Int) - 1 < plainSample.length ∧
    IsPlainComment plainSample 2 2 ∧ EndsBlock plainSample 3 2 ∧
    (['/', '*', '*'] <+: lineAt plainSample 0) ∧
    extract .javadoc false plainSample 3 = .ok (some "Docs of a.\nint a;\nplain") ∧
    ¬ ∃ i, Encloses plainSample ['/', '*', '*'] i 2 := by
  have hlen : (3 : Int) - 1 < plainSample.length := by decide
  have hblock : IsBlock plainSample 3 0 2 := isBlock_plainSample
  obtain ⟨found, hfound, hsome, hsingle, hplain⟩ :=
    extract_javadoc_eq_block plainSample false 3 hlen
  have htext : blockText .javadoc false (between plainSample 0 2) =
      ["Docs of a.".toList, "int a;".toList, "plain".toList] := by cbv
  refine ⟨hlen, isPlainComment_plainSample, hblock.toEndsBlock, hblock.opener.1.2, ?_, ?_⟩
  · rw [hfound, (hsome _).mpr ⟨0, 2, hblock, rfl⟩, htext]
    decide
  · rw [← hsingle 0 2 hblock]
    intro hnone
    exact hnone 0 le_rfl (by decide) (by decide)

/-- **A block need not be one comment**, and a plain comment may be told with code above it. -/
theorem not_extract_javadoc_single_all :
    (¬ ∀ (lines : List Line) (n j k : Nat), n ≤ lines.length → IsBlock lines n j k →
      ∀ i, j ≤ i → i < k → ¬ ['*', '/'] <:+ lineAt lines i) ∧
    ¬ ∀ (lines : List Line) (keepTags : Bool) (index : Int) (p k : Nat),
      index - 1 < lines.length → IsPlainComment lines p k → EndsBlock lines index.toNat k →
        extract .javadoc keepTags lines index = .ok none := by
  have hlen : 3 ≤ plainSample.length := by decide
  constructor
  · intro h
    exact h plainSample 3 0 2 hlen isBlock_plainSample 0 le_rfl (by decide) (by decide)
  · intro h
    have hnone := h plainSample false 3 2 2 (by decide) isPlainComment_plainSample
      isBlock_plainSample.toEndsBlock
    have hsome := (descriptionAbove_javadoc_iff hlen false _).mpr ⟨0, 2, isBlock_plainSample, rfl⟩
    rw [extract_eq .javadoc false (by decide)] at hnone
    cases hsome.symm.trans (Except.ok.inj hnone)

end EndpointDocs.Comment
