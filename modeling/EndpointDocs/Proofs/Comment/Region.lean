import EndpointDocs.Comment.Block
import Mathlib.Data.Nat.Find
import Mathlib.Order.Bounds.Basic
import Mathlib.Tactic.Common

/-!
# The block above a declaration, by line numbers

`extract` walks upwards three times: over annotations, over brackets, over the lines of a block.
Here the same block is described by the numbers of its lines.

* `IsWrapped`: an annotation that starts on one line and closes its brackets on a later one.
* `Skips`, `IsNearest`: the lines above a declaration that carry its annotations, and the first
  line above them.
* `Opens`: a run of `#` lines that starts with `##`.
* `nearest_of_skips`, `exists_skips`: the walk over annotations stops where `Skips` does.
* `region_upTo`, `region_iff`: the walk over a block stops at the greatest line that opens it.
* **`extract_hash_eq_block`**: the text of a block is the text of those lines.
-/

namespace EndpointDocs.Comment

open Text

/-! ## Lines by number -/

/-- The trimmed line of a number; empty past the end. -/
def lineAt (lines : List Line) (i : Nat) : Line := trim (lines.getD i [])

/-- The lines from number `i` to number `j`, both included. -/
def between (lines : List Line) (i j : Nat) : List Line := (lines.take (j + 1)).drop i

/-- The first `n` lines, the last of them first. -/
def upTo (lines : List Line) (n : Nat) : List Line := (lines.take n).reverse

/-- The closing brackets of some lines less their opening ones. -/
def surplus (ls : List Line) : Int := ls.foldr (fun l n => bracketSurplus l + n) 0

variable {lines : List Line}

theorem lineAt_eq {i : Nat} (h : i < lines.length) : lineAt lines i = trim lines[i] := by
  rw [lineAt, List.getD_eq_getElem?_getD, List.getElem?_eq_getElem h]
  rfl

@[simp] theorem upTo_zero : upTo lines 0 = [] := rfl

theorem upTo_succ {n : Nat} (h : n < lines.length) :
    upTo lines (n + 1) = lines[n] :: upTo lines n := by
  rw [upTo, List.take_succ_eq_append_getElem h, List.reverse_append]
  rfl

theorem length_upTo {n : Nat} (h : n ≤ lines.length) : (upTo lines n).length = n := by
  simp [upTo, h]

theorem between_self_succ (k : Nat) : between lines (k + 1) k = [] := by
  simp [between]

theorem between_eq_cons {i k : Nat} (hik : i ≤ k) (h : i < lines.length) :
    between lines i k = lines[i] :: between lines (i + 1) k := by
  have hi : i < (lines.take (k + 1)).length := by rw [List.length_take]; omega
  rw [between, List.drop_eq_getElem_cons hi, List.getElem_take]
  rfl

theorem surplus_cons (l : Line) (ls : List Line) :
    surplus (l :: ls) = bracketSurplus l + surplus ls := rfl

theorem surplus_between {i k : Nat} (hik : i ≤ k) (h : i < lines.length) :
    surplus (between lines i k) = surplus (between lines (i + 1) k) + bracketSurplus lines[i] := by
  rw [between_eq_cons hik h, surplus_cons]
  omega

theorem surplus_between_self {e : Nat} (h : e < lines.length) :
    surplus (between lines e e) = bracketSurplus lines[e] := by
  rw [surplus_between le_rfl h, between_self_succ]
  simp [surplus]

theorem isAnnotated_iff (l : Line) : isAnnotated l = true ↔ ['@'] <+: l := by
  cases l with
  | nil => simp [isAnnotated]
  | cons c cs =>
    simp only [isAnnotated, isAt, List.head?_cons, Option.any_some, beq_iff_eq,
      List.cons_prefix_cons, List.nil_prefix, and_true]
    exact eq_comm

/-! ## Annotations above a declaration -/

variable (lines) in
/-- An annotation that starts on line `s` and whose brackets close on the later line `e`. -/
structure IsWrapped (s e : Nat) : Prop where
  lt : s < e
  annotated : ['@'] <+: lineAt lines s
  closed : surplus (between lines s e) ≤ 0
  waiting : ∀ i, s < i → i ≤ e → 0 < surplus (between lines i e)

variable (lines) in
/-- Line `e` ends an annotation that starts on line `s`, and is no annotation itself. -/
structure EndsWrapped (s e : Nat) : Prop extends IsWrapped lines s e where
  plain : ¬ ['@'] <+: lineAt lines e
  nonempty : lineAt lines e ≠ []
  unmarked : ¬ ['#'] <+: lineAt lines e

variable (lines) in
/--
Going upwards, the first `n` lines are left for the first `m` of them: a line that starts with `@`
is skipped on its own, any other line only together with the annotation that it ends.
-/
inductive Skips : (n m : Nat) → Prop
  | done (n : Nat) : Skips n n
  | single {n m : Nat} : ['@'] <+: lineAt lines n → Skips n m → Skips (n + 1) m
  | wrapped {s e m : Nat} : EndsWrapped lines s e → Skips s m → Skips (e + 1) m

variable (lines) in
/-- Whether a line carries annotations of what stands below it. -/
def IsSkippable (k : Nat) : Prop := ['@'] <+: lineAt lines k ∨ ∃ s, EndsWrapped lines s k

variable (lines) in
/-- The first line above line `n` that is not skipped. -/
structure IsNearest (n k : Nat) : Prop where
  skips : Skips lines n (k + 1)
  stuck : ¬ IsSkippable lines k

theorem not_isSkippable_of_nil {k : Nat} (h : lineAt lines k = []) : ¬ IsSkippable lines k := by
  rintro (ha | ⟨s, hs⟩)
  · simp [h] at ha
  · exact hs.nonempty h

theorem not_isSkippable_of_mark {k : Nat} (h : ['#'] <+: lineAt lines k) :
    ¬ IsSkippable lines k := by
  rintro (ha | ⟨s, hs⟩)
  · obtain ⟨t, ht⟩ := h
    simp [← ht] at ha
  · exact hs.unmarked h

theorem aboveWrapped_upTo {p e : Nat} (hp : p ≤ e) (he : e < lines.length) (rest : List Line) :
    aboveWrapped (surplus (between lines p e)) (upTo lines p) = some rest ↔
      ∃ s < p, rest = upTo lines s ∧ ['@'] <+: lineAt lines s ∧ surplus (between lines s e) ≤ 0 ∧
        ∀ i, s < i → i < p → 0 < surplus (between lines i e) := by
  induction p with
  | zero => simp [aboveWrapped]
  | succ p ih =>
    have hlt : p < lines.length := by omega
    simp only [upTo_succ hlt, aboveWrapped, ← surplus_between (show p ≤ e by omega) hlt]
    split_ifs with hpos hann
    · rw [ih (by omega)]
      constructor
      · rintro ⟨s, hs, rfl, ha, hc, hw⟩
        refine ⟨s, by omega, rfl, ha, hc, fun i hi hip => ?_⟩
        obtain hlt | rfl := Nat.lt_succ_iff_lt_or_eq.mp hip
        · exact hw i hi hlt
        · exact hpos
      · rintro ⟨s, hs, rfl, ha, hc, hw⟩
        obtain hsp | rfl := Nat.lt_succ_iff_lt_or_eq.mp hs
        · exact ⟨s, hsp, rfl, ha, hc, fun i hi hip => hw i hi (by omega)⟩
        · omega
    · rw [← lineAt_eq hlt, isAnnotated_iff] at hann
      constructor
      · rintro ⟨⟩
        exact ⟨p, by omega, rfl, hann, by omega, fun i _ _ => by omega⟩
      · rintro ⟨s, hs, rfl, -, -, hw⟩
        obtain hsp | rfl := Nat.lt_succ_iff_lt_or_eq.mp hs
        · exact absurd (hw p hsp (by omega)) hpos
        · rfl
    · rw [← lineAt_eq hlt, isAnnotated_iff] at hann
      simp only [false_iff, not_exists, not_and]
      intro s hs _ ha _ hw
      obtain hsp | rfl := Nat.lt_succ_iff_lt_or_eq.mp hs
      · exact hpos (hw p hsp (by omega))
      · exact hann ha

theorem wrappedAbove?_upTo {e : Nat} (he : e < lines.length) (rest : List Line) :
    wrappedAbove? lines[e] (upTo lines e) = some rest ↔
      ∃ s, IsWrapped lines s e ∧ rest = upTo lines s := by
  have h := aboveWrapped_upTo le_rfl he rest
  rw [surplus_between_self he] at h
  unfold wrappedAbove?
  split_ifs with hle
  · simp only [false_iff, not_exists, not_and]
    intro s hs
    have := hs.waiting e hs.lt le_rfl
    rw [surplus_between_self he] at this
    omega
  · rw [h]
    constructor
    · rintro ⟨s, hs, hrest, ha, hc, hw⟩
      refine ⟨s, ⟨hs, ha, hc, fun i hi hie => ?_⟩, hrest⟩
      obtain hlt | rfl := Nat.lt_or_eq_of_le hie
      · exact hw i hi hlt
      · rw [surplus_between_self he]; omega
    · rintro ⟨s, hs, hrest⟩
      exact ⟨s, hs.lt, hrest, hs.annotated, hs.closed, fun i hi hie => hs.waiting i hi hie.le⟩

/-! ## The walk over annotations -/

section Nearest

variable {s : Style} {l : Line} {ls rest : List Line}

theorem nearest_annotated (h : isAnnotated (trim l) = true) :
    nearest s (l :: ls) = nearest s ls := by
  rw [nearest, if_pos h]

theorem nearest_wrapped (h : isAnnotated (trim l) = false) (hm : mayEndWrapped s l = true)
    (hw : wrappedAbove? l ls = some rest) : nearest s (l :: ls) = nearest s rest := by
  rw [nearest, if_neg (by simp [h]), if_pos hm]
  split
  · next r hr => rw [hw] at hr; cases hr; rfl
  · next hr => rw [hw] at hr; cases hr

theorem nearest_stuck (h : isAnnotated (trim l) = false)
    (hw : mayEndWrapped s l = true → wrappedAbove? l ls = none) :
    nearest s (l :: ls) = l :: ls := by
  rw [nearest, if_neg (by simp [h])]
  split_ifs with hm
  · split
    · next r hr => rw [hw hm] at hr; cases hr
    · rfl
  · rfl

end Nearest

theorem mayEndWrapped_hash_iff (l : Line) :
    mayEndWrapped .hash l = true ↔ trim l ≠ [] ∧ ¬ ['#'] <+: trim l := by
  simp [mayEndWrapped, Style.closes, ← List.isPrefixOf_iff_prefix]

theorem Skips.le {n m : Nat} (h : Skips lines n m) : m ≤ n := by
  induction h with
  | done n => exact le_rfl
  | single _ _ ih => omega
  | wrapped hw _ ih => have := hw.lt; omega

/-- **Skipping changes nothing** for the walk over annotations. -/
theorem nearest_of_skips {n m : Nat} (h : Skips lines n m) (hn : n ≤ lines.length) :
    nearest .hash (upTo lines n) = nearest .hash (upTo lines m) := by
  induction h with
  | done n => rfl
  | @single n m ha _ ih =>
    rw [lineAt_eq hn, ← isAnnotated_iff] at ha
    rw [upTo_succ hn, nearest_annotated ha, ih (by omega)]
  | @wrapped s e m hw _ ih =>
    have ha := hw.plain
    rw [lineAt_eq hn, ← isAnnotated_iff, Bool.not_eq_true] at ha
    have hm : mayEndWrapped .hash lines[e] = true := by
      rw [mayEndWrapped_hash_iff, ← lineAt_eq hn]
      exact ⟨hw.nonempty, hw.unmarked⟩
    have := hw.lt
    have hfound := (wrappedAbove?_upTo hn _).mpr ⟨s, hw.toIsWrapped, rfl⟩
    rw [upTo_succ hn, nearest_wrapped ha hm hfound, ih (by omega)]

/-- **The walk over annotations stops** at a line that is not skippable. -/
theorem nearest_of_not_skippable {k : Nat} (hk : k < lines.length) (h : ¬ IsSkippable lines k) :
    nearest .hash (upTo lines (k + 1)) = upTo lines (k + 1) := by
  have ha : ¬ ['@'] <+: lineAt lines k := fun ha => h (.inl ha)
  rw [upTo_succ hk]
  refine nearest_stuck ?_ fun hm => ?_
  · rwa [← Bool.not_eq_true, isAnnotated_iff, ← lineAt_eq hk]
  · rw [Option.eq_none_iff_forall_ne_some]
    intro rest hr
    obtain ⟨s, hs, -⟩ := (wrappedAbove?_upTo hk rest).mp hr
    rw [mayEndWrapped_hash_iff, ← lineAt_eq hk] at hm
    exact h (.inr ⟨s, hs, ha, hm.1, hm.2⟩)

/-- **Everything above is skipped, or some line is nearest.** -/
theorem skips_zero_or_isNearest (n : Nat) : Skips lines n 0 ∨ ∃ k, IsNearest lines n k := by
  induction n using Nat.strongRecOn with
  | _ n ih =>
    cases n with
    | zero => exact .inl (.done 0)
    | succ n =>
      by_cases ha : ['@'] <+: lineAt lines n
      · obtain h | ⟨k, hk⟩ := ih n (by omega)
        · exact .inl (.single ha h)
        · exact .inr ⟨k, .single ha hk.skips, hk.stuck⟩
      by_cases hw : ∃ s, EndsWrapped lines s n
      · obtain ⟨s, hs⟩ := hw
        have := hs.lt
        obtain h | ⟨k, hk⟩ := ih s (by omega)
        · exact .inl (.wrapped hs h)
        · exact .inr ⟨k, .wrapped hs hk.skips, hk.stuck⟩
      · exact .inr ⟨n, .done _, by rintro (h | h) <;> contradiction⟩

theorem IsNearest.lt {n k : Nat} (h : IsNearest lines n k) : k < n := h.skips.le

theorem IsNearest.nearest_eq {n k : Nat} (h : IsNearest lines n k) (hn : n ≤ lines.length) :
    nearest .hash (upTo lines n) = upTo lines (k + 1) := by
  have := h.lt
  rw [nearest_of_skips h.skips hn, nearest_of_not_skippable (by omega) h.stuck]

theorem IsNearest.unique {n k k' : Nat} (h : IsNearest lines n k) (h' : IsNearest lines n k')
    (hn : n ≤ lines.length) : k = k' := by
  have := h.lt
  have := h'.lt
  have he := congrArg List.length ((h.nearest_eq hn).symm.trans (h'.nearest_eq hn))
  rw [length_upTo (by omega), length_upTo (by omega)] at he
  omega

/-! ## The walk over a block -/

/-- **The walk over a block** stops at the first line, going upwards, that opens it. -/
theorem region_upTo {s : Style} {p k : Nat} (hp : p ≤ k + 1) (hk : k < lines.length)
    (block : List Line) : region s (between lines p k) (upTo lines p) = some block ↔
      ∃ j < p, block = between lines j k ∧ s.opens (lineAt lines j) = true ∧
        (∀ i, j ≤ i → i < p → s.continues (lineAt lines i) = true) ∧
        ∀ i, j < i → i < p → s.opens (lineAt lines i) = false := by
  induction p with
  | zero => simp [region]
  | succ p ih =>
    have hlt : p < lines.length := by omega
    simp only [upTo_succ hlt, region, ← lineAt_eq hlt]
    split_ifs with hc ho
    · simp only [false_iff, not_exists, not_and]
      intro j hj _ _ hcont _
      simp [hcont p (by omega) (by omega)] at hc
    · rw [← between_eq_cons (by omega) hlt]
      constructor
      · rintro ⟨⟩
        refine ⟨p, by omega, rfl, ho, fun i hi hip => ?_, fun i hi hip => by omega⟩
        obtain rfl : i = p := by omega
        simpa using hc
      · rintro ⟨j, hj, rfl, -, -, hfirst⟩
        obtain hjp | rfl := Nat.lt_succ_iff_lt_or_eq.mp hj
        · simp [hfirst p hjp (by omega)] at ho
        · rfl
    · rw [← between_eq_cons (by omega) hlt, ih (by omega)]
      constructor
      · rintro ⟨j, hj, rfl, hopen, hcont, hfirst⟩
        refine ⟨j, by omega, rfl, hopen, fun i hi hip => ?_, fun i hi hip => ?_⟩ <;>
          obtain hlt | rfl := Nat.lt_succ_iff_lt_or_eq.mp hip
        · exact hcont i hi hlt
        · simpa using hc
        · exact hfirst i hi hlt
        · simpa using ho
      · rintro ⟨j, hj, rfl, hopen, hcont, hfirst⟩
        obtain hjp | rfl := Nat.lt_succ_iff_lt_or_eq.mp hj
        · exact ⟨j, hjp, rfl, hopen, fun i hi hip => hcont i hi (by omega),
            fun i hi hip => hfirst i hi (by omega)⟩
        · contradiction

/-- **The block that ends on line `k`** starts at the greatest line from which all go on to it. -/
theorem region_iff {s : Style} {k : Nat} (hk : k < lines.length) (block : List Line) :
    region s [] (upTo lines (k + 1)) = some block ↔
      ∃ j, IsGreatest {i | i ≤ k ∧ s.opens (lineAt lines i) = true ∧
          ∀ m, i ≤ m → m ≤ k → s.continues (lineAt lines m) = true} j ∧
        block = between lines j k := by
  have h := region_upTo (s := s) le_rfl hk block
  rw [between_self_succ] at h
  simp only [h, Nat.lt_succ_iff, ← Bool.not_eq_true]
  constructor
  · rintro ⟨j, hj, rfl, hopen, hcont, hfirst⟩
    refine ⟨j, ⟨⟨hj, hopen, hcont⟩, fun i hi => ?_⟩, rfl⟩
    by_contra hlt
    exact hfirst i (by omega) hi.1 hi.2.1
  · rintro ⟨j, ⟨⟨hj, hopen, hcont⟩, hgreatest⟩, rfl⟩
    refine ⟨j, hj, rfl, hopen, hcont, fun i hi hik hopen' => ?_⟩
    have := hgreatest ⟨hik, hopen', fun m h1 h2 => hcont m (by omega) h2⟩
    omega

variable (lines) in
/-- The lines from `j` to `k` start with `#`, the first of them with `##`. -/
structure Opens (j k : Nat) : Prop where
  le : j ≤ k
  opener : ['#', '#'] <+: lineAt lines j
  marked : ∀ i, j ≤ i → i ≤ k → ['#'] <+: lineAt lines i

theorem opens_hash_iff (l : Line) : Style.opens .hash l = true ↔ ['#', '#'] <+: l :=
  List.isPrefixOf_iff_prefix

theorem continues_hash_iff (l : Line) : Style.continues .hash l = true ↔ ['#'] <+: l :=
  List.isPrefixOf_iff_prefix

theorem closes_hash_iff (l : Line) : Style.closes .hash l = true ↔ ['#'] <+: l :=
  List.isPrefixOf_iff_prefix

/-- **The block of `#` lines that ends on line `k`** starts at the greatest line that opens one. -/
theorem region_hash_iff {k : Nat} (hk : k < lines.length) (block : List Line) :
    region .hash [] (upTo lines (k + 1)) = some block ↔
      ∃ j, IsGreatest {i | Opens lines i k} j ∧ block = between lines j k := by
  have hopens : ∀ i, Opens lines i k ↔ i ≤ k ∧ Style.opens .hash (lineAt lines i) = true ∧
      ∀ m, i ≤ m → m ≤ k → Style.continues .hash (lineAt lines m) = true := by
    intro i
    simp only [opens_hash_iff, continues_hash_iff]
    exact ⟨fun h => ⟨h.le, h.opener, h.marked⟩, fun h => ⟨h.1, h.2.1, h.2.2⟩⟩
  simp only [region_iff hk, hopens]

theorem exists_greatest_of_opens {j k : Nat} (h : Opens lines j k) :
    ∃ i, IsGreatest {i | Opens lines i k} i := by
  classical
  refine ⟨Nat.findGreatest (fun i => Opens lines i k) k,
    Nat.findGreatest_spec (P := fun i => Opens lines i k) h.le h, fun i hi => ?_⟩
  exact Nat.le_findGreatest hi.le hi

/-! ## The text of a block -/

/-- The cleaned lines of a block: none that is empty and, unless tags are kept, none with `@`. -/
def cleanedLines (keepTags : Bool) (block : List Line) : List Line :=
  (block.map fun l => Style.clean .hash (trim l)).filter fun c =>
    c ≠ [] ∧ (keepTags = true ∨ ¬ ['@'] <+: c)

theorem blockText_hash_eq (keepTags : Bool) (block : List Line) :
    blockText .hash keepTags block = cleanedLines keepTags block := by
  unfold blockText cleanedLines
  congr 1
  funext c
  rw [Bool.eq_iff_iff]
  simp [isKept, ← isAnnotated_iff]

theorem descriptionAbove_hash_iff {n : Nat} (hn : n ≤ lines.length) (keepTags : Bool)
    (text : String) : descriptionAbove .hash keepTags (upTo lines n) = some text ↔
      ∃ k j, IsNearest lines n k ∧ IsGreatest {i | Opens lines i k} j ∧
        text = String.ofList (joinLines (cleanedLines keepTags (between lines j k))) := by
  obtain hall | ⟨k, hk⟩ : Skips lines n 0 ∨ ∃ k, IsNearest lines n k := skips_zero_or_isNearest n
  · -- nothing is left above, so there is neither a block nor a nearest line
    have hnil : nearest .hash (upTo lines n) = [] := by
      rw [nearest_of_skips hall hn, upTo_zero, nearest]
    simp only [descriptionAbove, textAbove, blockLines, hnil, Option.map_none, reduceCtorEq,
      false_iff, not_exists, not_and]
    intro k _ hk
    have := hk.lt
    rw [hk.nearest_eq hn, upTo_succ (by omega)] at hnil
    cases hnil
  · have hlt := hk.lt
    have hkl : k < lines.length := by omega
    have hblock : blockLines .hash (upTo lines n) =
        if ['#'] <+: lineAt lines k then region .hash [] (upTo lines (k + 1)) else none := by
      rw [blockLines, hk.nearest_eq hn, upTo_succ hkl]
      simp only [← lineAt_eq hkl, closes_hash_iff]
    have hregion : ∀ block, blockLines .hash (upTo lines n) = some block ↔
        ∃ j, IsGreatest {i | Opens lines i k} j ∧ block = between lines j k := by
      intro block
      rw [hblock]
      split_ifs with hmark
      · exact region_hash_iff hkl block
      · simp only [false_iff, not_exists, not_and]
        intro j hj
        exact absurd (hj.1.marked k hj.1.le le_rfl) hmark
    simp only [descriptionAbove, textAbove, Option.map_map, Option.map_eq_some_iff,
      Function.comp_apply, blockText_hash_eq, hregion]
    constructor
    · rintro ⟨_, ⟨j, hj, rfl⟩, rfl⟩
      exact ⟨k, j, hk, hj, rfl⟩
    · rintro ⟨k', j, hk', hj, rfl⟩
      obtain rfl := hk'.unique hk hn
      exact ⟨_, ⟨j, hj, rfl⟩, rfl⟩

theorem linesAbove_eq_upTo {index : Int} (h : index - 1 < lines.length) :
    linesAbove lines index = .ok (upTo lines index.toNat) := by
  unfold linesAbove
  split_ifs with h0 h1
  · rw [Int.toNat_of_nonpos h0, upTo_zero]
  · omega
  · rfl

/--
**The documentation block of a declaration.** Above line `index`, let `k` be the first line that is
not skipped and `j` the greatest line that opens a run of `#` lines ending at `k`: the text is that
of the lines from `j` to `k`, and there is none unless both exist. A blank line, a line of code or
a run without an opener right above the declaration leaves it without a text.
-/
theorem extract_hash_eq_block (lines : List Line) (keepTags : Bool) (index : Int)
    (h : index - 1 < lines.length) :
    ∃ found, extract .hash keepTags lines index = .ok found ∧
      (∀ text, found = some text ↔
        ∃ k j, IsNearest lines index.toNat k ∧ IsGreatest {i | Opens lines i k} j ∧
          text = String.ofList (joinLines (cleanedLines keepTags (between lines j k)))) ∧
      (found = none ↔ ∀ k, IsNearest lines index.toNat k → ∀ j, ¬ Opens lines j k) ∧
      ∀ k : Nat, index = k + 1 →
        lineAt lines k = [] ∨ (¬ ['#'] <+: lineAt lines k ∧ ¬ IsSkippable lines k) ∨
          (['#'] <+: lineAt lines k ∧ ∀ j, ¬ Opens lines j k) → found = none := by
  have hn : index.toNat ≤ lines.length := by omega
  have hiff := descriptionAbove_hash_iff hn keepTags
  have hnone : descriptionAbove .hash keepTags (upTo lines index.toNat) = none ↔
      ∀ k, IsNearest lines index.toNat k → ∀ j, ¬ Opens lines j k := by
    rw [Option.eq_none_iff_forall_ne_some]
    constructor
    · intro hne k hk j hj
      obtain ⟨i, hi⟩ := exists_greatest_of_opens hj
      exact hne _ ((hiff _).mpr ⟨k, i, hk, hi, rfl⟩)
    · intro hno text ht
      obtain ⟨k, j, hk, hj, -⟩ := (hiff text).mp ht
      exact hno k hk j hj.1
  refine ⟨descriptionAbove .hash keepTags (upTo lines index.toNat), ?_, hiff, hnone, ?_⟩
  · rw [extract, linesAbove_eq_upTo h]
    rfl
  · intro k hindex hk
    have hskip : ¬ IsSkippable lines k := by
      obtain h0 | ⟨-, hcode⟩ | ⟨hmark, -⟩ := hk
      · exact not_isSkippable_of_nil h0
      · exact hcode
      · exact not_isSkippable_of_mark hmark
    have hnear : IsNearest lines index.toNat k := ⟨by rw [hindex]; exact .done _, hskip⟩
    rw [hnone]
    intro k' hk' j hj
    obtain rfl := hk'.unique hnear hn
    obtain h0 | ⟨hcode, -⟩ | ⟨-, hrun⟩ := hk
    · simpa [h0] using hj.marked k' hj.le le_rfl
    · exact hcode (hj.marked k' hj.le le_rfl)
    · exact hrun j hj

/-- A function under an annotation that is wrapped over three lines. -/
def wrappedSample : List Line :=
  ["## Greets.", "#  @param name who", "@get(", " path", ")", "def hello(name):"].map String.toList

theorem extract_hash_wrappedSample : (5 : Int) - 1 < wrappedSample.length ∧
    extract .hash true wrappedSample 5 = .ok (some "Greets.\n@param name who") := by
  have hlen : (5 : Int) - 1 < wrappedSample.length := by decide
  obtain ⟨found, hfound, hsome, -, -⟩ := extract_hash_eq_block wrappedSample true 5 hlen
  have hends : EndsWrapped wrappedSample 2 4 := by
    refine ⟨⟨by decide, by decide, by decide, fun i h1 h2 => ?_⟩, by decide, by decide, by decide⟩
    obtain rfl | rfl : i = 3 ∨ i = 4 := by omega
    all_goals decide
  have hstuck : ¬ IsSkippable wrappedSample 1 := not_isSkippable_of_mark (by decide)
  have hblock : IsGreatest {i | Opens wrappedSample i 1} 0 := by
    refine ⟨⟨by decide, by decide, fun i _ h2 => ?_⟩, fun i hi => ?_⟩
    · obtain rfl | rfl : i = 0 ∨ i = 1 := by omega
      all_goals decide
    · by_contra hpos
      obtain rfl : i = 1 := by have := hi.le; omega
      exact absurd hi.opener (by decide)
  have htext : cleanedLines true (between wrappedSample 0 1) =
      ["Greets.".toList, "@param name who".toList] := by cbv
  refine ⟨hlen, ?_⟩
  rw [hfound, (hsome _).mpr ⟨1, 0, ⟨.wrapped hends (.done 2), hstuck⟩, hblock, rfl⟩, htext]
  decide

end EndpointDocs.Comment
