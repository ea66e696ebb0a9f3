import EndpointDocs.Proofs.Comment.Bracketed
import EndpointDocs.Proofs.Comment.Markup
import EndpointDocs.Proofs.Comment.Param

/-!
# Texts with and without their tags

The text of a block can be asked for with its tags or without them.

* `untagged`: a text without the lines that start with `@`.
* `untagged_blockText`: the text of a block without tags, from the one with them.
* `collect`: the walk over a block in one pass, where a tag is dropped as it is met.
* `IsRun`, `exists_run`: the lines of a block; `collect_upTo`: the walk stops at the opener.
* **`extract_untagged`**: which lines make up a block does not depend on the tags in it.
-/

namespace EndpointDocs.Comment

open Text

/-- The text without the lines that start with `@`. -/
def untagged (text : String) : String :=
  String.ofList (joinLines ((text.toList.splitOn '\n').filter (!isAnnotated ·)))

/-! ## Lines of a text -/

section Joined

variable {ws : List Line}

theorem joinLines_eq_intercalate (ws : List Line) : joinLines ws = ['\n'].intercalate ws := by
  induction ws with
  | nil => rfl
  | cons w ws ih =>
    by_cases hws : ws = []
    · subst hws
      simp [joinLines, joinWith]
    · rw [joinLines_cons w hws, ih, List.intercalate_cons_of_ne_nil hws]
      simp

theorem splitOn_joinLines (hne : ws ≠ []) (hws : ∀ w ∈ ws, '\n' ∉ w) :
    (joinLines ws).splitOn '\n' = ws := by
  rw [joinLines_eq_intercalate]
  exact List.splitOn_intercalate '\n' hws hne

theorem untagged_joinLines (hws : ∀ w ∈ ws, '\n' ∉ w) :
    untagged (String.ofList (joinLines ws)) =
      String.ofList (joinLines (ws.filter (!isAnnotated ·))) := by
  by_cases hne : ws = []
  · subst hne
    rfl
  · rw [untagged, String.toList_ofList, splitOn_joinLines hne hws]

end Joined

/-! ## Both texts of a block -/

theorem filter_blockText (s : Style) (block : List Line) :
    (blockText s true block).filter (!isAnnotated ·) = blockText s false block := by
  rw [blockText, blockText, List.filter_filter]
  congr 1
  funext w
  simp [isKept, Bool.and_comm]

/-- **The text without tags** is the text with them less the lines that start with `@`. -/
theorem untagged_blockText (s : Style) {block : List Line} (h : ∀ l ∈ block, '\n' ∉ l) :
    untagged (String.ofList (joinLines (blockText s true block))) =
      String.ofList (joinLines (blockText s false block)) := by
  rw [untagged_joinLines, filter_blockText]
  intro w hw hmem
  obtain ⟨l, hl, rfl, -⟩ := exists_of_mem_blockText hw
  exact h l hl ((clean_sublist s l).subset hmem)

/-! ## One pass -/

/--
The walk over a block in one pass, with the lines that are left above it. A line is cleaned when it
is met, and only kept if it stays in the text; a tag that opens the block ends the walk as well.
-/
def collect (s : Style) (keepTags : Bool) (texts : List Line) :
    List Line → Option (List Line × List Line)
  | [] => none
  | l :: ls =>
    let text := s.clean (trim l)
    if !s.continues (trim l) then none
    else if !keepTags && isAnnotated text then
      if s.opens (trim l) then some (texts, ls) else collect s keepTags texts ls
    else
      let texts := if text.isEmpty then texts else text :: texts
      if s.opens (trim l) then some (texts, ls) else collect s keepTags texts ls

section Collect

variable {s : Style} {keepTags : Bool} {below ls : List Line} {l : Line}

theorem blockText_cons (s : Style) (keepTags : Bool) (l : Line) (below : List Line) :
    blockText s keepTags (l :: below) =
      if isKept keepTags (s.clean (trim l)) then s.clean (trim l) :: blockText s keepTags below
      else blockText s keepTags below := by
  rw [blockText, List.map_cons, List.filter_cons]
  rfl

/-- **A step of the walk** collects the text of one more line, unless the line is no part. -/
theorem collect_cons (s : Style) (keepTags : Bool) (below : List Line) (l : Line)
    (ls : List Line) : collect s keepTags (blockText s keepTags below) (l :: ls) =
      if !s.continues (trim l) then none
      else if s.opens (trim l) then some (blockText s keepTags (l :: below), ls)
      else collect s keepTags (blockText s keepTags (l :: below)) ls := by
  rw [collect, blockText_cons]
  by_cases htag : (!keepTags && isAnnotated (s.clean (trim l))) = true
  · have hkept : isKept keepTags (s.clean (trim l)) = false := by
      simp_all [isKept]
    simp only [htag, hkept, if_true, Bool.false_eq_true, if_false]
  · have hkept : isKept keepTags (s.clean (trim l)) = !(s.clean (trim l)).isEmpty := by
      cases keepTags <;> simp_all [isKept]
    simp only [htag, hkept, Bool.not_eq_true']
    cases (s.clean (trim l)).isEmpty <;> simp

end Collect

/-! ## The lines of a block -/

section Run

variable {lines : List Line} {s : Style}

variable (lines s) in
/-- Line `j` opens a block that line `k` closes, and no line between them opens another. -/
structure IsRun (j k : Nat) : Prop where
  le : j ≤ k
  opener : s.opens (lineAt lines j) = true
  continued : ∀ i, j ≤ i → i ≤ k → s.continues (lineAt lines i) = true
  single : ∀ i, j < i → i ≤ k → s.opens (lineAt lines i) = false
  closed : s.closes (lineAt lines k) = true

theorem exists_run {n : Nat} (hn : n ≤ lines.length) {block : List Line}
    (h : blockLines s (upTo lines n) = some block) :
    ∃ j k, IsRun lines s j k ∧ k < n ∧ block = between lines j k := by
  obtain ⟨m, hm, hleft⟩ := nearest_upTo s hn
  rw [blockLines, hleft] at h
  cases m with
  | zero => cases h
  | succ k =>
    have hk : k < lines.length := by omega
    rw [upTo_succ hk] at h
    simp only [← lineAt_eq hk, Option.ite_none_right_eq_some] at h
    obtain ⟨hclosed, hregion⟩ := h
    have hnil : between lines (k + 1) k = [] := between_self_succ k
    rw [← upTo_succ hk, ← hnil, region_upTo le_rfl hk] at hregion
    obtain ⟨j, hj, rfl, hopen, hcont, hfirst⟩ := hregion
    exact ⟨j, k, ⟨by omega, hopen, fun i h1 h2 => hcont i h1 (by omega),
      fun i h1 h2 => hfirst i h1 (by omega), hclosed⟩, hm, rfl⟩

/-- **The walk stops** at the opener, with the texts of all lines from there on. -/
theorem collect_upTo {j k : Nat} (h : IsRun lines s j k) (hk : k < lines.length)
    (keepTags : Bool) {p : Nat} (hj : j < p) (hp : p ≤ k + 1) :
    collect s keepTags (blockText s keepTags (between lines p k)) (upTo lines p) =
      some (blockText s keepTags (between lines j k), upTo lines j) := by
  induction p with
  | zero => omega
  | succ p ih =>
    have hlt : p < lines.length := by omega
    rw [upTo_succ hlt, collect_cons, ← lineAt_eq hlt, h.continued p (by omega) (by omega),
      ← between_eq_cons (by omega) hlt]
    obtain hjp | rfl := Nat.lt_succ_iff_lt_or_eq.mp hj
    · rw [h.single p hjp (by omega)]
      exact ih hjp (by omega)
    · rw [h.opener]
      rfl

theorem mem_of_mem_between {j k : Nat} {l : Line} (h : l ∈ between lines j k) : l ∈ lines :=
  List.mem_of_mem_take (List.mem_of_mem_drop h)

theorem extract_of_past (s : Style) (keepTags : Bool) {index : Int} (h : lines.length < index) :
    extract s keepTags lines index = .error .noSuchLine := by
  rw [extract, linesAbove, if_neg (by omega), if_pos h]
  rfl

end Run

/--
**A text without tags** is the text with them less its lines that start with `@`, and there is one
just when there is one with tags. Dropping a tag moves neither end of a block, even if the opener or
the closer is a tag: one pass over the lines runs from the same closer to the same opener.
-/
theorem extract_untagged {lines : List Line} (hlines : ∀ l ∈ lines, '\n' ∉ l) (s : Style)
    (index : Int) :
    extract s false lines index = (extract s true lines index).map (Option.map untagged) ∧
    ∀ text, extract s true lines index = .ok (some text) →
      ∃ j k : Nat, IsRun lines s j k ∧ k < index ∧ ∀ keepTags, ∃ texts,
        collect s keepTags [] (upTo lines (k + 1)) = some (texts, upTo lines j) ∧
          extract s keepTags lines index = .ok (some (String.ofList (joinLines texts))) := by
  by_cases hindex : index - 1 < lines.length
  · have hn : index.toNat ≤ lines.length := by omega
    simp only [extract_eq _ _ hindex, descriptionAbove, textAbove]
    cases hblock : blockLines s (upTo lines index.toNat) with
    | none => simp [Except.map]
    | some block =>
      obtain ⟨j, k, hrun, hk, rfl⟩ := exists_run hn hblock
      have hunbroken : ∀ l ∈ between lines j k, '\n' ∉ l := fun l hl =>
        hlines l (mem_of_mem_between hl)
      refine ⟨?_, fun text _ => ⟨j, k, hrun, by omega, fun keepTags => ?_⟩⟩
      · simp [Except.map, untagged_blockText s hunbroken]
      · have hpass := collect_upTo hrun (by omega) keepTags (Nat.lt_succ_of_le hrun.le) le_rfl
        rw [between_self_succ] at hpass
        exact ⟨_, hpass, rfl⟩
  · have hpast : (lines.length : Int) < index := by omega
    simp [extract_of_past s _ hpast, Except.map]

/-- A function below a block that a tag opens and a tag closes. -/
def taggedSample : List Line :=
  ["## @since 1", "#  Adds.", "#  @return it", "def add():"].map String.toList

theorem extract_untagged_taggedSample : (∀ l ∈ taggedSample, '\n' ∉ l) ∧
    extract .hash true taggedSample 3 = .ok (some "@since 1\nAdds.\n@return it") ∧
    extract .hash false taggedSample 3 = .ok (some "Adds.") ∧
    ∃ j k, IsRun taggedSample .hash j k := by
  have hlines : ∀ l ∈ taggedSample, '\n' ∉ l := by decide
  have htagged : extract .hash true taggedSample 3 =
      .ok (some "@since 1\nAdds.\n@return it") := by decide +kernel
  obtain ⟨huntagged, hrun⟩ := extract_untagged hlines .hash 3
  obtain ⟨j, k, hjk, -, -⟩ := hrun _ htagged
  refine ⟨hlines, htagged, ?_, j, k, hjk⟩
  have hrest : untagged "@since 1\nAdds.\n@return it" = "Adds." := by decide
  rw [huntagged, htagged, ← hrest]
  rfl

end EndpointDocs.Comment
