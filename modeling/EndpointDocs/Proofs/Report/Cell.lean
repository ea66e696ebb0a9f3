import EndpointDocs.Proofs.Report.Table

/-!
# Texts on one line

A cell of a table takes a text of any number of lines.

* `breakChars`, `IsBreak`: what breaks a line; `isLineBreak_iff`.
* `OnOneLine`: how a text is put on one line, character by character and break by break.
* `onOneLine_flatten`, `OnOneLine.flatten_eq`: every text is put on one line in just one way.
* **`clean_on_one_line`**: which texts fit into a cell, and what becomes of the others.
-/

namespace EndpointDocs.Cell

open Text (isLineBreak splitLines Unbroken)
open Report (Fits fits_iff fits_clean)

/-! ## Breaks -/

/-- The characters that end a line on their own. -/
def breakChars : List Char :=
  ['\n', '\x0b', '\x0c', '\r', '\x1c', '\x1d', '\x1e', '\u0085', '\u2028', '\u2029']

theorem isLineBreak_iff (c : Char) : isLineBreak c = true ↔ c ∈ breakChars := by
  simp only [isLineBreak, breakChars, List.mem_cons, List.not_mem_nil, or_false, ← Char.toNat_inj,
    Bool.or_eq_true, Bool.and_eq_true, decide_eq_true_eq, beq_iff_eq]
  show _ ↔ c.toNat = 10 ∨ c.toNat = 11 ∨ c.toNat = 12 ∨ c.toNat = 13 ∨ c.toNat = 28 ∨
    c.toNat = 29 ∨ c.toNat = 30 ∨ c.toNat = 133 ∨ c.toNat = 8232 ∨ c.toNat = 8233
  omega

theorem isLineBreak_eq_false_iff (c : Char) : isLineBreak c = false ↔ c ∉ breakChars := by
  rw [← isLineBreak_iff, Bool.not_eq_true]

theorem fits_iff_plain (s : String) : Fits s ↔ ∀ c ∈ '|' :: breakChars, c ∉ s.toList := by
  rw [fits_iff, List.forall_mem_cons, and_comm, Unbroken]
  refine and_congr_right fun _ => ?_
  constructor
  · intro h c hc hmem
    exact (isLineBreak_eq_false_iff c).mp (h c hmem) hc
  · intro h c hmem
    exact (isLineBreak_eq_false_iff c).mpr fun hc => h c hc hmem

/-- What breaks a line: a character on its own, or a carriage return with its newline. -/
inductive IsBreak : List Char → Prop
  | single {c : Char} : c ∈ breakChars → IsBreak [c]
  | pair : IsBreak ['\r', '\n']

/-! ## One line -/

/--
How a text is put on one line: a bar becomes a slash, a break between two parts a space, and a break
at the end goes. A carriage return with a newline behind it is no break of its own.
-/
inductive OnOneLine : List Char → List Char → Prop
  | nil : OnOneLine [] []
  | bar {cs ds : List Char} : OnOneLine cs ds → OnOneLine ('|' :: cs) ('/' :: ds)
  | letter {c : Char} {cs ds : List Char} : c ∉ '|' :: breakChars → OnOneLine cs ds →
      OnOneLine (c :: cs) (c :: ds)
  | final {b : List Char} : IsBreak b → OnOneLine b []
  | inner {b cs ds : List Char} : IsBreak b → (b = ['\r'] → cs.head? ≠ some '\n') → cs ≠ [] →
      OnOneLine cs ds → OnOneLine (b ++ cs) (' ' :: ds)

variable {b cs ds : List Char} {c : Char}

theorem splitLines_break (hb : IsBreak b) (hopen : b = ['\r'] → cs.head? ≠ some '\n') :
    splitLines (b ++ cs) = [] :: splitLines cs := by
  cases hb with
  | pair => rw [List.cons_append, List.singleton_append, splitLines]
  | @single c hc =>
    rw [List.singleton_append, Text.splitLines_cons, if_pos ((isLineBreak_iff c).mpr hc)]
    rintro ds rfl rfl
    exact hopen rfl rfl

theorem flatten_letter (hc : c ∉ breakChars) (cs : List Char) :
    flatten (c :: cs) = unbar c :: flatten cs := by
  unfold flatten
  rw [Text.splitLines_letter ((isLineBreak_eq_false_iff c).mpr hc)]
  match splitLines cs with
  | [] => rfl
  | [l] => rfl
  | l :: l' :: ls => rfl

theorem flatten_final (hb : IsBreak b) : flatten b = [] := by
  have h : splitLines (b ++ []) = [] :: splitLines [] := splitLines_break hb (by simp)
  rw [List.append_nil] at h
  rw [flatten, h]
  rfl

theorem flatten_inner (hb : IsBreak b) (hopen : b = ['\r'] → cs.head? ≠ some '\n')
    (hne : cs ≠ []) : flatten (b ++ cs) = ' ' :: flatten cs := by
  rw [flatten, splitLines_break hb hopen, flatten]
  obtain ⟨l, ls, hls⟩ := List.exists_cons_of_ne_nil (Text.splitLines_ne_nil hne)
  rw [hls]
  rfl

theorem onOneLine_break (hb : IsBreak b) (hopen : b = ['\r'] → cs.head? ≠ some '\n')
    (ih : OnOneLine cs (flatten cs)) : OnOneLine (b ++ cs) (flatten (b ++ cs)) := by
  by_cases hne : cs = []
  · rw [hne, List.append_nil, flatten_final hb]
    exact .final hb
  · rw [flatten_inner hb hopen hne]
    exact .inner hb hopen hne ih

/-- **Every text** is put on one line. -/
theorem onOneLine_flatten (cs : List Char) : OnOneLine cs (flatten cs) := by
  induction cs using Text.splitLines.induct with
  | case1 => exact .nil
  | case2 cs ih => exact onOneLine_break .pair (by simp) ih
  | case3 c cs hpair hc ih =>
    refine onOneLine_break (.single ((isLineBreak_iff c).mp hc)) (fun hr hhead => ?_) ih
    obtain ⟨ds, rfl⟩ := List.head?_eq_some_iff.mp hhead
    exact hpair ds (List.cons.inj hr).1 rfl
  | case4 c cs _ hc ih =>
    rw [isLineBreak_iff] at hc
    rw [flatten_letter hc, unbar]
    split_ifs with hbar
    · rw [hbar]
      exact .bar ih
    · exact .letter (by simp [hbar, hc]) ih

/-- **It is put on one line** in one way only. -/
theorem OnOneLine.flatten_eq (h : OnOneLine cs ds) : flatten cs = ds := by
  induction h with
  | nil => rfl
  | bar _ ih =>
    rw [flatten_letter (by decide), ih]
    rfl
  | letter hc _ ih =>
    rw [List.mem_cons, not_or] at hc
    rw [flatten_letter hc.2, ih, unbar, if_neg hc.1]
  | final hb => exact flatten_final hb
  | inner hb hopen hne _ ih => rw [flatten_inner hb hopen hne, ih]

theorem onOneLine_self (h : ∀ c ∈ '|' :: breakChars, c ∉ cs) : OnOneLine cs cs := by
  induction cs with
  | nil => exact .nil
  | cons c cs ih =>
    refine .letter (fun hc => h c hc List.mem_cons_self) (ih fun d hd hmem => ?_)
    exact h d hd (List.mem_cons_of_mem c hmem)

theorem clean_eq_iff (s t : String) : clean s = t ↔ OnOneLine s.toList t.toList := by
  constructor
  · rintro rfl
    rw [clean, String.toList_ofList]
    exact onOneLine_flatten s.toList
  · intro h
    rw [clean, h.flatten_eq, String.ofList_toList]

theorem clean_eq_self (s : String) (h : Fits s) : clean s = s :=
  (clean_eq_iff s s).mpr (onOneLine_self ((fits_iff_plain s).mp h))

/--
**A text in a cell is on one line.** It has no bar and no character that breaks a line, so it stays
as it is when it is put into a cell again, and just the texts without bars and breaks stay as they
are at once. Another text changes at its bars, which become slashes, at the breaks inside it, which
become one space each, and at a break at its end, which goes; it changes nowhere else.
-/
theorem clean_on_one_line (s : String) :
    (∀ c ∈ '|' :: breakChars, c ∉ (clean s).toList) ∧ clean (clean s) = clean s ∧
      (clean s = s ↔ ∀ c ∈ '|' :: breakChars, c ∉ s.toList) ∧
      ∀ t, clean s = t ↔ OnOneLine s.toList t.toList := by
  refine ⟨(fits_iff_plain _).mp (fits_clean s), clean_eq_self _ (fits_clean s), ?_, clean_eq_iff s⟩
  rw [← fits_iff_plain]
  exact ⟨fun h => h ▸ fits_clean s, clean_eq_self s⟩

example : clean "a | b\r\n\n\u2028c\r" = "a / b   c" := by decide

end EndpointDocs.Cell
