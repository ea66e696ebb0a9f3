import EndpointDocs.Text.LineBreak
import Mathlib.Tactic.Common

/-!
# The lines of a text

* `Unbroken`: a text without a line break in it.
* `unbroken_of_mem_splitLines`: no line of a text holds a break.
* **`splitLines_append_newline`**: a newline cuts the lines of a text in two.
* `splitLines_unbroken_append`, `splitLines_flatMap_newline`: lines that end with newlines are read
  back.
* `splitLines_joinLines`: so are lines with newlines between them.
-/

namespace EndpointDocs.Text

/-- No character of a text ends a line. -/
def Unbroken (cs : List Char) : Prop := ∀ c ∈ cs, isLineBreak c = false

instance (cs : List Char) : Decidable (Unbroken cs) := List.decidableBAll _ cs

theorem Unbroken.nil : Unbroken [] := by simp [Unbroken]

theorem Unbroken.append {cs ds : List Char} (hc : Unbroken cs) (hd : Unbroken ds) :
    Unbroken (cs ++ ds) := by
  intro c h
  rcases List.mem_append.mp h with h | h
  · exact hc c h
  · exact hd c h

/-! ## One character at a time -/

/-- A character in front of a text, unless the two make one break of two characters. -/
theorem splitLines_cons {c : Char} {cs : List Char} (h : ∀ ds, c = '\r' → cs ≠ '\n' :: ds) :
    splitLines (c :: cs) =
      if isLineBreak c then [] :: splitLines cs else consLine c (splitLines cs) := by
  rw [splitLines]
  exact h

theorem splitLines_newline (cs : List Char) : splitLines ('\n' :: cs) = [] :: splitLines cs := by
  rw [splitLines_cons (by simp), if_pos (by decide)]

theorem splitLines_letter {c : Char} {cs : List Char} (h : isLineBreak c = false) :
    splitLines (c :: cs) = consLine c (splitLines cs) := by
  rw [splitLines_cons, if_neg (by simp [h])]
  rintro ds rfl
  exact absurd h (by decide)

theorem consLine_append {c : Char} {ls : List (List Char)} (h : ls ≠ []) (ls' : List (List Char)) :
    consLine c (ls ++ ls') = consLine c ls ++ ls' := by
  cases ls with
  | nil => exact absurd rfl h
  | cons l ls => rfl

theorem splitLines_ne_nil {cs : List Char} (h : cs ≠ []) : splitLines cs ≠ [] := by
  fun_cases splitLines cs with
  | case1 => exact absurd rfl h
  | case2 => simp
  | case3 => simp
  | case4 c cs => cases splitLines cs <;> simp [consLine]

/-- **No line of a text holds a break.** -/
theorem unbroken_of_mem_splitLines {cs l : List Char} (hl : l ∈ splitLines cs) : Unbroken l := by
  induction cs using splitLines.induct generalizing l with
  | case1 => simp [splitLines] at hl
  | case2 cs ih =>
    rw [splitLines] at hl
    rcases List.mem_cons.mp hl with rfl | hl
    · exact .nil
    · exact ih hl
  | case3 c cs hpair hc ih =>
    rw [splitLines_cons hpair, if_pos hc] at hl
    rcases List.mem_cons.mp hl with rfl | hl
    · exact .nil
    · exact ih hl
  | case4 c cs hpair hc ih =>
    rw [splitLines_cons hpair, if_neg hc] at hl
    have hc' : Unbroken [c] := by simpa [Unbroken] using hc
    cases hls : splitLines cs with
    | nil =>
      rw [hls, consLine, List.mem_singleton] at hl
      exact hl ▸ hc'
    | cons l' ls =>
      rw [hls, consLine] at hl
      rcases List.mem_cons.mp hl with rfl | hl
      · exact hc'.append (ih (hls ▸ List.mem_cons_self))
      · exact ih (hls ▸ List.mem_cons_of_mem _ hl)

/-! ## Newlines -/

/-- **A newline cuts the lines of a text in two**, whatever stands before and behind it. -/
theorem splitLines_append_newline (cs ds : List Char) :
    splitLines (cs ++ '\n' :: ds) = splitLines (cs ++ ['\n']) ++ splitLines ds := by
  induction cs using splitLines.induct with
  | case1 => simp [splitLines_newline, splitLines]
  | case2 cs ih => simp [splitLines, ih]
  | case3 c cs hpair hc ih =>
    by_cases hjoin : c = '\r' ∧ cs = []
    · -- the newline completes a break that the text ends with
      obtain ⟨rfl, rfl⟩ := hjoin
      simp [splitLines]
    · have hopen : ∀ es fs, c = '\r' → cs ++ '\n' :: es ≠ '\n' :: fs := by
        intro es fs hr hfs
        cases cs with
        | nil => exact hjoin ⟨hr, rfl⟩
        | cons d cs =>
          rw [List.cons_append, List.cons.injEq] at hfs
          exact hpair cs hr (by rw [hfs.1])
      rw [List.cons_append, List.cons_append, splitLines_cons (hopen ds),
        splitLines_cons (hopen []), if_pos hc, if_pos hc, ih, List.cons_append]
  | case4 c cs _ hc ih =>
    have hc' : isLineBreak c = false := by simpa using hc
    rw [List.cons_append, List.cons_append, splitLines_letter hc', splitLines_letter hc', ih,
      consLine_append (splitLines_ne_nil (by simp))]

theorem splitLines_unbroken_append {cs : List Char} (h : Unbroken cs) (ds : List Char) :
    splitLines (cs ++ '\n' :: ds) = cs :: splitLines ds := by
  induction cs with
  | nil => exact splitLines_newline ds
  | cons c cs ih =>
    rw [List.cons_append, splitLines_letter (h c List.mem_cons_self),
      ih fun d hd => h d (List.mem_cons_of_mem _ hd), consLine]

theorem splitLines_of_unbroken {cs : List Char} (hne : cs ≠ []) (h : Unbroken cs) :
    splitLines cs = [cs] := by
  induction cs with
  | nil => exact absurd rfl hne
  | cons c cs ih =>
    rw [splitLines_letter (h c List.mem_cons_self)]
    by_cases hcs : cs = []
    · subst hcs
      rfl
    · rw [ih hcs fun d hd => h d (List.mem_cons_of_mem _ hd), consLine]

/-- **Lines that are joined** are read back, if none of them is empty. -/
theorem splitLines_joinLines {ls : List (List Char)} (h : ∀ l ∈ ls, l ≠ [] ∧ Unbroken l) :
    splitLines (joinLines ls) = ls := by
  induction ls with
  | nil => rfl
  | cons l ls ih =>
    obtain ⟨⟨hne, hl⟩, hls⟩ := List.forall_mem_cons.mp h
    cases ls with
    | nil => exact splitLines_of_unbroken hne hl
    | cons l' ls =>
      have hjoin : joinLines (l :: l' :: ls) = l ++ '\n' :: joinLines (l' :: ls) := by
        simp [joinLines, joinWith]
      rw [hjoin, splitLines_unbroken_append hl, ih hls]

/-- The lines that texts make, each of them ended by a newline. -/
def endedLines (ls : List (List Char)) : List (List Char) :=
  ls.flatMap fun l => splitLines (l ++ ['\n'])

@[simp] theorem endedLines_append (ls ls' : List (List Char)) :
    endedLines (ls ++ ls') = endedLines ls ++ endedLines ls' := List.flatMap_append

theorem splitLines_flatMap_newline (ls : List (List Char)) :
    splitLines (ls.flatMap (· ++ ['\n'])) = endedLines ls := by
  induction ls with
  | nil => rfl
  | cons l ls ih =>
    rw [List.flatMap_cons, List.append_assoc, List.singleton_append, splitLines_append_newline, ih]
    rfl

theorem endedLines_of_unbroken {ls : List (List Char)} (h : ∀ l ∈ ls, Unbroken l) :
    endedLines ls = ls := by
  induction ls with
  | nil => rfl
  | cons l ls ih =>
    have hl : splitLines (l ++ ['\n']) = [l] := by
      rw [splitLines_unbroken_append (h l List.mem_cons_self), splitLines]
    have hls := ih fun l' h' => h l' (List.mem_cons_of_mem _ h')
    rw [endedLines, List.flatMap_cons, hl, ← endedLines, hls, List.singleton_append]

end EndpointDocs.Text
