import EndpointDocs.Proofs.Comment.Written
import EndpointDocs.Source.Search

/-!
# Lines that declare something

* `declaresClass_iff`, `declaresField_iff`: what is searched for, as a cut of the line.
* `IsName`, `endsInWord`: texts that may stand as names, those beyond ASCII included; a name may end
  in a mark that belongs to the letter before it and is no word character.
* `classStatement`, `fieldStatement`: declarations as they are written.
* **`declaresClass_classStatement`**: a class statement declares its class only if a word ends
  where the name ends.
* **`declaresField_fieldStatement_iff`**: a field statement declares its own field and no other.
* `IsCode`: lines that are no comment and no annotation.
-/

namespace EndpointDocs.Source

open Comment Text

/-! ## What is searched for -/

/-- **A class is declared** by `class` as a word of its own, blanks, and the name up to an edge. -/
theorem declaresClass_iff {name : List Char} {l : Line} :
    declaresClass name l = true ↔
      ∃ before gap rest, l = before ++ ("class".toList ++ (gap ++ (name ++ rest))) ∧
        before.getLast?.any isWordChar = false ∧ gap ≠ [] ∧ Blank gap ∧
        atWordEdge name.getLast? rest.head? = true := by
  simp only [declaresClass, somewhere_iff, classHere, Bool.and_eq_true, after?_any_iff,
    afterSomeBlanks_iff, Option.or_none]
  constructor
  · rintro ⟨before, _, rfl, hedge, _, rfl, gap, _, rfl, hne, hgap, rest, rfl, hend⟩
    have hword : before.getLast?.any isWordChar = false := by
      have hc : isWordChar 'c' = true := by decide
      simpa [atWordEdge, hc] using hedge
    exact ⟨before, gap, rest, rfl, hword, hne, hgap, hend⟩
  · rintro ⟨before, gap, rest, rfl, hword, hne, hgap, hend⟩
    have hedge : atWordEdge before.getLast? (some 'c') = true := by
      have hc : isWordChar 'c' = true := by decide
      simp [atWordEdge, hword, hc]
    exact ⟨before, _, rfl, hedge, _, rfl, gap, _, rfl, hne, hgap, rest, rfl, hend⟩

/-- **A field is declared** by its name, first on the line, and a colon or an equals sign. -/
theorem declaresField_iff {name : List Char} {l : Line} :
    declaresField name l = true ↔
      ∃ margin gap rest, l = margin ++ (name ++ (gap ++ rest)) ∧ Blank margin ∧ Blank gap ∧
        (rest.head? = some ':' ∨ rest.head? = some '=') := by
  simp only [declaresField, afterBlanks_iff, after?_any_iff, Bool.or_eq_true, beq_iff_eq]
  constructor
  · rintro ⟨margin, _, rfl, hmargin, _, rfl, gap, rest, rfl, hgap, hrest⟩
    exact ⟨margin, gap, rest, rfl, hmargin, hgap, hrest⟩
  · rintro ⟨margin, gap, rest, rfl, hmargin, hgap, hrest⟩
    exact ⟨margin, _, rfl, hmargin, _, rfl, gap, rest, rfl, hgap, hrest⟩

/-! ## Names -/

/-- Whether a name may hold a character: a word character, or any beyond ASCII but a blank. -/
def isNameChar (c : Char) : Bool := !isBlank c && (0x80 ≤ c.toNat || isWordChar c)

/-- Whether a name ends as words do. -/
def endsInWord (cs : List Char) : Bool := cs.getLast?.any isWordChar

/-- A text may stand as the name of a class or a field, as every identifier may. -/
structure IsName (cs : List Char) : Prop where
  ne_nil : cs ≠ []
  allowed : ∀ c ∈ cs, isNameChar c = true

theorem isName_iff (cs : List Char) : IsName cs ↔ cs ≠ [] ∧ cs.all isNameChar = true := by
  rw [List.all_eq_true]
  exact ⟨fun h => ⟨h.ne_nil, h.allowed⟩, fun h => ⟨h.1, h.2⟩⟩

instance (cs : List Char) : Decidable (IsName cs) := decidable_of_iff _ (isName_iff cs).symm

theorem isBlank_of_isNameChar {c : Char} (h : isNameChar c = true) : isBlank c = false := by
  simp only [isNameChar, Bool.and_eq_true, Bool.not_eq_true'] at h
  exact h.1

theorem IsName.solid {name : List Char} (h : IsName name) : Solid name :=
  ⟨h.ne_nil, fun c hc => isBlank_of_isNameChar (h.allowed c hc)⟩

/-- The punctuation that a reader of declarations looks at; none of it is part of a name. -/
def punctuation : List Char := "()[]{}:=#@".toList

theorem not_mem_punctuation_of_isNameChar {c : Char} (h : isNameChar c = true) :
    c ∉ punctuation := by
  have hnone : punctuation.all (!isNameChar ·) = true := by decide
  intro hc
  have := List.all_eq_true.mp hnone c hc
  simp [h] at this

theorem not_mem_punctuation_of_isBlank {c : Char} (h : isBlank c = true) : c ∉ punctuation := by
  have hnone : punctuation.all (!isBlank ·) = true := by decide
  intro hc
  have := List.all_eq_true.mp hnone c hc
  simp [h] at this

/-! ## Brackets -/

theorem bracketSurplus_append (l l' : Line) :
    bracketSurplus (l ++ l') = bracketSurplus l + bracketSurplus l' := by
  simp only [bracketSurplus, List.countP_append]
  omega

theorem bracketSurplus_eq_zero {l : Line} (h : ∀ c ∈ l, c ∉ punctuation) :
    bracketSurplus l = 0 := by
  have hnone : ∀ p : Char → Bool, (∀ c, p c = true → c ∈ punctuation) → l.countP p = 0 := by
    intro p hp
    rw [List.countP_eq_zero]
    exact fun c hc hpc => h c hc (hp c hpc)
  rw [bracketSurplus, hnone, hnone]
  · rfl
  all_goals
    intro c hc
    simp only [Bool.or_eq_true, beq_iff_eq] at hc
    rcases hc with (rfl | rfl) | rfl <;> decide

/-! ## Lines of code -/

/-- A line that is neither blank, nor a comment, nor an annotation. -/
structure IsCode (l : Line) : Prop where
  nonblank : isEmptyLine l = false
  uncommented : isComment .hash l = false
  unannotated : isAnnotated (trim l) = false

/-- **A line is code** if its first character behind the blanks is a part of a name. -/
theorem isCode_of_isNameChar {margin : List Char} {c : Char} (hmargin : Blank margin)
    (hc : isNameChar c = true) (cs : List Char) : IsCode (margin ++ c :: cs) := by
  have hname := not_mem_punctuation_of_isNameChar hc
  have hhash : c ≠ '#' := by
    rintro rfl
    exact hname (by decide)
  have hat : c ≠ '@' := by
    rintro rfl
    exact hname (by decide)
  have hds := trim_cons (isBlank_of_isNameChar hc) cs
  rw [← trim_blank_append hmargin] at hds
  refine ⟨?_, ?_, ?_⟩
  · simp [isEmptyLine, hds]
  · simp [isComment, Style.marks, hds, List.isPrefixOf, hhash.symm]
  · simp [isAnnotated, hds, isAt, hat]

/-- Code whose brackets are balanced hides what is above it. -/
theorem IsCode.blockLines_eq_none {l : Line} (h : IsCode l) (hbrackets : bracketSurplus l = 0)
    (ls : List Line) : blockLines .hash (l :: ls) = none := by
  have hcloses : Style.closes .hash (trim l) = false := by
    simpa [isComment, Style.marks, Style.closes] using h.uncommented
  exact Comment.blockLines_eq_none h.unannotated hcloses (.inr (by omega)) ls

/-! ## Class statements -/

def classStatement (name : List Char) : Line := "class".toList ++ ([' '] ++ (name ++ [':']))

theorem classStatement_eq (name : List Char) :
    classStatement name = "class".toList ++ ([' '] ++ (name ++ [':'])) := rfl

theorem isCode_classStatement (name : List Char) : IsCode (classStatement name) :=
  have hblank : Blank [] := by decide
  isCode_of_isNameChar hblank (c := 'c') (by decide) _

theorem indent_classStatement (name : List Char) : indent (classStatement name) = 0 := rfl

theorem bracketSurplus_classStatement {name : List Char} (h : IsName name) :
    bracketSurplus (classStatement name) = 0 := by
  have hname : bracketSurplus name = 0 :=
    bracketSurplus_eq_zero fun c hc => not_mem_punctuation_of_isNameChar (h.allowed c hc)
  have hclass : bracketSurplus "class".toList = 0 := by decide
  have hblank : bracketSurplus [' '] = 0 := by decide
  have hcolon : bracketSurplus [':'] = 0 := by decide
  rw [classStatement_eq, bracketSurplus_append, bracketSurplus_append, bracketSurplus_append,
    hclass, hblank, hname, hcolon]
  rfl

/-- A class statement has one blank, and so it is cut behind `class` in one way. -/
theorem classStatement_cut {name before gap rest : List Char} (h : IsName name)
    (hne : gap ≠ []) (hgap : Blank gap)
    (hcut : classStatement name = before ++ ("class".toList ++ (gap ++ (name ++ rest)))) :
    rest = [':'] := by
  have hclass : "class".toList.countP isBlank = 0 := by decide
  have hbefore : before.countP isBlank = 0 := by
    have hname : name.countP isBlank = 0 := by
      rw [List.countP_eq_zero]
      intro c hc
      simp [h.solid.unblank c hc]
    have hgaps : gap.countP isBlank = gap.length := List.countP_eq_length.mpr hgap
    have hpos := List.length_pos_of_ne_nil hne
    have hone : [' '].countP isBlank = 1 := by decide
    have hnone : [':'].countP isBlank = 0 := by decide
    have hcount := congrArg (List.countP isBlank) hcut
    simp only [classStatement_eq, List.countP_append, hname, hgaps, hclass, hone, hnone] at hcount
    omega
  have hword : ∀ c ∈ before ++ "class".toList, (!isBlank c) = true := by
    have hzero : (before ++ "class".toList).countP isBlank = 0 := by
      rw [List.countP_append, hbefore, hclass]
    rw [List.countP_eq_zero] at hzero
    intro c hc
    simpa using hzero c hc
  have hstop : ∀ c ∈ (gap ++ (name ++ rest)).head?, (!isBlank c) = false := by
    intro c hc
    rw [List.head?_append_of_ne_nil _ hne] at hc
    simp [hgap c (List.mem_of_mem_head? hc)]
  rw [classStatement_eq, ← List.append_assoc before] at hcut
  have hkeyword : ∀ c ∈ "class".toList, (!isBlank c) = true := List.all_eq_true.mp (by decide)
  have hspace : Blank [' '] := by decide
  obtain ⟨-, hcut⟩ := append_eq_append_of_scan (p := (!isBlank ·)) hkeyword
    (fun c hc => by obtain rfl := Option.some.inj hc; decide) hword hstop hcut
  obtain ⟨-, hcut⟩ := append_eq_append_of_scan (p := isBlank) hspace (h.solid.head_append _) hgap
    (h.solid.head_append _) hcut
  exact (List.append_cancel_left hcut).symm

/-- **A class statement declares its class** just when the name ends in a word character. -/
theorem declaresClass_classStatement {name : List Char} (h : IsName name) :
    declaresClass name (classStatement name) = endsInWord name := by
  have hcolon : isWordChar ':' = false := by decide
  have hedge : atWordEdge name.getLast? (some ':') = endsInWord name := by
    simp [atWordEdge, endsInWord, hcolon]
  rw [Bool.eq_iff_iff, declaresClass_iff, ← hedge]
  constructor
  · rintro ⟨before, gap, rest, hcut, -, hne, hgap, hend⟩
    obtain rfl := classStatement_cut h hne hgap hcut
    exact hend
  · intro hend
    exact ⟨[], [' '], [':'], rfl, rfl, by decide, by decide, hend⟩

/-! ## Field statements -/

/-- The statement of a field, with its indentation and the text of its type. -/
def fieldStatement (margin name type : List Char) : Line := margin ++ (name ++ (':' :: ' ' :: type))

variable {margin name field type : List Char}

theorem isCode_fieldStatement (hmargin : Blank margin) (h : IsName name) :
    IsCode (fieldStatement margin name type) := by
  obtain ⟨c, cs, rfl⟩ := List.exists_cons_of_ne_nil h.ne_nil
  exact isCode_of_isNameChar hmargin (h.allowed c List.mem_cons_self) _

theorem bracketSurplus_fieldStatement (hmargin : Blank margin) (h : IsName name)
    (htype : bracketSurplus type = 0) : bracketSurplus (fieldStatement margin name type) = 0 := by
  have hm : bracketSurplus margin = 0 :=
    bracketSurplus_eq_zero fun c hc => not_mem_punctuation_of_isBlank (hmargin c hc)
  have hn : bracketSurplus name = 0 :=
    bracketSurplus_eq_zero fun c hc => not_mem_punctuation_of_isNameChar (h.allowed c hc)
  have hcolon : bracketSurplus [':', ' '] = 0 := by decide
  have hsplit : fieldStatement margin name type = margin ++ (name ++ ([':', ' '] ++ type)) := rfl
  rw [hsplit, bracketSurplus_append, bracketSurplus_append, bracketSurplus_append, hm, hn, hcolon,
    htype]
  rfl

theorem indent_fieldStatement (hmargin : Blank margin) (hne : margin ≠ []) :
    0 < indent (fieldStatement margin name type) := by
  rw [indent, fieldStatement, List.takeWhile_append_of_pos hmargin, List.length_append]
  have := List.length_pos_of_ne_nil hne
  omega

/-- **A field statement declares its own field** and no other. -/
theorem declaresField_fieldStatement_iff (hmargin : Blank margin) (hname : IsName name)
    (hfield : IsName field) :
    declaresField name (fieldStatement margin field type) = true ↔ name = field := by
  rw [declaresField_iff]
  constructor
  · rintro ⟨margin', gap, rest, hcut, hmargin', hgap, hrest⟩
    obtain ⟨-, hcut⟩ := append_eq_append_of_scan (p := isBlank) hmargin (hfield.solid.head_append _)
      hmargin' (hname.solid.head_append _) hcut
    have hrest' : ∀ c ∈ (gap ++ rest).head?, isNameChar c = false := by
      intro c hc
      cases gap with
      | nil =>
        rw [List.nil_append] at hc
        rw [hc, Option.some.injEq, Option.some.injEq] at hrest
        rcases hrest with rfl | rfl <;> decide
      | cons g gs =>
        obtain rfl := Option.some.inj hc
        simp [isNameChar, hgap g List.mem_cons_self]
    obtain ⟨rfl, -⟩ := append_eq_append_of_scan (p := isNameChar) hfield.allowed
      (fun c hc => by obtain rfl := Option.some.inj hc; decide) hname.allowed hrest' hcut
    rfl
  · rintro rfl
    exact ⟨margin, [], ':' :: ' ' :: type, rfl, hmargin, by decide, .inl rfl⟩

end EndpointDocs.Source
