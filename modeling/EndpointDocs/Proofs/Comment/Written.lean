import EndpointDocs.Proofs.Comment.Region
import EndpointDocs.Proofs.Text.Blank

/-!
# Blocks as they are written

* `HasTag`: a text with a markup tag in it; `dropTags_of_not_hasTag`: others stay as they are.
* `marked`: a text behind `#` marks; `clean_marked`: it is read back without them.
* `DocLine`: a line of documentation, and how it is set behind the marks of a comment.
* `DocBlock`: a block of such lines, the first behind `##` and the others behind `#`.
* `region_append_reverse`, `blockLines_marked`: the walk over a block takes its lines and stops at
  the opener.
* **`textAbove_doc`**: the text above a declaration is the text of the block written there.
* `blockLines_eq_none`: a line that is no comment and ends no annotation hides what is above it.
-/

namespace EndpointDocs.Comment

open Text

/-! ## Markup -/

/-- A text holds a markup tag: at least one character, none of them `>`, between `<` and `>`. -/
def HasTag (cs : List Char) : Prop :=
  ∃ inner, inner ≠ [] ∧ '>' ∉ inner ∧ '<' :: (inner ++ ['>']) <:+: cs

theorem not_hasTag_of_not_mem {cs : List Char} (h : '<' ∉ cs) : ¬ HasTag cs := by
  rintro ⟨inner, -, -, hinside⟩
  exact h (hinside.subset List.mem_cons_self)

theorem afterTag?_eq_some {found : Bool} {cs rest : List Char}
    (h : afterTag? found cs = some rest) :
    ∃ inner, (found = false → inner ≠ []) ∧ '>' ∉ inner ∧ cs = inner ++ '>' :: rest := by
  fun_induction afterTag? found cs with
  | case1 => cases h
  | case2 cs =>
    cases h
    exact ⟨[], by simp, List.not_mem_nil, rfl⟩
  | case3 => cases h
  | case4 found c cs hfound hnone ih =>
    obtain ⟨inner, -, hin, rfl⟩ := ih h
    have hc : c ≠ '>' := by
      rintro rfl
      cases found with
      | true => exact hfound rfl rfl
      | false => exact hnone rfl rfl
    exact ⟨c :: inner, by simp, by simp [hin, hc.symm], rfl⟩

theorem dropTags_of_not_hasTag {cs : List Char} (h : ¬ HasTag cs) : dropTags cs = cs := by
  induction cs with
  | nil => rw [dropTags]
  | cons c cs ih =>
    have hcs : dropTags cs = cs := by
      refine ih ?_
      rintro ⟨inner, hne, hin, hinside⟩
      exact h ⟨inner, hne, hin, hinside.trans (List.suffix_cons c cs).isInfix⟩
    rw [dropTags]
    split_ifs with hc
    · split
      · next rest hrest =>
        obtain ⟨inner, hne, hin, rfl⟩ := afterTag?_eq_some hrest
        exact absurd ⟨inner, hne rfl, hin, [], rest, by simp [hc]⟩ h
      · rw [hcs]
    · rw [hcs]

/-! ## Marked lines -/

/-- A text behind a number of `#` marks. -/
def marked (margin : List Char) (marks : Nat) (body : List Char) : Line :=
  margin ++ (List.replicate marks '#' ++ body)

section Marked

variable {margin body : List Char}

theorem trimEnd_replicate (n : Nat) (body : List Char) :
    trimEnd (List.replicate n '#' ++ body) = List.replicate n '#' ++ trimEnd body := by
  have hmark : isBlank '#' = false := by decide
  induction n with
  | zero => rfl
  | succ n ih => rw [List.replicate_succ, List.cons_append, trimEnd_cons hmark, ih, List.cons_append]

theorem trim_marked (hmargin : Blank margin) (n : Nat) (body : List Char) :
    trim (marked margin (n + 1) body) = List.replicate (n + 1) '#' ++ trimEnd body := by
  have hmark : isBlank '#' = false := by decide
  rw [marked, trim_blank_append hmargin, List.replicate_succ, List.cons_append, trim_cons hmark,
    trimEnd_replicate, List.cons_append]

theorem unmark_replicate (hbody : ¬ ['#'] <+: body) (n : Nat) :
    Style.unmark .hash (List.replicate n '#' ++ body) = body := by
  rw [Style.unmark, List.dropWhile_append_of_pos (by simp)]
  cases body with
  | nil => rfl
  | cons c cs =>
    have hc : c ≠ '#' := by
      rintro rfl
      exact hbody (List.prefix_append ['#'] cs)
    rw [List.dropWhile_cons_of_neg (by simpa using hc)]

/-- **A marked line is read back** without its marks and the blanks around its text. -/
theorem clean_marked (hmargin : Blank margin) (hbody : ¬ ['#'] <+: body)
    (htag : ¬ HasTag (trim body)) (n : Nat) :
    Style.clean .hash (trim (marked margin (n + 1) body)) = trim body := by
  have hend : ¬ ['#'] <+: trimEnd body := fun h => hbody (h.trans (trimEnd_isPrefix body))
  rw [Style.clean, trim_marked hmargin, unmark_replicate hend, trim_trimEnd,
    dropTags_of_not_hasTag htag]

theorem continues_marked (hmargin : Blank margin) (n : Nat) (body : List Char) :
    Style.continues .hash (trim (marked margin (n + 1) body)) = true := by
  rw [continues_hash_iff, trim_marked hmargin, List.replicate_succ, List.cons_append]
  exact List.prefix_append ['#'] _

theorem opens_marked (hmargin : Blank margin) (n : Nat) (body : List Char) :
    Style.opens .hash (trim (marked margin (n + 2) body)) = true := by
  rw [opens_hash_iff, trim_marked hmargin, List.replicate_succ, List.replicate_succ,
    List.cons_append, List.cons_append]
  exact List.prefix_append ['#', '#'] _

theorem not_opens_marked (hmargin : Blank margin) (hbody : ¬ ['#'] <+: body) :
    Style.opens .hash (trim (marked margin 1 body)) = false := by
  rw [← Bool.not_eq_true, opens_hash_iff, trim_marked hmargin]
  intro h
  have hend : ['#'] <+: trimEnd body := by simpa using h
  exact hbody (hend.trans (trimEnd_isPrefix body))

end Marked

/-! ## Lines -/

/-- A line of documentation, with the blanks that stand before and behind its marks. -/
structure DocLine where
  margin : List Char
  gap : List Char
  text : Line
  margin_blank : Blank margin
  gap_blank : Blank gap
  gap_ne_nil : gap ≠ []
  text_ne_nil : text ≠ []
  trimmed : trim text = text
  untagged : ¬ HasTag text

namespace DocLine

variable (d : DocLine)

/-- The line behind a number of `#` marks. -/
def written (marks : Nat) : Line := d.margin ++ (List.replicate marks '#' ++ (d.gap ++ d.text))

theorem written_eq (n : Nat) : d.written n = marked d.margin n (d.gap ++ d.text) := rfl

/-- The gap keeps the marks and the text apart, also if the text starts with a mark. -/
theorem not_prefix_gap : ¬ ['#'] <+: d.gap ++ d.text := by
  obtain ⟨g, gs, hg⟩ := List.exists_cons_of_ne_nil d.gap_ne_nil
  have hblank : isBlank g = true := d.gap_blank g (hg ▸ List.mem_cons_self)
  rw [hg, List.cons_append, List.cons_prefix_cons]
  rintro ⟨rfl, -⟩
  exact absurd hblank (by decide)

theorem trim_gap : trim (d.gap ++ d.text) = d.text := by
  rw [trim_blank_append d.gap_blank, d.trimmed]

theorem clean_written (n : Nat) : Style.clean .hash (trim (d.written (n + 1))) = d.text := by
  have htag : ¬ HasTag (trim (d.gap ++ d.text)) := by
    rw [d.trim_gap]
    exact d.untagged
  rw [written_eq, clean_marked d.margin_blank d.not_prefix_gap htag, d.trim_gap]

theorem continues_written (n : Nat) : Style.continues .hash (trim (d.written (n + 1))) = true :=
  continues_marked d.margin_blank n _

theorem opens_written : Style.opens .hash (trim (d.written 2)) = true :=
  opens_marked d.margin_blank 0 _

theorem not_opens_written : Style.opens .hash (trim (d.written 1)) = false :=
  not_opens_marked d.margin_blank d.not_prefix_gap

end DocLine

/-! ## Blocks -/

/-- A block of documentation. -/
structure DocBlock where
  opener : DocLine
  others : List DocLine

namespace DocBlock

/-- The lines of a block, as they stand in a source. -/
def lines (d : DocBlock) : List Line := d.opener.written 2 :: d.others.map (·.written 1)

/-- What was written, line by line. -/
def texts (d : DocBlock) : List Line := d.opener.text :: d.others.map (·.text)

/-- The lines that do not start with `@`, a newline between two of them. -/
def text (d : DocBlock) : String :=
  String.ofList (joinLines (d.texts.filter fun w => ¬ ['@'] <+: w))

theorem text_ne_nil_of_mem (d : DocBlock) {w : Line} (h : w ∈ d.texts) : w ≠ [] := by
  rcases List.mem_cons.mp h with rfl | h
  · exact d.opener.text_ne_nil
  · obtain ⟨e, -, rfl⟩ := List.mem_map.mp h
    exact e.text_ne_nil

/-- The lines of a block, if there is one. -/
def linesOf (d : Option DocBlock) : List Line := d.elim [] lines

theorem continues_of_mem {d : DocBlock} {l : Line} (h : l ∈ d.lines) :
    Style.continues .hash (trim l) = true := by
  rcases List.mem_cons.mp h with rfl | h
  · exact d.opener.continues_written 1
  · obtain ⟨w, -, rfl⟩ := List.mem_map.mp h
    exact w.continues_written 0

theorem isComment_of_mem {d : Option DocBlock} {l : Line} (h : l ∈ linesOf d) :
    isComment .hash l = true := by
  cases d with
  | none => cases h
  | some d =>
    have hmark := (continues_hash_iff _).mp (continues_of_mem h)
    simpa [isComment, Style.marks] using hmark

end DocBlock

/-- **The walk over a block** takes its lines and stops at the opener. -/
theorem region_append_reverse {s : Style} {o : Line} {ls : List Line}
    (ho : s.opens (trim o) = true ∧ s.continues (trim o) = true)
    (hls : ∀ l ∈ ls, s.opens (trim l) = false ∧ s.continues (trim l) = true)
    (below above : List Line) :
    region s below (ls.reverse ++ o :: above) = some (o :: (ls ++ below)) := by
  induction ls using List.reverseRecOn generalizing below with
  | nil => simp [region, ho]
  | append_singleton ls l ih =>
    obtain ⟨hopens, hcontinues⟩ := hls l (by simp)
    rw [List.reverse_append, List.reverse_singleton, List.singleton_append, List.cons_append,
      region, hopens, hcontinues]
    have hrest := ih (fun l' h => hls l' (by simp [h])) (l :: below)
    simpa using hrest

theorem nearest_marked {l : Line} (h : Style.continues .hash (trim l) = true) (ls : List Line) :
    nearest .hash (l :: ls) = l :: ls := by
  have hmark := (continues_hash_iff _).mp h
  refine nearest_stuck ?_ fun hw => ?_
  · rw [← Bool.not_eq_true, isAnnotated_iff]
    intro hat
    obtain ⟨ds, hds⟩ := hmark
    rw [← hds] at hat
    simp at hat
  · exact absurd hmark ((mayEndWrapped_hash_iff l).mp hw).2

theorem blockLines_marked {o : Line} {ls : List Line}
    (ho : Style.opens .hash (trim o) = true ∧ Style.continues .hash (trim o) = true)
    (hls : ∀ l ∈ ls, Style.opens .hash (trim l) = false ∧ Style.continues .hash (trim l) = true)
    (above : List Line) : blockLines .hash ((o :: ls).reverse ++ above) = some (o :: ls) := by
  have hne : (o :: ls).reverse ≠ [] := by simp
  obtain ⟨l, ls', hl⟩ := List.exists_cons_of_ne_nil hne
  have hlast : Style.continues .hash (trim l) = true := by
    have hmem : l ∈ o :: ls := List.mem_reverse.mp (hl ▸ List.mem_cons_self)
    rcases List.mem_cons.mp hmem with rfl | hmem
    · exact ho.2
    · exact (hls l hmem).2
  have hcloses : Style.closes .hash (trim l) = true := hlast
  have hregion : region .hash [] ((o :: ls).reverse ++ above) = some (o :: ls) := by
    simpa using region_append_reverse ho hls [] above
  rw [hl, List.cons_append] at hregion ⊢
  rw [blockLines, nearest_marked hlast]
  simp only [hcloses, if_true]
  exact hregion

theorem blockLines_doc (d : DocBlock) (above : List Line) :
    blockLines .hash (d.lines.reverse ++ above) = some d.lines := by
  refine blockLines_marked ⟨d.opener.opens_written, d.opener.continues_written 1⟩ ?_ above
  intro l hl
  obtain ⟨w, -, rfl⟩ := List.mem_map.mp hl
  exact ⟨w.not_opens_written, w.continues_written 0⟩

theorem textAbove_doc (keepTags : Bool) (d : DocBlock) (above : List Line) :
    textAbove .hash keepTags (d.lines.reverse ++ above) =
      some (d.texts.filter fun w => keepTags = true ∨ ¬ ['@'] <+: w) := by
  have hclean : d.lines.map (fun l => Style.clean .hash (trim l)) = d.texts := by
    simp [DocBlock.lines, DocBlock.texts, DocLine.clean_written]
  rw [textAbove, blockLines_doc, Option.map_some, blockText_hash_eq, cleanedLines, hclean]
  exact congrArg some (List.filter_congr fun w hw => by simp [d.text_ne_nil_of_mem hw])

theorem descriptionAbove_doc (d : DocBlock) (above : List Line) :
    descriptionAbove .hash false (d.lines.reverse ++ above) = some d.text := by
  rw [descriptionAbove, textAbove_doc, Option.map_some, DocBlock.text]
  simp

/-! ## Declarations without a block -/

/-- **What is above other lines is hidden** by a line that is no comment and ends no annotation. -/
theorem blockLines_eq_none {s : Style} {l : Line} (hat : isAnnotated (trim l) = false)
    (hcloses : s.closes (trim l) = false) (hbrackets : trim l = [] ∨ bracketSurplus l ≤ 0)
    (ls : List Line) : blockLines s (l :: ls) = none := by
  have hstuck : nearest s (l :: ls) = l :: ls := by
    refine nearest_stuck hat fun hw => ?_
    obtain hempty | hle := hbrackets
    · simp [mayEndWrapped, hempty] at hw
    · rw [wrappedAbove?, if_pos hle]
  rw [blockLines, hstuck]
  simp [hcloses]

theorem descriptionAbove_linesOf {above : List Line} (h : blockLines .hash above = none)
    (d : Option DocBlock) :
    descriptionAbove .hash false ((DocBlock.linesOf d).reverse ++ above) = d.map DocBlock.text := by
  cases d with
  | none => simp [DocBlock.linesOf, descriptionAbove, textAbove, h]
  | some d => exact descriptionAbove_doc d above

end EndpointDocs.Comment
