import EndpointDocs.Proofs.Comment.Written
import Mathlib.Data.List.Infix

/-!
# Decorated declarations as they are written

Between a block and its declaration there may be any number of decorators.

* `Decorator`: one line, or several whose brackets balance just where the first line is reached.
* `nearest_decorators`: the walk over decorators passes all of them, whatever stands above.
* `StarBlock`, `WrittenBlock`: a block of starred lines, and a block in either style.
* `textAbove_starBlock`: the text above a declaration is the text of the starred block there.
* **`extract_written`**: a block is read back as it was written, in both styles.
-/

namespace EndpointDocs.Comment

open Text

variable {s : Style}

/-! ## Decorators -/

/--
A decorator: a line that starts with `@`, and further lines. Seen from below, brackets stay open
until its first line, and its last line does not look like another decorator or a block.
-/
structure Decorator (s : Style) where
  first : Line
  further : List Line
  annotated : ['@'] <+: trim first
  waiting : ∀ ls ∈ further.tails, ls ≠ [] → 0 < surplus ls
  closed : further ≠ [] → surplus (first :: further) ≤ 0
  ending : ∀ l ∈ further.getLast?, trim l ≠ [] ∧ ¬ ['@'] <+: trim l ∧ s.closes (trim l) = false

def Decorator.lines (a : Decorator s) : List Line := a.first :: a.further

/-- **Brackets lead to the first line** of a decorator, past lines of any kind. -/
theorem aboveWrapped_append_reverse {first : Line} (hfirst : ['@'] <+: trim first)
    (inner below above : List Line)
    (hwaiting : ∀ ls, ls <:+ inner → ls ≠ [] → 0 < surplus (ls ++ below))
    (hclosed : surplus (first :: (inner ++ below)) ≤ 0) :
    aboveWrapped (surplus below) (inner.reverse ++ first :: above) = some above := by
  -- from the last inner line upwards; the lines passed so far are `below`
  induction inner using List.reverseRecOn generalizing below with
  | nil =>
    rw [List.nil_append, surplus_cons] at hclosed
    have hle : ¬ surplus below + bracketSurplus first > 0 := by omega
    have hat : isAnnotated (trim first) = true := (isAnnotated_iff _).mpr hfirst
    rw [List.reverse_nil, List.nil_append, aboveWrapped, if_neg hle, if_pos hat]
  | append_singleton inner l ih =>
    have hpos : 0 < surplus (l :: below) := by
      have hlast : [l] <:+ inner ++ [l] := List.suffix_append _ _
      simpa using hwaiting [l] hlast (by simp)
    have hnext : surplus below + bracketSurplus l = surplus (l :: below) := by
      rw [surplus_cons]
      omega
    rw [List.reverse_append, List.reverse_singleton, List.singleton_append, List.cons_append,
      aboveWrapped, hnext, if_pos hpos]
    refine ih (l :: below) (fun ls hls hne => ?_) (by simpa using hclosed)
    have hls' : ls ++ [l] <:+ inner ++ [l] := by
      obtain ⟨ms, rfl⟩ := hls
      exact ⟨ms, by simp⟩
    simpa using hwaiting (ls ++ [l]) hls' (by simp)

theorem nearest_decorator (a : Decorator s) (above : List Line) :
    nearest s (a.lines.reverse ++ above) = nearest s above := by
  obtain ⟨first, further, hfirst, hwaiting, hclosed, hending⟩ := a
  have hat : isAnnotated (trim first) = true := (isAnnotated_iff _).mpr hfirst
  simp only [List.mem_tails] at hwaiting
  obtain rfl | ⟨inner, last, hfurther⟩ := List.eq_nil_or_concat further
  · exact nearest_annotated hat
  · rw [List.concat_eq_append] at hfurther
    subst hfurther
    obtain ⟨hblank, hplain, hcloses⟩ := hending last (by simp)
    have hlast : isAnnotated (trim last) = false := by
      rwa [← Bool.not_eq_true, isAnnotated_iff]
    have hmay : mayEndWrapped s last = true := by simp [mayEndWrapped, hblank, hcloses]
    have hone : surplus [last] = bracketSurplus last := by simp [surplus]
    have hpos : 0 < bracketSurplus last := by
      rw [← hone]
      exact hwaiting [last] (List.suffix_append _ _) (by simp)
    have hfound : wrappedAbove? last (inner.reverse ++ first :: above) = some above := by
      rw [wrappedAbove?, if_neg (by omega), ← hone]
      refine aboveWrapped_append_reverse hfirst inner [last] above (fun ls hls hne => ?_)
        (hclosed (by simp))
      obtain ⟨ms, rfl⟩ := hls
      exact hwaiting (ls ++ [last]) ⟨ms, by simp⟩ (by simp)
    have hlines : (first :: (inner ++ [last])).reverse ++ above =
        last :: (inner.reverse ++ first :: above) := by simp
    rw [Decorator.lines, hlines, nearest_wrapped hlast hmay hfound]

/-- **A stack of decorators is passed**, whatever stands above it. -/
theorem nearest_decorators (as : List (Decorator s)) (above : List Line) :
    nearest s ((as.flatMap Decorator.lines).reverse ++ above) = nearest s above := by
  induction as using List.reverseRecOn with
  | nil => rfl
  | append_singleton as a ih =>
    rw [List.flatMap_append, List.flatMap_singleton, List.reverse_append, List.append_assoc,
      nearest_decorator, ih]

theorem descriptionAbove_decorators (keepTags : Bool) (as : List (Decorator s))
    (above : List Line) :
    descriptionAbove s keepTags ((as.flatMap Decorator.lines).reverse ++ above) =
      descriptionAbove s keepTags above := by
  rw [descriptionAbove, descriptionAbove, textAbove, textAbove, blockLines, blockLines,
    nearest_decorators]

/-! ## Starred blocks -/

/-- The line behind a star. -/
def DocLine.starred (d : DocLine) : Line := d.margin ++ ('*' :: (d.gap ++ d.text))

/-- A block whose lines stand behind stars, between `/**` and `*/` on lines of their own. -/
structure StarBlock extends DocBlock where
  top : List Char
  bottom : List Char
  top_blank : Blank top
  bottom_blank : Blank bottom
  starless : ∀ w ∈ toDocBlock.texts, '*' ∉ w

namespace StarBlock

variable (d : StarBlock)

def openingLine : Line := d.top ++ "/**".toList

def closingLine : Line := d.bottom ++ "*/".toList

/-- The lines between them. -/
def inner : List Line := (d.opener :: d.others).map DocLine.starred

/-- The lines of the block, as they stand in a source. -/
def lines : List Line := d.openingLine :: (d.inner ++ [d.closingLine])

theorem trim_openingLine : trim d.openingLine = "/**".toList := by
  rw [openingLine, trim_blank_append d.top_blank]
  decide

theorem trim_closingLine : trim d.closingLine = "*/".toList := by
  rw [closingLine, trim_blank_append d.bottom_blank]
  decide

end StarBlock

namespace DocLine

variable (d : DocLine)

theorem trim_starred : trim d.starred = '*' :: (d.gap ++ d.text) := by
  have hlast := ((trim_eq_self_iff d.text_ne_nil).mp d.trimmed).2
  rw [starred, trim_blank_append d.margin_blank, trim_eq_self_iff (by simp)]
  refine ⟨show isBlank '*' = false by decide, ?_⟩
  rw [← hlast]
  simp [d.text_ne_nil]

theorem not_opens_starred : Style.opens .javadoc (trim d.starred) = false := by
  rw [trim_starred]
  rfl

theorem starless_gap : '*' ∉ d.gap := by
  intro h
  exact absurd (d.gap_blank '*' h) (by decide)

theorem clean_starred (h : '*' ∉ d.text) : Style.clean .javadoc (trim d.starred) = d.text := by
  have hstar : '*' ∉ d.gap ++ d.text := by simp [d.starless_gap, h]
  have hend : ['*', '/'].isSuffixOf ('*' :: (d.gap ++ d.text)) = false := by
    rw [← Bool.not_eq_true, List.isSuffixOf_iff_suffix, List.suffix_cons_iff]
    rintro (heq | hsuffix)
    · -- the line would be `*/`, with no room for the gap and the text
      have hlen := congrArg List.length heq
      have hgap := List.length_pos_of_ne_nil d.gap_ne_nil
      have htext := List.length_pos_of_ne_nil d.text_ne_nil
      simp only [List.length_cons, List.length_nil, List.length_append] at hlen
      omega
    · exact hstar (hsuffix.subset List.mem_cons_self)
  have hunmark : Style.unmark .javadoc ('*' :: (d.gap ++ d.text)) = d.gap ++ d.text := by
    have hkept : (d.gap ++ d.text).filter (! Style.isStar ·) = d.gap ++ d.text := by
      rw [List.filter_eq_self]
      intro c hc
      have : c ≠ '*' := fun he => hstar (he ▸ hc)
      simpa [Style.isStar] using this
    have hopener : Style.dropOpener ('*' :: (d.gap ++ d.text)) = '*' :: (d.gap ++ d.text) := rfl
    simp only [Style.unmark, hopener, hend, Bool.false_eq_true, if_false]
    rw [List.filter_cons_of_neg (by decide), hkept]
  rw [Style.clean, trim_starred, hunmark, trim_blank_append d.gap_blank, d.trimmed,
    dropTags_of_not_hasTag d.untagged]

end DocLine

/-- **A starred block right above a declaration** is found, whatever stands above it. -/
theorem blockLines_starBlock (d : StarBlock) (above : List Line) :
    blockLines .javadoc (d.lines.reverse ++ above) = some d.lines := by
  have hcloses : Style.closes .javadoc (trim d.closingLine) = true := by
    rw [d.trim_closingLine]
    decide
  have hnearest : ∀ ls, nearest .javadoc (d.closingLine :: ls) = d.closingLine :: ls := by
    intro ls
    refine nearest_stuck ?_ fun hmay => ?_
    · rw [d.trim_closingLine]
      decide
    · simp [mayEndWrapped, hcloses] at hmay
  have hopens : Style.opens .javadoc (trim d.openingLine) = true := by
    rw [d.trim_openingLine]
    decide
  have hothers : ∀ l ∈ d.inner ++ [d.closingLine],
      Style.opens .javadoc (trim l) = false ∧ Style.continues .javadoc (trim l) = true := by
    intro l hl
    refine ⟨?_, rfl⟩
    rcases List.mem_append.mp hl with hl | hl
    · obtain ⟨w, -, rfl⟩ := List.mem_map.mp hl
      exact w.not_opens_starred
    · rw [List.mem_singleton.mp hl, d.trim_closingLine]
      decide
  have hregion := region_append_reverse ⟨hopens, rfl⟩ hothers [] above
  have hlines : d.lines.reverse ++ above =
      d.closingLine :: (d.inner.reverse ++ d.openingLine :: above) := by
    simp [StarBlock.lines]
  rw [List.append_nil, List.reverse_append, List.reverse_singleton, List.singleton_append,
    List.cons_append] at hregion
  rw [hlines, blockLines, hnearest]
  simp only [hcloses, if_true]
  exact hregion

theorem textAbove_starBlock (keepTags : Bool) (d : StarBlock) (above : List Line) :
    textAbove .javadoc keepTags (d.lines.reverse ++ above) =
      some (d.texts.filter fun w => keepTags = true ∨ ¬ ['@'] <+: w) := by
  have hopening : Style.clean .javadoc (trim d.openingLine) = [] := by
    rw [d.trim_openingLine]
    decide +kernel
  have hclosing : Style.clean .javadoc (trim d.closingLine) = [] := by
    rw [d.trim_closingLine]
    decide +kernel
  have hinner : d.inner.map (fun l => Style.clean .javadoc (trim l)) = d.texts := by
    rw [StarBlock.inner, List.map_map]
    refine List.map_congr_left fun w hw => w.clean_starred (d.starless w.text ?_)
    exact List.mem_map_of_mem hw
  have hkept : ([] :: (d.texts ++ [[]])).filter (isKept keepTags) =
      d.texts.filter fun w => keepTags = true ∨ ¬ ['@'] <+: w := by
    have hempty : isKept keepTags [] = false := rfl
    rw [List.filter_cons_of_neg (by simp [hempty]), List.filter_append, List.filter_singleton,
      hempty, cond_false, List.append_nil]
    refine List.filter_congr fun w hw => ?_
    rw [Bool.eq_iff_iff]
    simp [isKept, ← isAnnotated_iff, d.text_ne_nil_of_mem hw]
  rw [textAbove, blockLines_starBlock, Option.map_some, blockText, StarBlock.lines, List.map_cons,
    List.map_append, hinner, List.map_singleton, hopening, hclosing, hkept]

/-! ## Blocks in both styles -/

/-- A block as it is written in a style. -/
inductive WrittenBlock : Style → Type
  | hash (d : DocBlock) : WrittenBlock .hash
  | javadoc (d : StarBlock) : WrittenBlock .javadoc

namespace WrittenBlock

/-- The lines of the block, as they stand in a source. -/
def lines : WrittenBlock s → List Line
  | hash d => d.lines
  | javadoc d => d.lines

/-- What was written, line by line. -/
def texts : WrittenBlock s → List Line
  | hash d => d.texts
  | javadoc d => d.texts

theorem descriptionAbove_lines (keepTags : Bool) (b : WrittenBlock s) (above : List Line) :
    descriptionAbove s keepTags (b.lines.reverse ++ above) = some (String.ofList
      (joinLines (b.texts.filter fun w => keepTags = true ∨ ¬ ['@'] <+: w))) := by
  cases b with
  | hash d => rw [descriptionAbove, lines, textAbove_doc, Option.map_some, texts]
  | javadoc d => rw [descriptionAbove, lines, textAbove_starBlock, Option.map_some, texts]

end WrittenBlock

/--
**A block is read back as it was written**, in both styles, whatever stands above it, through any
stack of decorators and for any declaration: all its lines if tags are kept, else those that do not
start with `@`.
-/
theorem extract_written (before : List Line) (b : WrittenBlock s) (as : List (Decorator s))
    (declaration : Line) (after : List Line) :
    let above := before ++ (b.lines ++ as.flatMap Decorator.lines)
    let text (keepTags : Bool) := extract s keepTags (above ++ declaration :: after) above.length
    text true = .ok (some (String.ofList (joinLines b.texts))) ∧
      text false =
        .ok (some (String.ofList (joinLines (b.texts.filter fun w => ¬ ['@'] <+: w)))) := by
  intro above text
  have hlines : linesAbove (above ++ declaration :: after) above.length = .ok above.reverse := by
    have hlt : (above.length : Int) - 1 < (above ++ declaration :: after).length := by
      have hlen : (above ++ declaration :: after).length = above.length + (after.length + 1) := by
        rw [List.length_append, List.length_cons]
      omega
    rw [linesAbove_eq_upTo hlt, upTo, Int.toNat_natCast, List.take_left]
  have hreverse : above.reverse =
      (as.flatMap Decorator.lines).reverse ++ (b.lines.reverse ++ before.reverse) := by
    simp [above]
  have htext : ∀ keepTags, text keepTags = .ok (some (String.ofList
      (joinLines (b.texts.filter fun w => keepTags = true ∨ ¬ ['@'] <+: w)))) := by
    intro keepTags
    simp only [text, extract, hlines, Except.map]
    rw [hreverse, descriptionAbove_decorators, b.descriptionAbove_lines]
  refine ⟨?_, ?_⟩
  · rw [htext]
    simp
  · rw [htext]
    simp

/-- A decorator that holds another one, the end of a comment and a blank line. -/
def routeDecorator : Decorator .javadoc where
  first := "  @Get(".toList
  further := ["    @Named", "    */", "", "    path)"].map String.toList
  annotated := by decide
  waiting := by decide
  closed := by decide
  ending := by decide

/-- A line with a tab on each side of its star. -/
def starredLine (text : String)
    (h : trim text.toList = text.toList ∧ text.toList ≠ [] ∧ '<' ∉ text.toList) : DocLine where
  margin := ['\t']
  gap := ['\t']
  text := text.toList
  margin_blank := by decide
  gap_blank := by decide
  gap_ne_nil := by decide
  text_ne_nil := h.2.1
  trimmed := h.1
  untagged := not_hasTag_of_not_mem h.2.2

/-- A starred block with a text and a tag. -/
def greetingBlock : StarBlock where
  opener := starredLine "Greets." (by decide)
  others := [starredLine "@since 1" (by decide)]
  top := ['\t']
  bottom := ['\t']
  top_blank := by decide
  bottom_blank := by decide
  starless := by decide

/-- A starred block is read back through a decorator over several lines. -/
theorem extract_written_greeting :
    let lines := ["int count;", "\t/**", "\t*\tGreets.", "\t*\t@since 1", "\t*/"].map String.toList ++
      (routeDecorator.lines ++ ["String hello();".toList])
    extract .javadoc true lines 10 = .ok (some "Greets.\n@since 1") ∧
      extract .javadoc false lines 10 = .ok (some "Greets.") := by
  intro lines
  exact extract_written ["int count;".toList] (.javadoc greetingBlock) [routeDecorator]
    "String hello();".toList []

end EndpointDocs.Comment
