import EndpointDocs.Comment.Style
import EndpointDocs.Text.LineBreak

/-!
# Documentation blocks

A declaration is documented by the block right above it; annotations may stand between the two.
Lines above a declaration are listed nearest first.

* `nearest`: the lines above the annotations of a declaration.
* `region`: the lines of a block, in source order, from its opener to its last line.
* `textAbove`, `extract`: the cleaned lines of the block of a declaration, and their text.
-/

namespace EndpointDocs.Comment

open Text

/-- The closing brackets of a line less its opening ones. -/
def bracketSurplus (l : Line) : Int :=
  (l.countP fun c => c == ')' || c == ']' || c == '}') -
    (l.countP fun c => c == '(' || c == '[' || c == '{')

/--
The lines above the annotation whose brackets close further down, where `surplus` closing brackets
wait for their partners: the first line that balances them has to be an annotation.
-/
def aboveWrapped (surplus : Int) : List Line → Option (List Line)
  | [] => none
  | l :: ls =>
    let surplus := surplus + bracketSurplus l
    if surplus > 0 then aboveWrapped surplus ls
    else if isAnnotated (trim l) then some ls else none

theorem length_of_aboveWrapped {n : Int} {ls rest : List Line}
    (h : aboveWrapped n ls = some rest) : rest.length < ls.length := by
  induction ls generalizing n with
  | nil => simp [aboveWrapped] at h
  | cons l ls ih =>
    simp only [aboveWrapped] at h
    split at h
    · exact Nat.lt_succ_of_lt (ih h)
    · split at h
      · simp_all
      · simp at h

/-- The lines above an annotation that ends with the line `l` but does not start there. -/
def wrappedAbove? (l : Line) (ls : List Line) : Option (List Line) :=
  if bracketSurplus l ≤ 0 then none else aboveWrapped (bracketSurplus l) ls

theorem length_of_wrappedAbove? {l : Line} {ls rest : List Line}
    (h : wrappedAbove? l ls = some rest) : rest.length < ls.length := by
  unfold wrappedAbove? at h
  split at h
  · simp at h
  · exact length_of_aboveWrapped h

/-- Whether a line, not the closer of a block, may end an annotation that started above. -/
def mayEndWrapped (s : Style) (l : Line) : Bool := !(trim l).isEmpty && !s.closes (trim l)

/-- The lines above the annotations that a declaration carries. -/
def nearest (s : Style) : List Line → List Line
  | [] => []
  | l :: ls =>
    if isAnnotated (trim l) then nearest s ls
    else if mayEndWrapped s l then
      match _h : wrappedAbove? l ls with
      | some rest => nearest s rest
      | none => l :: ls
    else l :: ls
termination_by ls => ls.length
decreasing_by
  · simp
  · exact Nat.lt_succ_of_lt (length_of_wrappedAbove? _h)

/-- The lines of the block whose last line is the nearest one, put before the lines `below`. -/
def region (s : Style) (below : List Line) : List Line → Option (List Line)
  | [] => none
  | l :: ls =>
    if !s.continues (trim l) then none
    else if s.opens (trim l) then some (l :: below)
    else region s (l :: below) ls

/-- The lines of the block that ends right above a declaration, annotations skipped. -/
def blockLines (s : Style) (above : List Line) : Option (List Line) :=
  match nearest s above with
  | [] => none
  | l :: ls => if s.closes (trim l) then region s [] (l :: ls) else none

/-- Whether a cleaned line stays in the text of a block. -/
def isKept (keepTags : Bool) (l : Line) : Bool := !l.isEmpty && (keepTags || !isAnnotated l)

/-- The lines of a block: cleaned, without empty lines and, if so wanted, without tags. -/
def blockText (s : Style) (keepTags : Bool) (block : List Line) : List Line :=
  (block.map fun l => s.clean (trim l)).filter (isKept keepTags)

/-- The text, line by line, of the block above a declaration. -/
def textAbove (s : Style) (keepTags : Bool) (above : List Line) : Option (List Line) :=
  (blockLines s above).map (blockText s keepTags)

/-- The text of the block above a declaration. -/
def descriptionAbove (s : Style) (keepTags : Bool) (above : List Line) : Option String :=
  (textAbove s keepTags above).map fun ls => String.ofList (joinLines ls)

/-- What can go wrong when a block is looked for. -/
inductive Fault where
  /-- The line above the declaration is past the end of the source. -/
  | noSuchLine
  deriving DecidableEq, Repr

/-- The lines above the one at an index, nearest first. -/
def linesAbove (lines : List Line) (index : Int) : Except Fault (List Line) :=
  if index ≤ 0 then .ok []
  else if (lines.length : Int) < index then .error .noSuchLine
  else .ok (lines.take index.toNat).reverse

/-- The text of the block above the line at an index. -/
def extract (s : Style) (keepTags : Bool) (lines : List Line) (index : Int) :
    Except Fault (Option String) :=
  (linesAbove lines index).map (descriptionAbove s keepTags)

end EndpointDocs.Comment
