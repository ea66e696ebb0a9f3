import EndpointDocs.Text.Blank

/-!
# Comment styles

* `Style`: blocks of `#` lines opened by `##`, or blocks between `/**` and `*/`.
* `Style.opens`, `Style.closes`, `Style.continues`: what a trimmed line is to a block.
* `Style.clean`: the text of a trimmed line without marks and markup.
* `isComment`: whether a line holds a comment only.
-/

namespace EndpointDocs.Comment

open Text

/-- A line of source text. -/
abbrev Line := List Char

/-- How a documentation block is written. -/
inductive Style where
  | hash
  | javadoc
  deriving DecidableEq, Inhabited, Repr

/-- The opener of an annotation and of a tag. -/
def isAt (c : Char) : Bool := c == '@'

def isAnnotated (l : Line) : Bool := l.head?.any isAt

/-- The text behind a markup tag: past the first `>`, if some character was found before it. -/
def afterTag? : (found : Bool) → List Char → Option (List Char)
  | _, [] => none
  | true, '>' :: cs => some cs
  | false, '>' :: _ => none
  | _, _ :: cs => afterTag? true cs

theorem length_of_afterTag? {b : Bool} {cs rest : List Char} (h : afterTag? b cs = some rest) :
    rest.length < cs.length := by
  fun_induction afterTag? b cs with
  | case1 => simp at h
  | case2 cs => simp_all
  | case3 => simp at h
  | case4 b c cs _ _ ih => exact Nat.lt_succ_of_lt (ih h)

/-- The text without its markup tags: every `<…>` with something inside, in one pass. -/
def dropTags : List Char → List Char
  | [] => []
  | c :: cs =>
    if c = '<' then
      match _h : afterTag? false cs with
      | some rest => dropTags rest
      | none => c :: dropTags cs
    else c :: dropTags cs
termination_by cs => cs.length
decreasing_by
  · exact Nat.lt_succ_of_lt (length_of_afterTag? _h)
  all_goals simp

namespace Style

/-- What a line of plain comment starts with. -/
def marks : Style → List (List Char)
  | hash => [['#']]
  | javadoc => [['/', '/'], ['*'], ['/', '*']]

def opens : Style → Line → Bool
  | hash, l => ['#', '#'].isPrefixOf l
  | javadoc, l => ['/', '*', '*'].isPrefixOf l

/-- Whether a trimmed line can be the last of a block. -/
def closes : Style → Line → Bool
  | hash, l => ['#'].isPrefixOf l
  | javadoc, l => ['*', '/'].isSuffixOf l

/-- Whether a trimmed line may stand inside a block. -/
def continues : Style → Line → Bool
  | hash, l => ['#'].isPrefixOf l
  | javadoc, _ => true

def isStar (c : Char) : Bool := c == '*'

/-- A slash with at least one star after it is dropped from the front, stars included. -/
def dropOpener : Line → Line
  | '/' :: '*' :: cs => cs.dropWhile isStar
  | l => l

/-- A line without the marks of the style. -/
def unmark : Style → Line → Line
  | hash, l => l.dropWhile (· == '#')
  | javadoc, l =>
    let inner := dropOpener l
    (if ['*', '/'].isSuffixOf inner then inner.dropLast else inner).filter (! isStar ·)

/-- The text of a trimmed line: marks dropped, then blanks at the ends, then markup. -/
def clean (s : Style) (l : Line) : Line := dropTags (trim (s.unmark l))

end Style

/-- Whether a line holds a comment only. -/
def isComment (s : Style) (l : Line) : Bool := s.marks.any (·.isPrefixOf (trim l))

end EndpointDocs.Comment
