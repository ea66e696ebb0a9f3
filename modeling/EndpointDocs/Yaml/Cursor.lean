/-!
# Places in a YAML text

* `Cursor`: the rest of a text with the place where it starts.
* `isBreak`, `endsWord`: line breaks, and what ends a word.
* `Cursor.atDocumentMark`: whether a line marks the start or the end of a document.
-/

namespace EndpointDocs.Yaml

/-- Why a text is no YAML document. -/
inductive Fault where
  /-- The text breaks a rule of the format. -/
  | malformed
  /-- A number, a date or a character that is written correctly does not exist. -/
  | noSuchValue
  deriving DecidableEq, Repr

def isBreak (c : Char) : Bool :=
  c == '\n' || c == '\r' || c == '\x85' || c == '\u2028' || c == '\u2029'

/-- Whether a word ends before a character; `none` is the end of the text. -/
def endsWord (c : Option Char) : Bool := c.all fun c => c == ' ' || c == '\t' || isBreak c

/-- Whether a character may stand in a document. -/
def isAllowed (c : Char) : Bool :=
  let n := c.toNat
  n == 9 || n == 10 || n == 13 || (0x20 ≤ n && n ≤ 0x7e) || n == 0x85 || (0xa0 ≤ n && n ≤ 0xfffd) ||
    0x10000 ≤ n

/-- The rest of a text and the place where it starts. -/
structure Cursor where
  rest : List Char
  index : Nat
  line : Nat
  column : Nat

namespace Cursor

/-- The start of a text. -/
def ofText (cs : List Char) : Cursor := ⟨cs, 0, 0, 0⟩

def peek (c : Cursor) : Option Char := c.rest.head?

/-- The character a number of places ahead. -/
def peekAt (c : Cursor) (n : Nat) : Option Char := c.rest[n]?

/-- The place behind the next character. -/
def next (c : Cursor) : Cursor :=
  match c.rest with
  | [] => c
  | '\r' :: '\n' :: cs => ⟨'\n' :: cs, c.index + 1, c.line, c.column + 1⟩
  | ch :: cs =>
    if isBreak ch then ⟨cs, c.index + 1, c.line + 1, 0⟩
    else ⟨cs, c.index + 1, c.line, if ch = '\ufeff' then c.column else c.column + 1⟩

/-- The place a number of characters ahead. -/
def forward (c : Cursor) : Nat → Cursor
  | 0 => c
  | n + 1 => c.next.forward n

/-- The characters up to the first that fails a test. -/
def word (c : Cursor) (test : Char → Bool) : List Char := c.rest.takeWhile test

/-- The place behind the characters that pass a test. -/
def skip (c : Cursor) (test : Char → Bool) : Cursor := c.forward (c.word test).length

/-- The line break that starts here, as it counts in a text, and the place behind it. -/
def lineBreak? (c : Cursor) : Option (Char × Cursor) :=
  match c.rest with
  | '\r' :: '\n' :: _ => some ('\n', c.forward 2)
  | ch :: _ =>
    if ch = '\n' || ch = '\r' || ch = '\x85' then some ('\n', c.next)
    else if isBreak ch then some (ch, c.next)
    else none
  | [] => none

/-- Whether a document mark of three characters starts here, as a word. -/
def startsMark (c : Cursor) (mark : Char) : Bool :=
  c.peek == some mark && c.peekAt 1 == some mark && c.peekAt 2 == some mark && endsWord (c.peekAt 3)

/-- Whether `---` or `...` starts here, as a word. -/
def atDocumentMark (c : Cursor) : Bool := c.startsMark '-' || c.startsMark '.'

end Cursor

end EndpointDocs.Yaml
