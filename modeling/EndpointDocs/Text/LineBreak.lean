/-!
# Line breaks

* `isLineBreak`: the characters that end a line on their own; `\r\n` counts as one break.
* `splitLines`: the lines of a text, breaks dropped; a final break opens no further line.
* `unifyLineBreaks`: `\r\n` and a lone `\r` read as `\n`.
* `joinLines`: the lines with `\n` between them.
-/

namespace EndpointDocs.Text

/-- Whether a character ends a line. -/
def isLineBreak (c : Char) : Bool :=
  let n := c.toNat
  (10 ≤ n && n ≤ 13) || (0x1c ≤ n && n ≤ 0x1e) || n == 0x85 || n == 0x2028 || n == 0x2029

/-- Put a character in front of the first line. -/
def consLine (c : Char) : List (List Char) → List (List Char)
  | [] => [[c]]
  | l :: ls => (c :: l) :: ls

def splitLines : List Char → List (List Char)
  | [] => []
  | '\r' :: '\n' :: rest => [] :: splitLines rest
  | c :: rest => if isLineBreak c then [] :: splitLines rest else consLine c (splitLines rest)

/-- The text with `\n` as its only carriage return or newline. -/
def unifyLineBreaks : List Char → List Char
  | [] => []
  | '\r' :: '\n' :: rest => '\n' :: unifyLineBreaks rest
  | c :: rest => (if c = '\r' then '\n' else c) :: unifyLineBreaks rest

/-- Texts with a separator between neighbours. -/
def joinWith (sep : List Char) : List (List Char) → List Char
  | [] => []
  | [l] => l
  | l :: l' :: ls => l ++ sep ++ joinWith sep (l' :: ls)

def joinLines (ls : List (List Char)) : List Char := joinWith ['\n'] ls

end EndpointDocs.Text
