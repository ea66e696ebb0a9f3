/-!
# Blanks

* `isBlank`: the white space of Unicode together with the separators U+001C to U+001F.
* `trimStart`, `trimEnd`, `trim`: a text without the blanks at its ends.
* `afterBlanks`, `afterSomeBlanks`: whether a test holds after a run of blanks.
-/

namespace EndpointDocs.Text

def isBlank (c : Char) : Bool :=
  let n := c.toNat
  (9 ≤ n && n ≤ 13) || (0x1c ≤ n && n ≤ 0x20) || n == 0x85 || n == 0xa0 || n == 0x1680 ||
    (0x2000 ≤ n && n ≤ 0x200a) || n == 0x2028 || n == 0x2029 || n == 0x202f || n == 0x205f ||
    n == 0x3000

def trimStart (cs : List Char) : List Char := cs.dropWhile isBlank

def trimEnd (cs : List Char) : List Char := (cs.reverse.dropWhile isBlank).reverse

def trim (cs : List Char) : List Char := trimEnd (trimStart cs)

/-- A test holds after dropping some number of leading blanks, possibly none. -/
def afterBlanks (test : List Char → Bool) : List Char → Bool
  | [] => test []
  | c :: cs => test (c :: cs) || (isBlank c && afterBlanks test cs)

/-- A test holds after dropping at least one leading blank. -/
def afterSomeBlanks (test : List Char → Bool) : List Char → Bool
  | [] => false
  | c :: cs => isBlank c && afterBlanks test cs

/-- The answer after the longest run of leading blanks that has one, possibly the empty run. -/
def afterBlanks? {α : Type} (read : List Char → Option α) : List Char → Option α
  | [] => read []
  | c :: cs => if isBlank c then (afterBlanks? read cs).or (read (c :: cs)) else read (c :: cs)

/-- The answer after the longest run of at least one leading blank that has one. -/
def afterSomeBlanks? {α : Type} (read : List Char → Option α) : List Char → Option α
  | [] => none
  | c :: cs => if isBlank c then afterBlanks? read cs else none

end EndpointDocs.Text
