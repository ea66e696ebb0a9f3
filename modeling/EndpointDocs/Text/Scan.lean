/-!
# Scanning texts

* `after?`: the rest of a text behind a given start.
* `firstAt?`: the first answer of a reader at a position, from left to right.
* `somewhere`: whether a test holds at some position; it sees the character before.
* `splitOn`: the parts of a text between the places of a character.
-/

namespace EndpointDocs.Text

/-- The rest of a text behind a given start. -/
def after? : (start text : List Char) → Option (List Char)
  | [], text => some text
  | _ :: _, [] => none
  | a :: start, b :: text => if a = b then after? start text else none

/-- The first answer at a position of a text, from left to right. -/
def firstAt? {α : Type} (read : List Char → Option α) : List Char → Option α
  | [] => read []
  | c :: cs => (read (c :: cs)).or (firstAt? read cs)

/-- A test holds at some position of a text, given the character before the text. -/
def somewhere (test : Option Char → List Char → Bool) : (before : Option Char) → List Char → Bool
  | before, [] => test before []
  | before, c :: cs => test before (c :: cs) || somewhere test (some c) cs

/-- The parts of a text between the places of a character. -/
def splitOn (c : Char) (text : String) : List String := (text.toList.splitOn c).map String.ofList

end EndpointDocs.Text
