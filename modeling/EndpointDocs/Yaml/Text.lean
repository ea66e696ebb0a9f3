import EndpointDocs.Yaml.Cursor

/-!
# Scalars in a YAML text

* `plain`: a scalar without quotes; it may go on over several lines.
* `quoted`: a scalar between single or double quotes.

A line break inside a scalar counts as a blank, further breaks count as themselves.
-/

namespace EndpointDocs.Yaml

/-- Characters that mean something inside brackets. -/
def isFlowMark (c : Char) : Bool := c == ',' || c == '[' || c == ']' || c == '{' || c == '}'

/-- What breaks between two words count as: the first as a blank, unless more follow. -/
def folded (first : Char) (others : List Char) : List Char :=
  if first ≠ '\n' then first :: others else if others.isEmpty then [' '] else others

/-! ## Plain scalars -/

/-- How many characters of a plain word stand here. -/
def plainLength (flow : Bool) : List Char → Nat
  | [] => 0
  | c :: cs =>
    if endsWord (some c) ||
        (c == ':' && (endsWord cs.head? || (flow && cs.head?.any isFlowMark))) ||
        (flow && (c == '?' || isFlowMark c)) then 0
    else plainLength flow cs + 1

/-- The breaks behind the first one, blanks skipped; none if a document mark follows a break. -/
def plainBreaks : (fuel : Nat) → Cursor → Option (List Char × Cursor)
  | 0, c => some ([], c)
  | n + 1, c =>
    if c.peek = some ' ' then plainBreaks n c.next
    else match c.lineBreak? with
      | none => some ([], c)
      | some (b, c) =>
        if c.atDocumentMark then none
        else (plainBreaks n c).map fun (bs, c) => (b :: bs, c)

/-- What stands between two plain words, the place behind it, and whether a line ended there. -/
def plainSpace (c : Cursor) : List Char × Cursor × Bool :=
  let blanks := c.word (· == ' ')
  let c := c.forward blanks.length
  match c.lineBreak? with
  | none => (blanks, c, false)
  | some (b, c) =>
    if c.atDocumentMark then ([], c, true)
    else match plainBreaks c.rest.length c with
      | none => ([], c.skip fun ch => ch == ' ' || isBreak ch, true)
      | some (bs, c) => (folded b bs, c, true)

/-- A plain scalar that goes on behind `before`, at least so far indented outside brackets. -/
def plainFrom (flow : Bool) (indent : Nat) :
    (fuel : Nat) → (before : List Char) → (ended : Bool) → Cursor → List Char × Cursor × Bool
  | 0, _, ended, c => ([], c, ended)
  | n + 1, before, ended, c =>
    let length := plainLength flow c.rest
    if c.peek = some '#' || length = 0 then ([], c, ended)
    else
      let word := before ++ c.rest.take length
      let (space, c, ended) := plainSpace (c.forward length)
      if space.isEmpty || c.peek = some '#' || (!flow && c.column < indent) then (word, c, ended)
      else
        let (more, c, ended) := plainFrom flow indent n space ended c
        (word ++ more, c, ended)

/-- A plain scalar, the place behind it, and whether a line ended after its last word. -/
def plain (flow : Bool) (indent : Nat) (c : Cursor) : List Char × Cursor × Bool :=
  plainFrom flow indent (c.rest.length + 1) [] false c

/-! ## Quoted scalars -/

/-- The character that a letter stands for behind a backslash. -/
def escaped? : Char → Option Char
  | '0' => some '\x00'
  | 'a' => some '\x07'
  | 'b' => some '\x08'
  | 't' | '\t' => some '\t'
  | 'n' => some '\n'
  | 'v' => some '\x0b'
  | 'f' => some '\x0c'
  | 'r' => some '\r'
  | 'e' => some '\x1b'
  | ' ' => some ' '
  | '"' => some '"'
  | '\\' => some '\\'
  | '/' => some '/'
  | 'N' => some '\x85'
  | '_' => some '\xa0'
  | 'L' => some '\u2028'
  | 'P' => some '\u2029'
  | _ => none

/-- How many hexadecimal digits follow a letter behind a backslash. -/
def codeLength? : Char → Option Nat
  | 'x' => some 2
  | 'u' => some 4
  | 'U' => some 8
  | _ => none

def hexValue? (c : Char) : Option Nat :=
  let n := c.toNat
  if c.isDigit then some (n - 48)
  else if 'a' ≤ c && c ≤ 'f' then some (n - 87)
  else if 'A' ≤ c && c ≤ 'F' then some (n - 55)
  else none

/-- The number that hexadecimal digits write. -/
def hexNumber? (cs : List Char) : Option Nat :=
  cs.foldlM (fun n c => do return 16 * n + (← hexValue? c)) 0

/-- The character of a number. -/
def charOf (n : Nat) : Except Fault Char :=
  if n ≤ 0x10ffff then .ok (Char.ofNat n) else .error .noSuchValue

/-- The breaks at the start of lines, blanks skipped; no document may start or end there. -/
def quotedBreaks : (fuel : Nat) → Cursor → Except Fault (List Char × Cursor)
  | 0, c => .ok ([], c)
  | n + 1, c =>
    if c.atDocumentMark then .error .malformed
    else
      let c := c.skip fun ch => ch == ' ' || ch == '\t'
      match c.lineBreak? with
      | none => .ok ([], c)
      | some (b, c) => do
        let (bs, c) ← quotedBreaks n c
        return (b :: bs, c)

/-- The rest of a quoted scalar behind its opening quote. -/
def quotedFrom (quote : Char) : (fuel : Nat) → Cursor → Except Fault (List Char × Cursor)
  | 0, _ => .error .malformed
  | n + 1, c =>
    let go (before : List Char) (c : Cursor) : Except Fault (List Char × Cursor) := do
      let (more, c) ← quotedFrom quote n c
      return (before ++ more, c)
    match c.rest with
    | [] => .error .malformed
    | ch :: cs =>
      if ch = quote then
        if quote = '\'' && cs.head? = some '\'' then go ['\''] (c.forward 2) else .ok ([], c.next)
      else if ch = ' ' || ch = '\t' || isBreak ch then
        let blanks := c.word fun ch => ch == ' ' || ch == '\t'
        let c := c.forward blanks.length
        match c.lineBreak? with
        | none => go blanks c
        | some (b, c) => do
          let (bs, c) ← quotedBreaks (c.rest.length + 1) c
          go (folded b bs) c
      else if ch = '\\' && quote = '"' then
        match cs with
        | [] => .error .malformed
        | e :: _ =>
          match escaped? e, codeLength? e with
          | some d, _ => go [d] (c.forward 2)
          | none, some k =>
            let digits := (cs.drop 1).take k
            match hexNumber? digits with
            | some code =>
              if digits.length = k then do go [← charOf code] (c.forward (2 + k))
              else .error .malformed
            | none => .error .malformed
          | none, none =>
            match c.next.lineBreak? with
            | some (_, c) => do
              let (bs, c) ← quotedBreaks (c.rest.length + 1) c
              go bs c
            | none => .error .malformed
      else go [ch] c.next

/-- A scalar between quotes and the place behind it. -/
def quoted (c : Cursor) : Except Fault (List Char × Cursor) :=
  quotedFrom (c.peek.getD '"') c.rest.length c.next

end EndpointDocs.Yaml
