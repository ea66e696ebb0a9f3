import EndpointDocs.Yaml.Text

/-!
# YAML tokens

Outside brackets the indentation of a line opens and closes blocks. What stands before a colon is
known to be a key only afterwards, so its place among the tokens is kept.

* `Token`: the parts of a document.
* `Scan`: how far a text is read.
* `Scan.token`: one more token.
* `Token.ofText?`: the tokens of a text.
-/

namespace EndpointDocs.Yaml

/-- A part of a document. -/
inductive Token where
  | documentStart
  | documentEnd
  | streamEnd
  | listStart
  | listEnd
  | mapStart
  | mapEnd
  | blockListStart
  | blockMapStart
  | blockEnd
  | entry
  | comma
  | key
  | value
  /-- A scalar; one without quotes may stand for something other than its text. -/
  | scalar (text : String) (plain : Bool)
  deriving DecidableEq, Repr, Inhabited

/-- A place where a key may have started. -/
structure KeyPlace where
  /-- The depth of brackets around it. -/
  level : Nat
  /-- How many tokens come before it. -/
  token : Nat
  /-- Whether nothing but a key can stand there. -/
  required : Bool
  index : Nat
  line : Nat
  column : Nat

/-- How far a text is read. -/
structure Scan where
  cursor : Cursor
  /-- The depth of brackets. -/
  level : Nat
  /-- The columns of the open blocks, innermost first. -/
  blocks : List Nat
  /-- Whether a key may start at the next token. -/
  keyAllowed : Bool
  keys : List KeyPlace
  tokens : Array Token

namespace Scan

/-- A text of which nothing is read; a byte order mark at its start does not count. -/
def ofText (cs : List Char) : Scan :=
  let c := Cursor.ofText cs
  { cursor := if c.peek = some '\ufeff' then c.next else c
    level := 0, blocks := [], keyAllowed := true, keys := [], tokens := #[] }

def inFlow (s : Scan) : Bool := s.level != 0

def push (s : Scan) (t : Token) : Scan := { s with tokens := s.tokens.push t }

/-- The scan with a token put in earlier. -/
def insert (s : Scan) (place : Nat) (t : Token) : Scan :=
  { s with tokens := s.tokens.insertIdxIfInBounds place t }

/-- The scan a number of characters ahead. -/
def forward (s : Scan) (n : Nat) : Scan := { s with cursor := s.cursor.forward n }

/-- The scan in which a key may start at the next token, or may not. -/
def allowKey (s : Scan) (allowed : Bool) : Scan := { s with keyAllowed := allowed }

/-- The place at the next token: behind blanks, comments and line breaks. -/
def toToken : (fuel : Nat) → Scan → Scan
  | 0, s => s
  | n + 1, s =>
    let c := s.cursor.skip (· == ' ')
    let c := if c.peek = some '#' then c.skip (!isBreak ·) else c
    match c.lineBreak? with
    | none => { s with cursor := c }
    | some (_, c) => toToken n { s with cursor := c, keyAllowed := s.keyAllowed || !s.inFlow }

/-- Without the key places that the cursor is too far from. -/
def dropStale (s : Scan) : Except Fault Scan :=
  let stale (k : KeyPlace) := k.line != s.cursor.line || 1024 < s.cursor.index - k.index
  if s.keys.any fun k => stale k && k.required then .error .malformed
  else .ok { s with keys := s.keys.filter (!stale ·) }

/-- Without the key place at the depth of brackets. -/
def dropKey (s : Scan) : Except Fault Scan :=
  if s.keys.any fun k => k.level == s.level && k.required then .error .malformed
  else .ok { s with keys := s.keys.filter (·.level != s.level) }

/-- With a key place here, if a key may start here. -/
def saveKey (s : Scan) : Except Fault Scan := do
  if !s.keyAllowed then return s
  let s ← s.dropKey
  let place : KeyPlace := {
    level := s.level, token := s.tokens.size
    required := !s.inFlow && s.blocks.head? == some s.cursor.column
    index := s.cursor.index, line := s.cursor.line, column := s.cursor.column }
  return { s with keys := place :: s.keys }

/-- The open blocks that start at most at a column, and how many are closed. -/
def closeBlocks (column : Nat) : List Nat → Nat × List Nat
  | [] => (0, [])
  | b :: bs =>
    if column < b then
      let (n, bs) := closeBlocks column bs
      (n + 1, bs)
    else (0, b :: bs)

/-- With the blocks closed that start behind a column; brackets keep all open. -/
def unwind (s : Scan) (column : Nat) : Scan :=
  if s.inFlow then s
  else
    let (n, blocks) := closeBlocks column s.blocks
    { s with blocks, tokens := s.tokens ++ Array.replicate n Token.blockEnd }

def unwindAll (s : Scan) : Scan :=
  if s.inFlow then s
  else { s with blocks := [], tokens := s.tokens ++ Array.replicate s.blocks.length Token.blockEnd }

/-- Whether a block may open at a column. -/
def opensBlock (s : Scan) (column : Nat) : Bool := s.blocks.head?.all (· < column)

/-- With a block opened at a column if none is open there; its token goes to a place. -/
def openBlock (s : Scan) (column place : Nat) (t : Token) : Scan :=
  if !s.inFlow && s.opensBlock column then
    { s with blocks := column :: s.blocks }.insert place t
  else s

/-! ## Tokens -/

/-- A mark of a document: all blocks end. -/
def documentMark (s : Scan) (t : Token) : Except Fault Scan := do
  let s ← s.unwindAll.dropKey
  return ((s.allowKey false).forward 3).push t

def openFlow (s : Scan) (t : Token) : Except Fault Scan := do
  let s ← s.saveKey
  return ({ s with level := s.level + 1, keyAllowed := true }.forward 1).push t

def closeFlow (s : Scan) (t : Token) : Except Fault Scan := do
  let s ← s.dropKey
  if s.level = 0 then throw .malformed
  return ({ s with level := s.level - 1, keyAllowed := false }.forward 1).push t

def comma (s : Scan) : Except Fault Scan := do
  let s ← s.dropKey
  return ((s.allowKey true).forward 1).push .comma

/-- The dash of a list entry. -/
def entry (s : Scan) : Except Fault Scan := do
  if !s.inFlow && !s.keyAllowed then throw .malformed
  let s := s.openBlock s.cursor.column s.tokens.size .blockListStart
  let s ← (s.allowKey true).dropKey
  return (s.forward 1).push .entry

/-- The question mark of a key. -/
def key (s : Scan) : Except Fault Scan := do
  if !s.inFlow && !s.keyAllowed then throw .malformed
  let s := s.openBlock s.cursor.column s.tokens.size .blockMapStart
  let s ← (s.allowKey !s.inFlow).dropKey
  return (s.forward 1).push .key

/-- The colon of a value: what stands before it on the line is its key. -/
def value (s : Scan) : Except Fault Scan := do
  match s.keys.find? (·.level == s.level) with
  | some k =>
    let s := { s with keys := s.keys.filter (·.level != s.level) }.insert k.token .key
    let s := s.openBlock k.column k.token .blockMapStart
    return ((s.allowKey false).forward 1).push .value
  | none =>
    if !s.inFlow && !s.keyAllowed then throw .malformed
    let s := s.openBlock s.cursor.column s.tokens.size .blockMapStart
    let s ← (s.allowKey !s.inFlow).dropKey
    return (s.forward 1).push .value

/-- A scalar between quotes. -/
def quotedScalar (s : Scan) : Except Fault Scan := do
  let s ← s.saveKey
  let (cs, cursor) ← quoted s.cursor
  return { (s.allowKey false) with cursor }.push (.scalar (String.ofList cs) false)

/-- A scalar without quotes. -/
def plainScalar (s : Scan) : Except Fault Scan := do
  let s ← s.saveKey
  let indent := s.blocks.head?.elim 0 (· + 1)
  let (cs, cursor, ended) := plain s.inFlow indent s.cursor
  return { (s.allowKey ended) with cursor }.push (.scalar (String.ofList cs) true)

def startsPlain (s : Scan) (c : Char) : Bool :=
  !(c == ' ' || c == '\t' || isBreak c || "-?:,[]\x7b\x7d#&*!|>'\"%@`".contains c) ||
    (!endsWord (s.cursor.peekAt 1) && (c == '-' || (!s.inFlow && (c == '?' || c == ':'))))

/-- The token that starts with a character. -/
def token (s : Scan) (c : Char) : Except Fault Scan :=
  let ends := endsWord (s.cursor.peekAt 1)
  let lineStart := s.cursor.column == 0
  if lineStart && s.cursor.startsMark '-' then s.documentMark .documentStart
  else if lineStart && s.cursor.startsMark '.' then s.documentMark .documentEnd
  else if c = '[' then s.openFlow .listStart
  else if c = '{' then s.openFlow .mapStart
  else if c = ']' then s.closeFlow .listEnd
  else if c = '}' then s.closeFlow .mapEnd
  else if c = ',' then s.comma
  else if c = '-' && ends then s.entry
  else if c = '?' && (s.inFlow || ends) then s.key
  else if c = ':' && (s.inFlow || ends) then s.value
  else if c = '\'' || c = '"' then s.quotedScalar
  else if s.startsPlain c then s.plainScalar
  else .error .malformed

/-- The scan at its next token, with the blocks closed that end before it. -/
def settle (s : Scan) : Except Fault Scan := do
  let s ← (s.toToken (s.cursor.rest.length + 1)).dropStale
  return s.unwind s.cursor.column

/-- All tokens of the rest of a text. -/
def run : (fuel : Nat) → Scan → Except Fault (List Token)
  | 0, _ => .error .malformed
  | n + 1, s => do
    let s ← s.settle
    match s.cursor.peek with
    | some c => run n (← s.token c)
    | none => return ((← s.unwindAll.dropKey).push .streamEnd).tokens.toList

end Scan

/-- The tokens of a text, the end of the text included. -/
def Token.ofText? (cs : List Char) : Except Fault (List Token) :=
  if cs.all isAllowed then (Scan.ofText cs).run (cs.length + 1) else .error .malformed

end EndpointDocs.Yaml
