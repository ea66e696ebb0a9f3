import EndpointDocs.Yaml.Token

/-!
# YAML trees

* `Tree`: scalars, lists and maps as a document holds them.
* `Tree.ofTokens?`: the tree of the tokens of a single document; an empty text has none.
-/

namespace EndpointDocs.Yaml

/-- A document without the meaning of its scalars. -/
inductive Tree where
  | scalar (text : String) (plain : Bool)
  | list (items : List Tree)
  | map (entries : List (Tree × Tree))
  deriving Inhabited

/-- What is read off the front of a list of tokens. -/
abbrev Reader := StateT (List Token) (Except Fault)

namespace Tree

/-- A value that is left out. -/
def absent : Tree := .scalar "" true

/-- Reads nothing. -/
def refuse {α : Type} : Reader α := throw .malformed

def take : Reader Token := do
  match ← get with
  | [] => refuse
  | t :: ts => do
    set ts
    return t

/-- Whether the next token is one of some; the end of the tokens is. -/
def isNext (among : List Token) : Reader Bool := return (← get).head?.all among.contains

/-- Reads a token if it is the next one, and tells whether it was. -/
def takeIf (t : Token) : Reader Bool := do
  let found ← isNext [t]
  if found then do
    let _ ← take
  return found

mutual

/-- A tree; blocks need `block`, and a list may start in the column of its key if `bare`. -/
def node (block bare : Bool) : (fuel : Nat) → Reader Tree
  | 0 => refuse
  | n + 1 => do
    if ← isNext [.entry] then
      if bare then return .list (← bareItems n) else refuse
    else match ← take with
      | .scalar s plain => return .scalar s plain
      | .listStart => return .list (← flowItems true n)
      | .mapStart => return .map (← flowEntries true n)
      | .blockListStart => if block then return .list (← blockItems n) else refuse
      | .blockMapStart => if block then return .map (← blockEntries n) else refuse
      | _ => refuse

/-- A tree unless it is left out before one of some tokens. -/
def optional (block bare : Bool) (before : List Token) : (fuel : Nat) → Reader Tree
  | 0 => refuse
  | n + 1 => do if ← isNext before then return absent else node block bare n

/-- The items of a list in the column of its key. -/
def bareItems : (fuel : Nat) → Reader (List Tree)
  | 0 => refuse
  | n + 1 => do
    if ← takeIf .entry then
      let t ← optional true false [.entry, .key, .value, .blockEnd] n
      return t :: (← bareItems n)
    else return []

def blockItems : (fuel : Nat) → Reader (List Tree)
  | 0 => refuse
  | n + 1 => do
    match ← take with
    | .entry =>
      let t ← optional true false [.entry, .blockEnd] n
      return t :: (← blockItems n)
    | .blockEnd => return []
    | _ => refuse

def blockEntries : (fuel : Nat) → Reader (List (Tree × Tree))
  | 0 => refuse
  | n + 1 => do
    match ← take with
    | .key =>
      let k ← optional true true [.key, .value, .blockEnd] n
      let v ← valueOf true [.key, .value, .blockEnd] n
      return (k, v) :: (← blockEntries n)
    | .blockEnd => return []
    | _ => refuse

/-- The value behind a key, if there is one. -/
def valueOf (block : Bool) (before : List Token) : (fuel : Nat) → Reader Tree
  | 0 => refuse
  | n + 1 => do if ← takeIf .value then optional block block before n else return absent

/-- The items between list brackets, separated by commas; a pair makes a map of its own. -/
def flowItems (first : Bool) : (fuel : Nat) → Reader (List Tree)
  | 0 => refuse
  | n + 1 => do
    if ← takeIf .listEnd then return []
    if !first then
      if !(← takeIf .comma) then refuse
    if ← takeIf .listEnd then return []
    let t ← flowItem n
    return t :: (← flowItems false n)

def flowItem : (fuel : Nat) → Reader Tree
  | 0 => refuse
  | n + 1 => do
    if ← takeIf .key then
      let k ← optional false false [.value, .comma, .listEnd] n
      let v ← valueOf false [.comma, .listEnd] n
      return .map [(k, v)]
    else node false false n

/-- The entries between map brackets, separated by commas. -/
def flowEntries (first : Bool) : (fuel : Nat) → Reader (List (Tree × Tree))
  | 0 => refuse
  | n + 1 => do
    if ← takeIf .mapEnd then return []
    if !first then
      if !(← takeIf .comma) then refuse
    if ← takeIf .mapEnd then return []
    let e ← flowEntry n
    return e :: (← flowEntries false n)

def flowEntry : (fuel : Nat) → Reader (Tree × Tree)
  | 0 => refuse
  | n + 1 => do
    if ← takeIf .key then
      let k ← optional false false [.value, .comma, .mapEnd] n
      return (k, ← valueOf false [.comma, .mapEnd] n)
    else return (← node false false n, absent)

end

/-- The rest of a text behind its document. -/
def finish : Reader Unit := do
  if (← get).dropWhile (· == .documentEnd) != [.streamEnd] then refuse

/-- The document of a text, if it holds one. -/
def document? (fuel : Nat) : Reader (Option Tree) := do
  if ← takeIf .streamEnd then return none
  let marked ← takeIf .documentStart
  let ends := [Token.documentStart, .documentEnd, .streamEnd]
  let t ← if marked then optional true false ends fuel else node true false fuel
  finish
  return some t

/-- The tree of a single document; none if there is no document. -/
def ofTokens? (ts : List Token) : Except Fault (Option Tree) :=
  (document? (3 * ts.length + 3)).run' ts

end Tree

end EndpointDocs.Yaml
