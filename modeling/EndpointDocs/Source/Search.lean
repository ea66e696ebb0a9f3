import EndpointDocs.Comment.Block
import EndpointDocs.Comment.Tag
import EndpointDocs.Text.Scan
import EndpointDocs.Text.Word
import EndpointDocs.Types.Universe

/-!
# Searching declarations

* `declaresFunction`, `declaresClass`, `declaresField`: what a line declares.
* `aboveClass?`, `aboveMember?`, `aboveTopLevel?`: the lines above a declaration, nearest first.
* `classText`, `methodText`, `fieldText`, `paramText`: documentation texts in the lines of a module.
-/

namespace EndpointDocs.Source

open Comment Text

/-! ## Lines that declare something -/

/-- Whether a function of a name is declared from here on: `def`, blanks, the name, a bracket. -/
def functionHere (name : List Char) (before : Option Char) (cs : List Char) : Bool :=
  atWordEdge before cs.head? && (after? "def".toList cs).any (afterSomeBlanks fun cs =>
    (after? name cs).any (afterBlanks fun cs => cs.head? == some '('))

/-- Whether a class of a name is declared from here on: `class`, blanks, the name as a word. -/
def classHere (name : List Char) (before : Option Char) (cs : List Char) : Bool :=
  atWordEdge before cs.head? && (after? "class".toList cs).any (afterSomeBlanks fun cs =>
    (after? name cs).any fun cs => atWordEdge name.getLast? cs.head?)

def declaresFunction (name : List Char) (l : Line) : Bool := somewhere (functionHere name) none l

def declaresClass (name : List Char) (l : Line) : Bool := somewhere (classHere name) none l

/-- Whether a line declares a field of a name: the name, then a colon or an equals sign. -/
def declaresField (name : List Char) (l : Line) : Bool :=
  afterBlanks (fun cs => (after? name cs).any (afterBlanks fun cs =>
    cs.head? == some ':' || cs.head? == some '=')) l

/-! ## Places in a module -/

/-- The first line that passes a test, between the lines above, nearest first, and below it. -/
def firstLine? (test : Line → Bool) (above : List Line) :
    List Line → Option (List Line × Line × List Line)
  | [] => none
  | l :: ls => if test l then some (above, l, ls) else firstLine? test (l :: above) ls

/-- How many blanks a line starts with. -/
def indent (l : Line) : Nat := (l.takeWhile isBlank).length

def isEmptyLine (l : Line) : Bool := (trim l).isEmpty

def startsClosing (l : Line) : Bool := l.head?.any fun c => c == ')' || c == ']' || c == '}'

/-- Whether a line ends the body of a class at a depth of indentation. -/
def endsBody (depth : Nat) (l : Line) : Bool := indent l ≤ depth && !startsClosing (trim l)

/-- The lines above the first line of a class body that passes a test. -/
def aboveInBody? (s : Style) (depth : Nat) (test : Line → Bool) (above : List Line) :
    List Line → Option (List Line)
  | [] => none
  | l :: ls =>
    if isEmptyLine l || isComment s l then aboveInBody? s depth test (l :: above) ls
    else if endsBody depth l then none
    else if test l then some above
    else aboveInBody? s depth test (l :: above) ls

/-- The statement of a class between the lines above and below it. -/
def classLine? (s : Style) (name : String) (lines : List Line) :
    Option (List Line × Line × List Line) :=
  firstLine? (fun l => !isComment s l && declaresClass name.toList l) [] lines

def aboveClass? (s : Style) (name : String) (lines : List Line) : Option (List Line) :=
  (classLine? s name lines).map (·.1)

def aboveMember? (s : Style) (name : String) (test : Line → Bool) (lines : List Line) :
    Option (List Line) := do
  let (above, l, below) ← classLine? s name lines
  aboveInBody? s (indent l) test (l :: above) below

/-- The lines above the first line without indentation that passes a test. -/
def aboveTopLevel? (s : Style) (test : Line → Bool) (lines : List Line) : Option (List Line) :=
  (firstLine? (fun l => !l.head?.any isBlank && !isComment s l && test l) [] lines).map (·.1)

/-- The lines above the first line that is neither blank nor a comment. -/
def aboveCode? (s : Style) (lines : List Line) : Option (List Line) :=
  (firstLine? (fun l => !isEmptyLine l && !isComment s l) [] lines).map (·.1)

/-- The lines above a declaration that belongs to an owner: a member of a class, else top level. -/
def aboveDeclaration? (s : Style) (owner : Option Owner) (test : Line → Bool) (lines : List Line) :
    Option (List Line) :=
  match owner with
  | some (.cls _ name _) => aboveMember? s name test lines
  | _ => aboveTopLevel? s test lines

/-! ## Documentation texts -/

/-- The text of a class, or of a module as a whole. -/
def classText (s : Style) (owner : Option Owner) (lines : List Line) : Option String :=
  let above := match owner with
    | some (.cls _ name _) => aboveClass? s name lines
    | _ => aboveCode? s lines
  above.bind (descriptionAbove s false)

def methodText (s : Style) (owner : Option Owner) (name : String) (lines : List Line) :
    Option String :=
  (aboveDeclaration? s owner (declaresFunction name.toList) lines).bind (descriptionAbove s false)

def fieldText (s : Style) (owner : Option Owner) (name : String) (lines : List Line) :
    Option String :=
  (aboveDeclaration? s owner (declaresField name.toList) lines).bind (descriptionAbove s false)

/-- The text that a function gives to one of its parameters. -/
def paramText (s : Style) (owner : Option Owner) (method param : String) (lines : List Line) :
    Option String := do
  let above ← aboveDeclaration? s owner (declaresFunction method.toList) lines
  let text ← descriptionAbove s true above
  paramText? text param

end EndpointDocs.Source
