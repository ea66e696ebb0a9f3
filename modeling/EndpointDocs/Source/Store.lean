import EndpointDocs.Source.Search
import EndpointDocs.Source.Tree

/-!
# The documentation store

* `Lookup`: an answer that may fail, from something that remembers.
* `Docs`: what answers questions about documentation.
* `Store`: source files and the lines that were already read; a file is read once.
* `Store.docs`: the answers that source comments give.
* `Docs.fixed`: answers that depend on nothing.
-/

namespace EndpointDocs

/-- A question to something with a memory `σ`; what it learned stays when it fails. -/
abbrev Lookup (σ α : Type) := ExceptT Source.Fault (StateM σ) α

/-- What answers questions about documentation. -/
structure Docs (σ : Type) where
  /-- The text of a class or a module. -/
  classText : (owner : Option Owner) → Lookup σ (Option String)
  /-- The text of a function. -/
  methodText : (owner : Option Owner) → (name : String) → Lookup σ (Option String)
  /-- The text of a field. -/
  fieldText : (owner : Option Owner) → (name : String) → Lookup σ (Option String)
  /-- The text of a parameter of a function. -/
  paramText : (owner : Option Owner) → (method param : String) → Lookup σ (Option String)

/-- Answers that are the same whoever asks. -/
def Docs.fixed (cls method : Except Source.Fault (Option String))
    (field param : String → Except Source.Fault (Option String)) : Docs Unit where
  classText _ := ExceptT.mk (pure cls)
  methodText _ _ := ExceptT.mk (pure method)
  fieldText _ name := ExceptT.mk (pure (field name))
  paramText _ _ name := ExceptT.mk (pure (param name))

namespace Source

open Comment (Line Style)

/-- Source files and the lines read so far. -/
structure Store where
  tree : Tree
  read : List (String × List Line)

namespace Store

/-- A store that has read nothing. -/
def ofTree (t : Tree) : Store := ⟨t, []⟩

/-- The lines of a file as the store knows them, read now if they were not read before. -/
def linesAt (path : String) : Lookup Store (List Line) := do
  let s ← get
  match Entries.find? path s.read with
  | some ls => return ls
  | none =>
    match s.tree.load path with
    | .ok ls => do
      set { s with read := Entries.put path ls s.read }
      return ls
    | .error e => throw e

/-- The lines of the module of an owner; none without a file. -/
def lines (owner : Option Owner) : Lookup Store (List Line) := do
  match (← get).tree.pathOf? owner with
  | none => return []
  | some path => linesAt path

/-- The store with nothing read. -/
def clear (s : Store) : Store := { s with read := [] }

/-- The store after files of the source root were written; what was read stays. -/
def write (s : Store) (files : List (String × ByteArray)) : Store :=
  { s with tree := s.tree.write files }

/-- The answers of a store whose comments have a style. -/
def docs (style : Style) : Docs Store where
  classText owner := return Source.classText style owner (← lines owner)
  methodText owner name := return Source.methodText style owner name (← lines owner)
  fieldText owner name := return Source.fieldText style owner name (← lines owner)
  paramText owner method param := return Source.paramText style owner method param (← lines owner)

end Store

end Source

end EndpointDocs
