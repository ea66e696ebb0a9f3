import EndpointDocs.Comment.Style
import EndpointDocs.Entries
import EndpointDocs.Text.LineBreak
import EndpointDocs.Text.Scan
import EndpointDocs.Types.Universe

/-!
# Source files

* `Tree`: the files of a source root, of a library beside it, and the packages that are known.
* `Tree.pathOf?`: the file that holds the source of an owner.
* `Tree.load`: the lines of a file; the source root comes first.
-/

namespace EndpointDocs.Source

open Comment (Line)

/-- Why a question about sources has no answer. -/
inductive Fault where
  /-- A file is not valid UTF-8. -/
  | unreadable
  /-- The source refuses to answer. -/
  | refused
  deriving DecidableEq, Repr

/-- Source files by their paths. -/
structure Tree where
  /-- The files of the source root. -/
  root : List (String × ByteArray)
  /-- The files that modules are imported from. -/
  library : List (String × ByteArray)
  /-- The modules that are packages. -/
  packages : List String

/-- A path without empty and `.` segments; an absolute path is none. -/
def normalPath? (path : String) : Option String :=
  if path.startsWith "/" then none
  else some ("/".intercalate ((Text.splitOn '/' path).filter fun s => !(s == "" || s == ".")))

def moduleOf : Owner → String
  | .cls m _ _ => m
  | .module m => m
  | .other m => m

namespace Tree

/-- The file of a module: named after it, or `__init__.py` inside a package. -/
def pathOfModule? (t : Tree) (module : String) : Option String :=
  if module = "" || module = "builtins" || module = "__main__" then none
  else
    let path := String.ofList (module.toList.map fun c => if c = '.' then '/' else c)
    some (path ++ if t.packages.contains module then "/__init__.py" else ".py")

/-- The file that holds the source of an owner, relative to a root. -/
def pathOf? (t : Tree) (owner : Option Owner) : Option String :=
  owner.bind fun o => t.pathOfModule? (moduleOf o)

/-- The lines of a file. -/
def decode (bytes : ByteArray) : Except Fault (List Line) :=
  match String.fromUTF8? bytes with
  | some s => .ok (Text.splitLines s.toList)
  | none => .error .unreadable

def file? (files : List (String × ByteArray)) (path : String) : Option ByteArray :=
  (normalPath? path).bind (Entries.find? · files)

/--
The lines of a file: from the source root, else from the library. A file that cannot be read counts
as absent if it lies in a package of the library.
-/
def load (t : Tree) (path : String) : Except Fault (List Line) :=
  match file? t.root path with
  | some bytes => decode bytes
  | none =>
    match file? t.library path with
    | none => .ok []
    | some bytes =>
      match decode bytes with
      | .ok ls => .ok ls
      | .error e => if path.contains '/' then .ok [] else .error e

/-- The files with some of them written anew. -/
def write (t : Tree) (files : List (String × ByteArray)) : Tree :=
  { t with root := Entries.merge t.root files }

end Tree

end EndpointDocs.Source
