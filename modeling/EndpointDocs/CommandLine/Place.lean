import EndpointDocs.Text.Scan

/-!
# Places in a file system

* `Place`: what is at a path.
* `tidyPath`, `parentsOf`: a path without needless parts, and the directories it lies in.
* `Place.among`: what is at a path if the files of a directory are known.
-/

namespace EndpointDocs.CommandLine

/-- What is at a path. -/
inductive Place where
  | file (bytes : ByteArray)
  | directory
  | nothing

/-! ## Paths -/

/-- What a path starts at: the working directory, or a root, which two slashes name as well. -/
def pathRoot (path : String) : String :=
  if path.startsWith "//" && !path.startsWith "///" then "//"
  else if path.startsWith "/" then "/" else ""

/-- The parts of a path. -/
def pathParts (path : String) : List String :=
  (Text.splitOn '/' path).filter fun s => !(s == "" || s == ".")

/-- The path of some parts; a dot is the working directory. -/
def ofParts (root : String) (parts : List String) : String :=
  if root = "" && parts.isEmpty then "." else root ++ "/".intercalate parts

/-- A path without empty and `.` parts. -/
def tidyPath (path : String) : String := ofParts (pathRoot path) (pathParts path)

/-- The directories that a path lies in, the nearest first. -/
def parentsOf (path : String) : List String :=
  let parts := pathParts path
  (List.range parts.length).reverse.map fun n => ofParts (pathRoot path) (parts.take n)

/-- The path of a part below a directory. -/
def below (directory path : String) : String :=
  ofParts (pathRoot directory) (pathParts directory ++ pathParts path)

/-! ## Places -/

namespace Place

def isThere : Place → Bool
  | nothing => false
  | _ => true

def bytes? : Place → Option ByteArray
  | file b => some b
  | _ => none

/-- What is at a path below a directory with some files and nothing else. -/
def among (files : List (String × ByteArray)) (path : String) : Place :=
  let here := files.map fun (p, bytes) => (pathParts p, bytes)
  let isDirectory := fun parts =>
    parts.isEmpty || here.any fun (p, _) => parts.isPrefixOf p && p.length > parts.length
  let step := fun (parts : List String) s =>
    if !isDirectory parts then none
    else if s = "" || s = "." then some parts
    else if s = ".." then some parts.dropLast
    else some (parts ++ [s])
  if path = "" then nothing
  else if path.startsWith "/" then if (pathParts path).isEmpty then directory else nothing
  else match (Text.splitOn '/' path).foldlM step [] with
    | none => nothing
    | some parts =>
      match here.lookup parts with
      | some bytes => file bytes
      | none => if isDirectory parts then directory else nothing

end Place

end EndpointDocs.CommandLine
