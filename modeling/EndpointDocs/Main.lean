import EndpointDocs.CommandLine.Run

/-!
# The program

* `main`: looks at the file system and the environment, prints, and writes the output.
-/

namespace EndpointDocs.CommandLine

def placeAt (path : String) : IO Place := do
  let .ok file ← (IO.FS.realPath path).toBaseIO | return .nothing
  if ← file.isDir then return .directory
  let .ok bytes ← (IO.FS.readBinFile file).toBaseIO | return .nothing
  return .file bytes

/-- The variables of the environment that override settings. -/
def overrides : IO (List (String × String)) :=
  [Settings.baseUrlVariable, Settings.cacheModeVariable].filterMapM fun name => do
    return (← IO.getEnv name).map fun value => (name, value)

end EndpointDocs.CommandLine

open EndpointDocs.CommandLine in
/-- Documents the endpoints of a registry. -/
def main (args : List String) : IO UInt32 := do
  let o ← run placeAt (← overrides) args
  if let some (path, text) := o.written then
    if let some directory := (parentsOf path).head? then IO.FS.createDirAll directory
    IO.FS.writeFile path text
  IO.print o.stdout
  IO.eprint o.stderr
  if let some crash := o.crash then IO.eprintln crash.message
  return o.exitCode.toUInt32
