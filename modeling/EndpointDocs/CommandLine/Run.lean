import EndpointDocs.CommandLine.Arguments
import EndpointDocs.CommandLine.Place
import EndpointDocs.Dashboard
import EndpointDocs.Demo.Load
import EndpointDocs.Index.Listing
import EndpointDocs.Settings.Load

/-!
# The command line

* `Command`, `Command.read?`: what is asked for.
* `Outcome`: what is printed and written, and the exit code.
* `Loader`: what settings and registries are loaded with.
* `Command.start`: settings and registry are loaded, or the command ends.
* `run`: the outcome of the arguments, given a way to look at the file system and the environment.
-/

namespace EndpointDocs.CommandLine

/-! ## Commands -/

/-- What is asked for. -/
inductive Action where
  /-- The listing of all endpoints. -/
  | listing
  /-- The report of the endpoint that a key means. -/
  | report (key : String) (actual : Option String)
  deriving DecidableEq, Repr

/-- What is asked for, and how. -/
structure Command where
  action : Action
  app : String
  config : Option String
  baseUrl : Option String
  output : Option String
  deriving DecidableEq, Repr

/-- The options before the name of a command. -/
def globalOptions : List OptionSpec := [⟨"verbose", "--verbose", some 'v', false⟩]

/-- The options of every command. -/
def commonOptions : List OptionSpec := [
  ⟨"app", "--app", none, true⟩,
  ⟨"config", "--config", none, true⟩,
  ⟨"base-url", "--base-url", none, true⟩,
  ⟨"output", "--output", some 'o', true⟩]

/-- The options of the report. -/
def reportOptions : List OptionSpec := ⟨"actual", "--actual", none, true⟩ :: commonOptions

/-- The registry that is read if none is named. -/
def defaultApp : String := "api_dashboard.demo:registry"

/-- A command with its options. -/
def Command.ofArguments (action : Action) (a : Arguments) : Command :=
  { action, app := (a.value? "app").getD defaultApp, config := a.value? "config"
    baseUrl := a.value? "base-url", output := a.value? "output" }

/-- The files that have to exist. -/
def Command.needs (c : Command) : List String :=
  c.config.toList ++ match c.action with
    | .listing => []
    | .report _ actual => actual.toList

/-- The command of the arguments: options may stand before and behind its name. -/
def Command.read? (args : List String) : Except UsageFault Command := do
  match (← Arguments.read? globalOptions false args).others with
  | "meta" :: args =>
    let a ← Arguments.read? commonOptions true args
    if a.others.isEmpty then return ofArguments .listing a else throw .extraArgument
  | "export" :: args =>
    let a ← Arguments.read? reportOptions true args
    match a.others with
    | [] => throw .missingArgument
    | [key] => return ofArguments (.report key (a.value? "actual")) a
    | _ => throw .extraArgument
  | [] => throw .missingArgument
  | _ => throw .unknownCommand

/-! ## Outcomes -/

/-- What stops a command without a message. -/
inductive Crash where
  | settings (fault : SettingsFault)
  | load (fault : LoadFault)
  | handler (fault : HandlerFault)
  /-- A file is not valid UTF-8. -/
  | notText
  /-- A directory stands where a file is needed. -/
  | isDirectory
  /-- A file stands where the directory of the output is needed. -/
  | parentIsFile
  /-- The directory of the output lies below a file. -/
  | parentBelowFile
  deriving DecidableEq, Repr

/-- What stops a command, in words. -/
def Crash.message : Crash → String
  | settings .notText | notText => "A file is not valid UTF-8."
  | settings .noSuchValue => "The settings hold a value that does not exist."
  | settings _ => "The settings hold a name that is no text."
  | load .emptyModule => "The registry has no module."
  | load _ => "The registry is not named in full."
  | handler _ => "A handler cannot be called."
  | isDirectory => "A directory stands in the place of a file."
  | parentIsFile | parentBelowFile => "A file stands in the place of a directory."

/-- What a command does. -/
structure Outcome where
  exitCode : Nat
  stdout : String
  stderr : String
  /-- The file to be written, with its text. -/
  written : Option (String × String)
  crash : Option Crash
  deriving DecidableEq, Repr

namespace Outcome

def print (text : String) : Outcome := ⟨0, text ++ "\n", "", none, none⟩

def usage (fault : UsageFault) : Outcome := ⟨2, "", fault.message ++ "\n", none, none⟩

/-- A message goes to the error output. -/
def failure (message : String) : Outcome := ⟨1, "", message ++ "\n", none, none⟩

def crashed (c : Crash) : Outcome := ⟨1, "", "", none, some c⟩

end Outcome

/-! ## Running -/

section

variable {m : Type → Type} [Monad m] (look : String → m Place)

/-- What keeps a file from being written. -/
def obstacle? (path : String) : m (Option Crash) := do
  match ← look path, ← (parentsOf path).mapM look with
  | .directory, _ => return some .isDirectory
  | _, .file _ :: _ => return some .parentIsFile
  | _, .directory :: _ => return none
  | _, above =>
    return if above.any fun p => p.bytes?.isSome then some .parentBelowFile else none

/-- A text goes to a file, or is printed if no file is named. -/
def deliver (output : Option String) (text : String) : m Outcome :=
  match output.map tidyPath with
  | none => return .print text
  | some path => do
    match ← obstacle? look path with
    | some e => return .crashed e
    | none => return { Outcome.print ("Saved to " ++ path) with written := some (path, text) }

/-- The source files that a registry needs, as far as the source root has them. -/
def sourcesBelow (root : String) : m (List (String × ByteArray)) :=
  Demo.files.filterMapM fun (path, _) => do
    return (← look (below root path)).bytes?.map fun bytes => (path, bytes)

/-- The text of a file with unified line breaks. -/
def textOf? : Place → Except Crash String
  | .file bytes =>
    match String.fromUTF8? bytes with
    | some s => .ok (String.ofList (Text.unifyLineBreaks s.toList))
    | none => .error .notText
  | _ => .error .isDirectory

/-- The outcome of an action on a dashboard. -/
def Command.act (c : Command) (d : Dashboard) : m Outcome := do
  match c.action with
  | .listing =>
    match ((Dashboard.index c.baseUrl).run.run d).1 with
    | .ok i => deliver look c.output i.listing.pretty
    | .error e => return .crashed (.handler e)
  | .report key actual =>
    match (← actual.mapM look).mapM textOf?, ((Dashboard.find key c.baseUrl).run.run d).1 with
    | .error e, _ => return .crashed e
    | _, .error e => return .crashed (.handler e)
    | .ok actual, .ok (some found) => deliver look c.output (Report.render found actual)
    | _, .ok none => return .failure (Report.notFound key)

/-- What settings and registries are loaded with. -/
structure Loader (V : Type) where
  reader : Settings.Reader V
  modules : String → Except MissingModule LoadedModule

/-- The reader that is written here, and the modules beside the demo. -/
def Loader.demo : Loader Raw where
  reader := .raw
  modules := Demo.modules

/-- The outcome of a command by what follows when its settings and then its registry are loaded. -/
def Command.start {V : Type} (l : Loader V) (env : List (String × String)) (c : Command)
    (next : Settings → Registry → m Outcome) : m Outcome := do
  let config ← c.config.mapM look
  match l.reader.load? (config.map Place.bytes?) env, Registry.load? l.modules c.app with
  | .error (.config e), _ => return .failure ("Error: " ++ e.message (tidyPath (c.config.getD "")))
  | .error e, _ => return .crashed (.settings e)
  | _, .error .emptyModule => return .crashed (.load .emptyModule)
  | _, .error .relativeModule => return .crashed (.load .relativeModule)
  | _, .error e => return .failure ("Error: " ++ e.message)
  | .ok s, .ok r => next s r

/-- The outcome of a command on the registry that it names. -/
def Command.run (env : List (String × String)) (c : Command) : m Outcome :=
  c.start look .demo env fun s r => do
    let root ← sourcesBelow look s.sourceRoot
    c.act look (.make (Demo.program []) s .hash r { root, library := Demo.files, packages := [] })

def run (env : List (String × String)) (args : List String) : m Outcome := do
  match Command.read? args with
  | .error e => return .usage e
  | .ok c =>
    if ← c.needs.allM fun path => return (← look path).isThere then c.run look env
    else return .usage .missingFile

end

end EndpointDocs.CommandLine
