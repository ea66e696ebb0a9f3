/-!
# Command-line arguments

* `OptionSpec`: an option by its spellings; it takes a value or is a flag.
* `Arguments`: the options that were given and the other arguments.
* `Arguments.read?`: the arguments of a command, unless they break a rule of usage.
-/

namespace EndpointDocs.CommandLine

/-- An option of a command. -/
structure OptionSpec where
  name : String
  /-- The spelling with two dashes. -/
  long : String
  /-- The letter of the spelling with one dash. -/
  short : Option Char
  takesValue : Bool

/-- The options that were given, the last first, and the other arguments, the first first. -/
structure Arguments where
  given : List (String × String)
  others : List String
  /-- The option that still waits for its value. -/
  waiting : Option String
  /-- Whether options have ended. -/
  ended : Bool

/-- Arguments that cannot be used. -/
inductive UsageFault where
  | unknownOption
  | unwantedValue
  | missingValue
  | missingArgument
  | extraArgument
  | unknownCommand
  | missingFile
  deriving DecidableEq, Repr

/-- A fault in words. -/
def UsageFault.message : UsageFault → String
  | unknownOption => "There is no such option."
  | unwantedValue => "A flag takes no value."
  | missingValue => "An option lacks its value."
  | missingArgument => "An argument is missing."
  | extraArgument => "There is an extra argument."
  | unknownCommand => "There is no such command."
  | missingFile => "A file does not exist."

namespace Arguments

/-- No arguments. -/
def empty : Arguments := ⟨[], [], none, false⟩

/-- With an option given. -/
def give (a : Arguments) (name value : String) : Arguments :=
  { a with given := (name, value) :: a.given }

/-- An option in its long spelling, with a value behind an equals sign if there is one. -/
def long? (specs : List OptionSpec) (a : Arguments) (arg : String) :
    Option (Except UsageFault Arguments) :=
  let cs := arg.toList
  let value := match cs.dropWhile (· != '=') with
    | _ :: v => some (String.ofList v)
    | [] => none
  (specs.find? (·.long.toList == cs.takeWhile (· != '='))).map fun spec =>
    match spec.takesValue, value with
    | true, some v => .ok (a.give spec.name v)
    | true, none => .ok { a with waiting := some spec.name }
    | false, some _ => .error .unwantedValue
    | false, none => .ok (a.give spec.name "")

/-- Options in their short spelling, one letter each; a value may follow its letter at once. -/
def short (specs : List OptionSpec) (a : Arguments) : List Char → Except UsageFault Arguments
  | [] => .ok a
  | c :: cs =>
    match specs.find? (·.short == some c) with
    | none => .error .unknownOption
    | some spec =>
      if spec.takesValue then
        if cs.isEmpty then .ok { a with waiting := some spec.name }
        else .ok (a.give spec.name (String.ofList cs))
      else short specs (a.give spec.name "") cs

/-- With an argument that is no option; options end there unless they may come later. -/
def other (mixed : Bool) (a : Arguments) (arg : String) : Arguments :=
  { a with others := a.others ++ [arg], ended := a.ended || !mixed }

/-- With one more argument. -/
def add (specs : List OptionSpec) (mixed : Bool) (a : Arguments) (arg : String) :
    Except UsageFault Arguments :=
  match a.waiting with
  | some name => .ok ({ a with waiting := none }.give name arg)
  | none =>
    if a.ended then .ok (a.other mixed arg)
    else if arg = "--" then .ok { a with ended := true }
    else match arg.toList with
      | '-' :: c :: cs =>
        match long? specs a arg with
        | some r => r
        | none => if c = '-' then .error .unknownOption else short specs a (c :: cs)
      | _ => .ok (a.other mixed arg)

/-- The arguments of a command; options may come behind other arguments if `mixed`. -/
def read? (specs : List OptionSpec) (mixed : Bool) (args : List String) :
    Except UsageFault Arguments := do
  let a ← args.foldlM (add specs mixed) empty
  if a.waiting.isSome then throw .missingValue
  return a

/-- The value of an option, the one given last. -/
def value? (a : Arguments) (name : String) : Option String := a.given.lookup name

end Arguments

end EndpointDocs.CommandLine
