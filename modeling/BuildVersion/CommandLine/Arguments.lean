import BuildVersion.CommandLine.Invocation
import BuildVersion.Text.Split

/-!
# Reading arguments

Arguments have two levels: those before the name of a command, and those after it. General options may
stand on either level, once on each, and what stands after the command counts. Short options may be
bundled behind one hyphen. A value follows its option as the next argument, after an equals sign, or
directly after a short option; as an argument of its own it does not open with a hyphen, unless it is
just one. Two hyphens end the options.
-/

namespace BuildVersion

open Text

/-- The options that take a value. -/
inductive ValueOption where
  | directory
  | configuration
  | vcs
  | tagMatch
  | buildConfiguration
  | buildTime
  | template
deriving DecidableEq

/-- The options that take no value. -/
inductive Switch where
  | removeTagV
  | verbose
deriving DecidableEq

/-- The names of the commands. -/
inductive CommandName where
  | resolve
  | short
  | copyright
  | info
  | decode
  | help
deriving DecidableEq

/-- What an option means. -/
inductive Flag where
  | value (option : ValueOption)
  | switch (switch : Switch)
  | version
  | help
deriving DecidableEq

/-- Why arguments lead to no run. -/
inductive Ending where
  /-- They are no invocation. -/
  | refused
  /-- They ask for the version of the program. -/
  | version
  /-- They ask how the program is used. -/
  | help
deriving DecidableEq

/-- The command of a name. -/
def CommandName.ofText? : String → Option CommandName
  | "resolve" => some resolve
  | "short" => some short
  | "copyright" => some copyright
  | "info" => some info
  | "decode" => some decode
  | "help" => some help
  | _ => none

/-- Whether a command takes a template. -/
def CommandName.takesTemplate : CommandName → Bool
  | resolve | short | copyright => true
  | _ => false

/-- A level of arguments: that of a command, or the one before it. -/
abbrev ArgumentLevel := Option CommandName

namespace ArgumentLevel

/-- Whether a level has an option. Templates belong to some commands, and the version is asked for
before any command. -/
def has (level : ArgumentLevel) : Flag → Bool
  | .value .template => level.any CommandName.takesTemplate
  | .version => level.isNone
  | _ => true

/-- The option of a long name. -/
def long? (level : ArgumentLevel) (name : String) : Option Flag :=
  let flag :=
    match name with
    | "dir" => some (Flag.value .directory)
    | "config" => some (.value .configuration)
    | "vcs" => some (.value .vcs)
    | "tag-match" => some (.value .tagMatch)
    | "build-config" => some (.value .buildConfiguration)
    | "build-time" => some (.value .buildTime)
    | "format" => some (.value .template)
    | "remove-tag-v" => some (.switch .removeTagV)
    | "verbose" => some (.switch .verbose)
    | "version" => some .version
    | "help" => some .help
    | _ => none
  flag.filter level.has

/-- The option of a letter. -/
def short? (level : ArgumentLevel) (letter : Char) : Option Flag :=
  let flag :=
    match letter with
    | 'C' => some (Flag.value .directory)
    | 'c' => some (.value .configuration)
    | 'f' => some (.value .template)
    | 'v' => some (.switch .verbose)
    | 'V' => some .version
    | 'h' => some .help
    | _ => none
  flag.filter level.has

end ArgumentLevel

/-- What has been read on one level. -/
structure Given where
  values : List (ValueOption × String) := []
  switches : List Switch := []
  operands : List String := []

namespace Given

/-- Takes the value of an option. An option has one value on a level, and a directory is not empty. -/
def setValue (given : Given) (option : ValueOption) (value : String) : Except Ending Given :=
  if (given.values.lookup option).isSome ∨ (option = .directory ∧ value = "") then .error .refused
  else .ok { given with values := (option, value) :: given.values }

/-- Takes an option without a value, which stands once on a level. -/
def setSwitch (given : Given) (switch : Switch) : Except Ending Given :=
  if switch ∈ given.switches then .error .refused
  else .ok { given with switches := switch :: given.switches }

/-- Reads the letters behind one hyphen. The answer names the option that still waits for its
value. -/
def readLetters (level : ArgumentLevel) (given : Given) :
    List Char → Except Ending (Given × Option ValueOption)
  | [] => .ok (given, none)
  | letter :: cs =>
    match level.short? letter with
    | none => .error .refused
    | some .version => .error .version
    | some .help => .error .help
    | some (.switch switch) => do readLetters level (← given.setSwitch switch) cs
    | some (.value option) =>
      match cs with
      | [] => .ok (given, some option)
      | '=' :: value => do return (← given.setValue option (String.ofList value), none)
      | value => do return (← given.setValue option (String.ofList value), none)

/-- Reads what stands behind two hyphens. -/
def readLong (level : ArgumentLevel) (given : Given) (cs : List Char) :
    Except Ending (Given × Option ValueOption) :=
  match cut? '=' cs with
  | some (name, value) =>
    match level.long? (String.ofList name) with
    | some (.value option) => do return (← given.setValue option (String.ofList value), none)
    | _ => .error .refused
  | none =>
    match level.long? (String.ofList cs) with
    | none => .error .refused
    | some .version => .error .version
    | some .help => .error .help
    | some (.switch switch) => do return (← given.setSwitch switch, none)
    | some (.value option) => .ok (given, some option)

/-- Reads an argument that opens with a hyphen and holds more. Other arguments are operands. -/
def readOption? (level : ArgumentLevel) (given : Given) (argument : String) :
    Option (Except Ending (Given × Option ValueOption)) :=
  match argument.toList with
  | '-' :: '-' :: cs => some (readLong level given cs)
  | '-' :: c :: cs => some (readLetters level given (c :: cs))
  | _ => none

/-- Whether an argument can be the value of the option before it. -/
def isValue (argument : String) : Bool :=
  argument == "-" || argument.toList.head? != some '-'

/-- Takes arguments that come after the options. Only a command has any. -/
def addOperands (level : ArgumentLevel) (given : Given) (operands : List String) :
    Except Ending Given :=
  if level.isNone ∧ operands ≠ [] then .error .refused
  else .ok { given with operands := given.operands ++ operands }

/-- Reads the arguments of a level. Before the command, the first operand ends the level and is left
with all that follows it. -/
def read (level : ArgumentLevel) (given : Given) : List String → Except Ending (Given × List String)
  | [] => .ok (given, [])
  | argument :: rest =>
    if argument = "--" then do return (← given.addOperands level rest, [])
    else
      match given.readOption? level argument with
      | none =>
        if level.isNone then .ok (given, argument :: rest)
        else read level { given with operands := given.operands ++ [argument] } rest
      | some (.error ending) => .error ending
      | some (.ok (given, none)) => read level given rest
      | some (.ok (given, some option)) =>
        match rest with
        | value :: rest =>
          if isValue value then
            match given.setValue option value with
            | .ok given => read level given rest
            | .error ending => .error ending
          else .error .refused
        | [] => .error .refused

/-- The command that has been given by name with its arguments. -/
def command (given : Given) (name : CommandName) : Except Ending Command :=
  let template := given.values.lookup .template
  match name, given.operands with
  | .resolve, [] => .ok (.produce (.version template))
  | .short, [] => .ok (.produce (.shortVersion template))
  | .copyright, [] => .ok (.produce (.copyright template))
  | .info, [] => .ok (.produce .facts)
  | .decode, [placeholder, value] => .ok (.decode placeholder value)
  | _, _ => .error .refused

/-- The general options of both levels. -/
def options (outer inner : Given) : Options :=
  let value (option : ValueOption) := (inner.values.lookup option).or (outer.values.lookup option)
  let isSet (switch : Switch) : Bool := switch ∈ inner.switches ++ outer.switches
  { directory := (value .directory).getD "."
    configuration := value .configuration
    vcs := value .vcs
    tagMatch := value .tagMatch
    buildConfiguration := value .buildConfiguration
    buildTime := value .buildTime
    removeTagV := isSet .removeTagV
    isVerbose := isSet .verbose }

end Given

/-- How a question for help ends: it may name one command. -/
def helpEnding (topics : List String) : Ending :=
  match topics with
  | [] => .help
  | [topic] => if (CommandName.ofText? topic).isSome then .help else .refused
  | _ => .refused

/-- The invocation that arguments spell. Without a command, the version is asked for. -/
def Invocation.read (arguments : List String) : Except Ending Invocation := do
  let (outer, rest) ← Given.read none {} arguments
  match rest with
  | [] => return { options := outer.options {} }
  | name :: arguments =>
    match CommandName.ofText? name with
    | none => .error .refused
    | some .help => .error (helpEnding arguments)
    | some name =>
      let (inner, _) ← Given.read (some name) {} arguments
      return { options := outer.options inner, command := ← inner.command name }

end BuildVersion
