import BuildVersion.CommandLine.Arguments
import BuildVersion.Diagnostics.Line
import BuildVersion.Provider.Git
import BuildVersion.Provider.Selection
import BuildVersion.Provider.Subversion
import BuildVersion.Settings.Source
import BuildVersion.Template.Resolve
import BuildVersion.TimeScheme.Decoding

/-!
# Runs

A run settles its settings and its time before it asks for any facts, so a fault in them is found
before a tool is called. Decoding a time needs none of this.
-/

namespace BuildVersion

open Calendar

/-- Why a run fails. -/
inductive Failure where
  /-- The settings cannot be had. -/
  | settings (error : Error)
  /-- The build time is not a time. -/
  | buildTime (text : String)
  | error (error : Error)

/-- An error followed by its cause, where it has one. -/
def Error.chain (e : Error) : String :=
  match e with
  | .file _ | .toml _ => e.message ++ ": " ++ e.detail
  | _ => e.message

/-- Whether the program stops at a failure, where it would report any other. -/
def Failure.stops : Failure → Bool
  | error e => e.stops
  | _ => false

/-- What a user reads of a failure. -/
def Failure.message : Failure → String
  | settings e => "Failed to load configuration: " ++ e.chain
  | buildTime text => s!"Invalid --build-time '{text}', expected RFC 3339: not a date and time"
  | error e => e.chain

namespace Options

/-- Settings with what the options set in their place. -/
def override (o : Options) (s : Settings) : Settings where
  collection :=
    { s.collection with
      vcs := o.vcs.or s.collection.vcs
      tagMatch := o.tagMatch.getD s.collection.tagMatch }
  format :=
    { s.format with
      buildConfiguration := o.buildConfiguration.getD s.format.buildConfiguration
      removeTagV := o.removeTagV || s.format.removeTagV }

/-- The valid settings of a run. -/
def settings (o : Options) (m : Machine) : Except Failure Settings :=
  match Settings.load m o.configuration o.directory with
  | .error e => .error (.settings e)
  | .ok loaded =>
    match (o.override loaded).validate with
    | .error e => .error (.error e)
    | .ok () => .ok (o.override loaded)

/-- The time of the build, by default the present. -/
def time (o : Options) (m : Machine) : Except Failure Timestamp :=
  match o.buildTime with
  | none => .ok m.now
  | some text =>
    match Timestamp.ofRfc3339? text with
    | some t => .ok t
    | none => .error (.buildTime text)

/-- All that a run has to know before it asks for facts. -/
def prepare (o : Options) (m : Machine) : Except Failure (Settings × Timestamp) := do
  let settings ← o.settings m
  let time ← o.time m
  return (settings, time)

end Options

/-- The providers of a machine, Git first, whose commands may take so many milliseconds each. -/
def Machine.providers (m : Machine) (milliseconds : Nat) (ciBranch : CiBranch) : List Provider :=
  [ Git.provider m.tools m.files m.workingDirectory milliseconds (ciBranch.branch m.environment),
    Subversion.provider m.tools m.files m.workingDirectory milliseconds ]

/-- The facts of the inspected directory. -/
def Machine.collect (m : Machine) (s : Settings) (directory : String) (time : Timestamp) :
    Recorded Event (Except Error Snapshot) :=
  Provider.select (m.providers s.collection.timeout s.collection.ciBranch) directory s.requiredVcs
    s.collection.tagMatch time

/-- The text of a product. -/
def Product.text (s : Snapshot) (settings : Settings) (context : BuildContext) (zone : Zone) :
    Product → Recorded Entry (Except Error String)
  | version template =>
    Template.resolve s context zone (template.getD settings.format.version)
  | shortVersion template =>
    Template.resolveShort s context zone (template.getD settings.format.shortTemplate)
  | copyright template =>
    Template.resolve s context zone (template.getD settings.format.copyright)
  | facts => return .ok s.report

/-- Makes a product of the facts of the inspected directory. -/
def Product.make (product : Product) (o : Options) (m : Machine) :
    Recorded Event (Except Failure String) := do
  match o.prepare m with
  | .error failure => return .error failure
  | .ok (settings, time) =>
    match ← m.collect settings o.directory time with
    | .error e => return .error (.error e)
    | .ok s =>
      let context := settings.context time m.name
      let text ← (product.text s settings context m.zone).asEvents
      return text.mapError Failure.error

/-- The time that a value of a placeholder stands for. -/
def decodedText (zone : Zone) (placeholder value : String) : Except Error String := do
  let spec ← TimeSpec.read placeholder
  let t ← spec.scheme.decode zone value
  return t.rfc3339

/-- Does what an invocation asks for. -/
def Invocation.run (i : Invocation) (m : Machine) : Recorded Event (Except Failure String) :=
  match i.command with
  | .produce product => product.make i.options m
  | .decode placeholder value =>
    return (decodedText m.zone placeholder value).mapError Failure.error

/-- What the user sees of a run. -/
structure Response where
  status : Nat
  output : String
  diagnostics : List String
deriving DecidableEq

/-- Whether an entry is shown. -/
def Entry.isShown (isVerbose : Bool) (e : Entry) : Bool := isVerbose || Level.success.rank ≤ e.level.rank

/-- The lines of the entries that are shown. -/
def shownLines (isVerbose : Bool) (entries : List Entry) : List String :=
  (entries.filter (Entry.isShown isVerbose)).map (Entry.line false)

/-- Shows the result of a run, or its failure as the last entry. A run that stops has no last entry; what the
runtime says of it, behind the entries, is left out. -/
def Response.ofRun (isVerbose : Bool) (run : Recorded Event (Except Failure String)) : Response :=
  let entries := entriesOf run.record
  match run.value with
  | .ok text =>
    { status := 0, output := text ++ "\n", diagnostics := shownLines isVerbose entries }
  | .error failure =>
    if failure.stops then { status := 101, output := "", diagnostics := shownLines isVerbose entries }
    else
      { status := 1
        output := ""
        diagnostics := shownLines isVerbose (entries ++ [⟨.error, failure.message⟩]) }

/-- The name and version of the program. -/
def programVersion : String := "revstamp 0.1.0"

/-- How the program is used. -/
def usage : String :=
  "Usage: revstamp [OPTIONS] [resolve|short|copyright [-f TEMPLATE]|info|decode TOKEN VALUE]"

/-- What the user sees when arguments lead to no run. -/
def Response.ofEnding : Ending → Response
  | .refused => { status := 2, output := "", diagnostics := [usage] }
  | .version => { status := 0, output := programVersion ++ "\n", diagnostics := [] }
  | .help => { status := 0, output := usage ++ "\n", diagnostics := [] }

/-- What the program answers to arguments on a machine. -/
def Machine.respond (m : Machine) (arguments : List String) : Response :=
  match Invocation.read arguments with
  | .ok i => Response.ofRun i.options.isVerbose (i.run m)
  | .error ending => Response.ofEnding ending

end BuildVersion
