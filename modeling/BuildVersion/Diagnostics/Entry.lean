/-!
# Diagnostics

What a user is told besides the result: entries by level, and the warnings that are given when
something is missing but the run goes on.
-/

namespace BuildVersion

/-- The levels of diagnostics, from the least to the most important. -/
inductive Level where
  /-- A line that an external tool has printed. -/
  | raw
  | trace
  | success
  | info
  | warning
  | error
deriving DecidableEq

/-- The importance of a level. -/
def Level.rank : Level → Nat
  | raw => 0
  | trace => 1
  | success => 2
  | info => 3
  | warning => 4
  | error => 5

/-- One message to the user. -/
structure Entry where
  level : Level
  message : String
deriving DecidableEq

/-- The messages at exactly one level, in order. -/
def messagesAt (level : Level) (entries : List Entry) : List String :=
  (entries.filter fun entry => entry.level = level).map Entry.message

/-- A condition that is reported and does not end a run. -/
inductive Warning where
  /-- The directory is under no known version control. -/
  | noVcs (path : String)
  /-- The tag does not name a version. -/
  | unparsableTag (tag : String)
  /-- The computed version is no semantic version. -/
  | invalidSemVer (version reason : String)
  /-- The build time stands in for an unknown time. -/
  | missingTime (source : String)
  /-- A tool did not finish in its time. -/
  | timedOut (command : String) (milliseconds : Nat)
deriving DecidableEq

/-- The words of a warning. -/
def Warning.text : Warning → String
  | noVcs path =>
    s!"No version control system found for '{path}', using placeholder revision data"
  | unparsableTag tag =>
    s!"Tag '{tag}' is not a numeric version, falling back to the revision number"
  | invalidSemVer version reason => s!"'{version}' is not a valid semantic version: {reason}"
  | missingTime source => s!"The {source} time is unknown, using the build time instead"
  | timedOut command milliseconds =>
    s!"Command '{command}' did not complete within {milliseconds} ms and was terminated"

/-- The entry that reports a warning. -/
def Warning.entry (w : Warning) : Entry := ⟨.warning, w.text⟩

end BuildVersion
