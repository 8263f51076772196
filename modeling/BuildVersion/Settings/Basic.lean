import BuildVersion.Error
import BuildVersion.Provider.CiBranch
import BuildVersion.Template.Token
import BuildVersion.Text.Character

/-!
# Settings

What a configuration file can set, with the defaults, and what the parts of a run make of it.
-/

namespace BuildVersion

open Text

/-- How the facts of a working copy are collected. -/
structure CollectionSettings where
  /-- The version control system that is required. -/
  vcs : Option String := none
  /-- The pattern of the tags that count. -/
  tagMatch : String := ""
  /-- How many milliseconds a command may take. -/
  timeout : Nat := 1000
  ciBranch : CiBranch := .gitlab
deriving DecidableEq

/-- The templates and what they are resolved with. -/
structure FormatSettings where
  version : String := "\x7bsemvertag\x7d"
  short : String := ""
  copyright : String := "\x7bcopyright\x7d"
  removeTagV : Bool := false
  defaultBranch : String := ""
  buildConfiguration : String := ""
deriving DecidableEq

/-- All settings. -/
structure Settings where
  collection : CollectionSettings := {}
  format : FormatSettings := {}
deriving DecidableEq

/-- The template of the short version, which is that of the version where it is blank. -/
def FormatSettings.shortTemplate (s : FormatSettings) : String :=
  if isBlankText s.short then s.version else s.short

namespace Settings

/-- Refuses settings with which no run can succeed. -/
def validate (s : Settings) : Except Error Unit :=
  if s.collection.timeout = 0 then .error .zeroTimeout
  else if isBlankText s.format.version then .error .blankTemplate
  else .ok ()

/-- The name of the version control system that is required. -/
def requiredVcs (s : Settings) : Option String :=
  (s.collection.vcs.map trimmed).filter (· != "")

/-- The default branch, where it is not blank. -/
def defaultBranch (s : Settings) : Option String :=
  some (trimmed s.format.defaultBranch) |>.filter (· != "")

/-- The circumstances of a build at a time on a machine. -/
def context (s : Settings) (time : Calendar.Timestamp) (machineName : String) : BuildContext where
  time := time
  configuration := s.format.buildConfiguration
  machineName := machineName
  removeTagV := s.format.removeTagV
  defaultBranch := s.defaultBranch

end Settings

end BuildVersion
