import BuildVersion.Machine
import BuildVersion.Settings.Decoding

/-!
# Where settings come from

The settings of a run come from one file. A file that is named comes before the one in the inspected
directory, and this one before that of the user. Where none is there the defaults hold. The file that
is chosen is the only one that is read, even if it turns out to be no good.
-/

namespace BuildVersion

/-- The name of a configuration file. -/
def settingsName : String := "revstamp.toml"

namespace Settings

/-- The places where a configuration file is looked for if none is named, the first one first. -/
def candidates (m : Machine) (directory : String) : List Path :=
  ((Path.ofText directory :: m.userDirectory?.toList)).map fun place =>
    place.join (Path.ofText settingsName)

/-- The configuration file of a run. One that is named need not be there. -/
def source? (m : Machine) (named : Option String) (directory : String) : Option Path :=
  match named with
  | some path => some (Path.ofText path)
  | none => (candidates m directory).find? fun path => m.files.exists? m.workingDirectory path

/-- The settings that a file gives. -/
def readFile (m : Machine) (path : Path) : Except Error Settings :=
  match m.files.read m.workingDirectory path with
  | .ok text => Settings.read text
  | .error fault => .error (.file fault)

/-- The settings of a run. -/
def load (m : Machine) (named : Option String) (directory : String) : Except Error Settings :=
  match source? m named directory with
  | some path => readFile m path
  | none => .ok {}

end Settings

end BuildVersion
