import BuildVersion.Calendar.Zone
import BuildVersion.Files.Tree
import BuildVersion.Text.Character
import BuildVersion.Tool.Call

/-!
# Machines

All that a run can depend on besides its arguments.
-/

namespace BuildVersion

open Text

/-- A machine at the start of a run. -/
structure Machine where
  files : FileTree
  /-- The place of the directory from which relative paths start. -/
  workingDirectory : List String
  /-- The values of the environment variables that are set. -/
  environment : String → Option String
  tools : Toolbox
  zone : Calendar.Zone
  now : Calendar.Timestamp

namespace Machine

/-- The name of the machine: from the environment, or else from the file that keeps it. -/
def name (m : Machine) : String :=
  let inEnvironment := ["COMPUTERNAME", "HOSTNAME"].filterMap fun key =>
    ((m.environment key).map trimmed).filter (· != "")
  match inEnvironment with
  | name :: _ => name
  | [] =>
    match m.files.read m.workingDirectory (Path.ofText "/etc/hostname") with
    | .ok text => trimmed text
    | .error _ => ""

/-- The directory of the user's configuration: one that is named as an absolute path, or else one in
the home directory. A home directory that only the list of users knows, where `HOME` is unset or empty, is
left out: there is none then. -/
def userDirectory? (m : Machine) : Option Path :=
  let named := ((m.environment "XDG_CONFIG_HOME").map Path.ofText).filter Path.isAbsolute
  let atHome := ((m.environment "HOME").filter (· != "")).map fun home =>
    (Path.ofText home).join (Path.ofText ".config")
  named.or atHome

end Machine

end BuildVersion
