import BuildVersion.CommandLine.Run
import Std.Time.DateTime.Timestamp

/-!
# The program

Looks at the machine, answers the arguments, and prints the answer. Local time is UTC here, and no
external tool is at hand, so every directory has the facts of the placeholder.
-/

namespace BuildVersion.Program

open Calendar

/-- What stands at a path. -/
def observe (path : String) : IO (Option Node) := do
  let place := (← IO.currentDir) / path
  if ← place.isDir then return some .directory
  else
    try
      let bytes ← IO.FS.readBinFile place
      return some (.file bytes.toList)
    catch _ =>
      return none

/-- The environment variables that a run may ask for. -/
def environmentNames : List String :=
  ["COMPUTERNAME", "HOSTNAME", "HOME", "XDG_CONFIG_HOME", "GITLAB_CI", "CI_SERVER",
    "CI_COMMIT_REF_NAME", "CI_COMMIT_TAG"]

/-- The values of the environment variables that are set. -/
def environment : IO (List (String × String)) := do
  let values ← environmentNames.mapM fun name => do
    return (name, ← IO.getEnv name)
  return values.filterMap fun (name, value) => value.map fun value => (name, value)

/-- The paths of the files that a run with these options may read, and of all that they lie in. -/
def lookups (m : Machine) (o : Options) : List Path :=
  let files := Path.ofText "/etc/hostname" :: (o.configuration.map Path.ofText).toList ++
    Settings.candidates m o.directory
  files.flatMap fun path => (path.absolute m.workingDirectory).ancestors

/-- The place that the names of an absolute path lead to. -/
def placeOf (names : List String) : List String :=
  names.foldl (fun place name => if name = ".." then place.dropLast else place ++ [name]) []

/-- A machine without tools, of which only the given files are known. -/
def machineOf (nodes : List (List String × Node)) (workingDirectory : List String)
    (values : List (String × String)) (now : Timestamp) : Machine where
  files := FileTree.ofList nodes
  workingDirectory := workingDirectory
  environment name := values.lookup name
  tools := { has := fun _ => false, outcome := fun _ _ => .notStarted .missing }
  zone := .fixed 0
  now := now

/-- The machine as far as a run with these arguments may look at it. -/
def machine (arguments : List String) : IO Machine := do
  let workingDirectory := (Path.ofText (← IO.currentDir).toString).names
  let values ← environment
  let time ← Std.Time.Timestamp.now
  let now : Timestamp := ⟨⟨time.val.second.val, time.val.nano.val.toNat⟩, 0⟩
  let m := machineOf [] workingDirectory values now
  match Invocation.read arguments with
  | .error _ => return m
  | .ok i =>
    let nodes ← (lookups m i.options).mapM fun path => do
      return (placeOf path.names, ← observe path.text)
    let known := nodes.filterMap fun (place, node) => node.map fun node => (place, node)
    return machineOf known workingDirectory values now

end BuildVersion.Program

open BuildVersion in
/-- Answers the arguments. The exit code tells whether that went well. -/
def main (arguments : List String) : IO UInt32 := do
  let m ← Program.machine arguments
  let r := m.respond arguments
  for line in r.diagnostics do
    IO.eprintln line
  IO.print r.output
  return UInt32.ofNat r.status
