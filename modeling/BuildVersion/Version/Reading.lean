import BuildVersion.Error
import BuildVersion.Text.Number
import BuildVersion.Text.Split

/-!
# Reading versions

A version core is read from one to three numbers with dots between them, and its patch number can be
raised by one.
-/

namespace BuildVersion.Version

open Text

/-- Reads one number of a core. -/
def readComponent (core : String) (part : List Char) : Except Error UInt64 :=
  match word? part with
  | some n => .ok n
  | none => .error (.versionComponent (String.ofList part) core)

/-- Reads a core; numbers that are left out are zero. -/
def read (core : String) : Except Error Version :=
  match split '.' core.toList with
  | [major] => do
    return { major := ← readComponent core major }
  | [major, minor] => do
    return { major := ← readComponent core major, minor := ← readComponent core minor }
  | [major, minor, patch] => do
    return {
      major := ← readComponent core major
      minor := ← readComponent core minor
      patch := ← readComponent core patch }
  | _ => .error (.versionShape core)

/-- The version that comes next: the patch number is raised by one. -/
def nextPatch (v : Version) : Except Error Version :=
  if v.patch.toNat + 1 < wordLimit then .ok { v with patch := v.patch + 1 }
  else .error (.patchLimit v)

end BuildVersion.Version
