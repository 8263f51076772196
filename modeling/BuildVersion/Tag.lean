import BuildVersion.Version.Basic
import BuildVersion.Text.Number
import BuildVersion.Text.Split

/-!
# Tags

A tag names a version when it is a version core of one to three numbers, perhaps after a `v`, and
perhaps with a suffix after a hyphen.
-/

namespace BuildVersion.Tag

open Text

/-- Drops a `v` that stands directly before a digit. -/
def withoutV (tag : List Char) : List Char :=
  match tag with
  | v :: c :: rest => if (v = 'v' ∨ v = 'V') ∧ isDigit c then c :: rest else tag
  | _ => tag

/-- A tag without the `v` before its number. -/
def bare (tag : String) : String := String.ofList (withoutV tag.toList)

/-- A tag that names a version. -/
structure Reading where
  core : Version
  suffix : Option String
deriving DecidableEq

/-- A number that fits a word, in digits alone. -/
def number? (part : List Char) : Option UInt64 :=
  match natural? part with
  | some n => if n < wordLimit then some (UInt64.ofNat n) else none
  | none => none

/-- Reads the numbers of a tag; those that are left out are zero. -/
def core? (cs : List Char) : Option Version :=
  match split '.' cs with
  | [major] => do
    return { major := ← number? major }
  | [major, minor] => do
    return { major := ← number? major, minor := ← number? minor }
  | [major, minor, patch] => do
    return { major := ← number? major, minor := ← number? minor, patch := ← number? patch }
  | _ => none

/-- Reads a tag. The suffix, if there is one, is not empty and stays on one line. -/
def read? (tag : String) : Option Reading :=
  let cs := withoutV tag.toList
  match cut? '-' cs with
  | none => (core? cs).map fun core => { core, suffix := none }
  | some (core, suffix) =>
    if suffix.isEmpty ∨ '\n' ∈ suffix then none
    else (core? core).map fun core => { core, suffix := some (String.ofList suffix) }

end BuildVersion.Tag
