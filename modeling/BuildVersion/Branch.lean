import BuildVersion.Text.Character

/-!
# Branches

A branch seen from the project's default branch: only a known branch off the default one is named in
a pre-release.
-/

namespace BuildVersion

open Text

/-- A checked out branch. -/
structure Branch where
  name : String
  isDefault : Bool
deriving DecidableEq

namespace Branch

/-- The branches that are the default ones where none is configured. -/
def usualDefaults : List String := ["main", "master", "trunk"]

/-- The branch of a name, given the project's default branch. -/
def of (name : String) (default? : Option String) : Branch :=
  { name
    isDefault :=
      match default? with
      | some d => name == d
      | none => usualDefaults.contains name }

/-- An empty name or a detached head does not identify a branch. -/
def isKnown (b : Branch) : Bool := b.name != "" && b.name != "HEAD"

/-- Everything but ASCII letters, digits and hyphens becomes a hyphen. -/
def sanitizeChar (c : Char) : Char := if isAlphanumeric c || c == '-' then c else '-'

/-- The name as an identifier of a pre-release. -/
def sanitize (name : String) : String := String.ofList (name.toList.map sanitizeChar)

/-- How a pre-release names the branch; the default branch and an unknown one are not named. -/
def identifier? (b : Branch) : Option String :=
  if b.isKnown && !b.isDefault then some (sanitize b.name) else none

end Branch

end BuildVersion
