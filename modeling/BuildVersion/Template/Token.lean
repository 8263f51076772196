import BuildVersion.Calendar.Zone
import BuildVersion.TimeScheme.Basic

/-!
# Tokens

The placeholders of a version template by meaning, the segments into which a template falls, and what
placeholders can name that does not come from version control.
-/

namespace BuildVersion

/-- The facts that a placeholder gives as they are. -/
inductive Field where
  | committerName
  | committerEmail
  | authorName
  | authorEmail
  | machineName
  /-- The offset of the build time. -/
  | timeZone
  | repositoryUrl
deriving DecidableEq

/-- A value with a separator before it, left out where the value equals a reference. -/
structure Suppression where
  separator : String
  reference : String
deriving DecidableEq

/-- A placeholder. -/
inductive Token where
  /-- The commit hash, perhaps in capitals, perhaps cut to a length. -/
  | hash (upper : Bool) (length : Option Nat)
  /-- The revision number with an offset added. -/
  | revision (offset : Int)
  /-- A marker for changed files. -/
  | modified (marker : String)
  | field (field : Field)
  /-- The build configuration. -/
  | config (suppression : Option Suppression)
  | branch (suppression : Option Suppression)
  /-- The tag, without its `v` where that is asked for. -/
  | tag (withoutV : Bool)
  /-- The commits since the tag, with a separator that is left out together with zero. -/
  | commitsAfterTag (separator : Option String)
  /-- The year of the commit, perhaps as a span of years. -/
  | copyright (startYear : Option Int)
  | time (spec : TimeSpec)
  /-- The version of the snapshot, with the commit hash as build metadata where that is asked for. -/
  | release (defaultBranch : Option String) (withHash : Bool) (hashLength : Option Nat)
deriving DecidableEq

/-- A piece of a template: text that stays, or a placeholder. -/
inductive Segment where
  | text (text : List Char)
  | token (token : Token)
deriving DecidableEq

/-- The circumstances of a build. -/
structure BuildContext where
  /-- The time of the build, the same for everything that belongs to it. -/
  time : Calendar.Timestamp
  /-- The label of the build configuration, such as `Release`. -/
  configuration : String := ""
  machineName : String := ""
  /-- The `v` before the number of a tag is dropped. -/
  removeTagV : Bool := false
  /-- The default branch where a placeholder names none. -/
  defaultBranch : Option String := none
deriving DecidableEq

end BuildVersion
