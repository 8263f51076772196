import BuildVersion.Calendar.Rfc3339
import BuildVersion.Text.Casing
import BuildVersion.Text.Character

/-!
# Snapshots

What is known of a working directory at the moment at which it is looked at. Unknown texts are empty
and unknown times are missing.
-/

namespace BuildVersion

open Calendar Text

/-- The facts of a working directory. -/
structure Snapshot where
  /-- The name of the version control system, empty for none. -/
  vcs : String := ""
  commitHash : String := ""
  revision : UInt64 := 0
  commitTime : Option Timestamp := none
  authorTime : Option Timestamp := none
  /-- Files under version control have been changed. -/
  isModified : Bool := false
  /-- Files come from more than one revision. -/
  isMixed : Bool := false
  repositoryUrl : String := ""
  committerName : String := ""
  committerEmail : String := ""
  authorName : String := ""
  authorEmail : String := ""
  branch : String := ""
  /-- The latest tag, empty for none. -/
  tag : String := ""
  /-- The commits since the tag, zero for the tagged revision itself. -/
  commitsAfterTag : UInt64 := 0
deriving DecidableEq

namespace Snapshot

/-- The commit hash that stands for no commit. -/
def noCommit : String := String.ofList (List.replicate 40 '0')

/-- The snapshot of a directory that is under no version control. -/
def placeholder (now : Timestamp) : Snapshot :=
  { commitHash := noCommit, commitTime := some now, authorTime := some now }

/-- A text without surrounding blanks and without control characters. -/
def cleanText (s : String) : String :=
  String.ofList ((trim s.toList).filter fun c => !isControl c)

/-- All texts cleaned, and the commit hash in small letters. -/
def normalize (s : Snapshot) : Snapshot :=
  { s with
    vcs := cleanText s.vcs
    commitHash := String.ofList ((cleanText s.commitHash).toList.map lowerAscii)
    repositoryUrl := cleanText s.repositoryUrl
    committerName := cleanText s.committerName
    committerEmail := cleanText s.committerEmail
    authorName := cleanText s.authorName
    authorEmail := cleanText s.authorEmail
    branch := cleanText s.branch
    tag := cleanText s.tag }

/-- Whether the revision is the tagged one. -/
def isTagged (s : Snapshot) : Bool := s.tag != "" && s.commitsAfterTag == 0

/-- The local year of the commit; years up to 1 are not plausible and count as unknown. -/
def commitYear? (s : Snapshot) : Option Int :=
  (s.commitTime.map Timestamp.year).filter fun year => 1 < year

/-- The names of all facts and their values. -/
def rows (s : Snapshot) : List (String × String) :=
  let time (t : Option Timestamp) : String := (t.map Timestamp.rfc3339).getD ""
  [("VCS", s.vcs),
   ("Commit", s.commitHash),
   ("Revision", toString s.revision.toNat),
   ("Commit time", time s.commitTime),
   ("Author time", time s.authorTime),
   ("Modified", toString s.isModified),
   ("Mixed", toString s.isMixed),
   ("URL", s.repositoryUrl),
   ("Committer", s.committerName),
   ("Committer e-mail", s.committerEmail),
   ("Author", s.authorName),
   ("Author e-mail", s.authorEmail),
   ("Branch", s.branch),
   ("Tag", s.tag),
   ("Commits after tag", toString s.commitsAfterTag.toNat)]

/-- One row with its value in line with those of the other rows. -/
def rowText (row : String × String) : String :=
  String.ofList ((row.1.toList ++ [':']).rightpad 18 ' ') ++ "  " ++ row.2

/-- All facts, one in each line. -/
def report (s : Snapshot) : String := "\n".intercalate (s.rows.map rowText)

end Snapshot

end BuildVersion
