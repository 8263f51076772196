import BuildVersion.Calendar.CommitDate
import BuildVersion.Files.Tree
import BuildVersion.Provider.Basic
import BuildVersion.Provider.CiBranch
import BuildVersion.Tool.Run

/-!
# Git

The facts of a Git working copy, each group of them from one command. A command that fails leaves its
own group unknown.
-/

namespace BuildVersion.Git

open Calendar Text

/-- The facts that the log of the last commit gives. -/
structure LogFacts where
  commitHash : String := ""
  commitTime : Option Timestamp := none
  authorTime : Option Timestamp := none
  committerName : String := ""
  committerEmail : String := ""
  authorName : String := ""
  authorEmail : String := ""
deriving DecidableEq

/-- A commit hash is 40 to 64 hexadecimal digits. -/
def isCommitHash (cs : List Char) : Bool :=
  40 ≤ cs.length && cs.length ≤ 64 && cs.all isHexDigit

/-- Reads the lines of the log, of which each holds one fact. -/
def readLog (lines : List String) : LogFacts :=
  let line (i : Nat) : String := trimmed (lines.getD i "")
  let hash := (line 0).toList
  { commitHash := if isCommitHash hash then String.ofList (hash.map lowerAscii) else ""
    commitTime := Timestamp.ofCommitDate? (line 1)
    authorTime := Timestamp.ofCommitDate? (line 2)
    committerName := line 3
    committerEmail := line 4
    authorName := line 5
    authorEmail := line 6 }

/-- Cuts a text at the last separator. -/
def cutLast? (separator : Char) (cs : List Char) : Option (List Char × List Char) :=
  (cut? separator cs.reverse).map fun (after, before) => (before.reverse, after.reverse)

/-- Reads the description of a commit: a tag, the number of commits after it, and `g` with the hash,
with hyphens between them. -/
def readDescription? (line : String) : Option (String × UInt64) := do
  let (rest, hash) ← cutLast? '-' (trim line.toList)
  let (tag, count) ← cutLast? '-' rest
  match hash with
  | 'g' :: digits =>
    let n ← natural? count
    if digits.isEmpty ∨ !digits.all isHexDigit ∨ '\n' ∈ tag ∨ wordLimit ≤ n then none
    else some (String.ofList tag, UInt64.ofNat n)
  | _ => none

/-- The arguments of the command that gives the log of the last commit. -/
def logArguments : List String := ["log", "-n", "1", "--format=format:%H%n%ci%n%ai%n%cN%n%cE%n%aN%n%aE"]

/-- The arguments of the command that counts the commits. -/
def countArguments : List String := ["rev-list", "--first-parent", "--count", "HEAD"]

/-- The arguments of the command that lists the changed files. -/
def statusArguments : List String := ["status", "--porcelain", "--untracked-files=no"]

/-- The arguments of the command that gives the address of the repository. -/
def addressArguments : List String := ["config", "--get", "remote.origin.url"]

/-- The arguments of the command that names the branch. -/
def branchArguments : List String := ["rev-parse", "--abbrev-ref", "HEAD"]

/-- The arguments of the command that describes the commit by the latest tag that matches. -/
def describeArguments (tagMatch : String) : List String :=
  let pattern := trimmed tagMatch
  ["describe", "--tags", "--first-parent", "--long"] ++
    if pattern = "" ∨ pattern = "*" then [] else ["--match", pattern]

/-- The first line that is not blank, trimmed. -/
def firstLine? (lines : Option (List String)) : Option String :=
  ((lines.getD []).map trimmed).find? (· != "")

/-- The number that a line holds. -/
def count? (lines : Option (List String)) : Option UInt64 :=
  (firstLine? lines).bind fun line => word? line.toList

/-- Whether any line is not blank. -/
def isModified (lines : Option (List String)) : Bool :=
  (lines.getD []).any fun line => !isBlankText line

/-- The facts of a working copy. Where the log gives no commit, nothing else is asked for. -/
def collect (tools : Toolbox) (milliseconds : Nat) (branchOf : String → String) (request : Request) :
    Recorded Event Snapshot := do
  let git (arguments : List String) : Recorded Event (Option (List String)) :=
    tools.run milliseconds { program := "git", arguments, directory := request.path }
  let log := ((← git logArguments).map readLog).getD {}
  let s : Snapshot :=
    { vcs := "git"
      commitHash := log.commitHash
      commitTime := log.commitTime
      authorTime := log.authorTime
      committerName := log.committerName
      committerEmail := log.committerEmail
      authorName := log.authorName
      authorEmail := log.authorEmail }
  if log.commitHash = "" then
    Recorded.tell .trace "No commit found, the repository may be empty"
    return s
  else
    let count ← git countArguments
    let status ← git statusArguments
    let address ← git addressArguments
    let branch ← git branchArguments
    let description ← git (describeArguments request.tagMatch)
    let tag := (firstLine? description).bind readDescription?
    return { s with
      revision := (count? count).getD 0
      isModified := isModified status
      repositoryUrl := (firstLine? address).getD ""
      branch := branchOf ((firstLine? branch).getD "")
      tag := (tag.map Prod.fst).getD ""
      commitsAfterTag := (tag.map Prod.snd).getD 0 }

/-- The provider of Git working copies. Their mark is `.git`, which may also be a file. -/
def provider (tools : Toolbox) (files : FileTree) (workingDirectory : List String) (milliseconds : Nat)
    (branchOf : String → String) : Provider where
  name := "git"
  isInstalled := tools.has "git"
  root? path := (files.markedRoot? workingDirectory path ".git").map Path.text
  collect := collect tools milliseconds branchOf

end BuildVersion.Git
