import BuildVersion.Calendar.CommitDate
import BuildVersion.Files.Tree
import BuildVersion.Provider.Basic
import BuildVersion.Tool.Run

/-!
# Subversion

The facts of a Subversion working copy, from its revision range and from the information on its
revision.
-/

namespace BuildVersion.Subversion

open Calendar Text

/-- The revision of a working copy. -/
structure Range where
  revision : UInt64 := 0
  isMixed : Bool := false
  isModified : Bool := false
deriving DecidableEq

/-- Splits off the end of a range: a colon and digits. -/
def splitRange (cs : List Char) : Bool × List Char :=
  match cs with
  | ':' :: rest =>
    if (rest.takeWhile isDigit).isEmpty then (false, cs) else (true, rest.dropWhile isDigit)
  | _ => (false, cs)

/-- Reads a revision range such as `1230:1234M`. Two numbers mean mixed revisions, anything after the
numbers means changes. A number that does not fit a word counts as zero. -/
def Range.read (line : String) : Range :=
  let cs := trim line.toList
  match natural? (cs.takeWhile isDigit) with
  | none => {}
  | some n =>
    let (isMixed, marks) := splitRange (cs.dropWhile isDigit)
    if '\n' ∈ marks then {}
    else
      { revision := if n < wordLimit then UInt64.ofNat n else 0
        isMixed
        isModified := !(trim marks).isEmpty }

/-- The facts that the information on a revision gives. -/
structure Info where
  repositoryRoot : String := ""
  relativeUrl : String := ""
  url : String := ""
  author : String := ""
  date : Option Timestamp := none
deriving DecidableEq

/-- What stands at each place of a date: a digit or a given character. -/
def datePattern : List Char := "0000-00-00 00:00:00 +0000".toList

/-- Whether a character may stand at a place of a date. -/
def fitsDate (place c : Char) : Bool :=
  if place = '0' then isDigit c else if place = '+' then c == '+' || c == '-' else c == place

/-- Reads the date that a text opens with. -/
def readDate? (cs : List Char) : Option Timestamp :=
  let date := cs.take datePattern.length
  if date.length = datePattern.length ∧ (datePattern.zip date).all fun (place, c) => fitsDate place c then
    Timestamp.ofCommitDate? (String.ofList date)
  else none

/-- Takes one line of a key and a value with a colon between them. -/
def Info.take (info : Info) (line : String) : Info :=
  match cut? ':' line.toList with
  | none => info
  | some (key, rest) =>
    let value := trim rest
    let text := String.ofList value
    match String.ofList (trim key) with
    | "Repository Root" => { info with repositoryRoot := text }
    | "Relative URL" => { info with relativeUrl := text }
    | "URL" => { info with url := text }
    | "Last Changed Author" => { info with author := text }
    | "Last Changed Date" => { info with date := readDate? value }
    | _ => info

/-- Makes up for a missing relative address: the address after that of the repository. -/
def Info.complete (info : Info) : Info :=
  if info.relativeUrl = "" ∧ info.repositoryRoot ≠ "" then
    match info.repositoryRoot.toList.isPrefixOf? info.url.toList with
    | some rest => { info with relativeUrl := String.ofList ('^' :: rest) }
    | none => info
  else info

/-- Reads the information on a revision. -/
def Info.read (lines : List String) : Info := (lines.foldl Info.take {}).complete

/-- The branch of a relative address, of which the last names lie below the root of the working
copy. -/
def branchOf (relativeUrl : String) (depth : Nat) : String :=
  let names := (split '/' (relativeUrl.toList.dropWhile (· == '^'))).filter (· ≠ [])
  let joined := join '/' (names.take (names.length - depth))
  match "branches/".toList.isPrefixOf? joined with
  | some branch => String.ofList branch
  | none => String.ofList joined

/-- The revision range that the lines of a tool hold. -/
def rangeOf (lines : Option (List String)) : Range :=
  match (lines.getD []).find? fun line => !isBlankText line with
  | some line => Range.read line
  | none => {}

/-- The facts of a working copy. Without a revision, nothing else is asked for. -/
def collect (tools : Toolbox) (workingDirectory : List String) (milliseconds : Nat) (request : Request) :
    Recorded Event Snapshot := do
  let directory := (Path.ofText request.path).full workingDirectory
  let call (program : String) (arguments : List String) : Recorded Event (Option (List String)) :=
    tools.run milliseconds { program, arguments, directory := directory.text }
  let range := rangeOf (← call "svnversion" [])
  let s : Snapshot :=
    { vcs := "svn"
      revision := range.revision
      isMixed := range.isMixed
      isModified := range.isModified }
  if range.revision = 0 then
    Recorded.tell .trace "No committed revision in this working copy"
    return s
  else
    match ← call "svn" ["info", "--revision", toString range.revision.toNat] with
    | none => return s
    | some lines =>
      let info := Info.read lines
      let root := (Path.ofText request.root).full workingDirectory
      return { s with
        repositoryUrl := info.repositoryRoot
        branch := branchOf info.relativeUrl (directory.depthBelow root)
        committerName := info.author
        authorName := info.author
        commitTime := info.date
        authorTime := info.date }

/-- The provider of Subversion working copies. Their mark is `.svn`. -/
def provider (tools : Toolbox) (files : FileTree) (workingDirectory : List String) (milliseconds : Nat) :
    Provider where
  name := "svn"
  isInstalled := tools.has "svn" && tools.has "svnversion"
  root? path := (files.markedRoot? workingDirectory path ".svn").map Path.text
  collect := collect tools workingDirectory milliseconds

end BuildVersion.Subversion
