import BuildVersion.Template.Token
import BuildVersion.TimeScheme.Reading

/-!
# Reading placeholders

A placeholder stands in braces. Time placeholders come first; every other one opens with the name of
its family, which is a run of letters or an exclamation mark, and goes on with its arguments. A name
that belongs to no family is no error: such a text means itself.
-/

namespace BuildVersion

open Text

namespace Placeholder

/-- A length from 1 on, after a colon. -/
def readLength (cs : List Char) : Except PlaceholderFault Nat :=
  match cs with
  | ':' :: digits =>
    match word? digits with
    | some n => if 0 < n.toNat then .ok n.toNat else .error .length
    | none => .error .length
  | _ => .error .length

/-- The arguments of a commit hash. -/
def readHash (upper : Bool) (cs : List Char) : Except PlaceholderFault Token :=
  if cs.isEmpty then .ok (.hash upper none)
  else
    match readLength cs with
    | .ok n => .ok (.hash upper (some n))
    | .error fault => .error fault

/-- The arguments of a revision number: a sign and digits. -/
def readRevision (cs : List Char) : Except PlaceholderFault Token :=
  match cs with
  | [] => .ok (.revision 0)
  | sign :: digits =>
    if sign = '+' ∨ sign = '-' then
      if digits.isEmpty ∨ !digits.all isDigit then .error .offsetDigits
      else
        match signedWord? cs with
        | some offset => .ok (.revision offset)
        | none => .error .offsetRange
    else .error .offsetSign

/-- The arguments of a marker for changes. -/
def readModified (cs : List Char) : Except PlaceholderFault Token :=
  match cs with
  | [] => .ok (.modified "!")
  | ':' :: marker => .ok (.modified (String.ofList marker))
  | _ => .error .marker

/-- The arguments of a value that may be left out. -/
def readSuppression (cs : List Char) : Except PlaceholderFault (Option Suppression) :=
  match cs with
  | [] => .ok none
  | ':' :: rest =>
    match cut? ':' rest with
    | some (separator, reference) =>
      .ok (some { separator := String.ofList separator, reference := String.ofList reference })
    | none => .error .suppression
  | _ => .error .suppression

/-- The arguments of a tag. -/
def readTag (cs : List Char) : Except PlaceholderFault Token :=
  match cs with
  | [] => .ok (.tag false)
  | [':', 'n', 'o', 'v'] => .ok (.tag true)
  | _ => .error .tag

/-- The arguments of a count of commits. -/
def readCommitsAfterTag (cs : List Char) : Except PlaceholderFault Token :=
  match cs with
  | [] => .ok (.commitsAfterTag none)
  | ':' :: separator => .ok (.commitsAfterTag (some (String.ofList separator)))
  | _ => .error .separator

/-- The arguments of a copyright year: four characters that are a number, and a hyphen. -/
def readCopyright (cs : List Char) : Except PlaceholderFault Token :=
  match cs with
  | [] => .ok (.copyright none)
  | [':', a, b, c, d, '-'] =>
    match integer? [a, b, c, d] with
    | some year => .ok (.copyright (some year))
    | none => .error .startYear
  | _ => .error .startYear

/-- The default branch of a release: nothing, or a colon and a name. -/
def readDefaultBranch (cs : List Char) : Except PlaceholderFault (Option String) :=
  match cs with
  | [] => .ok none
  | ':' :: name => if name.isEmpty then .error .semver else .ok (some (String.ofList name))
  | _ => .error .semver

/-- The length of the hash of a release: nothing, or a colon and digits. -/
def readHashLength (cs : List Char) : Except PlaceholderFault (Option Nat) :=
  match cs with
  | [] => .ok none
  | ':' :: digits =>
    match natural? digits with
    | some n => if 0 < n ∧ n < wordLimit then .ok (some n) else .error .semver
    | none => .error .semver
  | _ => .error .semver

/-- The arguments of a release: a default branch, and after a plus sign the commit hash. -/
def readRelease (cs : List Char) : Except PlaceholderFault Token :=
  match cut? '+' cs with
  | none => (readDefaultBranch cs).map fun branch => .release branch false none
  | some (branch, hash) =>
    match "chash".toList.isPrefixOf? hash with
    | none => .error .semver
    | some length => do
      return .release (← readDefaultBranch branch) true (← readHashLength length)

/-- A fact takes no arguments. -/
def readField (field : Field) (cs : List Char) : Except PlaceholderFault Token :=
  if cs.isEmpty then .ok (.field field) else .error .arguments

/-- The arguments of a family of placeholders, where there is such a family. -/
def readFamily (name : String) (cs : List Char) : Except PlaceholderFault (Option Token) :=
  match name with
  | "chash" => some <$> readHash false cs
  | "CHASH" => some <$> readHash true cs
  | "revnum" => some <$> readRevision cs
  | "!" => some <$> readModified cs
  | "cname" => some <$> readField .committerName cs
  | "cmail" => some <$> readField .committerEmail cs
  | "aname" => some <$> readField .authorName cs
  | "amail" => some <$> readField .authorEmail cs
  | "mname" => some <$> readField .machineName cs
  | "tz" => some <$> readField .timeZone cs
  | "url" => some <$> readField .repositoryUrl cs
  | "bconf" => (some ∘ .config) <$> readSuppression cs
  | "branch" => (some ∘ .branch) <$> readSuppression cs
  | "tag" => some <$> readTag cs
  | "tagadd" => some <$> readCommitsAfterTag cs
  | "copyright" => some <$> readCopyright cs
  | "semvertag" => some <$> readRelease cs
  | _ => .ok none

/-- The text between the braces; a text that does not stand in braces is all of it. -/
def inner (text : List Char) : List Char :=
  match text with
  | '{' :: cs => if cs.getLast? = some '}' then cs.dropLast else text
  | _ => text

/-- The name of the family and the arguments. -/
def splitName (inner : List Char) : List Char × List Char :=
  match inner with
  | '!' :: rest => (['!'], rest)
  | _ => (inner.takeWhile isLetter, inner.dropWhile isLetter)

end Placeholder

/-- Reads a placeholder. A text that belongs to no family is none. -/
def Token.read (text : String) : Except Error (Option Token) :=
  if TimeSpec.isTimePlaceholder text then
    match TimeSpec.read text with
    | .ok spec => .ok (some (.time spec))
    | .error e => .error e
  else
    let (name, arguments) := Placeholder.splitName (Placeholder.inner text.toList)
    match Placeholder.readFamily (String.ofList name) arguments with
    | .ok token => .ok token
    | .error fault => .error (.placeholder fault text)

end BuildVersion
