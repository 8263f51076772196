import BuildVersion.Version.Basic
import BuildVersion.Text.Number
import BuildVersion.Text.Quoted
import BuildVersion.Text.Split

/-!
# Semantic versions

The grammar of Semantic Versioning 2.0: a core of three numbers, a pre-release after `-` and build
metadata after `+`, both made of identifiers with dots between them. A text that is no semantic
version is refused at the first character from the left that breaks the grammar.
-/

namespace BuildVersion

open Text

/-- A semantic version. An empty pre-release or empty build metadata stands for none. -/
structure SemVer where
  core : Version
  pre : String := ""
  build : String := ""
deriving DecidableEq

namespace SemVer

/-- The parts of a semantic version, in the order in which they are read. -/
inductive Part where
  | major
  | minor
  | patch
  | pre
  | build
deriving DecidableEq

/-- Why a text is no semantic version. -/
inductive Fault where
  | empty
  | endsIn (part : Part)
  | startsWith (part : Part) (c : Char)
  | followedBy (part : Part) (c : Char)
  | leadingZero (part : Part)
  | tooLarge (part : Part)
  | emptyIdentifier (part : Part)
deriving DecidableEq

/-- The name of a part. -/
def Part.text : Part → String
  | major => "major version number"
  | minor => "minor version number"
  | patch => "patch version number"
  | pre => "pre-release identifier"
  | build => "build metadata"

/-- The reason for which a text is refused. -/
def Fault.text : Fault → String
  | empty => "empty string, expected a semver version"
  | endsIn part => s!"unexpected end of input while parsing {part.text}"
  | startsWith part c => s!"unexpected character {quoted c} while parsing {part.text}"
  | followedBy part c => s!"unexpected character {quoted c} after {part.text}"
  | leadingZero part => s!"invalid leading zero in {part.text}"
  | tooLarge part => s!"value of {part.text} exceeds u64::MAX"
  | emptyIdentifier part => s!"empty identifier segment in {part.text}"

/-- The characters of an identifier. -/
def isIdentifierChar (c : Char) : Bool := isAlphanumeric c || c == '-'

/-- A run of digits that could be written shorter. -/
def hasLeadingZero (ds : List Char) : Bool := ds.head? == some '0' && 1 < ds.length

/-- Reads a number without leading zeros. -/
def readNumber (part : Part) (cs : List Char) : Except Fault (UInt64 × List Char) :=
  let ds := cs.takeWhile isDigit
  match natural? ds with
  | none =>
    match cs with
    | [] => .error (.endsIn part)
    | c :: _ => .error (.startsWith part c)
  | some n =>
    if hasLeadingZero ds then .error (.leadingZero part)
    else if n < wordLimit then .ok (UInt64.ofNat n, cs.dropWhile isDigit)
    else .error (.tooLarge part)

/-- Reads the dot after a number. -/
def readDot (part : Part) : List Char → Except Fault (List Char)
  | [] => .error (.endsIn part)
  | c :: cs => if c = '.' then .ok cs else .error (.followedBy part c)

/-- The first identifier that the part does not admit: an empty one, or in a pre-release a number
with leading zeros. -/
def identifierFault? (part : Part) : List (List Char) → Option Fault
  | [] => none
  | segment :: segments =>
    if segment.isEmpty then some (.emptyIdentifier part)
    else if part = .pre ∧ segment.all isDigit ∧ hasLeadingZero segment then some (.leadingZero part)
    else identifierFault? part segments

/-- Reads identifiers with dots between them. -/
def readIdentifiers (part : Part) (cs : List Char) : Except Fault (String × List Char) :=
  let run := cs.takeWhile fun c => isIdentifierChar c || c == '.'
  match identifierFault? part (split '.' run) with
  | some fault => .error fault
  | none => .ok (String.ofList run, cs.dropWhile fun c => isIdentifierChar c || c == '.')

/-- Reads the identifiers after a mark, if the mark is there. The answer also names the part that was
begun last. -/
def readMarked (mark : Char) (part last : Part) (cs : List Char) :
    Except Fault (String × Part × List Char) :=
  match cs with
  | c :: rest =>
    if c = mark then do
      let (identifiers, rest) ← readIdentifiers part rest
      return (identifiers, part, rest)
    else .ok ("", last, cs)
  | [] => .ok ("", last, cs)

/-- Reads a semantic version. -/
def read (text : String) : Except Fault SemVer := do
  let cs := text.toList
  if cs.isEmpty then throw .empty
  let (major, cs) ← readNumber .major cs
  let cs ← readDot .major cs
  let (minor, cs) ← readNumber .minor cs
  let cs ← readDot .minor cs
  let (patch, cs) ← readNumber .patch cs
  let (pre, last, cs) ← readMarked '-' .pre .patch cs
  let (build, last, cs) ← readMarked '+' .build last cs
  match cs with
  | [] => return { core := { major, minor, patch }, pre, build }
  | c :: _ => throw (.followedBy last c)

end SemVer

end BuildVersion
