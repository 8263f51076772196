import BuildVersion.Diagnostics.Entry
import BuildVersion.Diagnostics.Recorded
import BuildVersion.Release
import BuildVersion.SemVer
import BuildVersion.Template.Basic
import BuildVersion.Template.ShortVersion
import BuildVersion.Template.Token
import BuildVersion.TimeScheme.Encoding

/-!
# Resolving templates

Every placeholder of a template is replaced by its value, all other text stays. Values are not read
again, so a value that looks like a placeholder stays what it is. Warnings are recorded where a value
had to be made from something else.
-/

namespace BuildVersion

open Calendar Text

/-- The first characters of a text, all of them where no length is given. -/
def truncate (text : String) (length : Option Nat) : String :=
  match length with
  | some n => String.ofList (text.toList.take n)
  | none => text

namespace Token

/-- A value after its separator, or nothing where it is empty or the same as the reference. -/
def suppress (suppression : Option Suppression) (value : String) (isReference : String → Bool) :
    String :=
  match suppression with
  | none => value
  | some s => if value == "" || isReference s.reference then "" else s.separator ++ value

/-- The value of a fact. -/
def fieldValue (s : Snapshot) (context : BuildContext) : Field → String
  | .committerName => s.committerName
  | .committerEmail => s.committerEmail
  | .authorName => s.authorName
  | .authorEmail => s.authorEmail
  | .machineName => context.machineName
  | .timeZone => offsetText context.time.offset
  | .repositoryUrl => s.repositoryUrl

/-- The year of the commit, or of the build where that is unknown, and the start year before it where
it is another one. -/
def copyrightText (s : Snapshot) (context : BuildContext) (startYear : Option Int) : String :=
  let year := s.commitYear?.getD context.time.year
  match startYear with
  | some start => if start = year then toString year else toString start ++ "–" ++ toString year
  | none => toString year

/-- The time of a source, where it is known. -/
def sourceTime (s : Snapshot) (context : BuildContext) : TimeSource → Option Timestamp
  | .build => some context.time
  | .commit => s.commitTime
  | .author => s.authorTime

/-- The value of a time placeholder; the build time stands in for an unknown time. -/
def timeValue (s : Snapshot) (context : BuildContext) (zone : Zone) (spec : TimeSpec) :
    Recorded Entry (Except Error String) := do
  match sourceTime s context spec.source with
  | some known => return spec.scheme.encode zone known
  | none =>
    Recorded.note (Warning.missingTime spec.source.name).entry
    return spec.scheme.encode zone context.time

/-- The version of the snapshot. The default branch of the placeholder comes before that of the
context. -/
def releaseValue (s : Snapshot) (context : BuildContext) (defaultBranch : Option String)
    (withHash : Bool) (hashLength : Option Nat) : Recorded Entry (Except Error String) := do
  Recorded.noteIf (s.tag != "" && !s.isTagged && (Tag.read? s.tag).isNone)
    (Warning.unparsableTag s.tag).entry
  let default := (defaultBranch.or context.defaultBranch).filter (· != "")
  let build := if withHash then some (truncate s.commitHash hashLength) else none
  match Release.ofSnapshot s default build with
  | .error e => return .error e
  | .ok version =>
    match SemVer.read version.text with
    | .ok _ => return .ok version.text
    | .error fault =>
      Recorded.note (Warning.invalidSemVer version.text fault.text).entry
      return .ok version.text

/-- The value of a placeholder. -/
def value (s : Snapshot) (context : BuildContext) (zone : Zone) :
    Token → Recorded Entry (Except Error String)
  | hash upper length =>
    let text := truncate s.commitHash length
    return .ok (if upper then String.ofList (upperCase text.toList) else text)
  | revision offset =>
    let number : Int := s.revision.toNat + offset
    return if number < 0 then .error (.negativeRevision s.revision offset) else .ok (toString number)
  | modified marker => return .ok (if s.isModified then marker else "")
  | field f => return .ok (fieldValue s context f)
  | config suppression =>
    return .ok (suppress suppression context.configuration (sameIgnoringCase context.configuration))
  | branch suppression => return .ok (suppress suppression s.branch (s.branch == ·))
  | tag withoutV =>
    return .ok (if withoutV || context.removeTagV then Tag.bare s.tag else s.tag)
  | commitsAfterTag separator =>
    let count := toString s.commitsAfterTag.toNat
    return .ok <|
      match separator with
      | none => count
      | some separator => if s.commitsAfterTag == 0 then "" else separator ++ count
  | copyright startYear => return .ok (copyrightText s context startYear)
  | time spec => timeValue s context zone spec
  | release defaultBranch withHash hashLength =>
    releaseValue s context defaultBranch withHash hashLength

end Token

namespace Template

/-- The text of segments, up to the first placeholder that has no value. -/
def valueOf (s : Snapshot) (context : BuildContext) (zone : Zone) :
    List Segment → Recorded Entry (Except Error String)
  | [] => return .ok ""
  | .text cs :: rest => do
    match ← valueOf s context zone rest with
    | .ok text => return .ok (String.ofList cs ++ text)
    | .error e => return .error e
  | .token token :: rest => do
    match ← token.value s context zone with
    | .error e => return .error e
    | .ok value =>
      match ← valueOf s context zone rest with
      | .ok text => return .ok (value ++ text)
      | .error e => return .error e

/-- The entry that tells what a template was resolved to. -/
def resolvedEntry (template output : String) : Entry :=
  ⟨.trace, s!"Resolved '{template}' to '{output}'"⟩

/-- The text of a template. -/
def resolve (s : Snapshot) (context : BuildContext) (zone : Zone) (template : String) :
    Recorded Entry (Except Error String) := do
  match read template with
  | .error e => return .error e
  | .ok segments =>
    match ← valueOf s context zone segments with
    | .error e => return .error e
    | .ok output =>
      Recorded.note (resolvedEntry template output)
      return .ok output

/-- The short version of the text of a template. -/
def resolveShort (s : Snapshot) (context : BuildContext) (zone : Zone) (template : String) :
    Recorded Entry (Except Error String) := do
  match ← resolve s context zone template with
  | .error e => return .error e
  | .ok text => return ShortVersion.read text

end Template

end BuildVersion
