import BuildVersion.Template.Token
import BuildVersion.TimeScheme.Spelling

/-!
# Spelling placeholders

How each placeholder is written, and the limits within which the values of a placeholder have to lie
so that it can be written. Arguments are left out only where they stand for nothing.
-/

namespace BuildVersion

open Text

/-- The name of a fact in a template. -/
def Field.spelling : Field → String
  | committerName => "cname"
  | committerEmail => "cmail"
  | authorName => "aname"
  | authorEmail => "amail"
  | machineName => "mname"
  | timeZone => "tz"
  | repositoryUrl => "url"

namespace Token

/-- A text that can stand inside of braces. -/
def WithoutBraces (text : String) : Prop := ∀ c ∈ text.toList, c ≠ '{' ∧ c ≠ '}'

/-- A suppression that can be written: the separator ends at the first colon. -/
def SpellableSuppression (s : Suppression) : Prop :=
  WithoutBraces s.separator ∧ WithoutBraces s.reference ∧ ':' ∉ s.separator.toList

/-- A length of a hash that can be written. -/
def SpellableLength (n : Nat) : Prop := 0 < n ∧ n < wordLimit

/-- The limits of the values of a placeholder. -/
def WellFormed : Token → Prop
  | hash _ length => ∀ n ∈ length, SpellableLength n
  | revision offset => -(signedLimit : Int) ≤ offset ∧ offset < signedLimit
  | modified marker => WithoutBraces marker
  | config suppression => ∀ s ∈ suppression, SpellableSuppression s
  | branch suppression => ∀ s ∈ suppression, SpellableSuppression s
  | commitsAfterTag separator => ∀ s ∈ separator, WithoutBraces s
  | copyright startYear => ∀ year ∈ startYear, 0 ≤ year ∧ year ≤ 9999
  | time spec => spec.scheme.WellFormed
  | release defaultBranch withHash hashLength =>
    (∀ name ∈ defaultBranch, name ≠ "" ∧ WithoutBraces name ∧ '+' ∉ name.toList) ∧
      ∀ n ∈ hashLength, withHash = true ∧ SpellableLength n
  | field _ | tag _ => True

/-- An argument after its colon, where there is one. -/
def argument (text : Option String) : String :=
  match text with
  | some text => ":" ++ text
  | none => ""

/-- A separator and a reference with a colon between them. -/
def suppressionText (s : Suppression) : String := s.separator ++ ":" ++ s.reference

/-- An offset with its sign; no offset is written as nothing. -/
def signedText (offset : Int) : String :=
  if offset = 0 then ""
  else (if offset < 0 then "-" else "+") ++ toString offset.natAbs

/-- A placeholder as it is written between braces. -/
def spelling : Token → String
  | hash upper length => (if upper then "CHASH" else "chash") ++ argument (length.map toString)
  | revision offset => "revnum" ++ signedText offset
  | modified marker => "!" ++ argument (some marker)
  | field f => f.spelling
  | config suppression => "bconf" ++ argument (suppression.map suppressionText)
  | branch suppression => "branch" ++ argument (suppression.map suppressionText)
  | tag withoutV => "tag" ++ argument (if withoutV then some "nov" else none)
  | commitsAfterTag separator => "tagadd" ++ argument separator
  | copyright startYear =>
    "copyright" ++ argument (startYear.map fun year => padded 4 year.natAbs ++ "-")
  | time spec => spec.spelling
  | release defaultBranch withHash hashLength =>
    "semvertag" ++ argument defaultBranch ++
      if withHash then "+chash" ++ argument (hashLength.map toString) else ""

/-- A placeholder with its braces. -/
def text (token : Token) : String := "\x7b" ++ token.spelling ++ "\x7d"

end Token

end BuildVersion
