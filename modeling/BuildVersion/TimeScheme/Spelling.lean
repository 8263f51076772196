import BuildVersion.TimeScheme.Encoding

/-!
# Spelling time placeholders

How a time placeholder is written, without its braces: the source letter, `u` for the readable schemes
in UTC, a colon and the scheme. Intervals are written in seconds, and every year, month and least
length is named.
-/

namespace BuildVersion

open Text

/-- The letter of a source. -/
def TimeSource.letter : TimeSource → String
  | build => "b"
  | commit => "c"
  | author => "a"

/-- The letters of clock fields. -/
def ClockFields.letters : ClockFields → String
  | nothing => ""
  | minutes => "hm"
  | seconds => "hms"

namespace TimeScheme

/-- Whether the scheme asks for UTC in place of local time. -/
def asksUtc : TimeScheme → Bool
  | readable _ _ _ utc => utc
  | _ => false

/-- A scheme as it is written after the colon. -/
def spelling : TimeScheme → String
  | readable date clock separator _ =>
    (if date then "ymd" else "") ++ clock.letters ++ separatorText separator
  | dotted interval baseYear => "d" ++ toString interval ++ "s:" ++ padded 4 baseYear
  | numeral base interval baseYear minLength upper =>
    (if upper then "B" else "b") ++ toString base ++ "-" ++ toString interval ++ "s:" ++
      padded 4 baseYear ++ ":" ++ toString minLength
  | hours baseYear baseMonth => "h:" ++ padded 4 baseYear ++ "-" ++ toString baseMonth

end TimeScheme

/-- A time placeholder as it is written between braces. -/
def TimeSpec.spelling (spec : TimeSpec) : String :=
  spec.source.letter ++ (if spec.scheme.asksUtc then "u:" else ":") ++ spec.scheme.spelling

end BuildVersion
