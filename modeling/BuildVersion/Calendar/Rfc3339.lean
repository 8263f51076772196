import BuildVersion.Calendar.Instant
import BuildVersion.Text.Number

/-!
# Times in RFC 3339

Reading and writing of times such as `2024-06-01T12:00:00.250+02:00`, and of their parts: years,
fractions of a second and offsets.
-/

namespace BuildVersion.Calendar

open Text

/-- A year with four digits at least; beyond 0 to 9999 a sign stands in front. -/
def yearText (year : Int) : String :=
  if year < 0 then "-" ++ padded 4 year.natAbs
  else if year ≤ 9999 then padded 4 year.natAbs
  else "+" ++ padded 4 year.natAbs

/-- A date as year, month and day between hyphens. -/
def Date.text (d : Date) : String :=
  yearText d.year ++ "-" ++ padded 2 d.month ++ "-" ++ padded 2 d.day

/-- A fraction of a second with 3, 6 or 9 digits, the fewest that are exact, and nothing for zero. -/
def fractionText (nanos : Nat) : String :=
  if nanos = 0 then ""
  else if nanos % 1000000 = 0 then "." ++ padded 3 (nanos / 1000000)
  else if nanos % 1000 = 0 then "." ++ padded 6 (nanos / 1000)
  else "." ++ padded 9 nanos

/-- The hours, minutes and seconds of a clock; a leap second is second 60. -/
def Civil.clockText (c : Civil) : String :=
  let leap := if nanosPerSecond ≤ c.nanos then 1 else 0
  padded 2 c.hour ++ ":" ++ padded 2 c.minute ++ ":" ++ padded 2 (c.second + leap) ++
    fractionText (c.nanos - leap * nanosPerSecond)

/-- An offset to UTC as sign, hours and minutes. -/
def offsetText (offset : Int) : String :=
  let minutes := offset.natAbs / 60
  (if offset < 0 then "-" else "+") ++ padded 2 (minutes / 60) ++ ":" ++ padded 2 (minutes % 60)

/-- A time with its offset, date and clock being parted by `T`. -/
def Timestamp.rfc3339 (t : Timestamp) : String :=
  t.civil.date.text ++ "T" ++ t.civil.clockText ++ offsetText t.offset

/-- A time with its offset, its three parts between blanks. -/
def Timestamp.spacedText (t : Timestamp) : String :=
  t.civil.date.text ++ " " ++ t.civil.clockText ++ " " ++ offsetText t.offset

/-- A time in UTC to the second, with `Z` for the offset. -/
def Instant.rfc3339 (t : Instant) : String :=
  t.civil.date.text ++ "T" ++ { t.civil with nanos := 0 }.clockText ++ "Z"

/-- Reads exactly `count` digits. -/
def readDigits (count : Nat) (cs : List Char) : Option (Nat × List Char) :=
  if (cs.take count).length = count then
    (natural? (cs.take count)).map fun n => (n, cs.drop count)
  else none

/-- Reads one given character. -/
def readMark (mark : Char) : List Char → Option (List Char)
  | c :: cs => if c = mark then some cs else none
  | [] => none

/-- Reads a sign: plus, hyphen or minus. The answer is whether it is negative. -/
def readSign : List Char → Option (Bool × List Char)
  | '+' :: cs => some (false, cs)
  | '-' :: cs => some (true, cs)
  | '\u2212' :: cs => some (true, cs)
  | _ => none

/-- The nanoseconds of the digits after a decimal point, of which those beyond the ninth are
dropped. -/
def nanosOfDigits (digits : List Char) : Nat :=
  Nat.ofDigitChars 10 ((digits ++ List.replicate 9 '0').take 9) 0

/-- Reads an optional fraction of a second, as nanoseconds. -/
def readFraction : List Char → Option (Nat × List Char)
  | '.' :: cs =>
    let digits := cs.takeWhile isDigit
    if digits.isEmpty then none else some (nanosOfDigits digits, cs.dropWhile isDigit)
  | cs => some (0, cs)

/-- The seconds of an offset of so many hours and minutes, which has to be less than a day. -/
def offsetSeconds? (negative : Bool) (hours minutes : Nat) : Option Int :=
  let seconds := hours * 3600 + minutes * 60
  if minutes < 60 ∧ seconds < 86400 then some (if negative then -(seconds : Int) else seconds)
  else none

/-- Reads an offset with a colon, or `Z` for none. -/
def readOffset (cs : List Char) : Option (Int × List Char) :=
  match cs with
  | 'Z' :: rest | 'z' :: rest => some (0, rest)
  | _ => do
    let (negative, cs) ← readSign cs
    let (hours, cs) ← readDigits 2 cs
    let cs ← readMark ':' cs
    let (minutes, cs) ← readDigits 2 cs
    let offset ← offsetSeconds? negative hours minutes
    return (offset, cs)

/-- The time that is made of a civil time with seconds up to 60 and an offset. -/
def Timestamp.ofCivil? (c : Civil) (offset : Int) : Option Timestamp :=
  let c := if c.second = 60 then { c with second := 59, nanos := c.nanos + nanosPerSecond } else c
  let instant := Instant.ofCivil c offset
  if c.Valid ∧ instant.InRange ∧ (Instant.ofCivil c).InRange then some ⟨instant, offset⟩ else none

/-- Reads a time in RFC 3339. Its date and clock may also be parted by `t` or a blank. -/
def Timestamp.ofRfc3339? (text : String) : Option Timestamp := do
  let (year, cs) ← readDigits 4 text.toList
  let (month, cs) ← readMark '-' cs >>= readDigits 2
  let (day, cs) ← readMark '-' cs >>= readDigits 2
  let cs ← readMark 'T' cs <|> readMark 't' cs <|> readMark ' ' cs
  let (hour, cs) ← readDigits 2 cs
  let (minute, cs) ← readMark ':' cs >>= readDigits 2
  let (second, cs) ← readMark ':' cs >>= readDigits 2
  let (nanos, cs) ← readFraction cs
  let (offset, cs) ← readOffset cs
  if cs.isEmpty then
    ofCivil? { date := ⟨year, month, day⟩, hour, minute, second, nanos } offset
  else none

end BuildVersion.Calendar
