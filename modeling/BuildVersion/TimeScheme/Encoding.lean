import BuildVersion.Calendar.Zone
import BuildVersion.Numeral
import BuildVersion.TimeScheme.Basic

/-!
# Writing times

How each scheme writes a time. The counted schemes refuse times before their base date, and the
dotted one also refuses times of which the days no longer fit a number of a short version. No local time
is written where local clocks do not cover the time.
-/

namespace BuildVersion.TimeScheme

open Calendar Text

/-- A year with four digits; a sign takes the place of a digit. -/
def yearField (year : Int) : String :=
  if year < 0 then "-" ++ padded 3 year.natAbs else padded 4 year.natAbs

/-- The fields of a readable time. -/
def readableFields (date : Bool) (clock : ClockFields) (c : Civil) : List String :=
  (if date then [yearField c.date.year, padded 2 c.date.month, padded 2 c.date.day] else []) ++
    match clock with
    | .nothing => []
    | .minutes => [padded 2 c.hour, padded 2 c.minute]
    | .seconds => [padded 2 c.hour, padded 2 c.minute, padded 2 c.second]

/-- The separator as a text. -/
def separatorText (separator : Option Char) : String :=
  match separator with
  | some c => String.singleton c
  | none => ""

/-- The start of a month, from which a scheme counts. -/
def base (year month : Nat) : Date := ⟨year, month, 1⟩

/-- The seconds from a base date to a time. -/
def secondsSince (t : Timestamp) (base : Date) : Except Error Nat :=
  let seconds := t.instant.secondsSince (Instant.ofDate base)
  if seconds < 0 then .error (.beforeBase t base) else .ok seconds.toNat

/-- A time as its scheme writes it. -/
def encode (scheme : TimeScheme) (zone : Zone) (t : Timestamp) : Except Error String :=
  match scheme with
  | readable date clock separator utc =>
    if utc ∨ zone.Covers t.instant then
      let civil := if utc then t.instant.civil else zone.civil t.instant
      .ok ((separatorText separator).intercalate (readableFields date clock civil))
    else .error (.localTime t)
  | dotted interval baseYear => do
    let seconds ← secondsSince t (base baseYear 1)
    let days := seconds / daySeconds
    if days < BuildVersion.dayLimit then
      return toString days ++ "." ++ toString (seconds % daySeconds / interval)
    else throw (.dayLimit t days baseYear)
  | numeral radix interval baseYear minLength upper => do
    let seconds ← secondsSince t (base baseYear 1)
    let digits ← Numeral.alphabet radix
    let text := Numeral.encode digits (seconds / interval) minLength
    return String.ofList (if upper then upperCase text else text)
  | hours baseYear baseMonth => do
    let seconds ← secondsSince t (base baseYear baseMonth)
    return toString (seconds / 3600)

end BuildVersion.TimeScheme
