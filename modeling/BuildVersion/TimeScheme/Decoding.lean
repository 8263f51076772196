import BuildVersion.Text.Character
import BuildVersion.Text.Split
import BuildVersion.TimeScheme.Encoding

/-!
# Reading written times back

A written time means the start of the interval in which it was made. Surrounding blanks do not count.
-/

namespace BuildVersion.TimeScheme

open Calendar Text

/-- The numbers of digits of the fields of a readable time. -/
def fieldWidths : ClockFields → List Nat
  | .nothing => [4, 2, 2]
  | .minutes => [4, 2, 2, 2, 2]
  | .seconds => [4, 2, 2, 2, 2, 2]

/-- Cuts a text into pieces of given lengths, which it has to fill. -/
def cutWidths? : List Nat → List Char → Option (List (List Char))
  | [], cs => if cs.isEmpty then some [] else none
  | width :: widths, cs =>
    if (cs.take width).length = width then
      (cutWidths? widths (cs.drop width)).map fun pieces => cs.take width :: pieces
    else none

/-- The fields of a readable time as written. -/
def splitFields? (widths : List Nat) (separator : Option Char) (cs : List Char) :
    Option (List (List Char)) :=
  match separator with
  | none => cutWidths? widths cs
  | some c =>
    let fields := split c cs
    if fields.map List.length = widths then some fields else none

/-- The date and clock of numbers, where the calendar and the clock know them. -/
def civilOfNumbers? (numbers : List Nat) : Option Civil :=
  let civil? : Option Civil :=
    match numbers with
    | [year, month, day] => some { date := ⟨year, month, day⟩ }
    | [year, month, day, hour, minute] => some { date := ⟨year, month, day⟩, hour, minute }
    | [year, month, day, hour, minute, second] =>
      some { date := ⟨year, month, day⟩, hour, minute, second }
    | _ => none
  civil?.filter fun civil => decide civil.Valid

/-- The date and clock of a readable time. -/
def readableCivil? (clock : ClockFields) (separator : Option Char) (cs : List Char) : Option Civil := do
  let fields ← splitFields? (fieldWidths clock) separator cs
  let numbers ← fields.mapM natural?
  civilOfNumbers? numbers

/-- The intervals that begin on a day. -/
def intervalsPerDay (interval : Nat) : Nat := (daySeconds + interval - 1) / interval

/-- The time so many seconds after a base date. -/
def timeAfter (base : Date) (seconds : Nat) : Except Error Instant :=
  let t := (Instant.ofDate base).addSeconds seconds
  if t.InRange then .ok t else .error (.timeRange seconds base)

/-- The start of the interval that a written time stands for. -/
def decode (scheme : TimeScheme) (zone : Zone) (value : String) : Except Error Instant :=
  let cs := trim value.toList
  let text := String.ofList cs
  match scheme with
  | readable date clock separator utc =>
    if date then
      match readableCivil? clock separator cs with
      | none => .error (.timeValue text)
      | some civil =>
        if utc then .ok (Instant.ofCivil civil)
        else
          match zone.instant? civil with
          | some t => .ok t
          | none => .error (.timeValue text)
    else .error (.timeWithoutDate text)
  | dotted interval baseYear =>
    match cut? '.' cs with
    | none => .error (.timeValue text)
    | some (days, index) =>
      match signedWord? days, signedWord? index with
      | some days, some index =>
        let perDay := intervalsPerDay interval
        if 0 ≤ days ∧ days < BuildVersion.dayLimit ∧ 0 ≤ index ∧ index < perDay then
          timeAfter (base baseYear 1) (days.toNat * daySeconds + index.toNat * interval)
        else .error (.outsideDays text perDay)
      | _, _ => .error (.timeValue text)
  | numeral radix interval baseYear _ _ => do
    let digits ← Numeral.alphabet radix
    let count ← Numeral.decode digits cs
    if count * interval < signedLimit then timeAfter (base baseYear 1) (count * interval)
    else throw (.tooLarge text)
  | hours baseYear baseMonth =>
    match signedWord? cs with
    | none => .error (.timeValue text)
    | some count =>
      if count < 0 then .error (.timeValue text)
      else if count * 3600 < signedLimit then timeAfter (base baseYear baseMonth) (count.toNat * 3600)
      else .error (.tooLarge text)

end BuildVersion.TimeScheme
