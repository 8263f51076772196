import BuildVersion.TimeScheme.Decoding
import BuildVersion.Word.Numeral

/-!
# Time schemes in words

How time schemes write times and read them back on words of 64 bits, operation by operation. Fields are taken out
of readable times by their bytes, and numbers out of fields by their positions.
-/

namespace BuildVersion.TimeScheme

open Calendar Text

/-! ### Clocks -/

/-- The whole seconds that the longest duration has. -/
def durationLimit : Nat := 9223372036854775

/-- What clocks ahead of UTC by `offset` seconds show, if they cover the year. -/
def clockAt (t : Instant) (offset : Int) : Except Trap Civil :=
  if (t.addSeconds offset).InRange then .ok (t.civil offset) else .error .clock

/-- The start of a month that the calendar knows. -/
def baseOf (year month : Nat) : Except Trap Date :=
  if (base year month).Valid then .ok (base year month) else .error .date

/-- The whole seconds of the duration between two instants. -/
def durationSince (t start : Instant) : Except Trap Int :=
  let seconds := t.secondsSince start
  if -(durationLimit : Int) ≤ seconds ∧ seconds ≤ durationLimit then .ok seconds else .error .overflow

/-- The seconds from a base date to a time. An error shows the time on the clocks that it was seen on. -/
def wordSecondsSince (t : Timestamp) (base : Date) : Attempt Int := do
  let seconds ← durationSince t.instant (Instant.ofDate base)
  if seconds < 0 then
    let _ ← clockAt t.instant t.offset
    throw (.beforeBase t base)
  return seconds

/-- The time so many seconds after a base date. -/
def wordTimeAfter (base : Date) (seconds : Int) : Attempt Instant :=
  let t := (Instant.ofDate base).addSeconds seconds
  if -(durationLimit : Int) ≤ seconds ∧ seconds ≤ durationLimit ∧ t.InRange then return t
  else throw (.timeRange seconds base)

/-! ### Writing -/

/-- A time as its scheme writes it. -/
def wordEncode (scheme : TimeScheme) (zone : Zone) (t : Timestamp) : Attempt String :=
  match scheme with
  | readable date clock separator utc => do
    let civil ← clockAt t.instant (if utc then 0 else zone.offsetAt t.instant)
    return (separatorText separator).intercalate (readableFields date clock civil)
  | dotted interval baseYear => do
    let start ← baseOf baseYear 1
    let seconds ← wordSecondsSince t start
    let days ← SignedWord.div seconds daySeconds
    if days < BuildVersion.dayLimit then
      let rest ← SignedWord.mod seconds daySeconds
      let index ← SignedWord.div rest interval
      return toString days ++ "." ++ toString index
    else
      let _ ← clockAt t.instant t.offset
      throw (.dayLimit t days baseYear)
  | numeral radix interval baseYear minLength upper => do
    let start ← baseOf baseYear 1
    let seconds ← wordSecondsSince t start
    let digits ← Numeral.wordAlphabet radix
    let count ← SignedWord.div seconds interval
    let value ← Word.ofInt count
    let text ← Numeral.wordEncode digits value minLength
    return String.ofList (if upper then upperCase text else text)
  | hours baseYear baseMonth => do
    let start ← baseOf baseYear baseMonth
    let seconds ← wordSecondsSince t start
    let count ← SignedWord.div seconds 3600
    return toString count

/-! ### Reading -/

/-- The pieces of a text of these widths in bytes, from a byte on. -/
def piecesFrom (cs : List Char) (start : Nat) : List Nat → Except Trap (List (List Char))
  | [] => return []
  | width :: widths => do
    let stop ← Word.add start width
    let piece ← slice cs start stop
    let pieces ← piecesFrom cs stop widths
    return piece :: pieces

/-- The fields of a readable time as written. Without a separator they are told by their widths, which a text of
ASCII alone can have. -/
def wordFields (widths : List Nat) (separator : Option Char) (cs : List Char) :
    Except Trap (Option (List (List Char))) :=
  match separator with
  | none =>
    if byteLength cs = widths.foldr (· + ·) 0 ∧ IsAscii cs then do
      let pieces ← piecesFrom cs 0 widths
      return some pieces
    else return none
  | some c => return some (split c cs)

/-- Whether a field consists of so many decimal digits. -/
def isField (field : List Char) (width : Nat) : Bool := byteLength field = width && field.all isDigit

/-- A number of 32 bits. -/
def halfWord? (cs : List Char) : Option Nat := (natural? cs).filter (· < 4294967296)

/-- A number of 32 bits as a signed one. -/
def signedHalf (n : Nat) : Except Trap Int := if n < 2147483648 then .ok n else .error .overflow

/-- The date and clock of numbers by their positions; a clock that is not there stands at zero. -/
def civilAt (numbers : List Nat) : Except Trap (Option Civil) := do
  let year ← signedHalf (← item numbers 0)
  let month ← item numbers 1
  let day ← item numbers 2
  let civil : Civil :=
    { date := ⟨year, month, day⟩
      hour := numbers[3]?.getD 0
      minute := numbers[4]?.getD 0
      second := numbers[5]?.getD 0 }
  return if civil.Valid then some civil else none

/-- The date and clock of fields, which have to be of these widths. -/
def wordCivil (widths : List Nat) (fields : List (List Char)) : Except Trap (Option Civil) :=
  if fields.length = widths.length ∧ (List.zipWith isField fields widths).all id then
    civilAt (fields.filterMap halfWord?)
  else return none

/-- The date and clock of a readable time. -/
def wordReadable (clock : ClockFields) (separator : Option Char) (cs : List Char) : Except Trap (Option Civil) := do
  match ← wordFields (fieldWidths clock) separator cs with
  | none => return none
  | some fields => wordCivil (fieldWidths clock) fields

/-- The start of the interval that a written time stands for. -/
def wordDecode (scheme : TimeScheme) (zone : Zone) (value : String) : Attempt Instant :=
  let cs := trim value.toList
  let text := String.ofList cs
  match scheme with
  | readable date clock separator utc =>
    if date then do
      match ← wordReadable clock separator cs with
      | none => throw (.timeValue text)
      | some civil =>
        if utc then return Instant.ofCivil civil
        else
          match zone.instant? civil with
          | some t => return t
          | none => throw (.timeValue text)
    else throw (.timeWithoutDate text)
  | dotted interval baseYear =>
    match cut? '.' cs with
    | none => throw (.timeValue text)
    | some (days, index) =>
      match signedWord? days, signedWord? index with
      | some days, some index => do
        let last ← SignedWord.sub (← SignedWord.add daySeconds interval) 1
        let perDay ← SignedWord.div last interval
        if 0 ≤ days ∧ days < BuildVersion.dayLimit ∧ 0 ≤ index ∧ index < perDay then
          let start ← baseOf baseYear 1
          let seconds ← SignedWord.add (← SignedWord.mul days daySeconds) (← SignedWord.mul index interval)
          wordTimeAfter start seconds
        else
          let _ ← SignedWord.sub perDay 1
          throw (.outsideDays text perDay.toNat)
      | _, _ => throw (.timeValue text)
  | numeral radix interval baseYear _ _ => do
    let digits ← Numeral.wordAlphabet radix
    let count ← Numeral.wordDecode digits cs
    let seconds ← .checked (do SignedWord.mul (← SignedWord.ofInt count) interval) (.tooLarge text)
    let start ← baseOf baseYear 1
    wordTimeAfter start seconds
  | hours baseYear baseMonth =>
    match signedWord? cs with
    | none => throw (.timeValue text)
    | some count =>
      if count < 0 then throw (.timeValue text)
      else do
        let seconds ← .checked (SignedWord.mul count 3600) (.tooLarge text)
        let start ← baseOf baseYear baseMonth
        wordTimeAfter start seconds

end BuildVersion.TimeScheme
