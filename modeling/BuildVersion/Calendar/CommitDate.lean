import BuildVersion.Calendar.Rfc3339
import BuildVersion.Text.Character

/-!
# Dates of commits

Version control tools write the time of a commit as `2024-03-05 14:15:16 +0100`. Numbers may have
fewer digits, and blanks may stand before each of them.
-/

namespace BuildVersion.Calendar

open Text

/-- Reads a number of one to `most` digits after any blanks. -/
def readNumber (most : Nat) (cs : List Char) : Option (Nat × List Char) :=
  let cs := cs.dropWhile isBlank
  let digits := (cs.take most).takeWhile isDigit
  (natural? digits).map fun n => (n, cs.drop digits.length)

/-- Reads a year: up to four digits, or any number of digits after a sign. -/
def readYear (cs : List Char) : Option (Int × List Char) :=
  let signed (rest : List Char) : Option (Nat × List Char) :=
    (natural? (rest.takeWhile isDigit)).map fun n => (n, rest.dropWhile isDigit)
  match cs.dropWhile isBlank with
  | '-' :: rest => (signed rest).map fun (n, cs) => (-(n : Int), cs)
  | '+' :: rest => (signed rest).map fun (n, cs) => ((n : Int), cs)
  | cs => (readNumber 4 cs).map fun (n, cs) => ((n : Int), cs)

/-- Reads an offset of hours and minutes, between which colons and blanks may stand. -/
def readPlainOffset (cs : List Char) : Option (Int × List Char) := do
  let (negative, cs) ← readSign (cs.dropWhile isBlank)
  let (hours, cs) ← readDigits 2 cs
  let (minutes, cs) ← readDigits 2 (cs.dropWhile fun c => c = ':' || isBlank c)
  let offset ← offsetSeconds? negative hours minutes
  return (offset, cs)

/-- Reads the time of a commit. -/
def Timestamp.ofCommitDate? (text : String) : Option Timestamp := do
  let (year, cs) ← readYear text.toList
  let (month, cs) ← readMark '-' cs >>= readNumber 2
  let (day, cs) ← readMark '-' cs >>= readNumber 2
  let (hour, cs) ← readNumber 2 cs
  let (minute, cs) ← readMark ':' cs >>= readNumber 2
  let (second, cs) ← readMark ':' cs >>= readNumber 2
  let (offset, cs) ← readPlainOffset cs
  if cs.isEmpty then
    ofCivil? { date := ⟨year, month, day⟩, hour, minute, second } offset
  else none

end BuildVersion.Calendar
