import BuildVersion.Numeral
import BuildVersion.Word.Basic

/-!
# Numerals in words

How numerals are written and read on words: digits are taken off at the end of a number until it is zero,
and a value that is read is kept in a word.
-/

namespace BuildVersion.Numeral

open Text

/-- The alphabet of a base, cut out of all digits. -/
def wordAlphabet (base : Nat) : Attempt (List Char) :=
  if base = 28 then return wordlessDigits
  else if 2 ≤ base ∧ base ≤ 36 then slice digits 0 base
  else throw (.numeralBase base)

/-- The digits of a number, the last one first. -/
def lastDigits (alphabet : List Char) (value : Nat) : Except Trap (List Char) := do
  let place ← Word.mod value alphabet.length
  let digit ← item alphabet place
  let rest ← Word.div value alphabet.length
  if rest = 0 then return [digit]
  else if _h : rest < value then return digit :: (← lastDigits alphabet rest)
  else throw .endless
termination_by value

/-- The numeral of a number, filled up with the zero digit to a least length. -/
def wordEncode (alphabet : List Char) (value minLength : Nat) : Except Trap (List Char) := do
  let last ← lastDigits alphabet value
  let zeros ← (List.replicate (minLength - last.length) 0).mapM (item alphabet)
  return (last ++ zeros).reverse

/-- The value of a numeral after one more digit. -/
def wordReadOn (alphabet text : List Char) (value : Nat) (c : Char) : Attempt Nat :=
  match alphabet.idxOf? (lowerAscii c) with
  | none => throw (.foreignDigit c (String.ofList text) alphabet.length)
  | some place =>
    .checked (do Word.add (← Word.mul value alphabet.length) place) (.numeralLimit (String.ofList text))

/-- The value of a numeral. -/
def wordDecode (alphabet text : List Char) : Attempt Nat :=
  if text.isEmpty then throw .emptyNumeral else text.foldlM (wordReadOn alphabet text) 0

end BuildVersion.Numeral
