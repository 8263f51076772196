import BuildVersion.Text.Split
import BuildVersion.Toml.Quoted

/-!
# Plain values

Numbers, truth values and dates are written without quotes. They are told apart by their form alone:
no run of characters has two of the forms.
-/

namespace BuildVersion.Toml

open Calendar Text

/-- The digits of a number, between which single underscores may stand. -/
def spacedDigits? (isDigit : Char → Bool) (cs : List Char) : Option (List Char) :=
  let groups := split '_' cs
  if groups.all fun group => !group.isEmpty && group.all isDigit then some groups.flatten else none

/-- The digits of a decimal number without needless zeros in front. -/
def decimalDigits? (cs : List Char) : Option (List Char) :=
  if cs.head? = some '0' ∧ 1 < cs.length then none else spacedDigits? isDigit cs

/-- The value of the digits of a base. -/
def valueInBase (base : Nat) (digits : List Char) : Nat :=
  digits.foldl (fun n c => base * n + hexValue c) 0

/-- An integer in decimal, which may have a sign. -/
def decimalInteger? (cs : List Char) : Option Int :=
  match cs with
  | '-' :: cs => (decimalDigits? cs).map fun digits => -(valueInBase 10 digits : Int)
  | _ => (decimalDigits? (dropPlus cs)).map fun digits => (valueInBase 10 digits : Int)

/-- An integer in a base that is named in front. -/
def basedInteger? (base : Nat) (cs : List Char) : Option Int :=
  (spacedDigits? (fun c => isHexDigit c && hexValue c < base) cs).map fun digits =>
    (valueInBase base digits : Int)

/-- An integer, which has to fit a signed word. -/
def integerValue? (cs : List Char) : Option Value :=
  let number :=
    match cs with
    | '0' :: 'x' :: cs => basedInteger? 16 cs
    | '0' :: 'o' :: cs => basedInteger? 8 cs
    | '0' :: 'b' :: cs => basedInteger? 2 cs
    | cs => decimalInteger? cs
  (number.filter fun n => -(signedLimit : Int) ≤ n ∧ n < signedLimit).map Value.integer

/-- Drops one sign. -/
def dropSign : List Char → List Char
  | '+' :: cs | '-' :: cs => cs
  | cs => cs

/-- The exponent that follows a mantissa, zero where there is none. -/
def exponent? : List Char → Option Int
  | [] => some 0
  | mark :: cs =>
    if mark = 'e' ∨ mark = 'E' then
      (spacedDigits? isDigit (dropSign cs)).map fun digits =>
        if cs.head? = some '-' then -(valueInBase 10 digits : Int) else valueInBase 10 digits
    else none

/-- Whether `m · 10^e` is beyond the numbers of double precision: from halfway between the largest of
them and the next power of two on. -/
def isBeyondDouble (m : Nat) (e : Int) : Bool :=
  let size := (Nat.toDigits 10 m).length + e
  if m = 0 ∨ size < 309 then false
  else if 309 < size then true
  else (Nat.pow 2 1024 - Nat.pow 2 970) * Nat.pow 10 (-e).toNat ≤ m * Nat.pow 10 e.toNat

/-- A number with a fraction, an exponent or both. -/
def decimalFloat? (cs : List Char) : Option Value := do
  let isNegative := cs.head? = some '-'
  let cs := dropSign cs
  let mantissa := cs.takeWhile fun c => c ≠ 'e' ∧ c ≠ 'E'
  let tail := cs.drop mantissa.length
  let (whole, fraction) ←
    match cut? '.' mantissa with
    | some (whole, fraction) => do
      let fraction ← spacedDigits? isDigit fraction
      pure (whole, fraction)
    | none => if tail.isEmpty then none else pure (mantissa, [])
  let whole ← decimalDigits? whole
  let exponent ← exponent? tail
  if !isNegative ∧ isBeyondDouble (valueInBase 10 (whole ++ fraction)) (exponent - fraction.length) then
    none
  else some .float

/-- Infinity or the value that is no number, which may have a sign. -/
def specialFloat? (cs : List Char) : Option Value :=
  let name := String.ofList (dropSign cs)
  if name = "inf" ∨ name = "nan" then some .float else none

/-- One of the two truth values. -/
def truthValue? (cs : List Char) : Option Value :=
  match String.ofList cs with
  | "true" => some (.boolean true)
  | "false" => some (.boolean false)
  | _ => none

/-- Reads a date that the calendar has. -/
def readDate (cs : List Char) : Option (List Char) := do
  let (year, cs) ← readDigits 4 cs
  let (month, cs) ← readMark '-' cs >>= readDigits 2
  let (day, cs) ← readMark '-' cs >>= readDigits 2
  if (⟨year, month, day⟩ : Date).Valid then some cs else none

/-- Reads what a clock shows, leap seconds and a fraction included. -/
def readClock (cs : List Char) : Option (List Char) := do
  let (hour, cs) ← readDigits 2 cs
  let (minute, cs) ← readMark ':' cs >>= readDigits 2
  let (second, cs) ← readMark ':' cs >>= readDigits 2
  let (_, cs) ← readFraction cs
  if hour < 24 ∧ minute < 60 ∧ second ≤ 60 then some cs else none

/-- Whether a text is a date and a clock with an optional offset. -/
def isMoment (cs : List Char) : Bool :=
  match readDate cs with
  | some (mark :: cs) =>
    if mark = 'T' ∨ mark = 't' ∨ mark = ' ' then
      match readClock cs with
      | some [] => true
      | some cs => (readOffset cs).map Prod.snd = some []
      | none => false
    else false
  | _ => false

/-- A date, a clock or both. -/
def dateValue? (cs : List Char) : Option Value :=
  if readDate cs = some [] ∨ readClock cs = some [] ∨ isMoment cs then some .date else none

/-- The value that is written without quotes. -/
def plainValue? (cs : List Char) : Option Value :=
  truthValue? cs <|> dateValue? cs <|> integerValue? cs <|> decimalFloat? cs <|> specialFloat? cs

/-- The characters of plain values. -/
def isPlain (c : Char) : Bool :=
  isAlphanumeric c || c == '_' || c == '+' || c == '-' || c == '.' || c == ':'

/-- The characters of the plain value that a text opens with. A blank may part a date from its
clock. -/
def plainRun (cs : List Char) : List Char :=
  let run := cs.takeWhile isPlain
  match cs.drop run.length with
  | ' ' :: c :: rest =>
    if readDate run = some [] ∧ isDigit c then run ++ ' ' :: (c :: rest).takeWhile isPlain else run
  | _ => run

/-- Reads a plain value. -/
def readPlain (cs : List Char) : Except Fault (Value × List Char) :=
  let run := plainRun cs
  match plainValue? run with
  | some value => .ok (value, cs.drop run.length)
  | none => .error .malformed

end BuildVersion.Toml
