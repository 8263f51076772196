import BuildVersion.Numeral
import BuildVersion.Text.Split
import BuildVersion.TimeScheme.Basic

/-!
# Reading time placeholders

A time placeholder is a source letter, an optional `u` for UTC, a colon and a scheme. Its braces may
be left out. The schemes are `h` (hours), `d` (dotted), `b` and `B` (numerals) and the readable ones
that list their fields.
-/

namespace BuildVersion

open Text

namespace TimeScheme

/-- The year from which schemes count that name none. -/
def defaultBaseYear : Nat := 2000

/-- Reads a year of four digits. -/
def readYear? (cs : List Char) : Option Nat :=
  if cs.length = 4 then natural? cs else none

/-- Reads a number of one or two digits. -/
def readSmall? (cs : List Char) : Option Nat :=
  if cs.length ≤ 2 then natural? cs else none

/-- The seconds of a unit of time. -/
def unitSeconds? : Char → Option Nat
  | 's' => some 1
  | 'm' => some 60
  | 'h' => some 3600
  | 'd' => some daySeconds
  | _ => none

/-- An interval as written: the digits of its count and its unit. -/
structure IntervalText where
  count : List Char
  unit : Char
  unitSeconds : Nat

/-- Reads the text of an interval. -/
def readInterval? (cs : List Char) : Option (IntervalText × List Char) :=
  let count := cs.takeWhile isDigit
  match cs.dropWhile isDigit with
  | unit :: rest =>
    match unitSeconds? unit with
    | some unitSeconds => if count.isEmpty then none else some ({ count, unit, unitSeconds }, rest)
    | none => none
  | [] => none

/-- The seconds of an interval, which have to be positive and to fit a signed word. -/
def IntervalText.seconds (i : IntervalText) : Except SchemeFault Nat :=
  let count := Nat.ofDigitChars 10 i.count 0
  if count < signedLimit then
    let seconds := count * i.unitSeconds
    if 0 < seconds ∧ seconds < signedLimit then .ok seconds
    else .error (.emptyInterval (toString count ++ String.singleton i.unit))
  else .error (.interval (String.ofList (i.count ++ [i.unit])))

/-- An hours scheme as written: `h`, optionally a year, optionally a month. -/
def readHours? (body : List Char) : Option (Nat × Nat) :=
  match body with
  | ['h'] => some (defaultBaseYear, 1)
  | 'h' :: ':' :: rest =>
    match cut? '-' rest with
    | none => (readYear? rest).map fun year => (year, 1)
    | some (year, month) => do
      return (← readYear? year, ← readSmall? month)
  | _ => none

/-- A dotted scheme as written: `d`, an interval, optionally a year. -/
def readDotted? (body : List Char) : Option (IntervalText × Nat) :=
  match body with
  | 'd' :: rest => do
    let (interval, rest) ← readInterval? rest
    match rest with
    | [] => return (interval, defaultBaseYear)
    | ':' :: year => return (interval, ← readYear? year)
    | _ => none
  | _ => none

/-- A numeral scheme as written. -/
structure NumeralText where
  base : Nat
  interval : IntervalText
  baseYear : Nat := defaultBaseYear
  minLength : Nat := 1
  upper : Bool

/-- A numeral scheme as written: `b` or `B`, the base, a hyphen, an interval, optionally a year,
optionally the least length. -/
def readNumeral? (body : List Char) : Option NumeralText :=
  match body with
  | mark :: rest =>
    if mark = 'b' ∨ mark = 'B' then do
      let upper := mark == 'B'
      let (base, rest) ← cut? '-' rest
      let base ← readSmall? base
      let (interval, rest) ← readInterval? rest
      match rest with
      | [] => return { base, interval, upper }
      | ':' :: rest =>
        match cut? ':' rest with
        | none => return { base, interval, baseYear := ← readYear? rest, upper }
        | some (year, length) =>
          return { base, interval, baseYear := ← readYear? year, minLength := ← readSmall? length, upper }
      | _ => none
    else none
  | [] => none

/-- Drops the letters of a field list, if the text begins with them. -/
def dropLetters (letters : String) (cs : List Char) : Bool × List Char :=
  match letters.toList.isPrefixOf? cs with
  | some rest => (true, rest)
  | none => (false, cs)

/-- The clock fields of a readable scheme. -/
def readClock (cs : List Char) : ClockFields × List Char :=
  match dropLetters "hms" cs with
  | (true, rest) => (.seconds, rest)
  | (false, _) =>
    match dropLetters "hm" cs with
    | (true, rest) => (.minutes, rest)
    | (false, _) => (.nothing, cs)

/-- The separator of a readable scheme, where it is one. -/
def readSeparator? : List Char → Option (Option Char)
  | [] => some none
  | [c] => if c = '-' ∨ c = '.' ∨ c = ':' then some (some c) else none
  | _ => none

/-- A readable scheme: a date, a clock or both, and a separator. -/
def readReadable? (body : List Char) (utc : Bool) : Option TimeScheme :=
  let (date, rest) := dropLetters "ymd" body
  let (clock, rest) := readClock rest
  match readSeparator? rest with
  | some separator =>
    if date ∨ clock ≠ .nothing then some (.readable date clock separator utc) else none
  | none => none

/-- Reads a scheme. -/
def read (body : List Char) (utc : Bool) : Except SchemeFault TimeScheme :=
  match readHours? body with
  | some (baseYear, baseMonth) =>
    if 1 ≤ baseMonth ∧ baseMonth ≤ 12 then .ok (.hours baseYear baseMonth)
    else .error (.baseMonth baseMonth)
  | none =>
    match readDotted? body with
    | some (interval, baseYear) => do
      let seconds ← interval.seconds
      if seconds ≤ daySeconds then return .dotted seconds baseYear else throw .longInterval
    | none =>
      match readNumeral? body with
      | some text =>
        if 2 ≤ text.base ∧ text.base ≤ 36 then do
          let seconds ← text.interval.seconds
          return .numeral text.base seconds text.baseYear text.minLength text.upper
        else .error (.base text.base)
      | none =>
        match readReadable? body utc with
        | some scheme => .ok scheme
        | none => .error .unknown

end TimeScheme

/-- The source of a letter. -/
def TimeSource.ofLetter? : Char → Option TimeSource
  | 'a' => some .author
  | 'b' => some .build
  | 'c' => some .commit
  | _ => none

namespace TimeSpec

/-- Drops one opening brace. -/
def dropOpening : List Char → List Char
  | '{' :: cs => cs
  | cs => cs

/-- Drops one closing brace at the end. -/
def dropClosing (cs : List Char) : List Char :=
  if cs.getLast? = some '}' then cs.dropLast else cs

/-- Reads the source letter, the `u` and the colon. -/
def readSource? (cs : List Char) : Option (TimeSource × Bool × List Char) :=
  match cs with
  | letter :: 'u' :: ':' :: rest => (TimeSource.ofLetter? letter).map fun source => (source, true, rest)
  | letter :: ':' :: rest => (TimeSource.ofLetter? letter).map fun source => (source, false, rest)
  | _ => none

/-- The source, the `u` and the scheme of a time placeholder as written. The scheme is not empty and
holds no braces. -/
def parts? (cs : List Char) : Option (TimeSource × Bool × List Char) :=
  match readSource? (dropOpening cs) with
  | some (source, utc, rest) =>
    let body := dropClosing rest
    if body.isEmpty ∨ body.any fun c => c == '{' || c == '}' then none else some (source, utc, body)
  | none => none

/-- Whether a text opens like a time placeholder, whatever its scheme. -/
def isTimePlaceholder (text : String) : Bool :=
  match text.toList with
  | '{' :: cs => (readSource? cs).isSome
  | _ => false

/-- Reads a time placeholder, with or without its braces. -/
def read (text : String) : Except Error TimeSpec :=
  match parts? text.toList with
  | none => .error (.timeScheme .notTime text)
  | some (source, utc, body) =>
    match TimeScheme.read body utc with
    | .ok scheme => .ok { source, scheme }
    | .error fault => .error (.timeScheme fault text)

end TimeSpec

end BuildVersion
