import BuildVersion.Text.Number

/-!
# Time schemes

A time scheme writes a point in time as a short text. A time placeholder names a scheme and the time
that it is for.
-/

namespace BuildVersion

/-- The times that a placeholder can be for. -/
inductive TimeSource where
  | build
  | commit
  | author
deriving DecidableEq

/-- The name of a source. -/
def TimeSource.name : TimeSource → String
  | build => "build"
  | commit => "commit"
  | author => "author"

/-- What a readable time shows of the clock. -/
inductive ClockFields where
  | nothing
  | minutes
  | seconds
deriving DecidableEq

/-- A way to write a time. The counted schemes count from the start of a year or month in UTC. -/
inductive TimeScheme where
  /-- Date and clock in digits, with a separator between any two fields, in UTC or local time. -/
  | readable (date : Bool) (clock : ClockFields) (separator : Option Char) (utc : Bool)
  /-- The days, a dot, and the intervals of so many seconds since the day began. -/
  | dotted (interval baseYear : Nat)
  /-- The intervals of so many seconds as a numeral of a least length. -/
  | numeral (base interval baseYear minLength : Nat) (upper : Bool)
  /-- The hours. -/
  | hours (baseYear baseMonth : Nat)
deriving DecidableEq

/-- A scheme and the time that it writes. -/
structure TimeSpec where
  source : TimeSource
  scheme : TimeScheme
deriving DecidableEq

namespace TimeScheme

/-- The seconds of a day, as a count. -/
def daySeconds : Nat := 86400

/-- The limits within which all parameters of a scheme lie. -/
def WellFormed : TimeScheme → Prop
  | readable date clock separator _ =>
    (date = true ∨ clock ≠ .nothing) ∧ ∀ c ∈ separator, c = '-' ∨ c = '.' ∨ c = ':'
  | dotted interval baseYear => 1 ≤ interval ∧ interval ≤ daySeconds ∧ baseYear ≤ 9999
  | numeral base interval baseYear minLength _ =>
    2 ≤ base ∧ base ≤ 36 ∧ 1 ≤ interval ∧ interval < Text.signedLimit ∧ baseYear ≤ 9999 ∧
      minLength ≤ 99
  | hours baseYear baseMonth => baseYear ≤ 9999 ∧ 1 ≤ baseMonth ∧ baseMonth ≤ 12

end TimeScheme

end BuildVersion
