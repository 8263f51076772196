import BuildVersion.Proofs.Text.Decimal
import BuildVersion.Proofs.Text.Run
import BuildVersion.TimeScheme.Reading
import BuildVersion.TimeScheme.Spelling

/-!
# The grammar of time schemes

How the schemes are written, said without reading them: four patterns, each with the values that it spells.
Main statements: the first letters of a text tell which pattern it can fit (`Pattern.Fits.unique`), and the
intervals that are read are those of the grammar (`readInterval?_eq_some_iff`).
-/

namespace BuildVersion

open Text

namespace TimeScheme

/-- Decimal digits that spell a number. -/
structure Digits (cs : List Char) (n : Nat) : Prop where
  nonempty : cs ≠ []
  digits : ∀ c ∈ cs, isDigit c = true
  value : Nat.ofDigitChars 10 cs 0 = n

/-- A year of four digits. -/
def IsYear (cs : List Char) (year : Nat) : Prop := Digits cs year ∧ cs.length = 4

/-- A number of one or two digits. -/
def IsSmall (cs : List Char) (n : Nat) : Prop := Digits cs n ∧ cs.length ≤ 2

/-- A unit of time and its seconds. -/
inductive IsUnit : Char → Nat → Prop where
  | second : IsUnit 's' 1
  | minute : IsUnit 'm' 60
  | hour : IsUnit 'h' 3600
  | day : IsUnit 'd' 86400

/-- A number of units of time and all of its seconds. -/
inductive IsInterval : List Char → Nat → Prop where
  | mk {ds : List Char} {unit : Char} {n seconds : Nat} :
    Digits ds n →
    IsUnit unit seconds →
    IsInterval (ds ++ [unit]) (n * seconds)

/-- A year behind a colon, or nothing. -/
inductive IsYearPart : List Char → Nat → Prop where
  | default : IsYearPart [] 2000
  | year {ys : List Char} {year : Nat} :
    IsYear ys year →
    IsYearPart (':' :: ys) year

/-- A year and a least length behind colons, a year alone, or nothing. -/
inductive IsNumeralPart : List Char → Nat → Nat → Prop where
  | year {ys : List Char} {year : Nat} :
    IsYearPart ys year →
    IsNumeralPart ys year 1
  | length {ys ls : List Char} {year length : Nat} :
    IsYear ys year →
    IsSmall ls length →
    IsNumeralPart (':' :: (ys ++ ':' :: ls)) year length

/-- The pattern `h[:YYYY[-M]]`, with its year and month. -/
inductive HoursBody : List Char → Nat → Nat → Prop where
  | year {ys : List Char} {year : Nat} :
    IsYearPart ys year →
    HoursBody ('h' :: ys) year 1
  | month {ys ms : List Char} {year month : Nat} :
    IsYear ys year →
    IsSmall ms month →
    HoursBody ('h' :: ':' :: (ys ++ '-' :: ms)) year month

/-- The pattern `dN<unit>[:YYYY]`, with its interval and year. -/
inductive DottedBody : List Char → Nat → Nat → Prop where
  | mk {is ys : List Char} {interval year : Nat} :
    IsInterval is interval →
    IsYearPart ys year →
    DottedBody ('d' :: (is ++ ys)) interval year

/-- The pattern `b<base>-N<unit>[:YYYY[:L]]`, or with a capital, with its base, interval, year, least length
and case. -/
inductive NumeralBody : List Char → Nat → Nat → Nat → Nat → Bool → Prop where
  | mk {bs is ps : List Char} {base interval year length : Nat} (upper : Bool) :
    IsSmall bs base →
    IsInterval is interval →
    IsNumeralPart ps year length →
    NumeralBody ((if upper then 'B' else 'b') :: (bs ++ '-' :: (is ++ ps))) base interval year length upper

/-- The pattern `[ymd][hms|hm]` with a date, a clock or both, and perhaps a separator. -/
inductive ReadableBody : List Char → Bool → ClockFields → Option Char → Prop where
  | mk {date : Bool} {clock : ClockFields} {separator : Option Char} :
    date = true ∨ clock ≠ .nothing →
    (∀ c ∈ separator, c = '-' ∨ c = '.' ∨ c = ':') →
    ReadableBody ((if date then ['y', 'm', 'd'] else []) ++ (clock.letters.toList ++ separator.toList)) date
      clock separator

/-- How a scheme is written: it fits one of the patterns, and its values lie within the limits. The `u` counts
for readable times alone. -/
inductive Spells (utc : Bool) : List Char → TimeScheme → Prop where
  | hours {body : List Char} {year month : Nat} :
    HoursBody body year month →
    1 ≤ month ∧ month ≤ 12 →
    Spells utc body (.hours year month)
  | dotted {body : List Char} {interval year : Nat} :
    DottedBody body interval year →
    1 ≤ interval ∧ interval ≤ 86400 →
    Spells utc body (.dotted interval year)
  | numeral {body : List Char} {base interval year length : Nat} {upper : Bool} :
    NumeralBody body base interval year length upper →
    2 ≤ base ∧ base ≤ 36 →
    1 ≤ interval ∧ interval ≤ 2 ^ 63 - 1 →
    Spells utc body (.numeral base interval year length upper)
  | readable {body : List Char} {date : Bool} {clock : ClockFields} {separator : Option Char} :
    ReadableBody body date clock separator →
    Spells utc body (.readable date clock separator utc)

/-- The four ways to write a scheme. -/
inductive Pattern where
  | hours
  | dotted
  | numeral
  | readable
deriving DecidableEq

namespace Pattern

/-- Whether a text is written by a pattern, within the limits or not. -/
def Fits : Pattern → List Char → Prop
  | hours, body => ∃ year month, HoursBody body year month
  | dotted, body => ∃ interval year, DottedBody body interval year
  | numeral, body => ∃ base interval year length upper, NumeralBody body base interval year length upper
  | readable, body => ∃ date clock separator, ReadableBody body date clock separator

/-- The only pattern that a text with these first letters can fit. -/
def ofLetters? : List Char → Option Pattern
  | 'h' :: 'm' :: _ => some readable
  | 'h' :: _ => some hours
  | 'd' :: _ => some dotted
  | 'b' :: _ => some numeral
  | 'B' :: _ => some numeral
  | 'y' :: _ => some readable
  | _ => none

/-- The patterns in the order in which they are tried. -/
def all : List Pattern := [hours, dotted, numeral, readable]

lemma mem_all (p : Pattern) : p ∈ all := by
  cases p <;> decide

/-- The first letters of a text tell its pattern. -/
lemma Fits.ofLetters?_eq {p : Pattern} {body : List Char} (h : p.Fits body) : ofLetters? body = some p := by
  cases p with
  | hours =>
    obtain ⟨year, month, h⟩ := h
    cases h with
    | year hyear =>
      cases hyear with
      | default => rfl
      | year => rfl
    | month => rfl
  | dotted =>
    obtain ⟨interval, year, h⟩ := h
    cases h
    rfl
  | numeral =>
    obtain ⟨base, interval, year, length, upper, h⟩ := h
    cases h
    cases upper <;> rfl
  | readable =>
    obtain ⟨date, clock, separator, h⟩ := h
    cases h with
    | mk hfields hseparator =>
      cases date with
      | true => rfl
      | false =>
        cases clock with
        | nothing => exact absurd rfl (hfields.resolve_left Bool.false_ne_true)
        | minutes => rfl
        | seconds => rfl

/-- A text fits one pattern at most. -/
lemma Fits.unique {p q : Pattern} {body : List Char} (hp : p.Fits body) (hq : q.Fits body) : p = q :=
  Option.some.inj (hp.ofLetters?_eq.symm.trans hq.ofLetters?_eq)

end Pattern

/-! ### Reading the parts -/

lemma natural?_eq_some_iff_digits {cs : List Char} {n : Nat} : natural? cs = some n ↔ Digits cs n := by
  rw [natural?_eq_some_iff]
  constructor
  · rintro ⟨hne, hds, hval⟩
    exact ⟨hne, hds, hval⟩
  · rintro ⟨hne, hds, hval⟩
    exact ⟨hne, hds, hval⟩

lemma readYear?_eq_some_iff {cs : List Char} {year : Nat} : readYear? cs = some year ↔ IsYear cs year := by
  rw [readYear?, Option.ite_none_right_eq_some, natural?_eq_some_iff_digits, IsYear, and_comm]

lemma readSmall?_eq_some_iff {cs : List Char} {n : Nat} : readSmall? cs = some n ↔ IsSmall cs n := by
  rw [readSmall?, Option.ite_none_right_eq_some, natural?_eq_some_iff_digits, IsSmall, and_comm]

lemma Digits.notMem {cs : List Char} {n : Nat} (h : Digits cs n) {c : Char} (hc : isDigit c = false) : c ∉ cs :=
  fun hmem => absurd (h.digits c hmem) (Bool.eq_false_iff.1 hc)

lemma unitSeconds?_eq_some_iff {unit : Char} {seconds : Nat} :
    unitSeconds? unit = some seconds ↔ IsUnit unit seconds := by
  constructor
  · intro h
    unfold unitSeconds? at h
    split at h
    · cases h
      exact .second
    · cases h
      exact .minute
    · cases h
      exact .hour
    · cases h
      exact .day
    · cases h
  · rintro (_ | _ | _ | _) <;> rfl

lemma IsUnit.not_isDigit {unit : Char} {seconds : Nat} (h : IsUnit unit seconds) : isDigit unit = false := by
  cases h <;> decide

namespace IntervalText

/-- An interval as it was written. -/
def text (i : IntervalText) : List Char := i.count ++ [i.unit]

/-- All seconds of an interval, within the limits or not. -/
def total (i : IntervalText) : Nat := Nat.ofDigitChars 10 i.count 0 * i.unitSeconds

/-- An interval of digits and a unit. -/
def Proper (i : IntervalText) : Prop := (∃ n, Digits i.count n) ∧ IsUnit i.unit i.unitSeconds

lemma Proper.isInterval {i : IntervalText} (h : i.Proper) : IsInterval i.text i.total := by
  obtain ⟨⟨n, hdigits⟩, hunit⟩ := h
  rw [total, hdigits.value]
  exact .mk hdigits hunit

/-- The seconds have to be positive and to fit a signed word; a count that does not fit one is too long in any
unit. -/
lemma seconds_eq_ok_iff {i : IntervalText} {s : Nat} :
    i.seconds = .ok s ↔ i.total = s ∧ 1 ≤ s ∧ s ≤ 2 ^ 63 - 1 := by
  have hlimit : ∀ n : Nat, n < signedLimit ↔ n ≤ 2 ^ 63 - 1 := by
    intro n
    rw [signedLimit]
    omega
  unfold seconds
  simp only
  split
  · split
    · next hbounds =>
      rw [hlimit] at hbounds
      constructor
      · intro h
        cases h
        exact ⟨rfl, hbounds⟩
      · rintro ⟨rfl, _⟩
        rfl
    · next hbounds =>
      rw [hlimit] at hbounds
      constructor
      · intro h
        cases h
      · rintro ⟨rfl, hs⟩
        exact absurd hs hbounds
  · next hcount =>
    rw [hlimit] at hcount
    constructor
    · intro h
      cases h
    · rintro ⟨rfl, hpos, hle⟩
      rw [total] at hpos hle
      have hunit : 0 < i.unitSeconds := Nat.pos_of_mul_pos_left hpos
      exact absurd (Nat.le_trans (Nat.le_mul_of_pos_right _ hunit) hle) hcount

end IntervalText

lemma exists_of_isInterval {is : List Char} {seconds : Nat} (h : IsInterval is seconds) :
    ∃ i : IntervalText, i.Proper ∧ i.text = is ∧ i.total = seconds := by
  obtain ⟨hdigits, hunit⟩ := h
  refine ⟨⟨_, _, _⟩, ⟨⟨_, hdigits⟩, hunit⟩, rfl, ?_⟩
  rw [IntervalText.total, hdigits.value]

/-- An interval is read up to its unit. -/
lemma readInterval?_eq_some_iff {cs rest : List Char} {i : IntervalText} :
    readInterval? cs = some (i, rest) ↔ i.Proper ∧ cs = i.text ++ rest := by
  unfold readInterval?
  constructor
  · intro h
    simp only at h
    split at h
    · next unit rest' hdrop =>
      split at h
      · next seconds hunit =>
        split at h
        · cases h
        · next hcount =>
          cases h
          have hcut := List.takeWhile_append_dropWhile (p := isDigit) (l := cs)
          rw [hdrop] at hcut
          refine ⟨⟨⟨_, ?_, fun c hc => List.mem_takeWhile_imp hc, rfl⟩, unitSeconds?_eq_some_iff.1 hunit⟩, ?_⟩
          · simpa using hcount
          · rw [IntervalText.text, List.append_assoc]
            exact hcut.symm
      · cases h
    · cases h
  · rintro ⟨⟨⟨n, hdigits⟩, hunit⟩, rfl⟩
    have hstop : ∀ c ∈ (i.unit :: rest).head?, isDigit c = false := by
      intro c hc
      cases hc
      exact hunit.not_isDigit
    have hcount : i.count.isEmpty = false := List.isEmpty_eq_false_iff.2 hdigits.nonempty
    rw [IntervalText.text, List.append_assoc, List.singleton_append, takeWhile_run_append hdigits.digits hstop,
      dropWhile_run_append hdigits.digits hstop]
    simp [unitSeconds?_eq_some_iff.2 hunit, hcount]

end TimeScheme

end BuildVersion
