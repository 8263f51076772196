import BuildVersion.Calendar.CommitDate
import BuildVersion.Proofs.Calendar.LocalTime
import BuildVersion.Proofs.Text.Pieces
import BuildVersion.Proofs.TimeScheme.Grammar

/-!
# Well-formed dates of commits

A well-formed date has all digits of its year, month, day, hour, minute and second and of its offset, with nothing
added between them. Main statement: it is read exactly if calendars and clocks know it, and as the time that local
clocks show so (`CommitDate.ofCommitDate?_eq_some_iff`).
-/

namespace BuildVersion.Calendar

open Text
open TimeScheme (Digits)

/-- The numbers that a well-formed date is made of. Offsets to the west are negative. -/
structure CommitDate where
  year : Nat
  month : Nat
  day : Nat
  hour : Nat
  minute : Nat
  second : Nat
  isWest : Bool
  offsetHour : Nat
  offsetMinute : Nat

/-- A number with all of so many digits. -/
structure IsField (width : Nat) (cs : List Char) (n : Nat) : Prop where
  digits : Digits cs n
  length : cs.length = width

namespace CommitDate

/-- How the numbers of a date are written. -/
inductive Spells (d : CommitDate) : List Char → Prop where
  | mk {year month day hour minute second offsetHour offsetMinute : List Char} :
    IsField 4 year d.year →
    IsField 2 month d.month →
    IsField 2 day d.day →
    IsField 2 hour d.hour →
    IsField 2 minute d.minute →
    IsField 2 second d.second →
    IsField 2 offsetHour d.offsetHour →
    IsField 2 offsetMinute d.offsetMinute →
    Spells d (year ++ '-' :: (month ++ '-' :: (day ++ ' ' :: (hour ++ ':' :: (minute ++ ':' :: (second ++
      ' ' :: ((if d.isWest then '-' else '+') :: (offsetHour ++ offsetMinute))))))))

/-- Calendars and clocks know a date. Leap seconds are second 60. -/
structure Valid (d : CommitDate) : Prop where
  date : Date.Valid ⟨d.year, d.month, d.day⟩
  hour : d.hour < 24
  minute : d.minute < 60
  second : d.second ≤ 60
  offsetHour : d.offsetHour < 24
  offsetMinute : d.offsetMinute < 60

/-- What local clocks show. -/
def civil (d : CommitDate) : Civil :=
  if d.second = 60 then
    { date := ⟨d.year, d.month, d.day⟩, hour := d.hour, minute := d.minute, second := 59, nanos := nanosPerSecond }
  else { date := ⟨d.year, d.month, d.day⟩, hour := d.hour, minute := d.minute, second := d.second }

/-- The seconds by which local clocks are ahead of UTC. -/
def offset (d : CommitDate) : Int :=
  if d.isWest then -(d.offsetHour * 3600 + d.offsetMinute * 60 : Nat)
  else (d.offsetHour * 3600 + d.offsetMinute * 60 : Nat)

/-- A time that is known by such a date. -/
structure Names (d : CommitDate) (t : Timestamp) : Prop where
  valid : d.Valid
  civil_eq : t.civil = d.civil
  offset_eq : t.offset = d.offset

end CommitDate

variable {width n : Nat} {cs : List Char} {c : Civil} {offset : Int} {t : Timestamp} {d : CommitDate}

/-! ### Readers of fields -/

namespace IsField

lemma lt (h : IsField width cs n) : n < 10 ^ width := by
  rw [← h.length]
  exact natural?_lt (TimeScheme.natural?_eq_some_iff_digits.2 h.digits)

/-- A field opens with a digit. -/
lemma exists_cons (h : IsField width cs n) : ∃ c ds, cs = c :: ds ∧ isDigit c = true := by
  obtain ⟨c, ds, rfl⟩ := List.exists_cons_of_ne_nil h.digits.nonempty
  exact ⟨c, ds, rfl, h.digits.digits c List.mem_cons_self⟩

lemma dropWhile_append {p : Char → Bool} (h : IsField width cs n) (hp : ∀ c, isDigit c = true → p c = false)
    (rest : List Char) : (cs ++ rest).dropWhile p = cs ++ rest := by
  obtain ⟨c, ds, rfl, hc⟩ := h.exists_cons
  rw [List.cons_append, List.dropWhile_cons_of_neg (by rw [hp c hc]; exact Bool.false_ne_true)]

lemma readDigits_append (h : IsField width cs n) (rest : List Char) :
    readDigits width (cs ++ rest) = some (n, rest) := by
  have hread : natural? cs = some n := TimeScheme.natural?_eq_some_iff_digits.2 h.digits
  rw [readDigits, ← h.length, List.take_left, if_pos rfl, hread, List.drop_left]
  rfl

lemma readNumber_append (h : IsField width cs n) (rest : List Char) :
    readNumber width (cs ++ rest) = some (n, rest) := by
  have hread : natural? cs = some n := TimeScheme.natural?_eq_some_iff_digits.2 h.digits
  have hall : cs.takeWhile isDigit = cs := List.takeWhile_eq_self_iff.2 h.digits.digits
  rw [readNumber, h.dropWhile_append fun c => not_isBlank_of_isDigit, ← h.length, List.take_left, hall, hread]
  simp

lemma readYear_append (h : IsField 4 cs n) (rest : List Char) : readYear (cs ++ rest) = some ((n : Int), rest) := by
  have hread := h.readNumber_append rest
  rw [readYear, h.dropWhile_append fun c => not_isBlank_of_isDigit]
  obtain ⟨c, ds, rfl, hc⟩ := h.exists_cons
  rw [List.cons_append] at hread ⊢
  split
  · next heq => cases heq; cases hc
  · next heq => cases heq; cases hc
  · rw [hread]
    rfl

end IsField

lemma readNumber_blank_cons (width : Nat) (cs : List Char) : readNumber width (' ' :: cs) = readNumber width cs := rfl

lemma readMark_cons (mark : Char) (cs : List Char) : readMark mark (mark :: cs) = some cs := by
  rw [readMark, if_pos rfl]

/-- An offset is read with its sign, and hours and minutes that follow each other. -/
lemma readPlainOffset_eq {hour minute : List Char} {isWest : Bool} {m : Nat} (hhour : IsField 2 hour n)
    (hminute : IsField 2 minute m) :
    readPlainOffset (' ' :: ((if isWest then '-' else '+') :: (hour ++ minute))) =
      (offsetSeconds? isWest n m).map (·, []) := by
  have hsign : readSign ((if isWest then '-' else '+') :: (hour ++ minute)) = some (isWest, hour ++ minute) := by
    cases isWest <;> rfl
  have hblank : (' ' :: ((if isWest then '-' else '+') :: (hour ++ minute))).dropWhile isBlank =
      (if isWest then '-' else '+') :: (hour ++ minute) := by
    cases isWest <;> rfl
  have hcolon : ∀ c, isDigit c = true → (decide (c = ':') || isBlank c) = false := by
    intro c hc
    rw [Bool.or_eq_false_iff, decide_eq_false_iff_not]
    refine ⟨?_, not_isBlank_of_isDigit hc⟩
    rintro rfl
    cases hc
  have hrest := hminute.dropWhile_append hcolon []
  have hread := hminute.readDigits_append []
  rw [List.append_nil] at hrest hread
  rw [readPlainOffset, hblank, hsign]
  simp only [Option.bind_eq_bind, Option.bind_some, hhour.readDigits_append, hrest, hread]
  cases offsetSeconds? isWest n m <;> rfl

/-! ### Times -/

/-- Times in years of four digits are far from the ends of the range. -/
lemma inRange_of_year {i : Instant} (hc : c.Valid) (hyear : 0 ≤ c.date.year ∧ c.date.year < 10000)
    (hi : i.seconds ≤ c.toSeconds + 86400 ∧ c.toSeconds ≤ i.seconds + 86400) : i.InRange := by
  have hbounds := Zone.yearOf_toSeconds hc
  have hlower := daysBeforeYear_mono hyear.1
  have hupper := daysBeforeYear_mono (show c.date.year + 1 ≤ 10000 by omega)
  have hfirst : (Instant.ofDate ⟨-262143, 1, 1⟩).seconds = -8334601228800 := by decide
  have hlast : (Instant.ofDate ⟨262143, 1, 1⟩).seconds = 8210266876800 := by decide
  have hzero : daysBeforeYear 0 = 0 := by decide
  have hend : daysBeforeYear 10000 = 3652425 := by decide
  rw [Instant.InRange, hfirst, hlast]
  simp only [Zone.yearStart, epochDay] at hbounds
  omega

namespace CommitDate

lemma valid_civil_iff :
    d.civil.Valid ↔ Date.Valid ⟨d.year, d.month, d.day⟩ ∧ d.hour < 24 ∧ d.minute < 60 ∧ d.second ≤ 60 := by
  rw [civil]
  split
  · next hleap =>
    rw [hleap]
    simp [Civil.Valid]
  · next hsecond =>
    have hle : d.second < 60 ↔ d.second ≤ 60 := by omega
    rw [← hle]
    rfl

/-- A date on a valid clock names the time at which clocks with its offset show it. -/
lemma names_iff (hoffset : d.offsetHour < 24 ∧ d.offsetMinute < 60) :
    d.Names t ↔ d.civil.Valid ∧ t = ⟨Instant.ofCivil d.civil d.offset, d.offset⟩ := by
  constructor
  · intro h
    refine ⟨valid_civil_iff.2 ⟨h.valid.date, h.valid.hour, h.valid.minute, h.valid.second⟩, ?_⟩
    obtain ⟨instant, offset⟩ := t
    have hcivil : instant.civil offset = d.civil := h.civil_eq
    have hoffset : offset = d.offset := h.offset_eq
    rw [← hcivil, ← hoffset, Instant.ofCivil_civil]
  · rintro ⟨hvalid, rfl⟩
    obtain ⟨hdate, hhour, hminute, hsecond⟩ := valid_civil_iff.1 hvalid
    exact ⟨⟨hdate, hhour, hminute, hsecond, hoffset.1, hoffset.2⟩, Instant.civil_ofCivil hvalid _, rfl⟩

lemma ofCivil?_eq_some_iff (hyear : d.year < 10000) (hoffset : d.offsetHour < 24 ∧ d.offsetMinute < 60) :
    Timestamp.ofCivil? { date := ⟨d.year, d.month, d.day⟩, hour := d.hour, minute := d.minute, second := d.second }
        d.offset = some t ↔ d.Names t := by
  have hread : Timestamp.ofCivil?
      { date := ⟨d.year, d.month, d.day⟩, hour := d.hour, minute := d.minute, second := d.second } d.offset =
      if d.civil.Valid ∧ (Instant.ofCivil d.civil d.offset).InRange ∧ (Instant.ofCivil d.civil).InRange then
        some ⟨Instant.ofCivil d.civil d.offset, d.offset⟩ else none := by
    rw [Timestamp.ofCivil?, civil, Nat.zero_add]
  have hdate : d.civil.date = ⟨d.year, d.month, d.day⟩ := by
    rw [civil]
    split <;> rfl
  have hfour : 0 ≤ d.civil.date.year ∧ d.civil.date.year < 10000 := by
    rw [hdate]
    exact ⟨Int.natCast_nonneg _, Int.ofNat_lt.2 hyear⟩
  have hbounds : -86400 ≤ d.offset ∧ d.offset ≤ 86400 := by
    rw [offset]
    split <;> omega
  rw [hread, names_iff hoffset, Option.ite_none_right_eq_some, Option.some.injEq]
  constructor
  · rintro ⟨⟨hvalid, _⟩, rfl⟩
    exact ⟨hvalid, rfl⟩
  · rintro ⟨hvalid, rfl⟩
    refine ⟨⟨hvalid, ?_, ?_⟩, rfl⟩
    · apply inRange_of_year hvalid hfour
      simp only [Instant.ofCivil]
      omega
    · apply inRange_of_year hvalid hfour
      simp only [Instant.ofCivil]
      omega

lemma offsetSeconds?_eq_some_iff :
    offsetSeconds? d.isWest d.offsetHour d.offsetMinute = some offset ↔
      (d.offsetHour < 24 ∧ d.offsetMinute < 60) ∧ offset = d.offset := by
  simp only [offsetSeconds?, Option.ite_none_right_eq_some, Option.some.injEq, CommitDate.offset]
  constructor
  · rintro ⟨hlt, rfl⟩
    exact ⟨by omega, rfl⟩
  · rintro ⟨hlt, rfl⟩
    exact ⟨by omega, rfl⟩

/-- The readers take a well-formed date apart into its numbers. -/
lemma Spells.ofCommitDate?_eq (h : d.Spells cs) :
    Timestamp.ofCommitDate? (String.ofList cs) =
      (offsetSeconds? d.isWest d.offsetHour d.offsetMinute).bind (Timestamp.ofCivil?
        { date := ⟨d.year, d.month, d.day⟩, hour := d.hour, minute := d.minute, second := d.second }) := by
  obtain ⟨hyear, hmonth, hday, hhour, hminute, hsecond, hoffsetHour, hoffsetMinute⟩ := h
  simp only [Timestamp.ofCommitDate?, String.toList_ofList, Option.bind_eq_bind, hyear.readYear_append,
    Option.bind_some, readMark_cons, hmonth.readNumber_append, hday.readNumber_append, readNumber_blank_cons,
    hhour.readNumber_append, hminute.readNumber_append, hsecond.readNumber_append,
    readPlainOffset_eq hoffsetHour hoffsetMinute, Option.bind_map]
  rfl

/-- A well-formed date is read exactly if calendars and clocks know it, as the time that they show so. -/
theorem ofCommitDate?_eq_some_iff (h : d.Spells cs) :
    Timestamp.ofCommitDate? (String.ofList cs) = some t ↔ d.Names t := by
  have hyear : d.year < 10000 := by
    cases h with
    | mk hyear => exact hyear.lt
  rw [h.ofCommitDate?_eq, Option.bind_eq_some_iff]
  constructor
  · rintro ⟨offset, hoffset, ht⟩
    obtain ⟨hlt, rfl⟩ := offsetSeconds?_eq_some_iff.1 hoffset
    exact (ofCivil?_eq_some_iff hyear hlt).1 ht
  · intro ht
    have hlt := And.intro ht.valid.offsetHour ht.valid.offsetMinute
    exact ⟨d.offset, offsetSeconds?_eq_some_iff.2 ⟨hlt, rfl⟩, (ofCivil?_eq_some_iff hyear hlt).2 ht⟩

end CommitDate

end BuildVersion.Calendar
