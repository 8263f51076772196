import BuildVersion.Proofs.Numeral
import BuildVersion.Proofs.Text.Pieces
import BuildVersion.TimeScheme.Decoding

/-!
# Counted times

What the schemes that count from a base date write after so many seconds, and which texts they read back
as how many seconds. The bounds that a reader checks are stated as bounds on numbers, apart from how the
numbers are written.
-/

namespace BuildVersion

open Text Calendar

namespace TimeScheme

/-! ### Counting seconds -/

lemma nanos_ofDate (d : Date) : (Instant.ofDate d).nanos = 0 := rfl

/-- The seconds since the start of a day are cut towards zero, and so up before it. -/
lemma secondsSince_ofDate {t : Timestamp} {start : Date} (hleap : ¬ t.instant.isLeapSecond) :
    t.instant.secondsSince (Instant.ofDate start) =
      if t.instant.seconds < (Instant.ofDate start).seconds ∧ 0 < t.instant.nanos then
        t.instant.seconds - (Instant.ofDate start).seconds + 1
      else t.instant.seconds - (Instant.ofDate start).seconds := by
  have hnanos : t.instant.nanos < 1000000000 := Nat.lt_of_not_le hleap
  simp only [Instant.secondsSince, Instant.totalNanos, nanosPerSecond, nanos_ofDate]
  rcases Int.lt_or_le t.instant.seconds (Instant.ofDate start).seconds with hbefore | hafter
  · have hback : t.instant.seconds * (1000000000 : Nat) + t.instant.nanos -
        ((Instant.ofDate start).seconds * (1000000000 : Nat) + (0 : Nat)) =
          -(((Instant.ofDate start).seconds - t.instant.seconds) * 1000000000 - t.instant.nanos) := by
      omega
    rw [hback, Int.neg_tdiv, Int.tdiv_eq_ediv_of_nonneg (by omega)]
    split <;> omega
  · rw [Int.tdiv_eq_ediv_of_nonneg (by omega)]
    split <;> omega

lemma secondsSince_eq_ok_iff {t : Timestamp} {start : Date} {n : Nat} :
    secondsSince t start = .ok n ↔ t.instant.secondsSince (Instant.ofDate start) = n := by
  unfold secondsSince
  simp only
  split
  · next hneg =>
    constructor
    · intro h
      cases h
    · intro h
      omega
  · next hneg =>
    rw [Except.ok.injEq]
    omega

lemma secondsSince_eq_error_iff {t : Timestamp} {start : Date} {e : Error} :
    secondsSince t start = .error e ↔
      t.instant.secondsSince (Instant.ofDate start) < 0 ∧ e = .beforeBase t start := by
  unfold secondsSince
  simp only
  split
  · next hneg => rw [Except.error.injEq, and_iff_right hneg, eq_comm]
  · next hneg =>
    constructor
    · intro h
      cases h
    · rintro ⟨h, _⟩
      exact absurd h hneg

/-- From the start of a day on, whole seconds are counted, and what is left of the last one is not. -/
lemma secondsSince_eq_ok {t : Timestamp} {d : Date} {n : Nat} (hleap : ¬ t.instant.isLeapSecond)
    (h : t.instant.seconds = (Instant.ofDate d).seconds + n) : secondsSince t d = .ok n := by
  rw [secondsSince_eq_ok_iff, secondsSince_ofDate hleap]
  split <;> omega

/-- Base dates lie after the start of all times. -/
lemma seconds_base_ge (year month : Nat) :
    (Instant.ofDate ⟨-262143, 1, 1⟩).seconds ≤ (Instant.ofDate (base year month)).seconds := by
  -- No month begins before its year, and no year of a base date before year 0.
  have hfirst : (Instant.ofDate ⟨-262143, 1, 1⟩).seconds = -8334601228800 := by decide
  have hyear : daysBeforeYear 0 ≤ daysBeforeYear year := daysBeforeYear_mono (by omega)
  have hzero : daysBeforeYear 0 = 0 := by decide
  rw [hfirst]
  simp only [Instant.ofDate, Instant.ofCivil, Civil.toSeconds, base, Date.dayNumber, secondsPerDay,
    epochDay]
  omega

/-- A time between a base date and another time is a time. -/
lemma timeAfter_eq_ok {year month seconds : Nat} {t : Instant} (ht : t.InRange)
    (h : (Instant.ofDate (base year month)).seconds + seconds ≤ t.seconds) :
    timeAfter (base year month) seconds =
      .ok ((Instant.ofDate (base year month)).addSeconds seconds) := by
  have hstart := seconds_base_ge year month
  have hseconds : ((Instant.ofDate (base year month)).addSeconds seconds).seconds =
      (Instant.ofDate (base year month)).seconds + seconds := rfl
  obtain ⟨_, hend⟩ := ht
  rw [timeAfter]
  exact if_pos ⟨by omega, by omega⟩

/-- Base dates have four digits, and so the times of a thousand years after them are times. -/
lemma timeAfter_eq_ok_of_lt {year seconds : Nat} (hyear : year ≤ 9999) (h : seconds < 31556952000) :
    timeAfter (base year 1) seconds = .ok ((Instant.ofDate (base year 1)).addSeconds seconds) := by
  have hmono : daysBeforeYear year ≤ daysBeforeYear 9999 := daysBeforeYear_mono (by omega)
  have hlast : daysBeforeYear 9999 = 3652060 := by decide
  have hbase : (Instant.ofDate (base year 1)).seconds ≤ 253370764800 := by
    simp only [Instant.ofDate, Instant.ofCivil, Civil.toSeconds, base, Date.dayNumber, secondsPerDay,
      epochDay, daysBeforeMonth]
    omega
  have hrange : Instant.InRange ⟨8210266876799, 0⟩ := by decide
  exact timeAfter_eq_ok hrange (by simp only; omega)

lemma timeAfter_eq_ok_imp {d : Date} {seconds : Nat} {t : Instant} (h : timeAfter d seconds = .ok t) :
    t = (Instant.ofDate d).addSeconds seconds := by
  unfold timeAfter at h
  simp only at h
  split at h
  · cases h
    rfl
  · cases h

/-- A time is as many seconds after a base date as were added. -/
lemma secondsSince_addSeconds (d : Date) (seconds : Nat) (offset : Int) :
    secondsSince ⟨(Instant.ofDate d).addSeconds seconds, offset⟩ d = .ok seconds := by
  apply secondsSince_eq_ok _ rfl
  rw [Instant.isLeapSecond]
  exact Nat.not_succ_le_zero _

/-! ### Writing counts -/

variable {zone : Zone} {t : Timestamp} {n : Nat}

/-- So many intervals of some seconds are a word if the seconds are a signed one. -/
lemma div_lt_wordLimit {interval : Nat} (h : n < signedLimit) : n / interval < wordLimit :=
  Nat.lt_of_le_of_lt (Nat.div_le_self _ _) (Nat.lt_trans h (by decide))

lemma encode_dotted {interval baseYear : Nat} (h : secondsSince t (base baseYear 1) = .ok n) :
    encode (dotted interval baseYear) zone t =
      if n / daySeconds < BuildVersion.dayLimit then
        .ok (toString (n / daySeconds) ++ "." ++ toString (n % daySeconds / interval))
      else .error (.dayLimit t (n / daySeconds : Nat) baseYear) := by
  rw [encode, h]
  rfl

lemma encode_numeral {radix interval baseYear minLength : Nat} {upper : Bool} {ds : List Char}
    (h : secondsSince t (base baseYear 1) = .ok n) (hds : Numeral.alphabet radix = .ok ds) :
    encode (numeral radix interval baseYear minLength upper) zone t =
      .ok (String.ofList (Numeral.cased upper (Numeral.encode ds (n / interval) minLength))) := by
  rw [encode, h, hds]
  rfl

lemma encode_hours {baseYear baseMonth : Nat} (h : secondsSince t (base baseYear baseMonth) = .ok n) :
    encode (hours baseYear baseMonth) zone t = .ok (toString (n / 3600)) := by
  rw [encode, h]
  rfl

/-! ### Reading counts -/

/-- The intervals of a day are those that begin before the day ends. -/
lemma lt_intervalsPerDay_iff {interval index : Nat} (h : 1 ≤ interval) :
    index < intervalsPerDay interval ↔ index * interval < daySeconds := by
  rw [intervalsPerDay, Nat.lt_iff_add_one_le, Nat.le_div_iff_mul_le (by omega), Nat.add_mul]
  omega

lemma trim_digits (m : Nat) : trim (toString m).toList = Nat.toDigits 10 m := by
  rw [toList_toString]
  exact trim_eq_self fun c hc => not_isBlank_of_isDigit (isDigit_of_mem_toDigits hc)

lemma toList_dotted (days index : Nat) :
    (toString days ++ "." ++ toString index).toList = Nat.toDigits 10 days ++ '.' :: Nat.toDigits 10 index := by
  rw [String.toList_append, String.toList_append, toList_toString, toList_toString]
  simp

/-- The dot of a dotted text is the first one. -/
lemma cut?_dotted (days index : Nat) :
    cut? '.' (toString days ++ "." ++ toString index).toList =
      some (Nat.toDigits 10 days, Nat.toDigits 10 index) := by
  rw [toList_dotted, cut?_eq_some_iff]
  refine ⟨rfl, fun hdot => ?_⟩
  have hdigit := isDigit_of_mem_toDigits hdot
  exact absurd hdigit (by decide)

lemma cut?_trim_dotted (days index : Nat) :
    cut? '.' (trim (toString days ++ "." ++ toString index).toList) =
      some (Nat.toDigits 10 days, Nat.toDigits 10 index) := by
  have hblank : ∀ c ∈ (toString days ++ "." ++ toString index).toList, isBlank c = false := by
    intro c hc
    rw [toList_dotted] at hc
    rcases List.mem_append.1 hc with hc | hc
    · exact not_isBlank_of_isDigit (isDigit_of_mem_toDigits hc)
    · rcases List.mem_cons.1 hc with rfl | hc
      · decide
      · exact not_isBlank_of_isDigit (isDigit_of_mem_toDigits hc)
  rw [trim_eq_self hblank, cut?_dotted]

section Reading

variable {value : String} {read : Instant}

/-- A dotted text is read if its numbers are a day and an interval of it. -/
lemma decode_dotted_eq_ok_iff {interval baseYear : Nat} (hinterval : 1 ≤ interval) :
    decode (dotted interval baseYear) zone value = .ok read ↔
      ∃ daysText indexText, cut? '.' (trim value.toList) = some (daysText, indexText) ∧
        ∃ days index : Nat, integer? daysText = some (days : Int) ∧
          integer? indexText = some (index : Int) ∧ days < BuildVersion.dayLimit ∧
          index * interval < daySeconds ∧
          timeAfter (base baseYear 1) (days * daySeconds + index * interval) = .ok read := by
  simp only [← lt_intervalsPerDay_iff hinterval]
  simp only [decode]
  constructor
  · intro h
    split at h
    · cases h
    · next daysText indexText hcut =>
      split at h
      · next days index hdays hindex =>
        split at h
        · next hbounds =>
          obtain ⟨hd₀, hd, hi₀, hi⟩ := hbounds
          exact ⟨daysText, indexText, hcut, days.toNat, index.toNat,
            integer?_of_signedWord? hdays hd₀, integer?_of_signedWord? hindex hi₀, by omega, by omega, h⟩
        · cases h
      · cases h
  · rintro ⟨daysText, indexText, hcut, days, index, hdays, hindex, hd, hi, h⟩
    -- Numbers within the bounds are words, so that the limit of words is never met first.
    have hindexSeconds : index * interval < 86400 := (lt_intervalsPerDay_iff hinterval).1 hi
    have hindexLimit : index < 86400 :=
      Nat.lt_of_le_of_lt (Nat.le_mul_of_pos_right index hinterval) hindexSeconds
    have hdaysLimit : days < 65535 := hd
    have hdays' := signedWord?_of_integer? hdays (Nat.lt_trans hdaysLimit (by decide))
    have hindex' := signedWord?_of_integer? hindex (Nat.lt_trans hindexLimit (by decide))
    simp only [hcut, hdays', hindex']
    rw [if_pos ⟨by omega, by omega, by omega, by omega⟩]
    exact h

/-- A numeral is read if its seconds are a signed word. -/
lemma decode_numeral_eq_ok_iff {radix interval baseYear minLength : Nat} {upper : Bool}
    {ds : List Char} (hds : Numeral.alphabet radix = .ok ds) :
    decode (numeral radix interval baseYear minLength upper) zone value = .ok read ↔
      ∃ count, Numeral.decode ds (trim value.toList) = .ok count ∧ count * interval < signedLimit ∧
        timeAfter (base baseYear 1) (count * interval) = .ok read := by
  simp only [decode]
  rw [hds, Fallible.bind_eq_ok_iff]
  simp only [Except.ok.injEq, exists_eq_left', Fallible.bind_eq_ok_iff]
  constructor
  · rintro ⟨count, hcount, h⟩
    split at h
    · next hlimit => exact ⟨count, hcount, hlimit, h⟩
    · cases h
  · rintro ⟨count, hcount, hlimit, h⟩
    exact ⟨count, hcount, by rw [if_pos hlimit, h]⟩

/-- A number of hours is read if its seconds are a signed word. -/
lemma decode_hours_eq_ok_iff {baseYear baseMonth : Nat} :
    decode (hours baseYear baseMonth) zone value = .ok read ↔
      ∃ count : Nat, integer? (trim value.toList) = some (count : Int) ∧ count * 3600 < signedLimit ∧
        timeAfter (base baseYear baseMonth) (count * 3600) = .ok read := by
  simp only [decode]
  constructor
  · intro h
    split at h
    · cases h
    · next count hcount =>
      split at h
      · cases h
      · next hcount₀ =>
        split at h
        · next hlimit =>
          exact ⟨count.toNat, integer?_of_signedWord? hcount (Int.not_lt.1 hcount₀), by omega, h⟩
        · cases h
  · rintro ⟨count, hcount, hlimit, h⟩
    have hle : count ≤ count * 3600 := Nat.le_mul_of_pos_right count (by decide)
    have hcount' := signedWord?_of_integer? hcount (Nat.lt_of_le_of_lt hle hlimit)
    simp only [hcount']
    rw [if_neg (by omega), if_pos (by omega)]
    exact h

end Reading

end TimeScheme

end BuildVersion
