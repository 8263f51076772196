import BuildVersion.Proofs.TimeScheme.Elapsed
import BuildVersion.Proofs.TimeScheme.ReadingBack
import BuildVersion.Proofs.Word.Numeral
import BuildVersion.Word.TimeScheme

/-!
# Nothing stops a time scheme

Writing and reading times on words answers what it does on numbers: within the limits of schemes no operation is
without an answer. Main statements: `wordEncode_eq`, `wordDecode_eq`, and what errors there are
(`TimeSpec.words_suffice`).
-/

namespace BuildVersion

open Text Calendar

namespace TimeScheme

/-- A time that clocks cover in UTC, where it was seen and in a zone, at most one leap second behind its second. -/
structure Covered (zone : Zone) (t : Timestamp) : Prop where
  utc : t.instant.InRange
  own : (t.instant.addSeconds t.offset).InRange
  here : (t.instant.addSeconds (zone.offsetAt t.instant)).InRange
  nanos : t.instant.nanos < 2 * nanosPerSecond

variable {zone : Zone} {t : Timestamp} {start : Date} {n : Nat}

/-! ### Clocks -/

lemma clockAt_eq {t : Instant} {offset : Int} (h : (t.addSeconds offset).InRange) :
    clockAt t offset = .ok (t.civil offset) := if_pos h

/-- Every month begins. -/
lemma valid_base {year month : Nat} (hfirst : 1 ≤ month) (hlast : month ≤ 12) : (base year month).Valid := by
  have hdays : ∀ (leap : Bool) (month : Nat), month < 13 → 1 ≤ month → 1 ≤ daysInMonth leap month := by decide
  exact ⟨hfirst, hlast, Nat.le_refl 1, hdays _ _ (Nat.lt_succ_of_le hlast) hfirst⟩

lemma baseOf_eq {year month : Nat} (hfirst : 1 ≤ month) (hlast : month ≤ 12) :
    baseOf year month = .ok (base year month) := if_pos (valid_base hfirst hlast)

/-- A base date of a year with four digits. -/
structure IsBase (start : Date) : Prop where
  exists_base : ∃ year month, start = base year month
  valid : start.Valid
  year_le : start.year ≤ 9999

lemma isBase {year month : Nat} (hyear : year ≤ 9999) (hfirst : 1 ≤ month) (hlast : month ≤ 12) :
    IsBase (base year month) :=
  ⟨⟨year, month, rfl⟩, valid_base hfirst hlast, Int.ofNat_le.2 hyear⟩

lemma IsBase.seconds_bounds (h : IsBase start) :
    -8334601228800 ≤ (Instant.ofDate start).seconds ∧ (Instant.ofDate start).seconds < 253402300800 := by
  obtain ⟨⟨year, month, rfl⟩, hvalid, hyear⟩ := h
  have hfirst : (Instant.ofDate ⟨-262143, 1, 1⟩).seconds = -8334601228800 := by decide
  have hlast : daysBeforeYear 10000 = 3652425 := by decide
  have hmono : daysBeforeYear ((base year month).year + 1) ≤ daysBeforeYear 10000 :=
    daysBeforeYear_mono (by omega)
  have hday := (Date.dayNumber_bounds hvalid).2
  have hstart := seconds_base_ge year month
  refine ⟨by omega, ?_⟩
  simp only [Instant.ofDate, Instant.ofCivil, Civil.toSeconds, secondsPerDay, epochDay] at hday ⊢
  omega

/-- The seconds between a time and a base date are those of a duration. -/
lemma natAbs_secondsSince_lt (hstart : IsBase start) (ht : Covered zone t) :
    (t.instant.secondsSince (Instant.ofDate start)).natAbs < 20000000000000 := by
  have hfirst : (Instant.ofDate ⟨-262143, 1, 1⟩).seconds = -8334601228800 := by decide
  have hlast : (Instant.ofDate ⟨262143, 1, 1⟩).seconds = 8210266876800 := by decide
  obtain ⟨hbefore, hafter⟩ := ht.utc
  have hnanos := ht.nanos
  have hbase := hstart.seconds_bounds
  rw [Instant.secondsSince, Int.natAbs_tdiv]
  apply Nat.div_lt_of_lt_mul
  simp only [Instant.totalNanos, nanosPerSecond, nanos_ofDate] at hnanos ⊢
  omega

lemma durationSince_eq (hstart : IsBase start) (ht : Covered zone t) :
    durationSince t.instant (Instant.ofDate start) = .ok (t.instant.secondsSince (Instant.ofDate start)) := by
  have hbound := natAbs_secondsSince_lt hstart ht
  exact if_pos (by rw [durationLimit]; omega)

lemma wordSecondsSince_of_error (hstart : IsBase start) (ht : Covered zone t) {e : Error}
    (h : secondsSince t start = .error e) : wordSecondsSince t start = .of (.error e) := by
  obtain ⟨hneg, rfl⟩ := secondsSince_eq_error_iff.1 h
  rw [wordSecondsSince, durationSince_eq hstart ht, Attempt.lift_ok_bind, if_pos hneg, clockAt_eq ht.own]
  rfl

lemma wordSecondsSince_of_ok (hstart : IsBase start) (ht : Covered zone t) (h : secondsSince t start = .ok n) :
    wordSecondsSince t start = .of (.ok (n : Int)) := by
  rw [secondsSince_eq_ok_iff] at h
  rw [wordSecondsSince, durationSince_eq hstart ht, Attempt.lift_ok_bind, h, if_neg (by omega)]
  rfl

lemma lt_signedLimit (hstart : IsBase start) (ht : Covered zone t) (h : secondsSince t start = .ok n) :
    n < signedLimit := by
  have hbound := natAbs_secondsSince_lt hstart ht
  rw [secondsSince_eq_ok_iff] at h
  rw [h] at hbound
  rw [signedLimit]
  omega

/-- A time that clocks cover is reached by a duration. -/
lemma wordTimeAfter_eq (hstart : IsBase start) (seconds : Nat) :
    wordTimeAfter start seconds = .of (timeAfter start seconds) := by
  have hlast : (Instant.ofDate ⟨262143, 1, 1⟩).seconds = 8210266876800 := by decide
  have hbase := hstart.seconds_bounds
  rw [wordTimeAfter, timeAfter]
  by_cases hrange : ((Instant.ofDate start).addSeconds seconds).InRange
  · have hend := hrange.2
    rw [Instant.seconds_addSeconds] at hend
    rw [if_pos hrange, if_pos ⟨by omega, by rw [durationLimit]; omega, hrange⟩]
    rfl
  · rw [if_neg hrange, if_neg fun h => hrange h.2.2]
    rfl

/-! ### Writing -/

lemma wordEncode_readable {date : Bool} {clock : ClockFields} {separator : Option Char} {utc : Bool}
    (ht : Covered zone t) :
    wordEncode (readable date clock separator utc) zone t =
      .of (encode (readable date clock separator utc) zone t) := by
  cases utc with
  | true =>
    rw [wordEncode, encode_readable (.inl rfl)]
    have hutc : (t.instant.addSeconds 0).InRange := by
      rw [Instant.addSeconds, Int.add_zero]
      exact ht.utc
    rw [if_pos rfl, clockAt_eq hutc]
    rfl
  | false =>
    rw [wordEncode, encode_readable (.inr ht.here), if_neg Bool.false_ne_true, clockAt_eq ht.here]
    rfl

lemma wordEncode_dotted {interval baseYear : Nat} (hscheme : (dotted interval baseYear).WellFormed)
    (ht : Covered zone t) :
    wordEncode (dotted interval baseYear) zone t = .of (encode (dotted interval baseYear) zone t) := by
  obtain ⟨hinterval, _, hyear⟩ := hscheme
  have hstart : IsBase (base baseYear 1) := isBase hyear (by decide) (by decide)
  rw [wordEncode, baseOf_eq (by decide) (by decide), Attempt.lift_ok_bind]
  cases hseconds : secondsSince t (base baseYear 1) with
  | error e =>
    rw [encode_of_error rfl hseconds, wordSecondsSince_of_error hstart ht hseconds]
    rfl
  | ok n =>
    have hlimit := lt_signedLimit hstart ht hseconds
    have hrest : n % daySeconds < signedLimit := Nat.lt_of_le_of_lt (Nat.mod_le _ _) hlimit
    rw [encode_dotted hseconds, wordSecondsSince_of_ok hstart ht hseconds, Attempt.ok_bind,
      SignedWord.div_eq_ok hlimit (by decide), Attempt.lift_ok_bind]
    by_cases hdays : n / daySeconds < BuildVersion.dayLimit
    · rw [if_pos (Int.ofNat_lt.2 hdays), if_pos hdays, SignedWord.mod_eq_ok hlimit (by decide),
        Attempt.lift_ok_bind, SignedWord.div_eq_ok hrest hinterval, Attempt.lift_ok_bind]
      rfl
    · rw [if_neg (mt Int.ofNat_lt.1 hdays), if_neg hdays, clockAt_eq ht.own]
      rfl

lemma wordEncode_numeral {radix interval baseYear minLength : Nat} {upper : Bool}
    (hscheme : (numeral radix interval baseYear minLength upper).WellFormed) (ht : Covered zone t) :
    wordEncode (numeral radix interval baseYear minLength upper) zone t =
      .of (encode (numeral radix interval baseYear minLength upper) zone t) := by
  obtain ⟨hradix, hradix', hinterval, _, hyear, _⟩ := hscheme
  have hstart : IsBase (base baseYear 1) := isBase hyear (by decide) (by decide)
  obtain ⟨ds, hds⟩ := Numeral.exists_alphabet ⟨hradix, hradix'⟩
  have halphabet := (Numeral.isAlphabet_of_alphabet hds).1
  rw [wordEncode, baseOf_eq (by decide) (by decide), Attempt.lift_ok_bind]
  cases hseconds : secondsSince t (base baseYear 1) with
  | error e =>
    rw [encode_of_error rfl hseconds, wordSecondsSince_of_error hstart ht hseconds]
    rfl
  | ok n =>
    have hlimit := lt_signedLimit hstart ht hseconds
    rw [encode_numeral hseconds hds, wordSecondsSince_of_ok hstart ht hseconds, Attempt.ok_bind,
      Numeral.wordAlphabet_eq, hds, Attempt.ok_bind, SignedWord.div_eq_ok hlimit hinterval,
      Attempt.lift_ok_bind, Word.ofInt_eq_ok (div_lt_wordLimit hlimit), Attempt.lift_ok_bind, halphabet.wordEncode_eq,
      Attempt.lift_ok_bind]
    rfl

lemma wordEncode_hours {baseYear baseMonth : Nat} (hscheme : (hours baseYear baseMonth).WellFormed)
    (ht : Covered zone t) :
    wordEncode (hours baseYear baseMonth) zone t = .of (encode (hours baseYear baseMonth) zone t) := by
  obtain ⟨hyear, hfirst, hlast⟩ := hscheme
  have hstart := isBase hyear hfirst hlast
  rw [wordEncode, baseOf_eq hfirst hlast, Attempt.lift_ok_bind]
  cases hseconds : secondsSince t (base baseYear baseMonth) with
  | error e =>
    rw [encode_of_error rfl hseconds, wordSecondsSince_of_error hstart ht hseconds]
    rfl
  | ok n =>
    have hlimit := lt_signedLimit hstart ht hseconds
    have hcount : SignedWord.div n 3600 = .ok (n / 3600 : Nat) := SignedWord.div_eq_ok hlimit (by decide)
    rw [encode_hours hseconds, wordSecondsSince_of_ok hstart ht hseconds, Attempt.ok_bind, hcount]
    rfl

/-- Nothing stops a time that clocks cover from being written. -/
theorem wordEncode_eq {scheme : TimeScheme} (hscheme : scheme.WellFormed) (ht : Covered zone t) :
    scheme.wordEncode zone t = .of (scheme.encode zone t) := by
  cases scheme with
  | readable => exact wordEncode_readable ht
  | dotted => exact wordEncode_dotted hscheme ht
  | numeral => exact wordEncode_numeral hscheme ht
  | hours => exact wordEncode_hours hscheme ht

/-! ### Readable times -/

lemma utf8Size_of_isDigit {c : Char} (h : isDigit c = true) : c.utf8Size = 1 := by
  have hbounds := digit_bounds h
  rw [Char.utf8Size_eq_one_iff, UInt32.le_iff_toNat_le]
  have hc : c.toNat = c.val.toNat := rfl
  have hlast : (127 : UInt32).toNat = 127 := rfl
  omega

lemma isAscii_of_isDigit {cs : List Char} (h : ∀ c ∈ cs, isDigit c = true) : IsAscii cs :=
  fun c hc => utf8Size_of_isDigit (h c hc)

lemma isField_iff {field : List Char} {width : Nat} :
    isField field width = true ↔ field.length = width ∧ ∀ c ∈ field, isDigit c = true := by
  rw [isField, Bool.and_eq_true, decide_eq_true_eq, List.all_eq_true]
  refine and_congr_left fun h => ?_
  rw [byteLength_of_isAscii (isAscii_of_isDigit h)]

lemma all_isField_iff {fields : List (List Char)} {widths : List Nat} :
    (fields.length = widths.length ∧ (List.zipWith isField fields widths).all id = true) ↔
      fields.map List.length = widths ∧ ∀ field ∈ fields, ∀ c ∈ field, isDigit c = true := by
  induction fields generalizing widths with
  | nil => cases widths <;> simp
  | cons field fields ih =>
    cases widths with
    | nil => simp
    | cons width widths =>
      have hrest := @ih widths
      simp only [List.length_cons, Nat.add_right_cancel_iff, List.zipWith_cons_cons, List.all_cons, id_eq,
        Bool.and_eq_true, List.map_cons, List.cons.injEq, List.forall_mem_cons, isField_iff]
      tauto

/-- Short numbers are numbers of 32 bits. -/
lemma halfWord?_eq {field : List Char} (h : field.length ≤ 9) : halfWord? field = natural? field := by
  rw [halfWord?]
  cases hn : natural? field with
  | none => rfl
  | some n =>
    have hlt := natural?_lt hn
    have hpow : 10 ^ field.length ≤ 10 ^ 9 := Nat.pow_le_pow_right (by decide) h
    exact Option.filter_eq_some_iff.2 ⟨rfl, by simp; omega⟩

lemma mapM_natural?_eq {fields : List (List Char)}
    (h : ∀ field ∈ fields, field ≠ [] ∧ field.length ≤ 9 ∧ ∀ c ∈ field, isDigit c = true) :
    fields.mapM natural? = some (fields.filterMap halfWord?) := by
  rw [mapM_eq_some_iff]
  induction fields with
  | nil => exact .nil
  | cons field fields ih =>
    obtain ⟨⟨hne, hlength, hdigits⟩, hrest⟩ := List.forall_mem_cons.1 h
    have hread : natural? field = some (Nat.ofDigitChars 10 field 0) :=
      natural?_eq_some_iff.2 ⟨hne, hdigits, rfl⟩
    rw [List.filterMap_cons_some (by rw [halfWord?_eq hlength, hread])]
    exact .cons hread (ih hrest)

lemma ite_valid_eq_filter (c : Civil) :
    (if c.Valid then some c else none) = (some c).filter fun civil => decide civil.Valid := by
  by_cases h : c.Valid <;> simp [Option.filter, h]

/-- Numbers stand where they are looked for, and no year is too large for a sign. -/
lemma civilAt_eq {clock : ClockFields} {ns : List Nat} (h : List.Forall₂ Fits (fieldWidths clock) ns) :
    civilAt ns = .ok (civilOfNumbers? ns) := by
  have hyear : ∀ {year : Nat}, Fits 4 year → signedHalf year = .ok (year : Int) :=
    fun hfits => if_pos (Nat.lt_trans hfits.2 (by decide))
  cases clock with
  | nothing =>
    match ns, h with
    | [year, month, day], .cons hfits _ =>
      rw [civilAt, item_eq_ok (x := year) rfl, Fallible.ok_bind, hyear hfits]
      exact congrArg Except.ok (ite_valid_eq_filter _)
  | minutes =>
    match ns, h with
    | [year, month, day, hour, minute], .cons hfits _ =>
      rw [civilAt, item_eq_ok (x := year) rfl, Fallible.ok_bind, hyear hfits]
      exact congrArg Except.ok (ite_valid_eq_filter _)
  | seconds =>
    match ns, h with
    | [year, month, day, hour, minute, second], .cons hfits _ =>
      rw [civilAt, item_eq_ok (x := year) rfl, Fallible.ok_bind, hyear hfits]
      exact congrArg Except.ok (ite_valid_eq_filter _)

/-- The widths of fields are short. -/
lemma width_bounds {clock : ClockFields} {width : Nat} (h : width ∈ fieldWidths clock) : 1 ≤ width ∧ width ≤ 9 := by
  revert width
  cases clock <;> simp [fieldWidths]

lemma wordCivil_eq (clock : ClockFields) (fields : List (List Char)) :
    wordCivil (fieldWidths clock) fields =
      .ok (if fields.map List.length = fieldWidths clock then (fields.mapM natural?).bind civilOfNumbers?
        else none) := by
  rw [wordCivil]
  by_cases h : fields.map List.length = fieldWidths clock ∧ ∀ field ∈ fields, ∀ c ∈ field, isDigit c = true
  · have hread : fields.mapM natural? = some (fields.filterMap halfWord?) := by
      apply mapM_natural?_eq
      intro field hfield
      have hmem : field.length ∈ fieldWidths clock := by
        rw [← h.1]
        exact List.mem_map_of_mem hfield
      have hwidth := width_bounds hmem
      exact ⟨List.length_pos_iff.1 hwidth.1, hwidth.2, h.2 field hfield⟩
    have hfit := fits_of_natural? (mapM_eq_some_iff.1 hread)
    rw [h.1] at hfit
    rw [if_pos (all_isField_iff.2 h), if_pos h.1, hread, civilAt_eq hfit]
    rfl
  · rw [if_neg (mt all_isField_iff.1 h)]
    split
    · next hwidths =>
      cases hread : fields.mapM natural? with
      | none => rfl
      | some ns =>
        have hdigits := isDigit_of_natural? (mapM_eq_some_iff.1 hread)
        exact absurd ⟨hwidths, hdigits⟩ h
    · rfl

/-- A text of ASCII is cut into fields that fill it. -/
lemma piecesFrom_eq {cs : List Char} (hascii : IsAscii cs) (hlimit : cs.length < wordLimit) {start : Nat}
    {widths : List Nat} (h : start + widths.sum = cs.length) :
    ∃ pieces, piecesFrom cs start widths = .ok pieces ∧ cutWidths? widths (cs.drop start) = some pieces := by
  induction widths generalizing start with
  | nil =>
    rw [List.sum_nil, Nat.add_zero] at h
    exact ⟨[], rfl, by rw [h, List.drop_length]; rfl⟩
  | cons width widths ih =>
    rw [List.sum_cons] at h
    obtain ⟨pieces, hpieces, hcut⟩ := @ih (start + width) (by omega)
    have hpiece : ((cs.drop start).take width).length = width := by
      rw [List.length_take, List.length_drop]
      omega
    refine ⟨(cs.drop start).take width :: pieces, ?_, ?_⟩
    · rw [piecesFrom, Word.add_eq_ok (by omega), Fallible.ok_bind, slice_of_isAscii hascii (by omega),
        Fallible.ok_bind, hpieces]
      rfl
    · rw [cutWidths?, if_pos hpiece, List.drop_drop, hcut]
      rfl

/-- Nothing stops a text from being read as a readable time. -/
lemma wordReadable_eq (clock : ClockFields) (separator : Option Char) (cs : List Char) :
    wordReadable clock separator cs = .ok (readableCivil? clock separator cs) := by
  rw [wordReadable]
  cases separator with
  | some c =>
    rw [wordFields, readableCivil?, splitFields?]
    simp only [pure_bind, wordCivil_eq]
    split <;> rfl
  | none =>
    rw [wordFields]
    by_cases h : byteLength cs = (fieldWidths clock).foldr (· + ·) 0 ∧ IsAscii cs
    · obtain ⟨hlength, hascii⟩ := h
      rw [byteLength_of_isAscii hascii] at hlength
      have hlimit : cs.length < wordLimit := by
        rw [hlength]
        cases clock <;> decide
      obtain ⟨pieces, hpieces, hcut⟩ := piecesFrom_eq hascii hlimit (Nat.zero_add _ |>.trans hlength.symm)
      rw [List.drop_zero] at hcut
      rw [if_pos ⟨(byteLength_of_isAscii hascii).trans hlength, hascii⟩, hpieces, readableCivil?, splitFields?, hcut]
      change wordCivil (fieldWidths clock) pieces = .ok ((pieces.mapM natural?).bind civilOfNumbers?)
      rw [wordCivil_eq, if_pos (cutWidths?_eq_some_iff.1 hcut).1]
    · rw [if_neg h]
      cases hcivil : readableCivil? clock none cs with
      | none => rfl
      | some c =>
        -- What is read consists of digits, and so it is ASCII and its bytes are those of the fields.
        simp only [readableCivil?, splitFields?, Option.bind_eq_bind, Option.bind_eq_some_iff,
          cutWidths?_eq_some_iff, mapM_eq_some_iff] at hcivil
        obtain ⟨fields, ⟨hwidths, rfl⟩, ns, hns, _⟩ := hcivil
        have hascii : IsAscii fields.flatten := by
          intro c hc
          obtain ⟨field, hfield, hc⟩ := List.mem_flatten.1 hc
          exact utf8Size_of_isDigit (isDigit_of_natural? hns field hfield c hc)
        refine absurd ⟨?_, hascii⟩ h
        rw [byteLength_of_isAscii hascii, List.length_flatten, hwidths]
        rfl

/-! ### Reading -/

/-- A number times a number that is not zero fits a signed word if the product does. -/
lemma ofInt_mul_eq {count interval : Nat} (hinterval : 1 ≤ interval) :
    (do SignedWord.mul (← SignedWord.ofInt count) interval : Except Trap Int) =
      if count * interval < signedLimit then .ok (count * interval : Nat) else .error .overflow := by
  by_cases hproduct : count * interval < signedLimit
  · have hcount : count < signedLimit := Nat.lt_of_le_of_lt (Nat.le_mul_of_pos_right count hinterval) hproduct
    rw [SignedWord.ofInt_eq_ok hcount, Fallible.ok_bind, if_pos hproduct, SignedWord.mul_eq_ok hproduct]
  · rw [if_neg hproduct]
    by_cases hcount : count < signedLimit
    · rw [SignedWord.ofInt_eq_ok hcount, Fallible.ok_bind]
      exact SignedWord.mul_eq_error (Nat.le_of_not_lt hproduct)
    · rw [SignedWord.ofInt_eq_error (Nat.le_of_not_lt hcount)]
      rfl

/-- The intervals of a day are counted, and there is a last one. -/
lemma perDay_eq {interval : Nat} (hinterval : 1 ≤ interval) (hday : interval ≤ daySeconds) :
    SignedWord.add daySeconds interval = .ok (daySeconds + interval : Nat) ∧
      SignedWord.sub (daySeconds + interval : Nat) 1 = .ok (daySeconds + interval - 1 : Nat) ∧
      SignedWord.div (daySeconds + interval - 1 : Nat) interval = .ok (intervalsPerDay interval : Nat) ∧
      SignedWord.sub (intervalsPerDay interval) 1 = .ok (intervalsPerDay interval - 1 : Nat) := by
  have hsize : daySeconds = 86400 := rfl
  have hsum : daySeconds + interval < signedLimit := by
    rw [signedLimit]
    omega
  have hlast : daySeconds + interval - 1 < signedLimit := Nat.lt_of_le_of_lt (Nat.sub_le _ _) hsum
  have hperDay : intervalsPerDay interval < signedLimit := Nat.lt_of_le_of_lt (Nat.div_le_self _ _) hlast
  have hfirst : 0 < intervalsPerDay interval := by
    rw [lt_intervalsPerDay_iff hinterval, Nat.zero_mul]
    decide
  exact ⟨SignedWord.add_eq_ok hsum, SignedWord.sub_eq_ok (b := 1) hsum (by omega), SignedWord.div_eq_ok hlast hinterval,
    SignedWord.sub_eq_ok hperDay hfirst⟩

section Decoding

variable {value : String}

lemma wordDecode_readable {date : Bool} {clock : ClockFields} {separator : Option Char} {utc : Bool} :
    wordDecode (readable date clock separator utc) zone value =
      .of (decode (readable date clock separator utc) zone value) := by
  rw [wordDecode, decode]
  simp only [wordReadable_eq, Attempt.lift_ok_bind]
  cases date with
  | false => rfl
  | true =>
    cases readableCivil? clock separator (trim value.toList) with
    | none => rfl
    | some civil =>
      cases utc with
      | true => rfl
      | false =>
        dsimp only
        cases zone.instant? civil <;> rfl

lemma wordDecode_dotted {interval baseYear : Nat} (hscheme : (dotted interval baseYear).WellFormed) :
    wordDecode (dotted interval baseYear) zone value = .of (decode (dotted interval baseYear) zone value) := by
  obtain ⟨hinterval, hday, hyear⟩ := hscheme
  have hstart : IsBase (base baseYear 1) := isBase hyear (by decide) (by decide)
  obtain ⟨hsum, hlast, hperDay, hpred⟩ := perDay_eq hinterval hday
  rw [wordDecode, decode]
  cases cut? '.' (trim value.toList) with
  | none => rfl
  | some texts =>
    obtain ⟨daysText, indexText⟩ := texts
    dsimp only
    cases signedWord? daysText with
    | none => rfl
    | some days =>
      cases signedWord? indexText with
      | none => rfl
      | some index =>
        dsimp only
        rw [hsum, Attempt.lift_ok_bind, hlast, Attempt.lift_ok_bind, hperDay, Attempt.lift_ok_bind]
        split
        · next hbounds =>
          obtain ⟨hdays, hdaysLimit, hindex, hindexLimit⟩ := hbounds
          obtain ⟨d, rfl⟩ := Int.eq_ofNat_of_zero_le hdays
          obtain ⟨i, rfl⟩ := Int.eq_ofNat_of_zero_le hindex
          have hd : d < 65535 := Int.ofNat_lt.1 hdaysLimit
          have hi : i * interval < 86400 := (lt_intervalsPerDay_iff hinterval).1 (Int.ofNat_lt.1 hindexLimit)
          have hseconds : d * daySeconds + i * interval < signedLimit := by
            rw [signedLimit, daySeconds]
            omega
          rw [baseOf_eq (by decide) (by decide), Attempt.lift_ok_bind,
            SignedWord.mul_eq_ok (Nat.lt_of_le_of_lt (Nat.le_add_right _ _) hseconds), Attempt.lift_ok_bind,
            SignedWord.mul_eq_ok (Nat.lt_of_le_of_lt (Nat.le_add_left _ _) hseconds), Attempt.lift_ok_bind,
            SignedWord.add_eq_ok hseconds, Attempt.lift_ok_bind, wordTimeAfter_eq hstart, Int.toNat_natCast,
            Int.toNat_natCast]
        · rw [hpred, Attempt.lift_ok_bind, Int.toNat_natCast]
          rfl

lemma wordDecode_numeral {radix interval baseYear minLength : Nat} {upper : Bool}
    (hscheme : (numeral radix interval baseYear minLength upper).WellFormed) :
    wordDecode (numeral radix interval baseYear minLength upper) zone value =
      .of (decode (numeral radix interval baseYear minLength upper) zone value) := by
  obtain ⟨hradix, hradix', hinterval, _, hyear, _⟩ := hscheme
  have hstart : IsBase (base baseYear 1) := isBase hyear (by decide) (by decide)
  obtain ⟨ds, hds⟩ := Numeral.exists_alphabet ⟨hradix, hradix'⟩
  rw [wordDecode, decode]
  simp only [hds, Numeral.wordAlphabet_eq, Numeral.wordDecode_eq, Attempt.ok_bind, Fallible.ok_bind]
  cases Numeral.decode ds (trim value.toList) with
  | error e => rfl
  | ok count =>
    rw [Attempt.ok_bind, Fallible.ok_bind, ofInt_mul_eq hinterval]
    split
    · rw [Attempt.checked_ok, Attempt.ok_bind, baseOf_eq (by decide) (by decide), Attempt.lift_ok_bind,
        wordTimeAfter_eq hstart]
    · rfl

lemma wordDecode_hours {baseYear baseMonth : Nat} (hscheme : (hours baseYear baseMonth).WellFormed) :
    wordDecode (hours baseYear baseMonth) zone value = .of (decode (hours baseYear baseMonth) zone value) := by
  obtain ⟨hyear, hfirst, hlast⟩ := hscheme
  have hstart := isBase hyear hfirst hlast
  rw [wordDecode, decode]
  cases signedWord? (trim value.toList) with
  | none => rfl
  | some count =>
    dsimp only
    by_cases hneg : count < 0
    · rw [if_pos hneg, if_pos hneg]
      rfl
    · rw [if_neg hneg, if_neg hneg]
      obtain ⟨n, rfl⟩ := Int.eq_ofNat_of_zero_le (Int.not_lt.1 hneg)
      by_cases hproduct : n * 3600 < signedLimit
      · have hmul : SignedWord.mul n 3600 = .ok (n * 3600 : Nat) := SignedWord.mul_eq_ok hproduct
        rw [if_pos (by omega), hmul, Attempt.checked_ok, Attempt.ok_bind, baseOf_eq hfirst hlast,
          Attempt.lift_ok_bind, wordTimeAfter_eq hstart, Int.toNat_natCast]
      · have hmul : SignedWord.mul n 3600 = .error .overflow :=
          SignedWord.mul_eq_error (Nat.le_of_not_lt hproduct)
        rw [if_neg (by omega), hmul]
        rfl

end Decoding

/-- Nothing stops a text from being read. -/
theorem wordDecode_eq {scheme : TimeScheme} (hscheme : scheme.WellFormed) (zone : Zone) (value : String) :
    scheme.wordDecode zone value = .of (scheme.decode zone value) := by
  cases scheme with
  | readable => exact wordDecode_readable
  | dotted => exact wordDecode_dotted hscheme
  | numeral => exact wordDecode_numeral hscheme
  | hours => exact wordDecode_hours hscheme

/-! ### Errors -/

lemma of_timeAfter_eq_error {seconds : Nat} {e : Error} (h : timeAfter start seconds = .error e) :
    e = .timeRange seconds start := by
  rw [timeAfter] at h
  split at h
  · cases h
  · cases h
    rfl

/-- A text is refused as misspelled or as out of bounds. -/
lemma kind_of_decode_eq_error {scheme : TimeScheme} (hscheme : scheme.WellFormed) {value : String} {e : Error}
    (h : scheme.decode zone value = .error e) : e.kind = .format ∨ e.kind = .bounds := by
  cases scheme with
  | readable date clock separator utc =>
    simp only [decode] at h
    split at h
    · split at h
      · cases h
        exact .inl rfl
      · split at h
        · cases h
        · split at h
          · cases h
          · cases h
            exact .inl rfl
    · cases h
      exact .inl rfl
  | dotted interval baseYear =>
    simp only [decode] at h
    split at h
    · cases h
      exact .inl rfl
    · split at h
      · split at h
        · rw [of_timeAfter_eq_error h]
          exact .inr rfl
        · cases h
          exact .inr rfl
      · cases h
        exact .inl rfl
  | numeral radix interval baseYear minLength upper =>
    obtain ⟨ds, hds⟩ := Numeral.exists_alphabet ⟨hscheme.1, hscheme.2.1⟩
    have halphabet := (Numeral.isAlphabet_of_alphabet hds).1
    simp only [decode] at h
    rw [hds, Fallible.ok_bind] at h
    cases hcount : Numeral.decode ds (trim value.toList) with
    | error e' =>
      rw [hcount] at h
      cases h
      have hrefuses := halphabet.decode_eq_error_iff.1 hcount
      generalize e.kind = kind at hrefuses ⊢
      cases hrefuses with
      | empty => exact .inl rfl
      | foreign => exact .inl rfl
      | limit => exact .inr rfl
    | ok count =>
      rw [hcount, Fallible.ok_bind] at h
      split at h
      · rw [of_timeAfter_eq_error h]
        exact .inr rfl
      · cases h
        exact .inr rfl
  | hours baseYear baseMonth =>
    simp only [decode] at h
    split at h
    · cases h
      exact .inl rfl
    · split at h
      · cases h
        exact .inl rfl
      · split at h
        · rw [of_timeAfter_eq_error h]
          exact .inr rfl
        · cases h
          exact .inr rfl

end TimeScheme

open TimeScheme in
/-- Whatever a placeholder asks for, its limits keep every operation on words from being without an answer, for all
times that clocks cover and for all texts. Such times are refused only before the base date or when their day has
no number, and texts as misspelled or as out of bounds. -/
theorem TimeSpec.words_suffice {text : String} {spec : TimeSpec} (hread : read text = .ok spec) (zone : Zone) :
    spec.scheme.WellFormed ∧
    (∀ t, Covered zone t → (spec.scheme.wordEncode zone t).run = .ok (spec.scheme.encode zone t)) ∧
    (∀ value, (spec.scheme.wordDecode zone value).run = .ok (spec.scheme.decode zone value)) ∧
    (∀ t e, spec.scheme.encode zone t = .error e →
      (e.kind = .bounds ∧ ∃ start, spec.scheme.baseDate? = some start ∧
        (t.instant.secondsSince (Instant.ofDate start) < 0 ∨
          (∃ interval baseYear, spec.scheme = .dotted interval baseYear) ∧
            65535 * 86400 ≤ t.instant.secondsSince (Instant.ofDate start))) ∨
      spec.scheme.readsZone = true ∧ ¬ Covered zone t ∧ e = .localTime t) ∧
    (∀ value e, spec.scheme.decode zone value = .error e → e.kind = .format ∨ e.kind = .bounds) := by
  have hscheme := wellFormed_of_read hread
  refine ⟨hscheme, fun t ht => wordEncode_eq hscheme ht, wordDecode_eq hscheme zone, ?_,
    fun value e => kind_of_decode_eq_error hscheme⟩
  intro t e h
  cases hstart : spec.scheme.baseDate? with
  | none =>
    obtain ⟨hreads, huncovered, rfl⟩ := localTime_of_encode_eq_error hstart h
    exact .inr ⟨hreads, fun hcovered => huncovered hcovered.here, rfl⟩
  | some start =>
    obtain ⟨hneg, rfl⟩ | ⟨hdotted, hlate, days, rfl⟩ := of_encode_eq_error hscheme hstart h
    · exact .inl ⟨rfl, start, rfl, .inl hneg⟩
    · exact .inl ⟨rfl, start, rfl, .inr ⟨hdotted, hlate⟩⟩

open TimeScheme in
/-- The longest interval from the last base date on: the leap second with which all times end has a numeral, and two
intervals are more seconds than a word holds. -/
theorem TimeSpec.words_suffice_longest :
    let longest : TimeSpec := ⟨.build, .numeral 36 9223372036854775807 9999 3 true⟩
    let last : Timestamp := ⟨⟨8210266876799, 1999999999⟩, -43200⟩
    TimeSpec.read "b:B36-9223372036854775807s:9999:3" = .ok longest ∧ Covered (.fixed (-3600)) last ∧
      (longest.scheme.wordEncode (.fixed (-3600)) last).run = .ok (.ok "000") ∧
      ∃ e, (longest.scheme.wordDecode (.fixed (-3600)) "2").run = .ok (.error e) ∧
        (e.kind = .format ∨ e.kind = .bounds) := by
  intro longest last
  have hread : TimeSpec.read "b:B36-9223372036854775807s:9999:3" = .ok longest :=
    Fallible.eq_ok_of_toOption (by decide +kernel)
  have hlast : Covered (.fixed (-3600)) last := ⟨by decide, by decide, by decide, by decide⟩
  obtain ⟨_, hencode, hdecode, _, hkind⟩ := TimeSpec.words_suffice hread (.fixed (-3600))
  have hwritten : longest.scheme.encode (.fixed (-3600)) last = .ok "000" :=
    Fallible.eq_ok_of_toOption (by decide +kernel)
  have hnone : (longest.scheme.decode (.fixed (-3600)) "2").toOption = none := by decide +kernel
  have hend := hencode last hlast
  rw [hwritten] at hend
  have htwo := hdecode "2"
  cases hanswer : longest.scheme.decode (.fixed (-3600)) "2" with
  | ok t =>
    rw [hanswer] at hnone
    cases hnone
  | error e =>
    rw [hanswer] at htwo
    exact ⟨hread, hlast, hend, e, htwo, hkind "2" e hanswer⟩

end BuildVersion
