import BuildVersion.Proofs.Calendar.Order
import BuildVersion.Proofs.Numeral
import BuildVersion.Proofs.TimeScheme.Counted
import BuildVersion.Proofs.TimeScheme.Limits
import BuildVersion.Proofs.TimeScheme.Readable

/-!
# From base dates on

Which times the counted schemes write. Only the seconds from the base date count, and they are cut towards zero:
the last second before the base date is taken for the base date itself. Main statements: what is written is a
function of the seconds (`encode_eq_ok_iff_written`), an error says that they are negative or fill too many days
(`of_encode_eq_error`), and so for all times (`TimeSpec.written_from_last_second`).
-/

namespace BuildVersion

open Text Calendar

namespace TimeScheme

/-- The date from which a scheme counts. -/
def baseDate? : TimeScheme → Option Date
  | readable _ _ _ _ => none
  | dotted _ baseYear => some (base baseYear 1)
  | numeral _ _ baseYear _ _ => some (base baseYear 1)
  | hours baseYear baseMonth => some (base baseYear baseMonth)

/-- What a scheme writes of so many seconds from its base date. -/
def written? (scheme : TimeScheme) (n : Nat) : Option String :=
  match scheme with
  | readable _ _ _ _ => none
  | dotted interval _ =>
    if n / daySeconds < BuildVersion.dayLimit then
      some (toString (n / daySeconds) ++ "." ++ toString (n % daySeconds / interval))
    else none
  | numeral radix interval _ minLength upper =>
    (Numeral.alphabet radix).toOption.map fun ds =>
      let text := Numeral.encode ds (n / interval) minLength
      String.ofList (if upper then upperCase text else text)
  | hours _ _ => some (toString (n / 3600))

/-- Whether the days of a scheme have run out at an instant. -/
def RunsOut (scheme : TimeScheme) (t : Instant) : Prop :=
  ∃ interval baseYear, scheme = .dotted interval baseYear ∧
    (Instant.ofDate (base baseYear 1)).addSeconds (65535 * 86400) ≤ t

variable {scheme : TimeScheme} {zone : Zone} {t : Timestamp} {start : Date} {n : Nat}

/-! ### Seconds -/

/-- The seconds are negative up to one whole second before the start of the day. -/
lemma secondsSince_neg_iff (hleap : ¬ t.instant.isLeapSecond) :
    t.instant.secondsSince (Instant.ofDate start) < 0 ↔
      t.instant ≤ (Instant.ofDate start).addSeconds (-1) := by
  have hwhole : ((Instant.ofDate start).addSeconds (-1)).nanos = 0 := rfl
  rw [Instant.le_iff, hwhole, Instant.seconds_addSeconds, secondsSince_ofDate hleap]
  split <;> omega

/-- From then on the seconds are those since the start of the day, and none before it. -/
lemma secondsSince_eq_toNat (hleap : ¬ t.instant.isLeapSecond)
    (h : (Instant.ofDate start).addSeconds (-1) < t.instant) :
    secondsSince t start = .ok (t.instant.seconds - (Instant.ofDate start).seconds).toNat := by
  have hwhole : ((Instant.ofDate start).addSeconds (-1)).nanos = 0 := rfl
  rw [Instant.lt_iff, hwhole, Instant.seconds_addSeconds] at h
  rw [secondsSince_eq_ok_iff, secondsSince_ofDate hleap]
  split <;> omega

/-! ### Texts -/

/-- Something is written unless there are more days than the dotted scheme counts. -/
lemma written?_eq_none_iff (hscheme : scheme.WellFormed) (hstart : scheme.baseDate? = some start) :
    scheme.written? n = none ↔ ∃ interval baseYear, scheme = .dotted interval baseYear ∧ 65535 * 86400 ≤ n := by
  cases scheme with
  | readable => cases hstart
  | dotted interval baseYear =>
    rw [written?, daySeconds, BuildVersion.dayLimit]
    split
    · next hdays =>
      refine iff_of_false (by simp) ?_
      rintro ⟨_, _, _, hlate⟩
      omega
    · next hdays => exact iff_of_true rfl ⟨interval, baseYear, rfl, by omega⟩
  | numeral radix interval baseYear minLength upper =>
    obtain ⟨ds, hds⟩ := Numeral.exists_alphabet ⟨hscheme.1, hscheme.2.1⟩
    rw [written?, hds]
    simp [Except.toOption]
  | hours baseYear baseMonth => simp [written?]

lemma encode_of_error (hstart : scheme.baseDate? = some start) {e : Error}
    (h : secondsSince t start = .error e) : encode scheme zone t = .error e := by
  cases scheme with
  | readable => cases hstart
  | dotted =>
    cases hstart
    rw [encode, h]
    rfl
  | numeral =>
    cases hstart
    rw [encode, h]
    rfl
  | hours =>
    cases hstart
    rw [encode, h]
    rfl

/-- Of a time, only the seconds from the base date are written. -/
lemma encode_of_ok (hscheme : scheme.WellFormed) (hstart : scheme.baseDate? = some start)
    (h : secondsSince t start = .ok n) :
    encode scheme zone t =
      match scheme.written? n with
      | some v => .ok v
      | none => .error (.dayLimit t (n / daySeconds : Nat) start.year.toNat) := by
  cases scheme with
  | readable => cases hstart
  | dotted interval baseYear =>
    cases hstart
    rw [encode_dotted h, written?]
    split <;> rfl
  | numeral radix interval baseYear minLength upper =>
    cases hstart
    obtain ⟨ds, hds⟩ := Numeral.exists_alphabet ⟨hscheme.1, hscheme.2.1⟩
    rw [encode_numeral h hds, written?, hds]
    rfl
  | hours baseYear baseMonth =>
    cases hstart
    exact encode_hours h

lemma encode_eq_ok_iff_written (hscheme : scheme.WellFormed) (hstart : scheme.baseDate? = some start)
    {v : String} :
    encode scheme zone t = .ok v ↔ ∃ n, secondsSince t start = .ok n ∧ scheme.written? n = some v := by
  cases hseconds : secondsSince t start with
  | error e => simp [encode_of_error hstart hseconds]
  | ok n =>
    rw [encode_of_ok hscheme hstart hseconds]
    cases hwritten : scheme.written? n <;> simp [hwritten]

/-- An error says that the time lies before the base date or that its day has no number. -/
lemma of_encode_eq_error (hscheme : scheme.WellFormed) (hstart : scheme.baseDate? = some start) {e : Error}
    (h : encode scheme zone t = .error e) :
    t.instant.secondsSince (Instant.ofDate start) < 0 ∧ e = .beforeBase t start ∨
      (∃ interval baseYear, scheme = .dotted interval baseYear) ∧
        65535 * 86400 ≤ t.instant.secondsSince (Instant.ofDate start) ∧
        ∃ days, e = .dayLimit t days start.year.toNat := by
  cases hseconds : secondsSince t start with
  | error e' =>
    rw [encode_of_error hstart hseconds] at h
    cases h
    exact .inl (secondsSince_eq_error_iff.1 hseconds)
  | ok n =>
    rw [encode_of_ok hscheme hstart hseconds] at h
    cases hwritten : scheme.written? n with
    | some v =>
      rw [hwritten] at h
      cases h
    | none =>
      rw [hwritten] at h
      cases h
      obtain ⟨interval, baseYear, hdotted, hlate⟩ := (written?_eq_none_iff hscheme hstart).1 hwritten
      rw [secondsSince_eq_ok_iff] at hseconds
      exact .inr ⟨⟨interval, baseYear, hdotted⟩, by omega, _, rfl⟩

/-- Without a base date, an error says that local clocks do not cover the time. -/
lemma localTime_of_encode_eq_error (hstart : scheme.baseDate? = none) {e : Error}
    (h : encode scheme zone t = .error e) :
    scheme.readsZone = true ∧ ¬ zone.Covers t.instant ∧ e = .localTime t := by
  cases scheme with
  | readable => exact and_assoc.1 (encode_readable_eq_error_iff.1 h)
  | _ => cases hstart

/-- Something is written of an instant while the days of its scheme last. -/
lemma exists_written?_iff (hscheme : scheme.WellFormed) (hstart : scheme.baseDate? = some start) :
    (∃ v, scheme.written? (t.instant.seconds - (Instant.ofDate start).seconds).toNat = some v) ↔
      ¬ scheme.RunsOut t.instant := by
  rw [← Option.isSome_iff_exists, ← not_iff_not, Option.not_isSome_iff_eq_none, not_not,
    written?_eq_none_iff hscheme hstart]
  refine exists_congr fun interval => exists_congr fun baseYear => and_congr_right ?_
  rintro rfl
  cases hstart
  rw [Instant.addSeconds_le_iff]
  omega

/-- After the last whole second before the base date, times are written while the days last. -/
lemma exists_encode_iff (hscheme : scheme.WellFormed) (hstart : scheme.baseDate? = some start)
    (hleap : ¬ t.instant.isLeapSecond) :
    (∃ v, encode scheme zone t = .ok v) ↔
      (Instant.ofDate start).addSeconds (-1) < t.instant ∧ ¬ scheme.RunsOut t.instant := by
  rw [← exists_written?_iff hscheme hstart]
  simp only [encode_eq_ok_iff_written hscheme hstart]
  constructor
  · rintro ⟨v, n, hn, hv⟩
    have hlast : (Instant.ofDate start).addSeconds (-1) < t.instant := by
      rw [← Instant.not_le, ← secondsSince_neg_iff hleap, secondsSince_eq_ok_iff.1 hn]
      omega
    rw [secondsSince_eq_toNat hleap hlast] at hn
    cases hn
    exact ⟨hlast, v, hv⟩
  · rintro ⟨hlast, v, hv⟩
    exact ⟨v, _, secondsSince_eq_toNat hleap hlast, hv⟩

/-- In the last second before it, times are written like the base date. -/
lemma encode_last_second (hscheme : scheme.WellFormed) (hstart : scheme.baseDate? = some start)
    (hleap : ¬ t.instant.isLeapSecond) (hlast : (Instant.ofDate start).addSeconds (-1) < t.instant)
    (hbefore : t.instant < Instant.ofDate start) :
    encode scheme zone t = encode scheme zone ⟨Instant.ofDate start, t.offset⟩ := by
  have hzero : secondsSince t start = .ok 0 := by
    have hseconds := Instant.seconds_le (Instant.le_of_lt hbefore)
    rw [secondsSince_eq_toNat hleap hlast, Int.toNat_of_nonpos (by omega)]
  have hstart' : secondsSince ⟨Instant.ofDate start, t.offset⟩ start = .ok 0 := by
    rw [secondsSince_eq_ok_iff, Instant.secondsSince, Int.sub_self, Int.zero_tdiv]
    rfl
  rw [encode_of_ok hscheme hstart hzero, encode_of_ok hscheme hstart hstart']
  cases hwritten : scheme.written? 0 with
  | some v => rfl
  | none =>
    obtain ⟨_, _, _, hlate⟩ := (written?_eq_none_iff hscheme hstart).1 hwritten
    omega

end TimeScheme

open TimeScheme in
/-- Whatever a placeholder counts, it writes the times after the last whole second before its base date, while its
days last, and refuses all others as out of bounds. What lies in that second is written like the base date. On
whole seconds, nothing before the base date is written. -/
theorem TimeSpec.written_from_last_second {text : String} {spec : TimeSpec} (hread : read text = .ok spec)
    {start : Date} (hstart : spec.scheme.baseDate? = some start) (zone : Zone) {t : Timestamp}
    (hleap : ¬ t.instant.isLeapSecond) :
    ((∃ v, spec.scheme.encode zone t = .ok v) ↔
      (Instant.ofDate start).addSeconds (-1) < t.instant ∧ ¬ spec.scheme.RunsOut t.instant) ∧
    (spec.scheme.encode zone t = .error (.beforeBase t start) ↔
      t.instant ≤ (Instant.ofDate start).addSeconds (-1)) ∧
    (∀ e, spec.scheme.encode zone t = .error e → e.kind = .bounds) ∧
    ((Instant.ofDate start).addSeconds (-1) < t.instant → t.instant < Instant.ofDate start →
      spec.scheme.encode zone t = spec.scheme.encode zone ⟨Instant.ofDate start, t.offset⟩) ∧
    (t.instant.nanos = 0 → ((∃ v, spec.scheme.encode zone t = .ok v) ↔
      Instant.ofDate start ≤ t.instant ∧ ¬ spec.scheme.RunsOut t.instant)) := by
  have hscheme := wellFormed_of_read hread
  have hwritten : (∃ v, spec.scheme.encode zone t = .ok v) ↔ _ := exists_encode_iff hscheme hstart hleap
  refine ⟨hwritten, ?_, ?_, encode_last_second hscheme hstart hleap, ?_⟩
  · rw [← secondsSince_neg_iff hleap]
    constructor
    · intro h
      obtain ⟨hneg, _⟩ | ⟨_, _, days, hdays⟩ := of_encode_eq_error hscheme hstart h
      · exact hneg
      · cases hdays
    · intro hneg
      exact encode_of_error hstart (secondsSince_eq_error_iff.2 ⟨hneg, rfl⟩)
  · intro e h
    obtain ⟨_, rfl⟩ | ⟨_, _, days, rfl⟩ := of_encode_eq_error hscheme hstart h
    · rfl
    · rfl
  · intro hnanos
    have hwhole : ((Instant.ofDate start).addSeconds (-1)).nanos = 0 := rfl
    rw [hwritten, Instant.lt_iff, hwhole, Instant.seconds_addSeconds, Instant.ofDate_le_iff]
    refine and_congr_left fun _ => ?_
    omega

/-- Every sort of scheme in and before the last second: the dotted one half a second before its days run out, hours
one second before the base date, and a numeral half a second before it, which is shown from another offset. -/
theorem TimeSpec.written_from_last_second_each :
    let dotted : TimeSpec := ⟨.commit, .dotted 25200 2020⟩
    let hours : TimeSpec := ⟨.author, .hours 2020 2⟩
    let numeral : TimeSpec := ⟨.build, .numeral 16 60 2020 4 false⟩
    let lastDay : Timestamp := ⟨⟨7240060799, 500000000⟩, 0⟩
    let tooEarly : Timestamp := ⟨⟨1580515199, 0⟩, 3600⟩
    let lastSecond : Timestamp := ⟨⟨1577836799, 500000000⟩, -12600⟩
    TimeSpec.read "c:d7h:2020" = .ok dotted ∧ ¬ lastDay.instant.isLeapSecond ∧
      (∃ v, dotted.scheme.encode (.fixed 0) lastDay = .ok v) ∧
      TimeSpec.read "a:h:2020-02" = .ok hours ∧ ¬ tooEarly.instant.isLeapSecond ∧
      hours.scheme.encode (.fixed 0) tooEarly = .error (.beforeBase tooEarly ⟨2020, 2, 1⟩) ∧
      TimeSpec.read "b:b16-1m:2020:4" = .ok numeral ∧ ¬ lastSecond.instant.isLeapSecond ∧
      numeral.scheme.encode (.fixed 0) lastSecond = .ok "0000" := by
  intro dotted hours numeral lastDay tooEarly lastSecond
  have hdotted : TimeSpec.read "c:d7h:2020" = .ok dotted := Fallible.eq_ok_of_toOption (by decide +kernel)
  have hhours : TimeSpec.read "a:h:2020-02" = .ok hours := Fallible.eq_ok_of_toOption (by decide +kernel)
  have hnumeral : TimeSpec.read "b:b16-1m:2020:4" = .ok numeral :=
    Fallible.eq_ok_of_toOption (by decide +kernel)
  have hlastDay : ¬ lastDay.instant.isLeapSecond := by decide
  have htooEarly : ¬ tooEarly.instant.isLeapSecond := by decide
  have hlastSecond : ¬ lastSecond.instant.isLeapSecond := by decide
  have hday := (TimeSpec.written_from_last_second hdotted rfl (.fixed 0) hlastDay).1.2 ⟨by decide, by
    rintro ⟨_, _, hscheme, hlate⟩
    cases hscheme
    revert hlate
    decide⟩
  have hearly := (TimeSpec.written_from_last_second hhours rfl (.fixed 0) htooEarly).2.1.2 (by decide)
  have hsecond := (TimeSpec.written_from_last_second hnumeral rfl (.fixed 0) hlastSecond).2.2.2.1 (by decide)
    (by decide)
  have hzeros : numeral.scheme.encode (.fixed 0) ⟨Instant.ofDate ⟨2020, 1, 1⟩, -12600⟩ = .ok "0000" :=
    Fallible.eq_ok_of_toOption (by decide +kernel)
  exact ⟨hdotted, hlastDay, hday, hhours, htooEarly, hearly, hnumeral, hlastSecond, hsecond.trans hzeros⟩

open TimeScheme in
/-- Half a second before the base date, a time is written as if it were at the base date. -/
theorem TimeSpec.writes_before_base :
    let spec : TimeSpec := ⟨.build, .hours 2000 1⟩
    let t : Timestamp := ⟨⟨946684799, 500000000⟩, 0⟩
    TimeSpec.read "b:h:2000" = .ok spec ∧ spec.scheme.baseDate? = some ⟨2000, 1, 1⟩ ∧
      ¬ t.instant.isLeapSecond ∧ t.instant < Instant.ofDate ⟨2000, 1, 1⟩ ∧
      ∀ zone, spec.scheme.encode zone t = .ok "0" := by
  intro spec t
  have hread : TimeSpec.read "b:h:2000" = .ok spec := Fallible.eq_ok_of_toOption (by decide +kernel)
  have hzero : secondsSince t ⟨2000, 1, 1⟩ = .ok 0 := Fallible.eq_ok_of_toOption (by decide)
  have htext : toString (0 / 3600) = "0" := by decide +kernel
  refine ⟨hread, rfl, by decide, by decide, fun zone => ?_⟩
  rw [encode_hours hzero, htext]

end BuildVersion
