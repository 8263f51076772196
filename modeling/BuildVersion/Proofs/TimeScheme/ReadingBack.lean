import BuildVersion.Proofs.Calendar.LocalTime
import BuildVersion.Proofs.Numeral
import BuildVersion.Proofs.TimeScheme.Counted
import BuildVersion.Proofs.TimeScheme.Limits
import BuildVersion.Proofs.TimeScheme.Readable

/-!
# Written times are read back

Reading what a scheme has written of a time gives the start of the interval that holds the time. Local
time can be written alike at two instants, so that there the text and not the interval comes back. Main
statement: `TimeSpec.written_reads_back`.
-/

namespace BuildVersion

open Text Calendar

namespace TimeScheme

/-- What a scheme reads back of its text for a time: in UTC the start of the smallest field that is
printed, in local time an instant with the same text, and from the schemes that count the start of the
interval. There `n` is the number of whole seconds from the base date. -/
def ReadsBack (scheme : TimeScheme) (zone : Zone) (t : Timestamp) : Prop :=
  match scheme with
  | readable false _ _ _ => True
  | readable true clock _ true =>
    0 ≤ t.instant.civil.date.year → t.instant.civil.date.year ≤ 9999 →
      ∃ v, encode scheme zone t = .ok v ∧
        decode scheme zone v = .ok ⟨t.instant.seconds - t.instant.seconds % clock.unit, 0⟩
  | readable true _ _ false =>
    0 ≤ (zone.civil t.instant).date.year → (zone.civil t.instant).date.year ≤ 9999 →
      ∃ v t', encode scheme zone t = .ok v ∧ decode scheme zone v = .ok t' ∧
        ∀ offset, encode scheme zone ⟨t', offset⟩ = .ok v
  | dotted interval baseYear =>
    ∀ n : Nat, t.instant.seconds = (Instant.ofDate (base baseYear 1)).seconds + n →
      ∀ v, encode scheme zone t = .ok v → decode scheme zone v =
        .ok ((Instant.ofDate (base baseYear 1)).addSeconds
          (86400 * (n / 86400) + interval * (n % 86400 / interval) : Nat))
  | numeral _ interval baseYear _ _ =>
    ∀ n : Nat, t.instant.seconds = (Instant.ofDate (base baseYear 1)).seconds + n →
      ∀ v, encode scheme zone t = .ok v → decode scheme zone v =
        .ok ((Instant.ofDate (base baseYear 1)).addSeconds (interval * (n / interval) : Nat))
  | hours baseYear baseMonth =>
    ∀ n : Nat, t.instant.seconds = (Instant.ofDate (base baseYear baseMonth)).seconds + n →
      ∀ v, encode scheme zone t = .ok v → decode scheme zone v =
        .ok ((Instant.ofDate (base baseYear baseMonth)).addSeconds (3600 * (n / 3600) : Nat))

variable {zone : Zone} {t : Timestamp} {n : Nat}

/-! ### Counted times -/

/-- No time is so far from a base date that the seconds no longer fit a signed word. -/
lemma count_lt_signedLimit {year month : Nat} (hrange : t.instant.InRange)
    (h : t.instant.seconds = (Instant.ofDate (base year month)).seconds + n) : n < signedLimit := by
  have hstart := seconds_base_ge year month
  have hfirst : (Instant.ofDate ⟨-262143, 1, 1⟩).seconds = -8334601228800 := by decide
  have hlast : (Instant.ofDate ⟨262143, 1, 1⟩).seconds = 8210266876800 := by decide
  obtain ⟨_, hend⟩ := hrange
  rw [signedLimit]
  omega

lemma dotted_readsBack {interval baseYear : Nat} (hinterval : 1 ≤ interval)
    (hrange : t.instant.InRange) (hleap : ¬ t.instant.isLeapSecond) :
    ReadsBack (dotted interval baseYear) zone t := by
  intro n hn v hv
  rw [encode_dotted (secondsSince_eq_ok hleap hn)] at hv
  split at hv
  · next hdays =>
    cases hv
    have hindex : n % daySeconds / interval * interval ≤ n % daySeconds := Nat.div_mul_le_self _ _
    have hday : n % daySeconds < daySeconds := Nat.mod_lt _ (by decide)
    have hsplit : n / daySeconds * daySeconds + n % daySeconds = n := Nat.div_add_mod' n daySeconds
    rw [decode_dotted_eq_ok_iff hinterval]
    refine ⟨_, _, cut?_trim_dotted _ _, _, _, integer?_toDigits _, integer?_toDigits _, hdays,
      by omega, ?_⟩
    rw [timeAfter_eq_ok hrange (by omega), Nat.mul_comm (n / daySeconds),
      Nat.mul_comm (n % daySeconds / interval)]
    rfl
  · cases hv

lemma hours_readsBack {baseYear baseMonth : Nat} (hrange : t.instant.InRange)
    (hleap : ¬ t.instant.isLeapSecond) : ReadsBack (hours baseYear baseMonth) zone t := by
  intro n hn v hv
  rw [encode_hours (secondsSince_eq_ok hleap hn)] at hv
  cases hv
  have hcount : n / 3600 * 3600 ≤ n := Nat.div_mul_le_self _ _
  have hlimit := count_lt_signedLimit hrange hn
  rw [decode_hours_eq_ok_iff]
  refine ⟨n / 3600, ?_, by omega, ?_⟩
  · rw [trim_digits]
    exact integer?_toDigits _
  · rw [timeAfter_eq_ok hrange (by omega), Nat.mul_comm 3600]

lemma numeral_readsBack {radix interval baseYear minLength : Nat} {upper : Bool}
    (hradix : 2 ≤ radix ∧ radix ≤ 36) (hrange : t.instant.InRange)
    (hleap : ¬ t.instant.isLeapSecond) :
    ReadsBack (numeral radix interval baseYear minLength upper) zone t := by
  intro n hn v hv
  obtain ⟨ds, hds⟩ := Numeral.exists_alphabet hradix
  have halphabet := (Numeral.isAlphabet_of_alphabet hds).1
  rw [encode_numeral (secondsSince_eq_ok hleap hn) hds] at hv
  cases hv
  have hcount : n / interval * interval ≤ n := Nat.div_mul_le_self _ _
  have hlimit := count_lt_signedLimit hrange hn
  rw [decode_numeral_eq_ok_iff hds, String.toList_ofList]
  refine ⟨n / interval, ?_, by omega, ?_⟩
  · rw [trim_eq_self halphabet.not_isBlank_of_mem_cased]
    exact halphabet.decode_cased (div_lt_wordLimit hlimit)
  · rw [timeAfter_eq_ok hrange (by omega), Nat.mul_comm (n / interval)]

/-! ### Readable times -/

/-- A printed text is read as the civil time that is left of the printed one. -/
lemma decode_printed {clock : ClockFields} {separator : Option Char} {utc : Bool} {t' : Instant}
    (hsep : ∀ c ∈ separator, c = '-' ∨ c = '.' ∨ c = ':')
    (hfirst : 0 ≤ (printed utc zone t.instant).date.year)
    (hlast : (printed utc zone t.instant).date.year ≤ 9999)
    (h : meant? utc zone (clock.shown (printed utc zone t.instant)) = some t') :
    decode (readable true clock separator utc) zone
      ((separatorText separator).intercalate
        (readableFields true clock (printed utc zone t.instant))) = .ok t' := by
  have hclass := separator_class hsep
  rw [decode_readable_eq_ok_iff,
    trim_eq_self (not_isBlank_of_mem_readable (fun c hc => (hclass c hc).2) hfirst)]
  refine ⟨rfl, _, (readableCivil?_eq_some_iff fun c hc => (hclass c hc).1).2 ⟨⟨?_, ?_, ?_, ?_⟩, ?_⟩, h⟩
  · exact ClockFields.valid_shown (valid_printed utc zone t.instant) clock
  · rw [ClockFields.date_shown]
    exact hfirst
  · rw [ClockFields.date_shown]
    exact hlast
  · exact ClockFields.shown_shown clock _
  · rw [readableFields_shown]

lemma readable_utc_readsBack {clock : ClockFields} {separator : Option Char}
    (hsep : ∀ c ∈ separator, c = '-' ∨ c = '.' ∨ c = ':') :
    ReadsBack (readable true clock separator true) zone t := by
  intro hfirst hlast
  refine ⟨_, encode_readable (.inl rfl), decode_printed hsep hfirst hlast ?_⟩
  have hseconds := ClockFields.toSeconds_shown (valid_printed true zone t.instant) clock
  rw [toSeconds_printed_utc] at hseconds
  rw [meant?, if_pos rfl, Instant.ofCivil, hseconds, Int.sub_zero, ClockFields.nanos_shown]

lemma readable_local_readsBack {clock : ClockFields} {separator : Option Char}
    (hsep : ∀ c ∈ separator, c = '-' ∨ c = '.' ∨ c = ':') :
    ReadsBack (readable true clock separator false) zone t := by
  intro hfirst hlast
  have hvalid := valid_printed false zone t.instant
  -- In a repeated hour `t'` is another instant, but local clocks show the same at it.
  obtain ⟨t', ht', hprinted⟩ := Zone.exists_instant? (ClockFields.valid_shown hvalid clock) clock.unit_cases
    (ClockFields.date_shown clock _) (ClockFields.toSeconds_shown hvalid clock)
  have hdate : (zone.civil t').date = (printed false zone t.instant).date := by
    rw [hprinted]
    exact ClockFields.date_shown clock _
  have hcovers : zone.Covers t' := Zone.covers_of_year (by rwa [hdate]) (by rwa [hdate])
  refine ⟨_, t', encode_readable (covers_of_printed hfirst hlast), decode_printed hsep hfirst hlast ht',
    fun offset => ?_⟩
  rw [encode_readable (.inr hcovers), show printed false zone t' = _ from hprinted, readableFields_shown]

/-- Every scheme within the limits reads back what it has written. -/
lemma readsBack {scheme : TimeScheme} (h : scheme.WellFormed) (hrange : t.instant.InRange)
    (hleap : ¬ t.instant.isLeapSecond) : ReadsBack scheme zone t := by
  cases scheme with
  | readable date clock separator utc =>
    cases date with
    | false => exact trivial
    | true =>
      cases utc with
      | true => exact readable_utc_readsBack h.2
      | false => exact readable_local_readsBack h.2
  | dotted interval baseYear => exact dotted_readsBack h.1 hrange hleap
  | numeral radix interval baseYear minLength upper =>
    exact numeral_readsBack ⟨h.1, h.2.1⟩ hrange hleap
  | hours baseYear baseMonth => exact hours_readsBack hrange hleap

end TimeScheme

/-- Whatever a placeholder asks for, every time (all of them are in range) that is not in a leap second
is read back from its text. -/
theorem TimeSpec.written_reads_back {text : String} {spec : TimeSpec} (hread : read text = .ok spec)
    (zone : Zone) {t : Timestamp} (hrange : t.instant.InRange) (hleap : ¬ t.instant.isLeapSecond) :
    spec.scheme.ReadsBack zone t :=
  TimeScheme.readsBack (wellFormed_of_read hread) hrange hleap

/-- Intervals that do not fill a day, and an hour that local clocks show twice: a time in its first pass
is read back as one in the second, which is written alike. -/
theorem TimeSpec.written_reads_back_repeated_hour :
    let dotted : TimeSpec := ⟨.commit, .dotted 25200 2020⟩
    let afternoon : Timestamp := ⟨⟨1689342451, 500000000⟩, 7200⟩
    let minutes : TimeSpec := ⟨.commit, .readable true .minutes (some '-') false⟩
    let zone : Zone := .summer (-18000)
    let firstPass : Timestamp := ⟨⟨1699162210, 0⟩, 0⟩
    TimeSpec.read "c:d7h:2020" = .ok dotted ∧ afternoon.instant.InRange ∧
      ¬ afternoon.instant.isLeapSecond ∧ dotted.scheme.encode zone afternoon = .ok "1290.1" ∧
      dotted.scheme.decode zone "1290.1" = .ok ⟨1689318000, 0⟩ ∧
      TimeSpec.read "c:ymdhm-" = .ok minutes ∧ firstPass.instant.InRange ∧
      ¬ firstPass.instant.isLeapSecond ∧
      minutes.scheme.encode zone firstPass = .ok "2023-11-05-01-30" ∧
      ∃ t', minutes.scheme.decode zone "2023-11-05-01-30" = .ok t' ∧
        minutes.scheme.encode zone ⟨t', 0⟩ = .ok "2023-11-05-01-30" := by
  intro dotted afternoon minutes zone firstPass
  have hdotted : TimeSpec.read "c:d7h:2020" = .ok dotted :=
    Fallible.eq_ok_of_toOption (by decide +kernel)
  have hafternoon : afternoon.instant.InRange := by decide
  have hafternoonLeap : ¬ afternoon.instant.isLeapSecond := by decide
  have hindex : dotted.scheme.encode zone afternoon = .ok "1290.1" :=
    Fallible.eq_ok_of_toOption (by decide +kernel)
  have hstart := TimeSpec.written_reads_back hdotted zone hafternoon hafternoonLeap 111505651
    (by decide) "1290.1" hindex
  have hminutes : TimeSpec.read "c:ymdhm-" = .ok minutes :=
    Fallible.eq_ok_of_toOption (by decide +kernel)
  have hfirst : firstPass.instant.InRange := by decide
  have hfirstLeap : ¬ firstPass.instant.isLeapSecond := by decide
  have hwritten : minutes.scheme.encode zone firstPass = .ok "2023-11-05-01-30" :=
    Fallible.eq_ok_of_toOption (by decide +kernel)
  obtain ⟨v, t', hv, ht', hagain⟩ := TimeSpec.written_reads_back hminutes zone hfirst hfirstLeap
    (by decide) (by decide)
  rw [hwritten] at hv
  cases hv
  exact ⟨hdotted, hafternoon, hafternoonLeap, hindex, hstart, hminutes, hfirst, hfirstLeap, hwritten,
    t', ht', hagain 0⟩

end BuildVersion
