import BuildVersion.Proofs.Numeral
import BuildVersion.Proofs.TimeScheme.Counted
import BuildVersion.Proofs.TimeScheme.Limits
import BuildVersion.Proofs.TimeScheme.Readable

/-!
# Read times are written back

A scheme reads nothing that it cannot write: the time that is read of a text is written as that text
again, up to the spelling of its numbers. Main statement: `TimeSpec.read_writes_back`.
-/

namespace BuildVersion

open Text Calendar

namespace TimeScheme

/-- How a scheme spells a text that it reads: readable times as they are, numbers in plain decimal, and
the digits of a numeral in the case of the scheme, with so many zeros in front as the least length asks
for. -/
def canonical? (scheme : TimeScheme) (cs : List Char) : Option String :=
  match scheme with
  | readable _ _ _ _ => some (String.ofList cs)
  | dotted _ _ => do
    let (days, index) ← cut? '.' cs
    return toString (← integer? days) ++ "." ++ toString (← integer? index)
  | numeral _ _ _ minLength upper =>
    let digits := (Numeral.significant '0' (cs.map lowerAscii)).leftpad minLength '0'
    some (String.ofList (if upper then upperCase digits else digits))
  | hours _ _ => (integer? cs).map toString

variable {zone : Zone} {value : String} {t : Instant}

/-- The civil time that a readable scheme in local time reads of a text. -/
def localCivil? (scheme : TimeScheme) (cs : List Char) : Option Civil :=
  match scheme with
  | readable true clock separator false => readableCivil? clock separator cs
  | _ => none

lemma readable_writesBack {date : Bool} {clock : ClockFields} {separator : Option Char} {utc : Bool}
    (hsep : ∀ c ∈ separator, c = '-' ∨ c = '.' ∨ c = ':')
    (hskip : ∀ c ∈ (readable date clock separator utc).localCivil? (trim value.toList), ¬ zone.SkipsFrom c)
    (h : decode (readable date clock separator utc) zone value = .ok t) (offset : Int) :
    encode (readable date clock separator utc) zone ⟨t, offset⟩ =
      .ok (String.ofList (trim value.toList)) := by
  obtain ⟨rfl, c, hc, ht⟩ := decode_readable_eq_ok_iff.1 h
  obtain ⟨⟨hvalid, hfirst, hlast, _⟩, htext⟩ :=
    (readableCivil?_eq_some_iff fun c hc => (separator_class hsep c hc).1).1 hc
  have hprinted : printed utc zone t = c := by
    refine printed_of_meant? hvalid ?_ ht
    rintro rfl
    exact hskip c hc
  rw [← hprinted] at hfirst hlast
  have hcovers : utc = true ∨ zone.Covers t := covers_of_printed hfirst hlast
  rw [encode_readable (t := ⟨t, offset⟩) hcovers, hprinted, ← htext, String.ofList_toList]

/-- The second from which local clocks skip an hour is read, and written as the second one hour later. -/
lemma skipped_writesLater {scheme : TimeScheme} (hscheme : scheme.WellFormed) {c : Civil}
    (hc : scheme.localCivil? (trim value.toList) = some c) (hskip : zone.SkipsFrom c) :
    ∃ t, decode scheme zone value = .ok t ∧ ∀ offset, ∃ out, encode scheme zone ⟨t, offset⟩ = .ok out ∧
      scheme.localCivil? out.toList = some { c with hour := c.hour + 1 } := by
  match scheme, hscheme, hc with
  | readable true clock separator false, hscheme, hc =>
    have hsep : ∀ c ∈ separator, isDigit c = false := fun c hc => (separator_class hscheme.2 c hc).1
    obtain ⟨⟨hvalid, hfirst, hlast, hshown⟩, _⟩ := (readableCivil?_eq_some_iff hsep).1 hc
    obtain ⟨t, ht, hlater⟩ := Zone.civil_of_skipsFrom hvalid hskip
    have hcovers : zone.Covers t := Zone.covers_of_year (by rwa [hlater]) (by rwa [hlater])
    refine ⟨t, decode_readable_eq_ok_iff.2 ⟨rfl, c, hc, ht⟩, fun offset =>
      ⟨_, encode_readable (t := ⟨t, offset⟩) (.inr hcovers), ?_⟩⟩
    rw [localCivil?, show printed false zone t = _ from hlater]
    refine (readableCivil?_eq_some_iff hsep).2 ⟨⟨?_, hfirst, hlast, ?_⟩, rfl⟩
    · rw [← hlater]
      exact Zone.valid_civil zone t
    · refine ClockFields.shown_later hshown ?_
      rw [Zone.hour_of_skipsFrom hvalid hskip]
      decide

/-- What is written on a given day, at a given second of it. -/
lemma encode_dotted_addSeconds {interval baseYear days second : Nat}
    (hdays : days < BuildVersion.dayLimit) (hsecond : second < daySeconds) (offset : Int) :
    encode (dotted interval baseYear) zone
        ⟨(Instant.ofDate (base baseYear 1)).addSeconds (days * daySeconds + second : Nat), offset⟩ =
      .ok (toString days ++ "." ++ toString (second / interval)) := by
  have hpos : 0 < daySeconds := by decide
  have hquotient : (days * daySeconds + second) / daySeconds = days := by
    rw [Nat.mul_comm, Nat.mul_add_div hpos, Nat.div_eq_of_lt hsecond, Nat.add_zero]
  have hrest : (days * daySeconds + second) % daySeconds = second := by
    rw [Nat.mul_comm, Nat.mul_add_mod, Nat.mod_eq_of_lt hsecond]
  rw [encode_dotted (secondsSince_addSeconds _ _ _), hquotient, hrest, if_pos hdays]

lemma dotted_writesBack {interval baseYear : Nat} (hinterval : 1 ≤ interval)
    (h : decode (dotted interval baseYear) zone value = .ok t) (offset : Int) :
    ∃ out, canonical? (dotted interval baseYear) (trim value.toList) = some out ∧
      encode (dotted interval baseYear) zone ⟨t, offset⟩ = .ok out := by
  obtain ⟨daysText, indexText, hcut, days, index, hdays, hindex, hlimit, hday, ht⟩ :=
    (decode_dotted_eq_ok_iff hinterval).1 h
  rw [timeAfter_eq_ok_imp ht, encode_dotted_addSeconds hlimit hday, Nat.mul_div_cancel _ hinterval]
  refine ⟨_, ?_, rfl⟩
  simp only [canonical?, hcut, hdays, hindex, Option.bind_eq_bind, Option.bind_some]
  rfl

lemma numeral_writesBack {radix interval baseYear minLength : Nat} {upper : Bool}
    (hradix : 2 ≤ radix ∧ radix ≤ 36) (hinterval : 1 ≤ interval)
    (h : decode (numeral radix interval baseYear minLength upper) zone value = .ok t) (offset : Int) :
    ∃ out, canonical? (numeral radix interval baseYear minLength upper) (trim value.toList) = some out ∧
      encode (numeral radix interval baseYear minLength upper) zone ⟨t, offset⟩ = .ok out := by
  obtain ⟨ds, hds⟩ := Numeral.exists_alphabet hradix
  have halphabet := (Numeral.isAlphabet_of_alphabet hds).1
  obtain ⟨count, hcount, _, ht⟩ := (decode_numeral_eq_ok_iff hds).1 h
  rw [timeAfter_eq_ok_imp ht, encode_numeral (secondsSince_addSeconds _ _ _) hds,
    Nat.mul_div_cancel _ hinterval, halphabet.encode_of_decode hcount]
  exact ⟨_, rfl, rfl⟩

lemma hours_writesBack {baseYear baseMonth : Nat}
    (h : decode (hours baseYear baseMonth) zone value = .ok t) (offset : Int) :
    ∃ out, canonical? (hours baseYear baseMonth) (trim value.toList) = some out ∧
      encode (hours baseYear baseMonth) zone ⟨t, offset⟩ = .ok out := by
  obtain ⟨count, hcount, _, ht⟩ := decode_hours_eq_ok_iff.1 h
  rw [timeAfter_eq_ok_imp ht, encode_hours (secondsSince_addSeconds _ _ _),
    Nat.mul_div_cancel _ (by decide)]
  refine ⟨_, ?_, rfl⟩
  rw [canonical?, hcount]
  rfl

/-- On a day that can be written, the intervals that are read are those that are written. -/
lemma dotted_indices {interval baseYear days : Nat} (hinterval : 1 ≤ interval) (hbase : baseYear ≤ 9999)
    (hdays : days < BuildVersion.dayLimit) (index : Nat) :
    (∃ t, decode (dotted interval baseYear) zone (toString days ++ "." ++ toString index) = .ok t) ↔
      ∃ second, second < daySeconds ∧ ∀ offset, encode (dotted interval baseYear) zone
        ⟨(Instant.ofDate (base baseYear 1)).addSeconds (days * daySeconds + second : Nat), offset⟩ =
          .ok (toString days ++ "." ++ toString index) := by
  constructor
  · rintro ⟨t, h⟩
    obtain ⟨daysText, indexText, hcut, days', index', _, hindex, _, hday, _⟩ :=
      (decode_dotted_eq_ok_iff hinterval).1 h
    rw [cut?_trim_dotted] at hcut
    cases hcut
    rw [integer?_toDigits] at hindex
    cases hindex
    refine ⟨index * interval, hday, fun offset => ?_⟩
    rw [encode_dotted_addSeconds hdays hday, Nat.mul_div_cancel _ hinterval]
  · rintro ⟨second, hsecond, h⟩
    -- A text tells its interval, as its second number is read back.
    have htext := h 0
    rw [encode_dotted_addSeconds hdays hsecond] at htext
    have hcut := cut?_trim_dotted days (second / interval)
    rw [Except.ok.inj htext, cut?_trim_dotted] at hcut
    have hread := integer?_toDigits (second / interval)
    rw [← (Prod.mk.inj (Option.some.inj hcut)).2, integer?_toDigits] at hread
    have hindex : index = second / interval := Int.ofNat.inj (Option.some.inj hread)
    have hday : index * interval < daySeconds := by
      rw [hindex]
      exact Nat.lt_of_le_of_lt (Nat.div_mul_le_self _ _) hsecond
    have hsoon : days * daySeconds + index * interval < 31556952000 := by
      simp only [daySeconds, BuildVersion.dayLimit] at hdays hday ⊢
      omega
    exact ⟨_, (decode_dotted_eq_ok_iff hinterval).2 ⟨_, _, cut?_trim_dotted _ _, _, _,
      integer?_toDigits _, integer?_toDigits _, hdays, hday, timeAfter_eq_ok_of_lt hbase hsoon⟩⟩

/-- Every scheme within the limits writes what it has read in its own spelling, where local clocks do not skip
from it. -/
lemma writesBack {scheme : TimeScheme} (hscheme : scheme.WellFormed)
    (hskip : ∀ c ∈ scheme.localCivil? (trim value.toList), ¬ zone.SkipsFrom c)
    (h : decode scheme zone value = .ok t) (offset : Int) :
    ∃ out, canonical? scheme (trim value.toList) = some out ∧
      encode scheme zone ⟨t, offset⟩ = .ok out := by
  cases scheme with
  | readable date clock separator utc => exact ⟨_, rfl, readable_writesBack hscheme.2 hskip h offset⟩
  | dotted interval baseYear => exact dotted_writesBack hscheme.1 h offset
  | numeral radix interval baseYear minLength upper =>
    exact numeral_writesBack ⟨hscheme.1, hscheme.2.1⟩ hscheme.2.2.1 h offset
  | hours baseYear baseMonth => exact hours_writesBack h offset

end TimeScheme

/-- Whatever a placeholder asks for, a text that is read is written back in the spelling of its scheme, unless
it names the second from which local clocks skip an hour. This second is read too, and written as the one that
clocks show in its place, an hour later. Of a day that is counted the reader takes those intervals that the
writer writes on it. -/
theorem TimeSpec.read_writes_back {text : String} {spec : TimeSpec} (hread : read text = .ok spec)
    (zone : Zone) :
    (∀ value t offset, spec.scheme.decode zone value = .ok t →
      (∀ c ∈ spec.scheme.localCivil? (trim value.toList), ¬ zone.SkipsFrom c) →
      ∃ out, spec.scheme.canonical? (trim value.toList) = some out ∧
        spec.scheme.encode zone ⟨t, offset⟩ = .ok out) ∧
    (∀ value, ∀ c ∈ spec.scheme.localCivil? (trim value.toList), zone.SkipsFrom c →
      ∃ t, spec.scheme.decode zone value = .ok t ∧
        ∀ offset, ∃ out, spec.scheme.encode zone ⟨t, offset⟩ = .ok out ∧
          spec.scheme.localCivil? out.toList = some { c with hour := c.hour + 1 }) ∧
    ∀ interval baseYear, spec.scheme = .dotted interval baseYear →
      ∀ days index : Nat, days < BuildVersion.dayLimit →
        ((∃ t, spec.scheme.decode zone (toString days ++ "." ++ toString index) = .ok t) ↔
          ∃ second, second < TimeScheme.daySeconds ∧ ∀ offset, spec.scheme.encode zone
            ⟨(Instant.ofDate (TimeScheme.base baseYear 1)).addSeconds
              (days * TimeScheme.daySeconds + second : Nat), offset⟩ =
                .ok (toString days ++ "." ++ toString index)) := by
  have hscheme := wellFormed_of_read hread
  refine ⟨?_, ?_, ?_⟩
  · intro value t offset h hskip
    exact TimeScheme.writesBack hscheme hskip h offset
  · intro value c hc hskip
    exact TimeScheme.skipped_writesLater hscheme hc hskip
  · intro interval baseYear heq days index hdays
    rw [heq] at hscheme ⊢
    exact TimeScheme.dotted_indices hscheme.1 hscheme.2.2 hdays index

/-- A numeral in mixed case with surplus zeros and blanks around it, a dotted text with signs and zeros, the
last interval of a day, which the end of the day cuts short, and local times at both ends of a skipped hour. -/
theorem TimeSpec.read_writes_back_spellings :
    let numeral : TimeSpec := ⟨.build, .numeral 28 1200 2020 4 true⟩
    let dotted : TimeSpec := ⟨.commit, .dotted 25200 2020⟩
    let clock : TimeSpec := ⟨.commit, .readable true .seconds none false⟩
    let zone : Zone := .fixed 3600
    let eastern : Zone := .summer (-18000)
    let two : Civil := { date := ⟨2024, 3, 10⟩, hour := 2 }
    TimeSpec.read "b:B28-20m:2020:4" = .ok numeral ∧
      numeral.scheme.decode zone " 00003bZ\n" = .ok ⟨1581027600, 0⟩ ∧
      numeral.scheme.encode zone ⟨⟨1581027600, 0⟩, 0⟩ = .ok "03BZ" ∧
      TimeSpec.read "c:d7h:2020" = .ok dotted ∧
      dotted.scheme.decode zone "+01.-0" = .ok ⟨1577923200, 0⟩ ∧
      dotted.scheme.encode zone ⟨⟨1577923200, 0⟩, 0⟩ = .ok "1.0" ∧
      (∃ t, dotted.scheme.decode zone (toString 5 ++ "." ++ toString 3) = .ok t) ∧
      (∃ second, second < TimeScheme.daySeconds ∧ ∀ offset, dotted.scheme.encode zone
        ⟨(Instant.ofDate (TimeScheme.base 2020 1)).addSeconds
          (5 * TimeScheme.daySeconds + second : Nat), offset⟩ =
            .ok (toString 5 ++ "." ++ toString 3)) ∧
      TimeSpec.read "c:ymdhms" = .ok clock ∧
      clock.scheme.decode eastern "20240310030000" = .ok ⟨1710054000, 0⟩ ∧
      clock.scheme.encode eastern ⟨⟨1710054000, 0⟩, 0⟩ = .ok "20240310030000" ∧
      eastern.SkipsFrom two ∧ clock.scheme.localCivil? (trim "20240310020000".toList) = some two ∧
      ∃ t, clock.scheme.decode eastern "20240310020000" = .ok t ∧
        ∀ offset, ∃ out, clock.scheme.encode eastern ⟨t, offset⟩ = .ok out ∧
          clock.scheme.localCivil? out.toList = some { two with hour := 3 } := by
  intro numeral dotted clock zone eastern two
  have hnumeral : TimeSpec.read "b:B28-20m:2020:4" = .ok numeral :=
    Fallible.eq_ok_of_toOption (by decide +kernel)
  have hcount : numeral.scheme.decode zone " 00003bZ\n" = .ok ⟨1581027600, 0⟩ :=
    Fallible.eq_ok_of_toOption (by decide +kernel)
  have hdigits : numeral.scheme.canonical? (trim " 00003bZ\n".toList) = some "03BZ" := by
    decide +kernel
  obtain ⟨out, hout, hwritten⟩ :=
    (TimeSpec.read_writes_back hnumeral zone).1 _ _ 0 hcount (by rintro _ ⟨⟩)
  rw [hdigits] at hout
  cases hout
  have hdotted : TimeSpec.read "c:d7h:2020" = .ok dotted :=
    Fallible.eq_ok_of_toOption (by decide +kernel)
  have hday : dotted.scheme.decode zone "+01.-0" = .ok ⟨1577923200, 0⟩ :=
    Fallible.eq_ok_of_toOption (by decide +kernel)
  have hplain : dotted.scheme.canonical? (trim "+01.-0".toList) = some "1.0" := by
    decide +kernel
  obtain ⟨out, hout, hwritten'⟩ :=
    (TimeSpec.read_writes_back hdotted zone).1 _ _ 0 hday (by rintro _ ⟨⟩)
  rw [hplain] at hout
  cases hout
  have hlast : ∃ t, dotted.scheme.decode zone (toString 5 ++ "." ++ toString 3) = .ok t :=
    ⟨⟨1578344400, 0⟩, Fallible.eq_ok_of_toOption (by decide +kernel)⟩
  have hend := ((TimeSpec.read_writes_back hdotted zone).2.2 25200 2020 rfl 5 3 (by decide)).1 hlast
  have hclock : TimeSpec.read "c:ymdhms" = .ok clock := Fallible.eq_ok_of_toOption (by decide +kernel)
  have hthree : clock.scheme.decode eastern "20240310030000" = .ok ⟨1710054000, 0⟩ :=
    Fallible.eq_ok_of_toOption (by decide +kernel)
  have hshown : clock.scheme.localCivil? (trim "20240310030000".toList) = some { two with hour := 3 } := by
    decide +kernel
  obtain ⟨out, hout, hsame⟩ := (TimeSpec.read_writes_back hclock eastern).1 _ _ 0 hthree <| by
    rw [hshown]
    rintro _ ⟨⟩
    decide +kernel
  cases hout
  have hskip : eastern.SkipsFrom two := by decide +kernel
  have hnamed : clock.scheme.localCivil? (trim "20240310020000".toList) = some two := by decide +kernel
  have hlater := (TimeSpec.read_writes_back hclock eastern).2.1 _ two hnamed hskip
  exact ⟨hnumeral, hcount, hwritten, hdotted, hday, hwritten', hlast, hend, hclock, hthree, hsame, hskip, hnamed,
    hlater⟩

/-- Two o'clock of the night in which clocks skip an hour is read, and written as three o'clock. -/
theorem TimeSpec.read_accepts_skipped_second :
    let clock : TimeSpec := ⟨.commit, .readable true .seconds none false⟩
    let eastern : Zone := .summer (-18000)
    TimeSpec.read "\x7bc:ymdhms\x7d" = .ok clock ∧
      clock.scheme.decode eastern "20240310020000" = .ok ⟨1710054000, 0⟩ ∧
      clock.scheme.encode eastern ⟨⟨1710054000, 0⟩, 0⟩ = .ok "20240310030000" ∧
      ¬ ∃ out, clock.scheme.canonical? (trim "20240310020000".toList) = some out ∧
        clock.scheme.encode eastern ⟨⟨1710054000, 0⟩, 0⟩ = .ok out := by
  intro clock eastern
  have hread : TimeSpec.read "\x7bc:ymdhms\x7d" = .ok clock := Fallible.eq_ok_of_toOption (by decide +kernel)
  have hdecode : clock.scheme.decode eastern "20240310020000" = .ok ⟨1710054000, 0⟩ :=
    Fallible.eq_ok_of_toOption (by decide +kernel)
  have hencode : clock.scheme.encode eastern ⟨⟨1710054000, 0⟩, 0⟩ = .ok "20240310030000" :=
    Fallible.eq_ok_of_toOption (by decide +kernel)
  have hcanonical : clock.scheme.canonical? (trim "20240310020000".toList) = some "20240310020000" := by
    decide +kernel
  refine ⟨hread, hdecode, hencode, ?_⟩
  rintro ⟨out, hout, hwritten⟩
  rw [hcanonical] at hout
  cases hout
  rw [hencode] at hwritten
  exact absurd (Except.ok.inj hwritten) (by decide)

end BuildVersion
