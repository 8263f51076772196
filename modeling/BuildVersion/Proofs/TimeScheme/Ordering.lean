import BuildVersion.Proofs.Numeral.Order
import BuildVersion.Proofs.TimeScheme.Elapsed
import BuildVersion.Proofs.TimeScheme.ReadingBack

/-!
# Written times in order

Later times are not written lower, and the texts of the counted schemes change exactly where an interval starts.
An instant falls into the interval that has started last, and both the order and the change of texts follow
from the order of these starts. Main statements: texts are the same if the last starts are (`written?_eq_iff`),
these are the same if no interval starts in between (`lastStart_eq_iff`), and so for all placeholders
(`TimeSpec.written_in_order`).
-/

namespace BuildVersion

open Text Calendar

namespace ClockFields

/-- On one and the same day, clocks in order are printed in order. -/
lemma numbers_le_of_date_eq {c d : Civil} (hc : c.Valid) (hd : d.Valid) (hdate : c.date = d.date)
    (h : c.toSeconds ≤ d.toSeconds) (clock : ClockFields) :
    clock.numbers c = clock.numbers d ∨ clock.numbers c < clock.numbers d := by
  obtain ⟨_, _, hcminute, hcsecond⟩ := hc
  obtain ⟨_, _, hdminute, hdsecond⟩ := hd
  have hclock : c.hour * 3600 + c.minute * 60 + c.second ≤ d.hour * 3600 + d.minute * 60 + d.second := by
    simp only [Civil.toSeconds, hdate] at h
    omega
  cases clock <;>
    simp only [numbers, hdate, List.cons_append, List.nil_append, List.cons_lt_cons_iff, List.cons.injEq,
      List.not_lt_nil, Nat.lt_irrefl, true_and, and_true, and_false, false_or, or_false] <;>
    omega

/-- What clocks show in order is printed in order. -/
lemma numbers_le {c d : Civil} (hc : c.Valid) (hd : d.Valid) (hfirst : 0 ≤ c.date.year)
    (h : c.toSeconds ≤ d.toSeconds) (clock : ClockFields) :
    clock.numbers c = clock.numbers d ∨ clock.numbers c < clock.numbers d := by
  have hlater : [c.date.year.toNat, c.date.month, c.date.day] < [d.date.year.toNat, d.date.month, d.date.day] →
      clock.numbers c < clock.numbers d := by
    intro hlt
    exact append_lt_append (by rfl) hlt _ _
  simp only [List.cons_lt_cons_iff] at hlater
  rcases Date.le_of_dayNumber_le hc.1 hd.1 (Civil.dayNumber_le hc hd h) with
    hlt | ⟨hyear, hlt | ⟨hmonth, hday⟩⟩
  · exact .inr (hlater (.inl (by omega)))
  · exact .inr (hlater (.inr ⟨by rw [hyear], .inl hlt⟩))
  · rcases Nat.lt_or_eq_of_le hday with hlt | hday
    · exact .inr (hlater (.inr ⟨by rw [hyear], .inr ⟨hmonth, .inl hlt⟩⟩))
    · have hdate : c.date = d.date := by
        rw [show c.date = ⟨c.date.year, c.date.month, c.date.day⟩ from rfl, hyear, hmonth, hday]
      exact numbers_le_of_date_eq hc hd hdate h clock

end ClockFields

namespace TimeScheme

/-! ### Intervals -/

/-- Whether an interval starts so many seconds after the base date. Every day starts an interval of its own where
the days are counted apart. -/
def Starts (scheme : TimeScheme) (n : Nat) : Prop :=
  match scheme with
  | readable _ _ _ _ => False
  | dotted interval _ => interval ∣ n % daySeconds
  | numeral _ interval _ _ _ => interval ∣ n
  | hours _ _ => 3600 ∣ n

/-- The instants at which an interval of a scheme starts. -/
def IsBoundary (scheme : TimeScheme) (b : Instant) : Prop :=
  ∃ start, scheme.baseDate? = some start ∧ ∃ n : Nat, scheme.Starts n ∧ b = (Instant.ofDate start).addSeconds n

/-- The start of the interval that so many seconds fall into. -/
def lastStart (scheme : TimeScheme) (n : Nat) : Nat :=
  match scheme with
  | readable _ _ _ _ => n
  | dotted interval _ => n / daySeconds * daySeconds + n % daySeconds / interval * interval
  | numeral _ interval _ _ _ => n / interval * interval
  | hours _ _ => n / 3600 * 3600

variable {scheme : TimeScheme} {start : Date} {k m n : Nat}

lemma lastStart_le : scheme.lastStart n ≤ n := by
  cases scheme with
  | readable => exact Nat.le_refl n
  | dotted interval =>
    have hindex : n % daySeconds / interval * interval ≤ n % daySeconds := Nat.div_mul_le_self _ _
    have hsplit : n / daySeconds * daySeconds + n % daySeconds = n := Nat.div_add_mod' n daySeconds
    rw [lastStart]
    omega
  | numeral => exact Nat.div_mul_le_self _ _
  | hours => exact Nat.div_mul_le_self _ _

lemma starts_lastStart (hstart : scheme.baseDate? = some start) : scheme.Starts (scheme.lastStart n) := by
  cases scheme with
  | readable => cases hstart
  | dotted interval =>
    have hindex : n % daySeconds / interval * interval ≤ n % daySeconds := Nat.div_mul_le_self _ _
    have hday : n % daySeconds < daySeconds := Nat.mod_lt _ (by decide)
    rw [Starts, lastStart, Nat.mul_add_mod', Nat.mod_eq_of_lt (Nat.lt_of_le_of_lt hindex hday)]
    exact Nat.dvd_mul_left _ _
  | numeral => exact Nat.dvd_mul_left _ _
  | hours => exact Nat.dvd_mul_left _ _

lemma le_div_mul {i : Nat} (hdvd : i ∣ k) (hle : k ≤ n) : k ≤ n / i * i := by
  have hdiv : k / i * i ≤ n / i * i := Nat.mul_le_mul_right _ (Nat.div_le_div_right hle)
  rwa [Nat.div_mul_cancel hdvd] at hdiv

/-- No other interval has started since. -/
lemma le_lastStart (hk : scheme.Starts k) (hle : k ≤ n) : k ≤ scheme.lastStart n := by
  cases scheme with
  | readable => exact hk.elim
  | dotted interval =>
    have hdays : k / daySeconds ≤ n / daySeconds := Nat.div_le_div_right hle
    have hsplit : k / daySeconds * daySeconds + k % daySeconds = k := Nat.div_add_mod' k daySeconds
    have hrest : k % daySeconds < daySeconds := Nat.mod_lt _ (by decide)
    rw [lastStart]
    rcases Nat.lt_or_eq_of_le hdays with hlt | heq
    · have hday : (k / daySeconds + 1) * daySeconds ≤ n / daySeconds * daySeconds :=
        Nat.mul_le_mul_right _ hlt
      rw [Nat.add_mul, Nat.one_mul] at hday
      omega
    · have hsplit' : n / daySeconds * daySeconds + n % daySeconds = n := Nat.div_add_mod' n daySeconds
      have hindex : k % daySeconds ≤ n % daySeconds / interval * interval := by
        apply le_div_mul hk
        rw [heq] at hsplit
        omega
      rw [← heq]
      omega
  | numeral => exact le_div_mul hk hle
  | hours => exact le_div_mul hk hle

/-- The interval is the same as long as no other starts. -/
lemma lastStart_eq_iff (hstart : scheme.baseDate? = some start) (hle : m ≤ n) :
    scheme.lastStart m = scheme.lastStart n ↔ ¬ ∃ k, scheme.Starts k ∧ m < k ∧ k ≤ n := by
  constructor
  · rintro heq ⟨k, hk, hmk, hkn⟩
    have hlast : k ≤ scheme.lastStart m := by
      rw [heq]
      exact le_lastStart hk hkn
    exact absurd (Nat.le_trans hlast lastStart_le) (Nat.not_le.2 hmk)
  · intro hnone
    have hearly : scheme.lastStart n ≤ m :=
      Nat.not_lt.1 fun hlt => hnone ⟨_, starts_lastStart hstart, hlt, lastStart_le⟩
    exact Nat.le_antisymm (le_lastStart (starts_lastStart hstart) (Nat.le_trans lastStart_le hle))
      (le_lastStart (starts_lastStart hstart) hearly)

/-! ### Texts -/

/-- The days and the index that a dotted text holds. -/
def dottedNumbers? (v : String) : Option (Nat × Nat) := do
  let (days, index) ← cut? '.' v.toList
  return (← natural? days, ← natural? index)

/-- How two texts of a scheme are in order: readable ones as they stand, counted ones by the numbers that they
hold. Numerals of one length, as all are that fit the least length, are also in order as they stand. -/
def InOrder (scheme : TimeScheme) (v w : String) : Prop :=
  match scheme with
  | readable _ _ _ _ => v ≤ w
  | dotted _ _ =>
    ∃ days index days' index', dottedNumbers? v = some (days, index) ∧
      dottedNumbers? w = some (days', index') ∧ (days < days' ∨ days = days' ∧ index ≤ index')
  | numeral radix _ _ minLength _ =>
    ∃ ds count count', Numeral.alphabet radix = .ok ds ∧ Numeral.decode ds v.toList = .ok count ∧
      Numeral.decode ds w.toList = .ok count' ∧ count ≤ count' ∧
      (count' < radix ^ minLength → v.length = w.length) ∧ (v.length = w.length → v ≤ w)
  | hours _ _ =>
    ∃ count count', natural? v.toList = some count ∧ natural? w.toList = some count' ∧ count ≤ count'

variable {v w : String}

lemma dottedNumbers?_text (days index : Nat) :
    dottedNumbers? (toString days ++ "." ++ toString index) = some (days, index) := by
  rw [dottedNumbers?, cut?_dotted]
  simp [natural?_toDigits]

lemma natural?_toString (count : Nat) : natural? (toString count).toList = some count := by
  rw [toList_toString, natural?_toDigits]

lemma written?_numeral {radix interval baseYear minLength : Nat} {upper : Bool} {ds : List Char}
    (hds : Numeral.alphabet radix = .ok ds) :
    (numeral radix interval baseYear minLength upper).written? n =
      some (String.ofList (Numeral.cased upper (Numeral.encode ds (n / interval) minLength))) := by
  rw [written?, hds]
  rfl

lemma written?_dotted_eq_some {interval baseYear : Nat} (h : (dotted interval baseYear).written? n = some v) :
    v = toString (n / daySeconds) ++ "." ++ toString (n % daySeconds / interval) := by
  rw [written?] at h
  split at h
  · exact (Option.some.inj h).symm
  · cases h

lemma dottedText_inj {days index days' index' : Nat}
    (h : toString days ++ "." ++ toString index = toString days' ++ "." ++ toString index') :
    days = days' ∧ index = index' := by
  have hnumbers := congrArg dottedNumbers? h
  rw [dottedNumbers?_text, dottedNumbers?_text, Option.some.injEq, Prod.mk.injEq] at hnumbers
  exact hnumbers

/-- The start of an interval of a day tells the day and the interval. -/
lemma dottedStart_inj {interval : Nat} (hinterval : 1 ≤ interval)
    (h : m / daySeconds * daySeconds + m % daySeconds / interval * interval =
      n / daySeconds * daySeconds + n % daySeconds / interval * interval) :
    m / daySeconds = n / daySeconds ∧ m % daySeconds / interval = n % daySeconds / interval := by
  have hindex : ∀ l, l % daySeconds / interval * interval < 86400 := fun l =>
    Nat.lt_of_le_of_lt (Nat.div_mul_le_self _ _) (Nat.mod_lt _ (by decide))
  have hm := hindex m
  have hn := hindex n
  simp only [daySeconds] at h hm hn ⊢
  have hrest : m % 86400 / interval * interval = n % 86400 / interval * interval := by omega
  exact ⟨by omega, Nat.eq_of_mul_eq_mul_right hinterval hrest⟩

/-- A text says in which interval the seconds lie, and nothing else. -/
lemma written?_eq_iff (hscheme : scheme.WellFormed) (hlimit : n < signedLimit) (hle : m ≤ n)
    (hv : scheme.written? m = some v) (hw : scheme.written? n = some w) :
    v = w ↔ scheme.lastStart m = scheme.lastStart n := by
  cases scheme with
  | readable => cases hv
  | dotted interval baseYear =>
    obtain rfl := written?_dotted_eq_some hv
    obtain rfl := written?_dotted_eq_some hw
    rw [lastStart, lastStart]
    constructor
    · intro heq
      obtain ⟨hdays, hindex⟩ := dottedText_inj heq
      rw [hdays, hindex]
    · intro heq
      obtain ⟨hdays, hindex⟩ := dottedStart_inj hscheme.1 heq
      rw [hdays, hindex]
  | numeral radix interval baseYear minLength upper =>
    obtain ⟨hradix, hradix', hinterval, _⟩ := hscheme
    obtain ⟨ds, hds⟩ := Numeral.exists_alphabet ⟨hradix, hradix'⟩
    have halphabet := (Numeral.isAlphabet_of_alphabet hds).1
    have hm : m / interval < wordLimit := div_lt_wordLimit (Nat.lt_of_le_of_lt hle hlimit)
    have hn : n / interval < wordLimit := div_lt_wordLimit hlimit
    rw [written?_numeral hds] at hv hw
    cases hv
    cases hw
    rw [lastStart, lastStart]
    constructor
    · intro heq
      rw [halphabet.cased_encode_inj hm hn (String.ofList_inj.1 heq)]
    · intro heq
      rw [Nat.eq_of_mul_eq_mul_right hinterval heq]
  | hours baseYear baseMonth =>
    cases hv
    cases hw
    rw [lastStart, lastStart]
    constructor
    · intro heq
      have hdigits := congrArg String.toList heq
      rw [toList_toString, toList_toString] at hdigits
      rw [toDigits_inj hdigits]
    · intro heq
      rw [Nat.eq_of_mul_eq_mul_right (by decide) heq]

/-- What counts more seconds is not written lower. -/
lemma inOrder_written (hscheme : scheme.WellFormed) (hlimit : n < signedLimit) (hle : m ≤ n)
    (hv : scheme.written? m = some v) (hw : scheme.written? n = some w) : scheme.InOrder v w := by
  cases scheme with
  | readable => cases hv
  | dotted interval baseYear =>
    obtain rfl := written?_dotted_eq_some hv
    obtain rfl := written?_dotted_eq_some hw
    refine ⟨_, _, _, _, dottedNumbers?_text _ _, dottedNumbers?_text _ _, ?_⟩
    simp only [daySeconds]
    rcases Nat.lt_or_ge (m / 86400) (n / 86400) with hlt | hge
    · exact .inl hlt
    · exact .inr ⟨by omega, Nat.div_le_div_right (by omega)⟩
  | numeral radix interval baseYear minLength upper =>
    obtain ⟨hradix, hradix', _⟩ := hscheme
    obtain ⟨ds, hds⟩ := Numeral.exists_alphabet ⟨hradix, hradix'⟩
    obtain ⟨halphabet, rfl⟩ := Numeral.isAlphabet_of_alphabet hds
    have hcount : m / interval ≤ n / interval := Nat.div_le_div_right hle
    rw [written?_numeral hds] at hv hw
    cases hv
    cases hw
    simp only [InOrder, String.toList_ofList, String.length_ofList]
    refine ⟨ds, _, _, hds,
      halphabet.decode_cased (div_lt_wordLimit (Nat.lt_of_le_of_lt hle hlimit)),
      halphabet.decode_cased (div_lt_wordLimit hlimit), hcount, halphabet.length_encode_eq hcount, ?_⟩
    intro hlength
    apply le_of_eq_or_toList_lt
    rw [String.toList_ofList, String.toList_ofList]
    rcases Nat.lt_or_eq_of_le hcount with hlt | heq
    · exact .inr (Numeral.cased_lt hds hlt hlength)
    · rw [heq]
      exact .inl rfl
  | hours baseYear baseMonth =>
    cases hv
    cases hw
    exact ⟨_, _, natural?_toString _, natural?_toString _, Nat.div_le_div_right hle⟩

/-- Fields of fixed widths compare like the numbers that they hold, whatever stands between them. -/
lemma intercalate_padded_lt (separator : List Char) {widths ms ns : List Nat} (hms : List.Forall₂ Fits widths ms)
    (hns : List.Forall₂ Fits widths ns) (h : ms < ns) :
    separator.intercalate ((List.zipWith padded widths ms).map String.toList) <
      separator.intercalate ((List.zipWith padded widths ns).map String.toList) := by
  induction hns generalizing ms with
  | nil =>
    cases hms
    exact absurd h (List.not_lt_nil _)
  | @cons width n widths ns hn hns ih =>
    cases hms with
    | @cons _ m _ ms hm hms =>
      have hlength : (padded width m).toList.length = (padded width n).toList.length := by
        rw [length_padded hm.1 hm.2, length_padded hn.1 hn.2]
      simp only [List.zipWith_cons_cons, List.map_cons]
      rcases List.cons_lt_cons_iff.1 h with hlt | ⟨rfl, hlt⟩
      · have hfirst := padded_lt hm.1 hn.2 hlt
        cases hns with
        | nil =>
          cases hms
          simpa only [List.zipWith_nil_left, List.map_nil, List.intercalate_singleton] using hfirst
        | cons =>
          cases hms
          simp only [List.zipWith_cons_cons, List.map_cons, List.intercalate_cons_cons, List.append_assoc]
          exact append_lt_append hlength hfirst _ _
      · have hrest := ih hms hlt
        cases hns with
        | nil =>
          cases hms
          exact absurd hlt (List.not_lt_nil _)
        | cons =>
          cases hms
          simp only [List.zipWith_cons_cons, List.map_cons, List.intercalate_cons_cons] at hrest ⊢
          exact List.append_left_lt hrest

/-- Readable times of years with four digits are in order as texts. -/
lemma readable_le {clock : ClockFields} {separator : Option Char} {c d : Civil} (hc : c.Valid) (hd : d.Valid)
    (hfirst : 0 ≤ c.date.year) (hlast : d.date.year ≤ 9999) (h : c.toSeconds ≤ d.toSeconds) :
    (separatorText separator).intercalate (readableFields true clock c) ≤
      (separatorText separator).intercalate (readableFields true clock d) := by
  have hyear : c.date.year ≤ d.date.year := by
    have := Date.le_of_dayNumber_le hc.1 hd.1 (Civil.dayNumber_le hc hd h)
    omega
  rw [readableFields_eq clock hfirst, readableFields_eq clock (Int.le_trans hfirst hyear)]
  apply le_of_eq_or_toList_lt
  rw [String.toList_intercalate, String.toList_intercalate]
  rcases ClockFields.numbers_le hc hd hfirst h clock with heq | hlt
  · rw [heq]
    exact .inl rfl
  · exact .inr (intercalate_padded_lt _ (numbers_fit clock hc (Int.le_trans hyear hlast))
      (numbers_fit clock hd hlast) hlt)

/-! ### Times -/

variable {zone : Zone} {s t : Timestamp}

lemma count_lt (hstart : scheme.baseDate? = some start) (hrange : t.instant.InRange)
    (h : t.instant.seconds = (Instant.ofDate start).seconds + n) : n < signedLimit := by
  cases scheme with
  | readable => cases hstart
  | _ =>
    cases hstart
    exact count_lt_signedLimit hrange h

/-- Between instants on or after the base date, boundaries are the starts between their seconds. -/
lemma exists_boundary_iff (hstart : scheme.baseDate? = some start)
    (hm : s.instant.seconds = (Instant.ofDate start).seconds + m)
    (hn : t.instant.seconds = (Instant.ofDate start).seconds + n) :
    (∃ b, scheme.IsBoundary b ∧ s.instant < b ∧ b ≤ t.instant) ↔ ∃ k, scheme.Starts k ∧ m < k ∧ k ≤ n := by
  constructor
  · rintro ⟨b, ⟨start', hstart', k, hk, rfl⟩, hs, ht⟩
    obtain rfl := Option.some.inj (hstart.symm.trans hstart')
    rw [Instant.lt_addSeconds_iff] at hs
    rw [Instant.addSeconds_le_iff] at ht
    exact ⟨k, hk, by omega, by omega⟩
  · rintro ⟨k, hk, hs, ht⟩
    refine ⟨_, ⟨start, hstart, k, hk, rfl⟩, ?_, ?_⟩
    · rw [Instant.lt_addSeconds_iff]
      omega
    · rw [Instant.addSeconds_le_iff]
      omega

/-- From the base date on, what is written is what is counted. -/
lemma exists_count (hscheme : scheme.WellFormed) (hstart : scheme.baseDate? = some start)
    (hleap : ¬ t.instant.isLeapSecond) (hfrom : Instant.ofDate start ≤ t.instant)
    (hv : scheme.encode zone t = .ok v) :
    ∃ n : Nat, t.instant.seconds = (Instant.ofDate start).seconds + n ∧ scheme.written? n = some v := by
  rw [Instant.ofDate_le_iff] at hfrom
  obtain ⟨n, hn⟩ := Int.eq_ofNat_of_zero_le (Int.sub_nonneg_of_le hfrom)
  have hseconds : t.instant.seconds = (Instant.ofDate start).seconds + n := by omega
  obtain ⟨n', hn', hwritten⟩ := (encode_eq_ok_iff_written hscheme hstart).1 hv
  rw [secondsSince_eq_ok hleap hseconds] at hn'
  cases hn'
  exact ⟨n, hseconds, hwritten⟩

end TimeScheme

open TimeScheme in
/-- Whatever a placeholder counts, times from its base date on are written in order, and two of them alike as long as
no interval starts in between. Dates in UTC of years with four digits are in order as they stand. -/
theorem TimeSpec.written_in_order {text : String} {spec : TimeSpec} (hread : read text = .ok spec) (zone : Zone)
    {s t : Timestamp} (hrange : t.instant.InRange) (hsleap : ¬ s.instant.isLeapSecond)
    (htleap : ¬ t.instant.isLeapSecond) (hle : s.instant ≤ t.instant) {v w : String}
    (hv : spec.scheme.encode zone s = .ok v) (hw : spec.scheme.encode zone t = .ok w) :
    (∀ start, spec.scheme.baseDate? = some start → Instant.ofDate start ≤ s.instant →
      spec.scheme.InOrder v w ∧
        (v = w ↔ ¬ ∃ b, spec.scheme.IsBoundary b ∧ s.instant < b ∧ b ≤ t.instant)) ∧
    (∀ clock separator, spec.scheme = .readable true clock separator true →
      0 ≤ s.instant.civil.date.year → t.instant.civil.date.year ≤ 9999 → spec.scheme.InOrder v w) := by
  have hscheme := wellFormed_of_read hread
  have hseconds := Instant.seconds_le hle
  constructor
  · intro start hstart hfrom
    have hfrom' : Instant.ofDate start ≤ t.instant := by
      rw [Instant.ofDate_le_iff] at hfrom ⊢
      omega
    obtain ⟨m, hm, hmv⟩ := exists_count hscheme hstart hsleap hfrom hv
    obtain ⟨n, hn, hnw⟩ := exists_count hscheme hstart htleap hfrom' hw
    have hmn : m ≤ n := by omega
    have hlimit := count_lt hstart hrange hn
    refine ⟨inOrder_written hscheme hlimit hmn hmv hnw, ?_⟩
    rw [written?_eq_iff hscheme hlimit hmn hmv hnw, lastStart_eq_iff hstart hmn,
      exists_boundary_iff hstart hm hn]
  · intro clock separator hreadable hfirst hlast
    rw [hreadable, encode_readable_eq_ok_iff] at hv hw
    obtain ⟨⟨_, rfl⟩, _, rfl⟩ := And.intro hv hw
    rw [hreadable]
    apply readable_le (valid_printed true zone _) (valid_printed true zone _) hfirst hlast
    rwa [toSeconds_printed_utc, toSeconds_printed_utc]

/-- Half a second before midnight and at midnight: the days go on where the last interval of seven hours is cut short,
and the quarters of an hour as numerals of one length, in upper case and without vowels. -/
theorem TimeSpec.written_in_order_midnight :
    let dotted : TimeSpec := ⟨.commit, .dotted 25200 2020⟩
    let numeral : TimeSpec := ⟨.build, .numeral 28 900 2020 3 true⟩
    let readable : TimeSpec := ⟨.author, .readable true .minutes (some '.') true⟩
    let evening : Timestamp := ⟨⟨1577923199, 500000000⟩, 3600⟩
    let midnight : Timestamp := ⟨⟨1577923200, 0⟩, -18000⟩
    midnight.instant.InRange ∧ ¬ evening.instant.isLeapSecond ∧ ¬ midnight.instant.isLeapSecond ∧
      evening.instant ≤ midnight.instant ∧
      TimeSpec.read "c:d7h:2020" = .ok dotted ∧ dotted.scheme.InOrder "0.3" "1.0" ∧
      (∃ b, dotted.scheme.IsBoundary b ∧ evening.instant < b ∧ b ≤ midnight.instant) ∧
      TimeSpec.read "b:B28-15m:2020:3" = .ok numeral ∧ numeral.scheme.InOrder "03C" "03D" ∧
      TimeSpec.read "au:ymdhm." = .ok readable ∧
      readable.scheme.InOrder "2020.01.01.23.59" "2020.01.02.00.00" := by
  intro dotted numeral readable evening midnight
  have hdotted : TimeSpec.read "c:d7h:2020" = .ok dotted := Fallible.eq_ok_of_toOption (by decide +kernel)
  have hnumeral : TimeSpec.read "b:B28-15m:2020:3" = .ok numeral :=
    Fallible.eq_ok_of_toOption (by decide +kernel)
  have hreadable : TimeSpec.read "au:ymdhm." = .ok readable := Fallible.eq_ok_of_toOption (by decide +kernel)
  have hrange : midnight.instant.InRange := by decide
  have hevening : ¬ evening.instant.isLeapSecond := by decide
  have hmidnight : ¬ midnight.instant.isLeapSecond := by decide
  have hle : evening.instant ≤ midnight.instant := by decide
  have hindex := (TimeSpec.written_in_order hdotted (.fixed 0) hrange hevening hmidnight hle (v := "0.3")
    (w := "1.0") (Fallible.eq_ok_of_toOption (by decide +kernel))
    (Fallible.eq_ok_of_toOption (by decide +kernel))).1 _ rfl (by decide)
  have hcount := (TimeSpec.written_in_order hnumeral (.fixed 0) hrange hevening hmidnight hle (v := "03C")
    (w := "03D") (Fallible.eq_ok_of_toOption (by decide +kernel))
    (Fallible.eq_ok_of_toOption (by decide +kernel))).1 _ rfl (by decide)
  have hclock := (TimeSpec.written_in_order hreadable (.fixed 0) hrange hevening hmidnight hle
    (v := "2020.01.01.23.59") (w := "2020.01.02.00.00") (Fallible.eq_ok_of_toOption (by decide +kernel))
    (Fallible.eq_ok_of_toOption (by decide +kernel))).2 _ _ rfl (by decide) (by decide)
  have hboundary := mt hindex.2.2 (by decide)
  exact ⟨hrange, hevening, hmidnight, hle, hdotted, hindex.1, Classical.not_not.1 hboundary, hnumeral, hcount.1,
    hreadable, hclock⟩

end BuildVersion
