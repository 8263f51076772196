import BuildVersion.Proofs.Fallible
import BuildVersion.Proofs.Text.Pieces
import BuildVersion.Proofs.TimeScheme.Grammar

/-!
# Reading time schemes by their patterns

Each pattern reads the texts that fit it, and accepts those with values within the limits. A text fits one
pattern at most, so the order in which they are tried does not matter. Main statements: `read_eq_findSome?` and
`read_eq_ok_iff`.
-/

namespace BuildVersion

open Text

namespace TimeScheme

/-! ### Reading the patterns -/

lemma readHours?_eq_some_iff {body : List Char} {year month : Nat} :
    readHours? body = some (year, month) ↔ HoursBody body year month := by
  constructor
  · intro h
    unfold readHours? at h
    split at h
    · cases h
      exact .year .default
    · next rest =>
      split at h
      · obtain ⟨y, hy, he⟩ := Option.map_eq_some_iff.1 h
        cases he
        exact .year (.year (readYear?_eq_some_iff.1 hy))
      · next ys ms hcut =>
        obtain ⟨y, hy, h⟩ := Option.bind_eq_some_iff.1 h
        obtain ⟨m, hm, he⟩ := Option.bind_eq_some_iff.1 h
        cases he
        rw [(cut?_eq_some_iff.1 hcut).1]
        exact .month (readYear?_eq_some_iff.1 hy) (readSmall?_eq_some_iff.1 hm)
    · cases h
  · intro h
    cases h with
    | year hyear =>
      cases hyear with
      | default => rfl
      | @year ys year hyear =>
        have hcut : cut? '-' ys = none := cut?_eq_none_iff.2 (hyear.1.notMem (by decide))
        rw [readHours?]
        simp only [hcut, readYear?_eq_some_iff.2 hyear]
        rfl
    | @month ys ms year month hyear hmonth =>
      have hcut : cut? '-' (ys ++ '-' :: ms) = some (ys, ms) :=
        cut?_eq_some_iff.2 ⟨rfl, hyear.1.notMem (by decide)⟩
      rw [readHours?]
      simp only [hcut, readYear?_eq_some_iff.2 hyear, readSmall?_eq_some_iff.2 hmonth]
      rfl

lemma readDotted?_eq_some_iff {body : List Char} {i : IntervalText} {year : Nat} :
    readDotted? body = some (i, year) ↔
      ∃ ys, i.Proper ∧ IsYearPart ys year ∧ body = 'd' :: (i.text ++ ys) := by
  constructor
  · intro h
    unfold readDotted? at h
    split at h
    · obtain ⟨⟨j, ys⟩, hinterval, hyear⟩ := Option.bind_eq_some_iff.1 h
      obtain ⟨hproper, rfl⟩ := readInterval?_eq_some_iff.1 hinterval
      simp only at hyear
      split at hyear
      · cases hyear
        exact ⟨[], hproper, .default, rfl⟩
      · obtain ⟨y, hy, he⟩ := Option.bind_eq_some_iff.1 hyear
        cases he
        exact ⟨_, hproper, .year (readYear?_eq_some_iff.1 hy), rfl⟩
      · cases hyear
    · cases h
  · rintro ⟨ys, hproper, hyear, rfl⟩
    have hinterval : readInterval? (i.text ++ ys) = some (i, ys) := readInterval?_eq_some_iff.2 ⟨hproper, rfl⟩
    rw [readDotted?, hinterval]
    cases hyear with
    | default => rfl
    | year hyear => simp [readYear?_eq_some_iff.2 hyear]

lemma readNumeral?_eq_some_iff {body : List Char} {t : NumeralText} :
    readNumeral? body = some t ↔
      ∃ bs ps, IsSmall bs t.base ∧ t.interval.Proper ∧ IsNumeralPart ps t.baseYear t.minLength ∧
        body = (if t.upper then 'B' else 'b') :: (bs ++ '-' :: (t.interval.text ++ ps)) := by
  constructor
  · intro h
    unfold readNumeral? at h
    split at h
    · next mark rest =>
      split at h
      · next hmark =>
        obtain ⟨⟨bs, rest'⟩, hcut, hrest⟩ := Option.bind_eq_some_iff.1 h
        obtain ⟨base, hbase, hinterval⟩ := Option.bind_eq_some_iff.1 hrest
        obtain ⟨⟨i, ps⟩, hread, hpart⟩ := Option.bind_eq_some_iff.1 hinterval
        obtain ⟨hproper, rfl⟩ := readInterval?_eq_some_iff.1 hread
        have hbody : mark :: rest =
            (if (mark == 'B') = true then 'B' else 'b') :: (bs ++ '-' :: (i.text ++ ps)) := by
          rw [(cut?_eq_some_iff.1 hcut).1]
          rcases hmark with rfl | rfl <;> rfl
        have hsmall := readSmall?_eq_some_iff.1 hbase
        simp only at hpart
        split at hpart
        · cases hpart
          exact ⟨bs, [], hsmall, hproper, .year .default, hbody⟩
        · split at hpart
          · obtain ⟨y, hy, he⟩ := Option.bind_eq_some_iff.1 hpart
            cases he
            exact ⟨bs, _, hsmall, hproper, .year (.year (readYear?_eq_some_iff.1 hy)), hbody⟩
          · next ys ls hcolon =>
            obtain ⟨y, hy, hlength⟩ := Option.bind_eq_some_iff.1 hpart
            obtain ⟨n, hn, he⟩ := Option.bind_eq_some_iff.1 hlength
            cases he
            rw [(cut?_eq_some_iff.1 hcolon).1] at hbody
            exact ⟨bs, _, hsmall, hproper,
              .length (readYear?_eq_some_iff.1 hy) (readSmall?_eq_some_iff.1 hn), hbody⟩
        · cases hpart
      · cases h
    · cases h
  · rintro ⟨bs, ps, hbase, hproper, hpart, rfl⟩
    obtain ⟨base, interval, year, length, upper⟩ := t
    have hmark : (if upper then 'B' else 'b') = 'b' ∨ (if upper then 'B' else 'b') = 'B' := by
      cases upper
      · exact .inl rfl
      · exact .inr rfl
    have hupper : ((if upper then 'B' else 'b') == 'B') = upper := by cases upper <;> rfl
    have hcut : cut? '-' (bs ++ '-' :: (interval.text ++ ps)) = some (bs, interval.text ++ ps) :=
      cut?_eq_some_iff.2 ⟨rfl, hbase.1.notMem (by decide)⟩
    have hinterval : readInterval? (interval.text ++ ps) = some (interval, ps) :=
      readInterval?_eq_some_iff.2 ⟨hproper, rfl⟩
    simp only [readNumeral?, if_pos hmark, hcut, readSmall?_eq_some_iff.2 hbase, hinterval, hupper,
      Option.bind_eq_bind, Option.bind_some]
    cases hpart with
    | year hyear =>
      cases hyear with
      | default => rfl
      | @year ys year hyear =>
        have hcolon : cut? ':' ys = none := cut?_eq_none_iff.2 (hyear.1.notMem (by decide))
        simp only [hcolon, readYear?_eq_some_iff.2 hyear]
        rfl
    | @length ys ls _ _ hyear hlength =>
      have hcolon : cut? ':' (ys ++ ':' :: ls) = some (ys, ls) :=
        cut?_eq_some_iff.2 ⟨rfl, hyear.1.notMem (by decide)⟩
      simp only [hcolon, readYear?_eq_some_iff.2 hyear, readSmall?_eq_some_iff.2 hlength]
      rfl

lemma eq_append_of_dropLetters {letters : String} {cs rest : List Char} {found : Bool}
    (h : dropLetters letters cs = (found, rest)) : cs = (if found then letters.toList else []) ++ rest := by
  unfold dropLetters at h
  split at h
  · next hrest =>
    cases h
    exact (List.isPrefixOf?_eq_some_iff_append_eq.1 hrest).symm
  · cases h
    rfl

lemma eq_append_of_readClock {cs rest : List Char} {clock : ClockFields} (h : readClock cs = (clock, rest)) :
    cs = clock.letters.toList ++ rest := by
  unfold readClock at h
  split at h
  · next hseconds =>
    cases h
    exact eq_append_of_dropLetters hseconds
  · split at h
    · next hminutes =>
      cases h
      exact eq_append_of_dropLetters hminutes
    · cases h
      rfl

lemma readSeparator?_eq_some_iff {cs : List Char} {separator : Option Char} :
    readSeparator? cs = some separator ↔
      cs = separator.toList ∧ ∀ c ∈ separator, c = '-' ∨ c = '.' ∨ c = ':' := by
  constructor
  · intro h
    unfold readSeparator? at h
    split at h
    · cases h
      exact ⟨rfl, nofun⟩
    · next c =>
      split at h
      · next hc =>
        cases h
        refine ⟨rfl, fun d hd => ?_⟩
        cases hd
        exact hc
      · cases h
    · cases h
  · rintro ⟨rfl, h⟩
    cases separator with
    | none => rfl
    | some c => exact if_pos (h c rfl)

lemma separator_cases {separator : Option Char} (h : ∀ c ∈ separator, c = '-' ∨ c = '.' ∨ c = ':') :
    separator = none ∨ separator = some '-' ∨ separator = some '.' ∨ separator = some ':' := by
  cases separator with
  | none => exact .inl rfl
  | some c => obtain rfl | rfl | rfl := h c rfl <;> simp

/-- No separator is the first letter of a field. -/
lemma readClock_letters {clock : ClockFields} {separator : Option Char}
    (h : ∀ c ∈ separator, c = '-' ∨ c = '.' ∨ c = ':') :
    readClock (clock.letters.toList ++ separator.toList) = (clock, separator.toList) := by
  obtain rfl | rfl | rfl | rfl := separator_cases h <;> cases clock <;> rfl

lemma dropLetters_date {date : Bool} {clock : ClockFields} {separator : Option Char}
    (h : ∀ c ∈ separator, c = '-' ∨ c = '.' ∨ c = ':') :
    dropLetters "ymd" ((if date then ['y', 'm', 'd'] else []) ++ (clock.letters.toList ++ separator.toList)) =
      (date, clock.letters.toList ++ separator.toList) := by
  cases date with
  | true => rfl
  | false => obtain rfl | rfl | rfl | rfl := separator_cases h <;> cases clock <;> rfl

lemma readReadable?_eq_some_iff {body : List Char} {utc : Bool} {scheme : TimeScheme} :
    readReadable? body utc = some scheme ↔
      ∃ date clock separator, ReadableBody body date clock separator ∧
        scheme = .readable date clock separator utc := by
  constructor
  · intro h
    unfold readReadable? at h
    obtain ⟨⟨date, rest⟩, hdate⟩ : ∃ read, dropLetters "ymd" body = read := ⟨_, rfl⟩
    obtain ⟨⟨clock, rest'⟩, hclock⟩ : ∃ read, readClock rest = read := ⟨_, rfl⟩
    simp only [hdate, hclock] at h
    split at h
    · next separator hseparator =>
      split at h
      · next hfields =>
        cases h
        obtain ⟨rfl, hclass⟩ := readSeparator?_eq_some_iff.1 hseparator
        obtain rfl := eq_append_of_readClock hclock
        obtain rfl := eq_append_of_dropLetters hdate
        exact ⟨date, clock, separator, .mk hfields hclass, rfl⟩
      · cases h
    · cases h
  · rintro ⟨date, clock, separator, ⟨hfields, hclass⟩, rfl⟩
    rw [readReadable?, dropLetters_date hclass]
    simp only [readClock_letters hclass, readSeparator?_eq_some_iff.2 ⟨rfl, hclass⟩]
    exact if_pos hfields

/-! ### Trying the patterns -/

namespace Pattern

/-- The scheme of a text that is written by a pattern, or what is wrong with its values. -/
def read? (utc : Bool) (body : List Char) : Pattern → Option (Except SchemeFault TimeScheme)
  | hours => (readHours? body).map fun (year, month) =>
    if 1 ≤ month ∧ month ≤ 12 then .ok (.hours year month) else .error (.baseMonth month)
  | dotted => (readDotted? body).map fun (interval, year) => do
    let seconds ← interval.seconds
    if seconds ≤ daySeconds then return .dotted seconds year else throw .longInterval
  | numeral => (readNumeral? body).map fun text =>
    if 2 ≤ text.base ∧ text.base ≤ 36 then do
      let seconds ← text.interval.seconds
      return .numeral text.base seconds text.baseYear text.minLength text.upper
    else .error (.base text.base)
  | readable => (readReadable? body utc).map .ok

variable {utc : Bool} {body : List Char} {scheme : TimeScheme} {p q : Pattern}

/-- A pattern reads the texts that fit it, if only to refuse their values. -/
lemma isSome_read?_iff : (p.read? utc body).isSome = true ↔ p.Fits body := by
  cases p with
  | hours =>
    rw [read?, Option.isSome_map, Option.isSome_iff_exists]
    constructor
    · rintro ⟨⟨year, month⟩, hread⟩
      exact ⟨year, month, readHours?_eq_some_iff.1 hread⟩
    · rintro ⟨year, month, hbody⟩
      exact ⟨(year, month), readHours?_eq_some_iff.2 hbody⟩
  | dotted =>
    rw [read?, Option.isSome_map, Option.isSome_iff_exists]
    constructor
    · rintro ⟨⟨i, year⟩, hread⟩
      obtain ⟨ys, hproper, hyear, rfl⟩ := readDotted?_eq_some_iff.1 hread
      exact ⟨i.total, year, .mk hproper.isInterval hyear⟩
    · rintro ⟨interval, year, his, hyear⟩
      obtain ⟨i, hproper, rfl, _⟩ := exists_of_isInterval his
      exact ⟨(i, year), readDotted?_eq_some_iff.2 ⟨_, hproper, hyear, rfl⟩⟩
  | numeral =>
    rw [read?, Option.isSome_map, Option.isSome_iff_exists]
    constructor
    · rintro ⟨t, hread⟩
      obtain ⟨bs, ps, hbase, hproper, hpart, rfl⟩ := readNumeral?_eq_some_iff.1 hread
      exact ⟨_, _, _, _, _, .mk t.upper hbase hproper.isInterval hpart⟩
    · rintro ⟨base, interval, year, length, upper, _, hbase, his, hpart⟩
      obtain ⟨i, hproper, rfl, _⟩ := exists_of_isInterval his
      exact ⟨⟨base, i, year, length, upper⟩, readNumeral?_eq_some_iff.2 ⟨_, _, hbase, hproper, hpart, rfl⟩⟩
  | readable =>
    rw [read?, Option.isSome_map, Option.isSome_iff_exists]
    constructor
    · rintro ⟨_, hread⟩
      obtain ⟨date, clock, separator, hbody, _⟩ := readReadable?_eq_some_iff.1 hread
      exact ⟨date, clock, separator, hbody⟩
    · rintro ⟨date, clock, separator, hbody⟩
      exact ⟨_, readReadable?_eq_some_iff.2 ⟨date, clock, separator, hbody, rfl⟩⟩

/-- At most one pattern reads a text. -/
lemma read?_unique {r s : Except SchemeFault TimeScheme} (hp : p.read? utc body = some r)
    (hq : q.read? utc body = some s) : r = s := by
  obtain rfl : p = q :=
    (isSome_read?_iff.1 (Option.isSome_of_eq_some hp)).unique (isSome_read?_iff.1 (Option.isSome_of_eq_some hq))
  exact Option.some.inj (hp.symm.trans hq)

lemma hours_read?_eq_ok_iff :
    hours.read? utc body = some (.ok scheme) ↔
      ∃ year month, HoursBody body year month ∧ (1 ≤ month ∧ month ≤ 12) ∧ scheme = .hours year month := by
  rw [read?, Option.map_eq_some_iff]
  constructor
  · rintro ⟨⟨year, month⟩, hread, h⟩
    simp only at h
    split at h
    · next hmonth =>
      cases h
      exact ⟨year, month, readHours?_eq_some_iff.1 hread, hmonth, rfl⟩
    · cases h
  · rintro ⟨year, month, hbody, hmonth, rfl⟩
    exact ⟨(year, month), readHours?_eq_some_iff.2 hbody, if_pos hmonth⟩

lemma dotted_read?_eq_ok_iff :
    dotted.read? utc body = some (.ok scheme) ↔
      ∃ interval year, DottedBody body interval year ∧ (1 ≤ interval ∧ interval ≤ 86400) ∧
        scheme = .dotted interval year := by
  rw [read?, Option.map_eq_some_iff]
  constructor
  · rintro ⟨⟨i, year⟩, hread, h⟩
    obtain ⟨seconds, hseconds, h⟩ := Fallible.bind_eq_ok_iff.1 h
    obtain ⟨htotal, hpos, _⟩ := IntervalText.seconds_eq_ok_iff.1 hseconds
    obtain ⟨ys, hproper, hyear, rfl⟩ := readDotted?_eq_some_iff.1 hread
    split at h
    · next hday =>
      cases h
      exact ⟨seconds, year, .mk (htotal ▸ hproper.isInterval) hyear, ⟨hpos, hday⟩, rfl⟩
    · cases h
  · rintro ⟨interval, year, ⟨his, hyear⟩, ⟨hpos, hday⟩, rfl⟩
    obtain ⟨i, hproper, rfl, htotal⟩ := exists_of_isInterval his
    have hseconds : i.seconds = .ok interval := IntervalText.seconds_eq_ok_iff.2 ⟨htotal, hpos, by omega⟩
    refine ⟨(i, year), readDotted?_eq_some_iff.2 ⟨_, hproper, hyear, rfl⟩, ?_⟩
    exact Fallible.bind_eq_ok_iff.2 ⟨interval, hseconds, if_pos hday⟩

lemma numeral_read?_eq_ok_iff :
    numeral.read? utc body = some (.ok scheme) ↔
      ∃ base interval year length upper, NumeralBody body base interval year length upper ∧
        (2 ≤ base ∧ base ≤ 36) ∧ (1 ≤ interval ∧ interval ≤ 2 ^ 63 - 1) ∧
          scheme = .numeral base interval year length upper := by
  rw [read?, Option.map_eq_some_iff]
  constructor
  · rintro ⟨t, hread, h⟩
    obtain ⟨bs, ps, hbase, hproper, hpart, rfl⟩ := readNumeral?_eq_some_iff.1 hread
    split at h
    · next hlimit =>
      obtain ⟨seconds, hseconds, h⟩ := Fallible.bind_eq_ok_iff.1 h
      obtain ⟨htotal, hbounds⟩ := IntervalText.seconds_eq_ok_iff.1 hseconds
      cases h
      exact ⟨_, _, _, _, _, .mk t.upper hbase (htotal ▸ hproper.isInterval) hpart, hlimit, hbounds, rfl⟩
    · cases h
  · rintro ⟨base, interval, year, length, upper, ⟨_, hbase, his, hpart⟩, hlimit, hbounds, rfl⟩
    obtain ⟨i, hproper, rfl, htotal⟩ := exists_of_isInterval his
    have hseconds : i.seconds = .ok interval := IntervalText.seconds_eq_ok_iff.2 ⟨htotal, hbounds⟩
    refine ⟨⟨base, i, year, length, upper⟩,
      readNumeral?_eq_some_iff.2 ⟨_, _, hbase, hproper, hpart, rfl⟩, ?_⟩
    rw [if_pos hlimit]
    exact Fallible.bind_eq_ok_iff.2 ⟨interval, hseconds, rfl⟩

lemma readable_read?_eq_ok_iff :
    readable.read? utc body = some (.ok scheme) ↔
      ∃ date clock separator, ReadableBody body date clock separator ∧
        scheme = .readable date clock separator utc := by
  rw [read?, Option.map_eq_some_iff, ← readReadable?_eq_some_iff]
  constructor
  · rintro ⟨_, hread, h⟩
    cases h
    exact hread
  · exact fun hread => ⟨scheme, hread, rfl⟩

/-- The patterns read what is spelled, each its own schemes. -/
lemma exists_read?_eq_ok_iff : (∃ p : Pattern, p.read? utc body = some (.ok scheme)) ↔ Spells utc body scheme := by
  constructor
  · rintro ⟨p, h⟩
    cases p with
    | hours =>
      obtain ⟨_, _, hbody, hmonth, rfl⟩ := hours_read?_eq_ok_iff.1 h
      exact .hours hbody hmonth
    | dotted =>
      obtain ⟨_, _, hbody, hinterval, rfl⟩ := dotted_read?_eq_ok_iff.1 h
      exact .dotted hbody hinterval
    | numeral =>
      obtain ⟨_, _, _, _, _, hbody, hbase, hinterval, rfl⟩ := numeral_read?_eq_ok_iff.1 h
      exact .numeral hbody hbase hinterval
    | readable =>
      obtain ⟨_, _, _, hbody, rfl⟩ := readable_read?_eq_ok_iff.1 h
      exact .readable hbody
  · intro h
    cases h with
    | hours hbody hmonth => exact ⟨hours, hours_read?_eq_ok_iff.2 ⟨_, _, hbody, hmonth, rfl⟩⟩
    | dotted hbody hinterval => exact ⟨dotted, dotted_read?_eq_ok_iff.2 ⟨_, _, hbody, hinterval, rfl⟩⟩
    | numeral hbody hbase hinterval =>
      exact ⟨numeral, numeral_read?_eq_ok_iff.2 ⟨_, _, _, _, _, hbody, hbase, hinterval, rfl⟩⟩
    | readable hbody => exact ⟨readable, readable_read?_eq_ok_iff.2 ⟨_, _, _, hbody, rfl⟩⟩

/-- In whatever order the patterns are tried, the first one that reads a text is the only one. -/
lemma findSome?_read?_eq_some_iff {order : List Pattern} (horder : ∀ p, p ∈ order)
    {r : Except SchemeFault TimeScheme} :
    order.findSome? (read? utc body) = some r ↔ ∃ p : Pattern, p.read? utc body = some r := by
  constructor
  · intro h
    obtain ⟨p, _, hread⟩ := List.exists_of_findSome?_eq_some h
    exact ⟨p, hread⟩
  · rintro ⟨p, hread⟩
    cases hfirst : order.findSome? (read? utc body) with
    | none =>
      rw [List.findSome?_eq_none_iff.1 hfirst p (horder p)] at hread
      cases hread
    | some s =>
      obtain ⟨q, _, hq⟩ := List.exists_of_findSome?_eq_some hfirst
      rw [read?_unique hread hq]

lemma findSome?_read?_eq_findSome? {order order' : List Pattern} (horder : ∀ p, p ∈ order)
    (horder' : ∀ p, p ∈ order') :
    order.findSome? (read? utc body) = order'.findSome? (read? utc body) :=
  Option.ext fun _ => (findSome?_read?_eq_some_iff horder).trans (findSome?_read?_eq_some_iff horder').symm

end Pattern

/-- A scheme is what the first pattern reads that a text fits, whichever is tried first. -/
lemma read_eq_findSome? {body : List Char} {utc : Bool} {order : List Pattern} (horder : ∀ p, p ∈ order) :
    read body utc = (order.findSome? (Pattern.read? utc body)).getD (.error .unknown) := by
  rw [Pattern.findSome?_read?_eq_findSome? horder Pattern.mem_all, Pattern.all]
  unfold read
  cases hhours : readHours? body with
  | some parts => simp [Pattern.read?, hhours]
  | none =>
    cases hdotted : readDotted? body with
    | some parts => simp [Pattern.read?, hhours, hdotted]
    | none =>
      cases hnumeral : readNumeral? body with
      | some text => simp [Pattern.read?, hhours, hdotted, hnumeral]
      | none =>
        cases hreadable : readReadable? body utc with
        | some scheme => simp [Pattern.read?, hhours, hdotted, hnumeral, hreadable]
        | none => simp [Pattern.read?, hhours, hdotted, hnumeral, hreadable]

/-- The texts that are read are those that are spelled. -/
lemma read_eq_ok_iff {body : List Char} {utc : Bool} {scheme : TimeScheme} :
    read body utc = .ok scheme ↔ Spells utc body scheme := by
  rw [read_eq_findSome? Pattern.mem_all, ← Pattern.exists_read?_eq_ok_iff,
    ← Pattern.findSome?_read?_eq_some_iff Pattern.mem_all]
  cases Pattern.all.findSome? (Pattern.read? utc body) with
  | none => simp
  | some r => simp

end TimeScheme

end BuildVersion
