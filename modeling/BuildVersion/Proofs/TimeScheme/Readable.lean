import BuildVersion.Proofs.Calendar.LocalTime
import BuildVersion.Proofs.Text.Pieces
import BuildVersion.TimeScheme.Decoding
import Mathlib.Data.List.Forall2

/-!
# Readable times

Which texts are readable times: those that a civil time prints with the fields and the separator of the
scheme (`readableCivil?_eq_some_iff`). Which times are written so: all in UTC, and in local time those that
local clocks cover (`encode_readable`, `encode_readable_eq_error_iff`).
-/

namespace BuildVersion

open Text Calendar

namespace ClockFields

/-- What is left of a civil time when only these fields of its clock are printed. -/
def shown (clock : ClockFields) (c : Civil) : Civil :=
  match clock with
  | nothing => { date := c.date }
  | minutes => { date := c.date, hour := c.hour, minute := c.minute }
  | seconds => { date := c.date, hour := c.hour, minute := c.minute, second := c.second }

/-- The seconds of the smallest field that is printed. -/
def unit : ClockFields → Int
  | nothing => 86400
  | minutes => 60
  | seconds => 1

/-- The numbers that are printed of a civil time. -/
def numbers (clock : ClockFields) (c : Civil) : List Nat :=
  [c.date.year.toNat, c.date.month, c.date.day] ++
    match clock with
    | nothing => []
    | minutes => [c.hour, c.minute]
    | seconds => [c.hour, c.minute, c.second]

lemma date_shown (clock : ClockFields) (c : Civil) : (clock.shown c).date = c.date := by
  cases clock <;> rfl

lemma nanos_shown (clock : ClockFields) (c : Civil) : (clock.shown c).nanos = 0 := by
  cases clock <;> rfl

lemma shown_shown (clock : ClockFields) (c : Civil) : clock.shown (clock.shown c) = clock.shown c := by
  cases clock <;> rfl

/-- A clock that shows an hour also shows the next one. -/
lemma shown_later {clock : ClockFields} {c : Civil} (hshown : clock.shown c = c) (hhour : c.hour ≠ 0) :
    clock.shown { c with hour := c.hour + 1 } = { c with hour := c.hour + 1 } := by
  obtain ⟨date, hour, minute, second, nanos⟩ := c
  cases clock with
  | nothing => exact absurd (congrArg Civil.hour hshown).symm hhour
  | minutes =>
    obtain ⟨rfl, rfl⟩ : 0 = second ∧ 0 = nanos := ⟨congrArg Civil.second hshown, congrArg Civil.nanos hshown⟩
    rfl
  | seconds =>
    obtain rfl : 0 = nanos := congrArg Civil.nanos hshown
    rfl

lemma valid_shown {c : Civil} (h : c.Valid) (clock : ClockFields) : (clock.shown c).Valid := by
  obtain ⟨hdate, hhour, hminute, hsecond⟩ := h
  cases clock with
  | nothing => exact ⟨hdate, Nat.succ_pos 23, Nat.succ_pos 59, Nat.succ_pos 59⟩
  | minutes => exact ⟨hdate, hhour, hminute, Nat.succ_pos 59⟩
  | seconds => exact ⟨hdate, hhour, hminute, hsecond⟩

lemma unit_cases (clock : ClockFields) : clock.unit = 1 ∨ clock.unit = 60 ∨ clock.unit = 86400 := by
  cases clock <;> simp [unit]

/-- Leaving fields away puts the clock back to the start of the smallest field that is left. -/
lemma toSeconds_shown {c : Civil} (h : c.Valid) (clock : ClockFields) :
    (clock.shown c).toSeconds = c.toSeconds - c.toSeconds % clock.unit := by
  obtain ⟨_, hhour, hminute, hsecond⟩ := h
  cases clock <;> simp only [shown, unit, Civil.toSeconds, secondsPerDay] <;> omega

end ClockFields

namespace TimeScheme

/-- Pieces that fill a text are cut out of it. -/
lemma cutWidths?_eq_some_iff {widths : List Nat} {cs : List Char} {pieces : List (List Char)} :
    cutWidths? widths cs = some pieces ↔ pieces.map List.length = widths ∧ pieces.flatten = cs := by
  induction widths generalizing cs pieces with
  | nil =>
    rw [cutWidths?]
    constructor
    · intro h
      split at h
      · next hempty =>
        cases h
        exact ⟨rfl, (List.isEmpty_iff.1 hempty).symm⟩
      · cases h
    · rintro ⟨hlen, rfl⟩
      rw [List.map_eq_nil_iff.1 hlen]
      rfl
  | cons width widths ih =>
    rw [cutWidths?]
    constructor
    · intro h
      split at h
      · next hwidth =>
        obtain ⟨rest, hrest, rfl⟩ := Option.map_eq_some_iff.1 h
        obtain ⟨hlen, hflat⟩ := ih.1 hrest
        refine ⟨?_, ?_⟩
        · rw [List.map_cons, hwidth, hlen]
        · rw [List.flatten_cons, hflat]
          exact List.take_append_drop width cs
      · cases h
    · rintro ⟨hlen, rfl⟩
      cases pieces with
      | nil => cases hlen
      | cons piece pieces =>
        obtain ⟨rfl, hrest⟩ := List.cons.inj hlen
        rw [List.flatten_cons, List.take_left, if_pos rfl, List.drop_left, ih.2 ⟨hrest, rfl⟩]
        rfl

/-- Fields without the separator are found again. -/
lemma splitFields?_eq_some_iff {widths : List Nat} {separator : Option Char} {cs : List Char}
    {fields : List (List Char)} (hne : widths ≠ [])
    (hsep : ∀ c ∈ separator, ∀ field ∈ fields, c ∉ field) :
    splitFields? widths separator cs = some fields ↔
      fields.map List.length = widths ∧ (separatorText separator).toList.intercalate fields = cs := by
  cases separator with
  | none =>
    have hjoin : (separatorText none).toList.intercalate fields = fields.flatten :=
      intercalate_nil_eq_flatten fields
    rw [splitFields?, cutWidths?_eq_some_iff, hjoin]
  | some c =>
    have hjoin : (separatorText (some c)).toList.intercalate fields = [c].intercalate fields := by
      simp [separatorText]
    rw [splitFields?, hjoin]
    simp only [Option.ite_none_right_eq_some, Option.some.injEq]
    constructor
    · rintro ⟨hlen, rfl⟩
      exact ⟨hlen, intercalate_split c cs⟩
    · rintro ⟨hlen, rfl⟩
      have hfields : fields ≠ [] := by
        rintro rfl
        exact hne hlen.symm
      have hsplit := split_intercalate hfields (hsep c rfl)
      rw [hsplit]
      exact ⟨hlen, rfl⟩

/-- The fields of a readable time are its numbers, each in so many digits. -/
lemma readableFields_eq (clock : ClockFields) {c : Civil} (h : 0 ≤ c.date.year) :
    readableFields true clock c = List.zipWith padded (fieldWidths clock) (clock.numbers c) := by
  have hyear : yearField c.date.year = padded 4 c.date.year.toNat := by
    rw [yearField, if_neg (by omega), show c.date.year.natAbs = c.date.year.toNat by omega]
  cases clock <;> simp [readableFields, fieldWidths, ClockFields.numbers, hyear]

/-- Only the fields that are printed matter. -/
lemma readableFields_shown (date : Bool) (clock : ClockFields) (c : Civil) :
    readableFields date clock (clock.shown c) = readableFields date clock c := by
  cases clock <;> rfl

lemma daysInMonth_lt : ∀ (leap : Bool) (month : Nat), month < 13 → daysInMonth leap month < 100 := by
  decide

/-- A number that can be written with so many digits, at least one. -/
def Fits (width n : Nat) : Prop := 0 < width ∧ n < 10 ^ width

lemma fits_two {n : Nat} (h : n < 100) : Fits 2 n := ⟨by decide, h⟩

/-- Every number of a civil time fits the digits of its field, if the year has four digits at most. -/
lemma numbers_fit (clock : ClockFields) {c : Civil} (hc : c.Valid) (hyear : c.date.year ≤ 9999) :
    List.Forall₂ Fits (fieldWidths clock) (clock.numbers c) := by
  obtain ⟨⟨_, hmonth, _, hday⟩, hhour, hminute, hsecond⟩ := hc
  have hlong := daysInMonth_lt (isLeap c.date.year) c.date.month (by omega)
  have hfour : Fits 4 c.date.year.toNat := ⟨by decide, by omega⟩
  have hdate : ∀ {widths ns : List Nat}, List.Forall₂ Fits widths ns →
      List.Forall₂ Fits (4 :: 2 :: 2 :: widths)
        (c.date.year.toNat :: c.date.month :: c.date.day :: ns) :=
    fun h => .cons hfour (.cons (fits_two (by omega)) (.cons (fits_two (by omega)) h))
  cases clock with
  | nothing => exact hdate .nil
  | minutes => exact hdate (.cons (fits_two (by omega)) (.cons (fits_two (by omega)) .nil))
  | seconds =>
    exact hdate (.cons (fits_two (by omega)) (.cons (fits_two (by omega))
      (.cons (fits_two (by omega)) .nil)))

lemma filter_valid_eq_some_iff {c d : Civil} :
    (some d).filter (fun civil => decide civil.Valid) = some c ↔ d = c ∧ c.Valid := by
  rw [Option.filter_eq_some_iff, Option.some.injEq, decide_eq_true_eq]

/-- The numbers of a date and clock that the calendar knows, and only these, are a civil time. -/
lemma civilOfNumbers?_eq_some_iff {clock : ClockFields} {ns : List Nat} {c : Civil}
    (hlen : ns.length = (fieldWidths clock).length) :
    civilOfNumbers? ns = some c ↔
      (clock.numbers c = ns ∧ 0 ≤ c.date.year ∧ clock.shown c = c) ∧ c.Valid := by
  obtain ⟨⟨y, m, d⟩, h, mi, s, n⟩ := c
  cases clock with
  | nothing =>
    match ns, hlen with
    | [year, month, day], _ =>
      rw [civilOfNumbers?, filter_valid_eq_some_iff]
      refine and_congr_left fun _ => ?_
      simp only [ClockFields.numbers, ClockFields.shown, Civil.mk.injEq, Date.mk.injEq,
        List.cons_append, List.nil_append, List.cons.injEq, and_true, true_and]
      omega
  | minutes =>
    match ns, hlen with
    | [year, month, day, hour, minute], _ =>
      rw [civilOfNumbers?, filter_valid_eq_some_iff]
      refine and_congr_left fun _ => ?_
      simp only [ClockFields.numbers, ClockFields.shown, Civil.mk.injEq, Date.mk.injEq,
        List.cons_append, List.nil_append, List.cons.injEq, and_true, true_and]
      omega
  | seconds =>
    match ns, hlen with
    | [year, month, day, hour, minute, second], _ =>
      rw [civilOfNumbers?, filter_valid_eq_some_iff]
      refine and_congr_left fun _ => ?_
      simp only [ClockFields.numbers, ClockFields.shown, Civil.mk.injEq, Date.mk.injEq,
        List.cons_append, List.nil_append, List.cons.injEq, and_true, true_and]
      omega

lemma mapM_eq_some_iff {α β : Type} {f : α → Option β} {as : List α} {bs : List β} :
    as.mapM f = some bs ↔ List.Forall₂ (fun a b => f a = some b) as bs := by
  induction as generalizing bs with
  | nil => simp [eq_comm]
  | cons a as ih =>
    rw [List.mapM_cons, List.forall₂_cons_left_iff]
    simp only [Option.bind_eq_bind, Option.bind_eq_some_iff, ih]
    constructor
    · rintro ⟨b, hb, bs', hbs', h⟩
      exact ⟨b, bs', hb, hbs', (Option.some.inj h).symm⟩
    · rintro ⟨b, bs', hb, hbs', rfl⟩
      exact ⟨b, hb, bs', hbs', rfl⟩

/-- Digits are the padded forms of their numbers. -/
lemma zipWith_padded_eq {fields : List (List Char)} {ns : List Nat}
    (h : List.Forall₂ (fun field n => natural? field = some n) fields ns) :
    (List.zipWith padded (fields.map List.length) ns).map String.toList = fields := by
  induction h with
  | nil => rfl
  | cons hfield _ ih => rw [List.map_cons, List.zipWith_cons_cons, List.map_cons, ih, padded_natural? hfield]

/-- Numbers that fit are padded to their fields and read back. -/
lemma forall₂_zipWith_padded {widths ns : List Nat}
    (h : List.Forall₂ Fits widths ns) :
    ((List.zipWith padded widths ns).map String.toList).map List.length = widths ∧
      List.Forall₂ (fun field n => natural? field = some n)
        ((List.zipWith padded widths ns).map String.toList) ns := by
  induction h with
  | nil => exact ⟨rfl, .nil⟩
  | cons hfit _ ih =>
    refine ⟨?_, .cons (natural?_padded _ _) ih.2⟩
    rw [List.zipWith_cons_cons, List.map_cons, List.map_cons, ih.1, length_padded hfit.1 hfit.2]

lemma fits_of_natural? {fields : List (List Char)} {ns : List Nat}
    (h : List.Forall₂ (fun field n => natural? field = some n) fields ns) :
    List.Forall₂ Fits (fields.map List.length) ns := by
  rw [List.forall₂_map_left_iff]
  refine h.imp fun field n hread => ⟨?_, natural?_lt hread⟩
  exact List.length_pos_iff.2 (natural?_eq_some_iff.1 hread).1

lemma year_le_of_fits {clock : ClockFields} {c : Civil}
    (h : List.Forall₂ Fits (fieldWidths clock) (clock.numbers c)) : c.date.year ≤ 9999 := by
  have hyear : Fits 4 c.date.year.toNat := by
    cases clock <;> exact (List.forall₂_cons.1 h).1
  have hlt : c.date.year.toNat < 10 ^ 4 := hyear.2
  omega

/-- Fields that are read as numbers hold digits alone. -/
lemma isDigit_of_natural? {fields : List (List Char)} {ns : List Nat}
    (h : List.Forall₂ (fun field n => natural? field = some n) fields ns) :
    ∀ field ∈ fields, ∀ c ∈ field, isDigit c = true := by
  intro field hfield
  induction h with
  | nil => cases hfield
  | cons hread _ ih =>
    rcases List.mem_cons.1 hfield with rfl | hfield
    · exact (natural?_eq_some_iff.1 hread).2.1
    · exact ih hfield

lemma notMem_of_natural? {separator : Option Char} (hsep : ∀ c ∈ separator, isDigit c = false)
    {fields : List (List Char)} {ns : List Nat}
    (h : List.Forall₂ (fun field n => natural? field = some n) fields ns) :
    ∀ c ∈ separator, ∀ field ∈ fields, c ∉ field := by
  intro c hc field hfield hmem
  have hdigit := isDigit_of_natural? h field hfield c hmem
  rw [hsep c hc] at hdigit
  cases hdigit

/-- A text is a readable time if a civil time of a year with four digits prints it; the fields of the
clock that are not printed are then zero. -/
theorem readableCivil?_eq_some_iff {clock : ClockFields} {separator : Option Char} {cs : List Char}
    {c : Civil} (hsep : ∀ c ∈ separator, isDigit c = false) :
    readableCivil? clock separator cs = some c ↔
      (c.Valid ∧ 0 ≤ c.date.year ∧ c.date.year ≤ 9999 ∧ clock.shown c = c) ∧
        ((separatorText separator).intercalate (readableFields true clock c)).toList = cs := by
  have hwidths : fieldWidths clock ≠ [] := by cases clock <;> simp [fieldWidths]
  simp only [readableCivil?, Option.bind_eq_bind, Option.bind_eq_some_iff, mapM_eq_some_iff]
  rw [String.toList_intercalate]
  constructor
  · rintro ⟨fields, hfields, ns, hns, hcivil⟩
    obtain ⟨hlen, hcs⟩ := (splitFields?_eq_some_iff hwidths (notMem_of_natural? hsep hns)).1 hfields
    have hcount : ns.length = (fieldWidths clock).length := by
      rw [← hns.length_eq, ← hlen, List.length_map]
    obtain ⟨⟨hnumbers, hyear, hshown⟩, hvalid⟩ := (civilOfNumbers?_eq_some_iff hcount).1 hcivil
    -- Fields of the right widths are the padded forms of the numbers that are read of them.
    have hprinted : (readableFields true clock c).map String.toList = fields := by
      rw [readableFields_eq clock hyear, hnumbers, ← hlen, zipWith_padded_eq hns]
    have hfit := fits_of_natural? hns
    rw [hlen, ← hnumbers] at hfit
    exact ⟨⟨hvalid, hyear, year_le_of_fits hfit, hshown⟩, by rw [hprinted, hcs]⟩
  · rintro ⟨⟨hvalid, hyear, hlimit, hshown⟩, hcs⟩
    obtain ⟨hlen, hns⟩ := forall₂_zipWith_padded (numbers_fit clock hvalid hlimit)
    rw [readableFields_eq clock hyear] at hcs
    have hcount : (clock.numbers c).length = (fieldWidths clock).length := by
      cases clock <;> rfl
    exact ⟨_, (splitFields?_eq_some_iff hwidths (notMem_of_natural? hsep hns)).2 ⟨hlen, hcs⟩, _, hns,
      (civilOfNumbers?_eq_some_iff hcount).2 ⟨⟨rfl, hyear, hshown⟩, hvalid⟩⟩

lemma isDigit_of_mem_field {widths ns : List Nat} {field : String}
    (h : field ∈ List.zipWith padded widths ns) : ∀ c ∈ field.toList, isDigit c = true := by
  induction widths generalizing ns with
  | nil => cases h
  | cons width widths ih =>
    cases ns with
    | nil => cases h
    | cons n ns =>
      rcases List.mem_cons.1 h with rfl | h
      · exact fun c => isDigit_of_mem_padded
      · exact ih h

/-- The separators are neither digits nor blanks. -/
lemma separator_class {separator : Option Char} (h : ∀ c ∈ separator, c = '-' ∨ c = '.' ∨ c = ':') :
    ∀ c ∈ separator, isDigit c = false ∧ isBlank c = false := by
  intro c hc
  rcases h c hc with rfl | rfl | rfl <;> decide

/-- Readable times hold no blanks. -/
lemma not_isBlank_of_mem_readable {clock : ClockFields} {separator : Option Char} {c : Civil}
    (hsep : ∀ c ∈ separator, isBlank c = false) (hyear : 0 ≤ c.date.year) :
    ∀ d ∈ ((separatorText separator).intercalate (readableFields true clock c)).toList,
      isBlank d = false := by
  intro d hd
  rw [String.toList_intercalate, readableFields_eq clock hyear] at hd
  rcases mem_intercalate hd with hd | ⟨field, hfield, hd⟩
  · cases separator with
    | none => cases hd
    | some e =>
      rw [separatorText, String.toList_singleton, List.mem_singleton] at hd
      exact hsep d (congrArg some hd.symm)
  · obtain ⟨text, htext, rfl⟩ := List.mem_map.1 hfield
    exact not_isBlank_of_isDigit (isDigit_of_mem_field htext d hd)

/-! ### Instants -/

/-- What a readable scheme prints of an instant. -/
def printed (utc : Bool) (zone : Zone) (t : Instant) : Civil := if utc then t.civil else zone.civil t

/-- The instant that a readable scheme takes a civil time for. -/
def meant? (utc : Bool) (zone : Zone) (c : Civil) : Option Instant :=
  if utc then some (Instant.ofCivil c) else zone.instant? c

/-- A civil time is printed of the instant that it is taken for, where local clocks do not skip from it. -/
lemma printed_of_meant? {utc : Bool} {zone : Zone} {c : Civil} {t : Instant} (hc : c.Valid)
    (hskip : utc = false → ¬ zone.SkipsFrom c) (h : meant? utc zone c = some t) : printed utc zone t = c := by
  cases utc with
  | true =>
    cases h
    exact Instant.civil_ofCivil hc 0
  | false => exact Zone.civil_instant? hc (hskip rfl) h

lemma valid_printed (utc : Bool) (zone : Zone) (t : Instant) : (printed utc zone t).Valid := by
  cases utc <;> exact Civil.valid_ofSeconds _ _

/-- Clocks in UTC have counted the seconds of the instant. -/
lemma toSeconds_printed_utc (zone : Zone) (t : Instant) : (printed true zone t).toSeconds = t.seconds := by
  rw [printed, if_pos rfl, Instant.civil, Civil.toSeconds_ofSeconds, Int.add_zero]

/-- The local clock shows only in readable times that are not asked for in UTC. -/
def readsZone : TimeScheme → Bool
  | readable _ _ _ utc => !utc
  | _ => false

/-- Years of four digits are shown by clocks that cover the instant. -/
lemma covers_of_printed {utc : Bool} {zone : Zone} {t : Instant}
    (hfirst : 0 ≤ (printed utc zone t).date.year) (hlast : (printed utc zone t).date.year ≤ 9999) :
    utc = true ∨ zone.Covers t := by
  cases utc with
  | true => exact .inl rfl
  | false => exact .inr (Zone.covers_of_year hfirst hlast)

lemma encode_readable {date : Bool} {clock : ClockFields} {separator : Option Char} {utc : Bool}
    {zone : Zone} {t : Timestamp} (h : utc = true ∨ zone.Covers t.instant) :
    encode (readable date clock separator utc) zone t =
      .ok ((separatorText separator).intercalate
        (readableFields date clock (printed utc zone t.instant))) := if_pos h

lemma encode_readable_eq_ok_iff {date : Bool} {clock : ClockFields} {separator : Option Char} {utc : Bool}
    {zone : Zone} {t : Timestamp} {v : String} :
    encode (readable date clock separator utc) zone t = .ok v ↔
      (utc = true ∨ zone.Covers t.instant) ∧
        v = (separatorText separator).intercalate (readableFields date clock (printed utc zone t.instant)) := by
  rw [encode]
  split
  · next hcovers => rw [Except.ok.injEq, and_iff_right hcovers, eq_comm, printed]
  · next huncovered => exact iff_of_false nofun fun h => huncovered h.1

/-- No local time is written that local clocks do not cover. -/
lemma encode_readable_eq_error_iff {date : Bool} {clock : ClockFields} {separator : Option Char} {utc : Bool}
    {zone : Zone} {t : Timestamp} {e : Error} :
    encode (readable date clock separator utc) zone t = .error e ↔
      ((readable date clock separator utc).readsZone = true ∧ ¬ zone.Covers t.instant) ∧ e = .localTime t := by
  rw [readsZone, Bool.not_eq_true', ← Bool.not_eq_true, ← not_or, encode]
  split
  · next hcovers => exact iff_of_false nofun fun h => h.1 hcovers
  · next huncovered => rw [Except.error.injEq, and_iff_right huncovered, eq_comm]

lemma decode_readable_eq_ok_iff {date : Bool} {clock : ClockFields} {separator : Option Char}
    {utc : Bool} {zone : Zone} {value : String} {t : Instant} :
    decode (readable date clock separator utc) zone value = .ok t ↔
      date = true ∧ ∃ c, readableCivil? clock separator (trim value.toList) = some c ∧
        meant? utc zone c = some t := by
  simp only [decode, meant?]
  cases date with
  | false => simp
  | true =>
    cases hc : readableCivil? clock separator (trim value.toList) with
    | none => simp
    | some c =>
      cases utc with
      | true => simp
      | false => cases ht : zone.instant? c <;> simp [ht]

end TimeScheme

end BuildVersion
