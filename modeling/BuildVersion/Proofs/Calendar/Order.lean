import BuildVersion.Proofs.Calendar.LocalTime

/-!
# Times in order

Instants compare by their seconds and then by what is left of them, so that a leap second comes after the second
that it follows. Main statements: of two dates, the one with the lower day number has the lower year, month or day
(`Date.le_of_dayNumber_le`), and of two clocks, the one that shows less has counted less.
-/

namespace BuildVersion.Calendar

namespace Instant

instance : LE Instant where
  le s t := s.seconds < t.seconds ∨ s.seconds = t.seconds ∧ s.nanos ≤ t.nanos

instance : LT Instant where
  lt s t := s.seconds < t.seconds ∨ s.seconds = t.seconds ∧ s.nanos < t.nanos

lemma le_iff {s t : Instant} : s ≤ t ↔ s.seconds < t.seconds ∨ s.seconds = t.seconds ∧ s.nanos ≤ t.nanos :=
  Iff.rfl

lemma lt_iff {s t : Instant} : s < t ↔ s.seconds < t.seconds ∨ s.seconds = t.seconds ∧ s.nanos < t.nanos :=
  Iff.rfl

instance (s t : Instant) : Decidable (s ≤ t) := decidable_of_iff _ le_iff.symm

instance (s t : Instant) : Decidable (s < t) := decidable_of_iff _ lt_iff.symm

lemma not_le {s t : Instant} : ¬ s ≤ t ↔ t < s := by
  rw [le_iff, lt_iff]
  omega

lemma le_of_lt {s t : Instant} (h : s < t) : s ≤ t := by
  rw [lt_iff] at h
  rw [le_iff]
  omega

lemma seconds_le {s t : Instant} (h : s ≤ t) : s.seconds ≤ t.seconds := by
  rw [le_iff] at h
  omega

/-- The seconds from the start of a day on. -/
lemma seconds_addSeconds (d : Date) (n : Int) :
    ((ofDate d).addSeconds n).seconds = (ofDate d).seconds + n := rfl

/-- On whole seconds, an instant has come as soon as its second has. -/
lemma addSeconds_le_iff {d : Date} {n : Int} {t : Instant} :
    (ofDate d).addSeconds n ≤ t ↔ (ofDate d).seconds + n ≤ t.seconds := by
  have hwhole : ((ofDate d).addSeconds n).nanos = 0 := rfl
  rw [le_iff, hwhole, seconds_addSeconds]
  omega

lemma lt_addSeconds_iff {d : Date} {n : Int} {t : Instant} :
    t < (ofDate d).addSeconds n ↔ t.seconds < (ofDate d).seconds + n := by
  rw [← not_le, addSeconds_le_iff, Int.not_le]

lemma ofDate_le_iff {d : Date} {t : Instant} : ofDate d ≤ t ↔ (ofDate d).seconds ≤ t.seconds := by
  have hwhole : (ofDate d).nanos = 0 := rfl
  rw [le_iff, hwhole]
  omega

end Instant

/-- Dates in order of their days are in order of their years, months and days. -/
lemma Date.le_of_dayNumber_le {d e : Date} (hd : d.Valid) (he : e.Valid) (h : d.dayNumber ≤ e.dayNumber) :
    d.year < e.year ∨ d.year = e.year ∧ (d.month < e.month ∨ d.month = e.month ∧ d.day ≤ e.day) := by
  have hdyear := Date.dayNumber_bounds hd
  have heyear := Date.dayNumber_bounds he
  obtain ⟨_, hdmonth, hdfirst, hdlast⟩ := hd
  obtain ⟨_, _, hefirst, helast⟩ := he
  rcases Int.lt_trichotomy d.year e.year with hlt | heq | hgt
  · exact .inl hlt
  · refine .inr ⟨heq, ?_⟩
    simp only [dayNumber, daysInMonth] at h hdlast helast
    rw [heq] at h hdlast
    rcases Nat.lt_trichotomy d.month e.month with hlt | hmonth | hgt
    · exact .inl hlt
    · rw [hmonth] at h
      exact .inr ⟨hmonth, by omega⟩
    · -- The month of `e` is over when that of `d` begins.
      have hover := daysBeforeMonth_mono (isLeap e.year) d.month (by omega) (e.month + 1) (by omega)
      omega
  · have hover : daysBeforeYear (e.year + 1) ≤ daysBeforeYear d.year := daysBeforeYear_mono (by omega)
    omega

/-- Clocks in order of what they have counted are in order of their dates. -/
lemma Civil.dayNumber_le {c d : Civil} (hc : c.Valid) (hd : d.Valid) (h : c.toSeconds ≤ d.toSeconds) :
    c.date.dayNumber ≤ d.date.dayNumber := by
  have hcday := Civil.toSeconds_bounds hc
  have hdday := Civil.toSeconds_bounds hd
  omega

end BuildVersion.Calendar
