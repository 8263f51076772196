import BuildVersion.Proofs.TimeScheme.Patterns

/-!
# The limits of time schemes

Every scheme that a placeholder asks for lies within the limits. Main statement:
`TimeSpec.wellFormed_of_read`.
-/

namespace BuildVersion

open Text

namespace TimeScheme

lemma Digits.lt {cs : List Char} {n : Nat} (h : Digits cs n) : n < 10 ^ cs.length :=
  natural?_lt (natural?_eq_some_iff_digits.2 h)

lemma IsYear.le {cs : List Char} {year : Nat} (h : IsYear cs year) : year ≤ 9999 := by
  have hlt := h.1.lt
  rw [h.2] at hlt
  omega

lemma IsSmall.le {cs : List Char} {n : Nat} (h : IsSmall cs n) : n ≤ 99 := by
  have hlt := h.1.lt
  have hpow : 10 ^ cs.length ≤ 10 ^ 2 := Nat.pow_le_pow_right (by decide) h.2
  omega

lemma IsYearPart.le {ys : List Char} {year : Nat} (h : IsYearPart ys year) : year ≤ 9999 := by
  cases h with
  | default => decide
  | year hyear => exact hyear.le

lemma IsNumeralPart.le {ps : List Char} {year length : Nat} (h : IsNumeralPart ps year length) :
    year ≤ 9999 ∧ length ≤ 99 := by
  cases h with
  | year hyear => exact ⟨hyear.le, by decide⟩
  | length hyear hlength => exact ⟨hyear.le, hlength.le⟩

/-- A scheme that is spelled lies within the limits. -/
lemma Spells.wellFormed {utc : Bool} {body : List Char} {scheme : TimeScheme} (h : Spells utc body scheme) :
    scheme.WellFormed := by
  cases h with
  | hours hbody hmonth =>
    cases hbody with
    | year hyear => exact ⟨hyear.le, hmonth⟩
    | month hyear => exact ⟨hyear.le, hmonth⟩
  | dotted hbody hinterval =>
    obtain ⟨_, hyear⟩ := hbody
    exact ⟨hinterval.1, hinterval.2, hyear.le⟩
  | numeral hbody hbase hinterval =>
    obtain ⟨_, _, _, hpart⟩ := hbody
    exact ⟨hbase.1, hbase.2, hinterval.1, Nat.lt_of_le_of_lt hinterval.2 (by decide), hpart.le⟩
  | readable hbody =>
    obtain ⟨hfields, hclass⟩ := hbody
    exact ⟨hfields, hclass⟩

end TimeScheme

/-- A placeholder that is read asks for a scheme within the limits. -/
theorem TimeSpec.wellFormed_of_read {text : String} {spec : TimeSpec} (h : read text = .ok spec) :
    spec.scheme.WellFormed := by
  unfold read at h
  split at h
  · cases h
  · split at h
    · next scheme hscheme =>
      cases h
      exact (TimeScheme.read_eq_ok_iff.1 hscheme).wellFormed
    · cases h

end BuildVersion
