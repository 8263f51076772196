import BuildVersion.Text.Number
import Mathlib.Algebra.Group.Nat.Defs
import Mathlib.Tactic.Lemma

/-!
# Decimal digits

How the readers of numbers treat decimal digits as they are written: what a number of digits can hold, that
padding changes no value, and which digits are the shortest for their value. Main statements: padded numbers
are read back (`natural?_padded`), digits of a given length are the padded form of their value
(`padded_natural?`), and digits without leading zeros are those of their value (`toDigits_of_natural?`).
-/

namespace BuildVersion.Text

/-- A text that does not go on with a digit. -/
def EndsDigits (cs : List Char) : Prop := ∀ c ∈ cs.head?, isDigit c = false

lemma endsDigits_nil : EndsDigits [] := by
  intro c hc
  cases hc

lemma endsDigits_cons {c : Char} {cs : List Char} (h : isDigit c = false) : EndsDigits (c :: cs) := by
  intro d hd
  cases hd
  exact h

lemma isDigit_of_mem_toDigits {n : Nat} {c : Char} (h : c ∈ Nat.toDigits 10 n) : isDigit c = true := by
  rw [isDigit_eq]
  exact Nat.isDigit_of_mem_toDigits (by decide) (by decide) h

/-- Only zero is written with a leading zero. -/
lemma head?_toDigits_ne {n : Nat} (h : n ≠ 0) : (Nat.toDigits 10 n).head? ≠ some '0' := by
  induction n using Nat.strongRecOn with
  | _ n ih =>
    rw [Nat.toDigits_eq_if (by decide)]
    split
    · next hlt =>
      intro e
      simp only [List.head?_cons, Option.some.injEq] at e
      have hcode := congrArg Char.toNat e
      rw [Nat.toNat_digitChar_of_lt_ten hlt] at hcode
      have hzero : '0'.toNat = 48 := rfl
      omega
    · next hge =>
      rw [List.head?_append, Option.or_of_isSome (by simp)]
      exact ih (n / 10) (by omega) (by omega)

/-- The value of a digit. -/
lemma digit_bounds {c : Char} (h : isDigit c = true) : 48 ≤ c.toNat ∧ c.toNat < 58 := by
  simp only [isDigit, Bool.and_eq_true, decide_eq_true_eq, Char.le_def] at h
  have h₀ : '0'.val.toNat ≤ c.val.toNat := UInt32.le_iff_toNat_le.1 h.1
  have h₉ : c.val.toNat ≤ '9'.val.toNat := UInt32.le_iff_toNat_le.1 h.2
  have hzero : '0'.val.toNat = 48 := rfl
  have hnine : '9'.val.toNat = 57 := rfl
  have hc : c.toNat = c.val.toNat := rfl
  omega

/-- The first digit counts by the weight of the others. -/
lemma ofDigitChars_cons_eq (c : Char) (ds : List Char) :
    Nat.ofDigitChars 10 (c :: ds) 0 = 10 ^ ds.length * (c.toNat - 48) + Nat.ofDigitChars 10 ds 0 := by
  have hzero : '0'.toNat = 48 := rfl
  rw [Nat.ofDigitChars_cons, Nat.ofDigitChars_eq_ofDigitChars_zero, Nat.mul_zero, Nat.zero_add, hzero]

/-- So many digits hold the numbers below a power of ten. -/
lemma ofDigitChars_lt {ds : List Char} (h : ∀ c ∈ ds, isDigit c = true) :
    Nat.ofDigitChars 10 ds 0 < 10 ^ ds.length := by
  induction ds with
  | nil => simp
  | cons c ds ih =>
    have hc := digit_bounds (h c List.mem_cons_self)
    have hds := ih fun d hd => h d (List.mem_cons_of_mem _ hd)
    rw [ofDigitChars_cons_eq, List.length_cons, Nat.pow_succ]
    have hle : 10 ^ ds.length * (c.toNat - 48) ≤ 10 ^ ds.length * 9 :=
      Nat.mul_le_mul_left _ (by omega)
    omega

/-- Digits of one length and one value are the same. -/
lemma eq_of_ofDigitChars_eq {ds es : List Char} (hds : ∀ c ∈ ds, isDigit c = true)
    (hes : ∀ c ∈ es, isDigit c = true) (hlen : ds.length = es.length)
    (hval : Nat.ofDigitChars 10 ds 0 = Nat.ofDigitChars 10 es 0) : ds = es := by
  induction ds generalizing es with
  | nil => exact (List.length_eq_zero_iff.1 hlen.symm).symm
  | cons c ds ih =>
    cases es with
    | nil => cases hlen
    | cons d es =>
      have hc := digit_bounds (hds c List.mem_cons_self)
      have hd := digit_bounds (hes d List.mem_cons_self)
      have hds' : ∀ b ∈ ds, isDigit b = true := fun b hb => hds b (List.mem_cons_of_mem _ hb)
      have hes' : ∀ b ∈ es, isDigit b = true := fun b hb => hes b (List.mem_cons_of_mem _ hb)
      have hlen' : ds.length = es.length := Nat.succ.inj hlen
      have hlt := ofDigitChars_lt hds'
      have hlt' := ofDigitChars_lt hes'
      rw [ofDigitChars_cons_eq, ofDigitChars_cons_eq, ← hlen'] at hval
      rw [← hlen'] at hlt'
      -- The first digit is the quotient by the weight of the others, the rest is the remainder.
      have hfirst : c.toNat - 48 = d.toNat - 48 := by
        have hdiv := congrArg (· / 10 ^ ds.length) hval
        simpa [Nat.mul_add_div (Nat.pow_pos (show 0 < 10 by decide)), Nat.div_eq_of_lt hlt,
          Nat.div_eq_of_lt hlt'] using hdiv
      have hrest : ds = es := ih hds' hes' hlen' (by rw [hfirst] at hval; omega)
      have hchar : c = d := Char.toNat_inj.1 (by omega)
      rw [hchar, hrest]

/-- Of two numbers with equally many digits, the lower one has the lower digits. -/
lemma lt_of_ofDigitChars_lt {ds es : List Char} (hds : ∀ c ∈ ds, isDigit c = true)
    (hes : ∀ c ∈ es, isDigit c = true) (hlen : ds.length = es.length)
    (hval : Nat.ofDigitChars 10 ds 0 < Nat.ofDigitChars 10 es 0) : ds < es := by
  induction ds generalizing es with
  | nil =>
    rw [List.length_eq_zero_iff.1 hlen.symm] at hval
    exact absurd hval (Nat.lt_irrefl _)
  | cons c ds ih =>
    cases es with
    | nil => cases hlen
    | cons d es =>
      have hc := digit_bounds (hds c List.mem_cons_self)
      have hd := digit_bounds (hes d List.mem_cons_self)
      have hds' : ∀ b ∈ ds, isDigit b = true := fun b hb => hds b (List.mem_cons_of_mem _ hb)
      have hes' : ∀ b ∈ es, isDigit b = true := fun b hb => hes b (List.mem_cons_of_mem _ hb)
      have hlen' : ds.length = es.length := Nat.succ.inj hlen
      have hlt := ofDigitChars_lt hes'
      rw [ofDigitChars_cons_eq, ofDigitChars_cons_eq, hlen'] at hval
      rcases Nat.lt_trichotomy c.toNat d.toNat with h | h | h
      · exact .rel (Char.lt_def.2 (UInt32.lt_iff_toNat_lt.2 h))
      · rw [Char.toNat_inj.1 h] at hval ⊢
        exact .cons (ih hds' hes' hlen' (by omega))
      · have hle : 10 ^ es.length * (d.toNat - 48 + 1) ≤ 10 ^ es.length * (c.toNat - 48) :=
          Nat.mul_le_mul_left _ (by omega)
        rw [Nat.mul_succ] at hle
        omega

lemma toDigits_lt {m n : Nat} (h : m < n) (hlen : (Nat.toDigits 10 m).length = (Nat.toDigits 10 n).length) :
    Nat.toDigits 10 m < Nat.toDigits 10 n := by
  apply lt_of_ofDigitChars_lt (fun c => isDigit_of_mem_toDigits) (fun c => isDigit_of_mem_toDigits) hlen
  rwa [Nat.ofDigitChars_ten_toDigits, Nat.ofDigitChars_ten_toDigits]

lemma toList_toString (n : Nat) : (toString n).toList = Nat.toDigits 10 n := by
  rw [Nat.toString_eq_ofList_toDigits, String.toList_ofList]

lemma toDigits_inj {m n : Nat} (h : Nat.toDigits 10 m = Nat.toDigits 10 n) : m = n := by
  have hm := natural?_toDigits m
  rw [h, natural?_toDigits] at hm
  exact (Option.some.inj hm).symm

lemma toList_padded (width n : Nat) :
    (padded width n).toList = (Nat.toDigits 10 n).leftpad width '0' := by
  rw [padded, String.toList_ofList]

lemma isDigit_of_mem_padded {width n : Nat} {c : Char} (h : c ∈ (padded width n).toList) :
    isDigit c = true := by
  rw [toList_padded, List.leftpad] at h
  rcases List.mem_append.1 h with h | h
  · rw [List.eq_of_mem_replicate h]
    decide
  · exact isDigit_of_mem_toDigits h

/-- A number that fits its width is written with exactly so many digits. -/
lemma length_padded {width n : Nat} (hw : 0 < width) (h : n < 10 ^ width) :
    (padded width n).toList.length = width := by
  rw [toList_padded, List.length_leftpad]
  exact Nat.max_eq_left ((Nat.length_toDigits_le_iff (by decide) hw).2 h)

/-- A padded number is read back. -/
lemma natural?_padded (width n : Nat) : natural? (padded width n).toList = some n := by
  rw [natural?_eq_some_iff]
  refine ⟨?_, fun c => isDigit_of_mem_padded, ?_⟩
  · rw [toList_padded, List.leftpad]
    simp
  · rw [toList_padded, List.leftpad, Nat.ofDigitChars_append, Nat.ofDigitChars_replicate_zero,
      Nat.mul_zero, Nat.ofDigitChars_ten_toDigits]

lemma natural?_lt {cs : List Char} {n : Nat} (h : natural? cs = some n) : n < 10 ^ cs.length := by
  obtain ⟨_, hds, rfl⟩ := natural?_eq_some_iff.1 h
  exact ofDigitChars_lt hds

/-- Digits are the padded form of their value. -/
lemma padded_natural? {cs : List Char} {n : Nat} (h : natural? cs = some n) :
    (padded cs.length n).toList = cs := by
  have hlt := natural?_lt h
  obtain ⟨hne, hds, hval⟩ := natural?_eq_some_iff.1 h
  apply eq_of_ofDigitChars_eq (fun c => isDigit_of_mem_padded) hds
  · exact length_padded (List.length_pos_iff.2 hne) hlt
  · rw [hval]
    exact (natural?_eq_some_iff.1 (natural?_padded _ n)).2.2

/-- Digits that do not start with a zero to spare are those of their value. -/
lemma toDigits_of_natural? {cs : List Char} {n : Nat} (h : natural? cs = some n)
    (hzero : cs.head? = some '0' → cs.length = 1) : Nat.toDigits 10 n = cs := by
  have hpadded := padded_natural? h
  rw [toList_padded, List.leftpad] at hpadded
  cases hwidth : cs.length - (Nat.toDigits 10 n).length with
  | zero => rwa [hwidth, List.replicate_zero, List.nil_append] at hpadded
  | succ width =>
    -- A zero that is filled in is not the only digit.
    have hhead : cs.head? = some '0' := by
      rw [← hpadded, hwidth, List.replicate_succ]
      rfl
    have hdigits : 0 < (Nat.toDigits 10 n).length := List.length_pos_iff.2 Nat.toDigits_ne_nil
    have hlength := hzero hhead
    omega

/-- Digits have no sign that could be dropped. -/
lemma dropPlus_toDigits (n : Nat) : dropPlus (Nat.toDigits 10 n) = Nat.toDigits 10 n := by
  unfold dropPlus
  split
  · next ds hds =>
    have hplus : isDigit '+' = true := isDigit_of_mem_toDigits (hds ▸ List.mem_cons_self)
    exact absurd hplus (by decide)
  · rfl

/-- A word as it is printed is read back. -/
lemma word?_toDigits (w : UInt64) : word? (Nat.toDigits 10 w.toNat) = some w := by
  have hlt : w.toNat < wordLimit := w.toNat_lt
  simp only [word?, dropPlus_toDigits, natural?_toDigits, if_pos hlt, UInt64.ofNat_toNat]

/-- A number as it is printed is read back as an integer. -/
lemma integer?_toDigits (n : Nat) : integer? (Nat.toDigits 10 n) = some (n : Int) := by
  have hread := natural?_toDigits n
  have hhead : ∀ c ∈ (Nat.toDigits 10 n).head?, isDigit c = true := by
    intro c hc
    exact isDigit_of_mem_toDigits (List.mem_of_head? hc)
  cases hds : Nat.toDigits 10 n with
  | nil => exact absurd hds Nat.toDigits_ne_nil
  | cons c cs =>
    rw [hds] at hread hhead
    have hc := digit_bounds (hhead c rfl)
    have hplus : c ≠ '+' := fun e => by rw [e] at hc; exact absurd hc.1 (by decide)
    have hminus : c ≠ '-' := fun e => by rw [e] at hc; exact absurd hc.1 (by decide)
    rw [integer?.eq_2 _ (by simpa using hminus), dropPlus.eq_2 _ (by simpa using hplus), hread]
    rfl

lemma signedWord?_eq_some_iff {cs : List Char} {n : Int} :
    signedWord? cs = some n ↔ integer? cs = some n ∧ -(signedLimit : Int) ≤ n ∧ n < signedLimit := by
  rw [signedWord?]
  cases integer? cs with
  | none => simp
  | some m =>
    simp only [Option.ite_none_right_eq_some, Option.some.injEq]
    constructor
    · rintro ⟨h, rfl⟩
      exact ⟨rfl, h⟩
    · rintro ⟨rfl, h⟩
      exact ⟨h, rfl⟩

lemma integer?_of_signedWord? {cs : List Char} {n : Int} (h : signedWord? cs = some n) (hn : 0 ≤ n) :
    integer? cs = some (n.toNat : Int) := by
  rw [Int.toNat_of_nonneg hn]
  exact (signedWord?_eq_some_iff.1 h).1

lemma signedWord?_of_integer? {cs : List Char} {n : Nat} (h : integer? cs = some (n : Int))
    (hn : n < signedLimit) : signedWord? cs = some (n : Int) :=
  signedWord?_eq_some_iff.2 ⟨h, by omega, by omega⟩

end BuildVersion.Text
