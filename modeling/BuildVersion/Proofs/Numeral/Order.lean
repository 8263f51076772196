import BuildVersion.Proofs.Text.Order
import BuildVersion.Proofs.Word.Numeral

/-!
# Numerals in order

Digits rise with the places that they stand for, in either case of the letters, and so numerals of one length
compare like their values. Main statements: `cased_lt`, and that numerals are of one length while the
values fit the least length (`IsAlphabet.length_encode_eq`).
-/

namespace BuildVersion.Numeral

open Text

/-- The digit for a place, in lower or in upper case. -/
def digitOf (upper : Bool) (ds : List Char) (p : Nat) : Char :=
  if upper then (ds.getD p ' ').toUpper else ds.getD p ' '

/-! ### Digits -/

/-- The digits of every base rise, also in upper case. -/
lemma rising_of_alphabet {base : Nat} {ds : List Char} (h : alphabet base = .ok ds) :
    ds.Pairwise fun c d => c < d ∧ c.toUpper < d.toUpper := by
  have hdigits : digits.Pairwise fun c d => c < d ∧ c.toUpper < d.toUpper := by decide +kernel
  have hwordless : wordlessDigits.Pairwise fun c d => c < d ∧ c.toUpper < d.toUpper := by decide +kernel
  unfold alphabet at h
  split at h
  · cases h
    exact hwordless
  · split at h
    · cases h
      exact hdigits.sublist (List.take_sublist base digits)
    · cases h

lemma digitOf_lt {base : Nat} {ds : List Char} (h : alphabet base = .ok ds) (upper : Bool) {p q : Nat}
    (hlt : p < q) (hq : q < ds.length) : digitOf upper ds p < digitOf upper ds q := by
  have hrising := List.pairwise_iff_getElem.1 (rising_of_alphabet h) p q (Nat.lt_trans hlt hq) hq hlt
  rw [digitOf, digitOf, List.getD_eq_getElem _ _ (Nat.lt_trans hlt hq), List.getD_eq_getElem _ _ hq]
  cases upper with
  | true => exact hrising.2
  | false => exact hrising.1

/-- In upper case, every digit is one character. -/
lemma upperCase_eq_map {cs : List Char} (h : ∀ c ∈ cs, c ∈ digits) : upperCase cs = cs.map Char.toUpper := by
  have hdigit : (digits.all fun c => upperChar c == [c.toUpper]) = true := by decide +kernel
  induction cs with
  | nil => rfl
  | cons c cs ih =>
    have hcs := ih fun d hd => h d (List.mem_cons_of_mem _ hd)
    have hc : upperChar c = [c.toUpper] := beq_iff_eq.1 (List.all_eq_true.1 hdigit c (h c List.mem_cons_self))
    rw [upperCase, List.flatMap_cons, hc, List.singleton_append, List.map_cons]
    exact congrArg _ hcs

/-! ### Places -/

lemma ofPlaces_cons (base p : Nat) (ps : List Nat) :
    ofPlaces base (p :: ps) = p * base ^ ps.length + ofPlaces base ps := by
  rw [ofPlaces_eq_ofDigits, ofPlaces_eq_ofDigits, List.reverse_cons, Nat.ofDigits_append,
    Nat.ofDigits_singleton, List.length_reverse, Nat.mul_comm, Nat.add_comm]

/-- So many places hold the numbers below a power of the base. -/
lemma ofPlaces_lt {base : Nat} (hb : 2 ≤ base) {ps : List Nat} (h : ∀ p ∈ ps, p < base) :
    ofPlaces base ps < base ^ ps.length := by
  rw [ofPlaces_eq_ofDigits, ← List.length_reverse]
  exact Nat.ofDigits_lt_base_pow_length hb fun p hp => h p (List.mem_reverse.1 hp)

/-- Of two numbers with equally many places, the lower one is written lower if digits rise with places. -/
lemma map_lt_of_ofPlaces_lt {base : Nat} (hb : 2 ≤ base) {digit : Nat → Char}
    (hdigit : ∀ p q, p < q → q < base → digit p < digit q) {ps qs : List Nat} (hps : ∀ p ∈ ps, p < base)
    (hqs : ∀ q ∈ qs, q < base) (hlen : ps.length = qs.length) (h : ofPlaces base ps < ofPlaces base qs) :
    ps.map digit < qs.map digit := by
  induction ps generalizing qs with
  | nil =>
    rw [List.eq_nil_of_length_eq_zero hlen.symm] at h
    exact absurd h (Nat.lt_irrefl _)
  | cons p ps ih =>
    cases qs with
    | nil => cases hlen
    | cons q qs =>
      obtain ⟨_, hps'⟩ := List.forall_mem_cons.1 hps
      obtain ⟨hq, hqs'⟩ := List.forall_mem_cons.1 hqs
      have hlen' : ps.length = qs.length := Nat.succ.inj hlen
      have hrest := ofPlaces_lt hb hqs'
      rw [ofPlaces_cons, ofPlaces_cons, hlen'] at h
      rw [List.map_cons, List.map_cons, List.cons_lt_cons_iff]
      rcases Nat.lt_trichotomy p q with hlt | heq | hgt
      · exact .inl (hdigit p q hlt hq)
      · rw [heq] at h
        exact .inr ⟨congrArg digit heq, ih hps' hqs' hlen' (by omega)⟩
      · -- The weight of the first place is more than the others of `q` hold.
        have hweight : (q + 1) * base ^ qs.length ≤ p * base ^ qs.length := Nat.mul_le_mul_right _ hgt
        rw [Nat.add_mul, Nat.one_mul] at hweight
        omega

/-! ### Numerals -/

namespace IsAlphabet

variable {ds : List Char} {m n minLength : Nat} {upper : Bool}

lemma cased_encode (h : IsAlphabet ds) :
    cased upper (encode ds m minLength) =
      ((places ds.length m).leftpad minLength 0).map (digitOf upper ds) := by
  have hencode : encode ds m minLength =
      ((places ds.length m).leftpad minLength 0).map fun p => ds.getD p ' ' := by
    rw [h.encode_eq, List.leftpad, List.leftpad, List.map_append, List.map_replicate, List.length_map,
      h.getD_zero]
  cases upper with
  | true =>
    rw [cased, if_pos rfl, upperCase_eq_map fun c => h.mem_digits_of_mem_encode, hencode, List.map_map]
    rfl
  | false =>
    rw [cased, if_neg Bool.false_ne_true, hencode]
    rfl

lemma length_cased_encode (h : IsAlphabet ds) :
    (cased upper (encode ds m minLength)).length = max minLength (Nat.log ds.length m + 1) := by
  rw [h.cased_encode, List.length_map, List.length_leftpad, length_places h.two_le]

/-- While values fit the least length, their numerals are of one length. -/
lemma length_encode_eq (h : IsAlphabet ds) (hle : m ≤ n) (hfits : n < ds.length ^ minLength) :
    (cased upper (encode ds m minLength)).length = (cased upper (encode ds n minLength)).length := by
  have hlog : Nat.log ds.length m ≤ Nat.log ds.length n := Nat.log_mono_right hle
  rw [h.length_cased_encode, h.length_cased_encode]
  rcases Nat.eq_zero_or_pos n with rfl | hpos
  · rw [Nat.le_zero.1 hle]
  · have hlast : Nat.log ds.length n < minLength := Nat.log_lt_of_lt_pow (Nat.ne_of_gt hpos) hfits
    rw [Nat.max_eq_left (by omega), Nat.max_eq_left (by omega)]

end IsAlphabet

/-- Of two numerals of one length, that of the lower value is lower. -/
lemma cased_lt {base m n minLength : Nat} {ds : List Char} {upper : Bool} (hds : alphabet base = .ok ds)
    (hlt : m < n)
    (hlen : (cased upper (encode ds m minLength)).length = (cased upper (encode ds n minLength)).length) :
    cased upper (encode ds m minLength) < cased upper (encode ds n minLength) := by
  have h := (isAlphabet_of_alphabet hds).1
  have hbelow : ∀ v, ∀ p ∈ (places ds.length v).leftpad minLength 0, p < ds.length := by
    intro v p hp
    rcases List.mem_append.1 hp with hp | hp
    · rw [List.eq_of_mem_replicate hp]
      exact h.length_pos
    · exact places_lt h.two_le p hp
  rw [h.cased_encode, h.cased_encode, List.length_map, List.length_map] at hlen
  rw [h.cased_encode, h.cased_encode]
  apply map_lt_of_ofPlaces_lt h.two_le (fun p q => digitOf_lt hds upper) (hbelow m) (hbelow n) hlen
  rwa [List.leftpad, List.leftpad, ofPlaces_replicate_append, ofPlaces_replicate_append, ofPlaces_places,
    ofPlaces_places]

end BuildVersion.Numeral
