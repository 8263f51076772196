import BuildVersion.Numeral
import BuildVersion.Proofs.Fallible
import Mathlib.Data.List.GetD
import Mathlib.Data.List.Induction
import Mathlib.Tactic.Lemma

/-!
# Numerals and their values

A numeral and its value determine each other, up to the case of the digits and leading zeros. Main
statements: the numeral of a word is read back (`decode_encode`), and a numeral that is read is spelled
anew with its own significant digits (`encode_of_decode`).
-/

namespace BuildVersion.Numeral

open Text

/-- A sequence of digits without the zeros in front; the last digit stays. -/
def significant {α : Type} [DecidableEq α] (zero : α) : List α → List α
  | d :: e :: ds => if d = zero then significant zero (e :: ds) else d :: e :: ds
  | ds => ds

/-- Digits that can write numbers, and that the case of letters does not confuse. -/
structure IsAlphabet (ds : List Char) : Prop where
  two_le : 2 ≤ ds.length
  nodup : ds.Nodup
  head : ds.head? = some '0'
  subset : ∀ c ∈ ds, c ∈ digits

lemma mem_digits_of_mem_wordlessDigits {c : Char} (h : c ∈ wordlessDigits) : c ∈ digits := by
  have hall : (wordlessDigits.all fun c => digits.contains c) = true := by decide +kernel
  exact List.contains_iff_mem.1 (List.all_eq_true.1 hall c h)

/-- Every base that is accepted has so many digits. -/
lemma isAlphabet_of_alphabet {base : Nat} {ds : List Char} (h : alphabet base = .ok ds) :
    IsAlphabet ds ∧ ds.length = base := by
  unfold alphabet at h
  split at h
  · next hbase =>
    cases h
    subst hbase
    exact ⟨⟨by decide, by decide, rfl, fun c => mem_digits_of_mem_wordlessDigits⟩, rfl⟩
  · split at h
    · next hrange =>
      cases h
      have hlen : digits.length = 36 := rfl
      have hnodup : digits.Nodup := by decide
      have hbase : (digits.take base).length = base := by
        rw [List.length_take, hlen]
        omega
      refine ⟨⟨by omega, hnodup.sublist (List.take_sublist base digits), ?_, ?_⟩, hbase⟩
      · rw [List.head?_take, if_neg (by omega)]
        rfl
      · intro c hc
        exact List.mem_of_mem_take hc
    · cases h

lemma exists_alphabet {base : Nat} (h : 2 ≤ base ∧ base ≤ 36) : ∃ ds, alphabet base = .ok ds := by
  rw [alphabet]
  by_cases hbase : base = 28
  · exact ⟨_, if_pos hbase⟩
  · exact ⟨_, by rw [if_neg hbase, if_pos h]⟩

/-- The digits are small, and in upper case they are still the same digits. -/
lemma digits_casing {c : Char} (h : c ∈ digits) :
    lowerAscii c = c ∧ (upperChar c).map lowerAscii = [c] := by
  have hall : (digits.all fun c => lowerAscii c == c && (upperChar c).map lowerAscii == [c]) = true := by
    decide +kernel
  simpa using List.all_eq_true.1 hall c h

lemma digits_not_blank {c : Char} (h : c ∈ digits) :
    isBlank c = false ∧ ∀ d ∈ upperChar c, isBlank d = false := by
  have hall : (digits.all fun c => !isBlank c && (upperChar c).all fun d => !isBlank d) = true := by
    decide +kernel
  simpa using List.all_eq_true.1 hall c h

lemma not_isBlank_of_mem_upperCase {cs : List Char} (h : ∀ c ∈ cs, c ∈ digits) :
    ∀ d ∈ upperCase cs, isBlank d = false := by
  intro d hd
  obtain ⟨c, hc, hd⟩ := List.mem_flatMap.1 hd
  exact (digits_not_blank (h c hc)).2 d hd

/-- Digits in upper case are still the same digits. -/
lemma map_lowerAscii_upperCase {cs : List Char} (h : ∀ c ∈ cs, c ∈ digits) :
    (upperCase cs).map lowerAscii = cs := by
  induction cs with
  | nil => rfl
  | cons c cs ih =>
    have hc := (digits_casing (h c List.mem_cons_self)).2
    have hcs := ih fun d hd => h d (List.mem_cons_of_mem _ hd)
    rw [upperCase, List.flatMap_cons, List.map_append, hc]
    exact congrArg (c :: ·) hcs

lemma map_eq_self {α : Type} {f : α → α} {l : List α} (h : ∀ a ∈ l, f a = a) : l.map f = l := by
  rw [List.map_congr_left h, List.map_id']

lemma map_lowerAscii {cs : List Char} (h : ∀ c ∈ cs, c ∈ digits) : cs.map lowerAscii = cs :=
  map_eq_self fun c hc => (digits_casing (h c hc)).1

/-- A numeral in lower or in upper case. -/
def cased (upper : Bool) (cs : List Char) : List Char := if upper then upperCase cs else cs

/-! ### Places -/

lemma le_foldl_places {base : Nat} (hb : 0 < base) (ps : List Nat) (v : Nat) :
    v ≤ ps.foldl (fun value p => value * base + p) v := by
  induction ps generalizing v with
  | nil => exact Nat.le_refl v
  | cons p ps ih =>
    have hv : v ≤ v * base := Nat.le_mul_of_pos_right v hb
    have hps := ih (v * base + p)
    exact Nat.le_trans (by omega) hps

/-- Zeros in front do not change a value. -/
lemma ofPlaces_replicate_append (base n : Nat) (ps : List Nat) :
    ofPlaces base (List.replicate n 0 ++ ps) = ofPlaces base ps := by
  induction n with
  | zero => rfl
  | succ n ih =>
    rw [List.replicate_succ, List.cons_append, ofPlaces, List.foldl_cons, Nat.zero_mul]
    exact ih

lemma ofPlaces_significant (base : Nat) (ps : List Nat) :
    ofPlaces base (significant 0 ps) = ofPlaces base ps := by
  fun_induction significant 0 ps with
  | case1 q ps ih =>
    rw [ih]
    exact (ofPlaces_replicate_append base 1 (q :: ps)).symm
  | case2 p q ps hp => rfl
  | case3 ps => rfl

lemma significant_subset {α : Type} [DecidableEq α] {zero d : α} {ds : List α}
    (h : d ∈ significant zero ds) : d ∈ ds := by
  fun_induction significant zero ds with
  | case1 e ds ih => exact List.mem_cons_of_mem _ (ih h)
  | case2 => exact h
  | case3 => exact h

lemma significant_ne_nil {α : Type} [DecidableEq α] {zero : α} {ds : List α} (h : ds ≠ []) :
    significant zero ds ≠ [] := by
  fun_induction significant zero ds with
  | case1 e ds ih => exact ih (by simp)
  | case2 => exact h
  | case3 => exact h

/-- A zero in front of the significant digits is the only one. -/
lemma eq_singleton_of_head?_significant {α : Type} [DecidableEq α] {zero : α} {ds : List α}
    (h : (significant zero ds).head? = some zero) : significant zero ds = [zero] := by
  fun_induction significant zero ds with
  | case1 e ds ih => exact ih h
  | case2 d e ds hd => exact absurd (Option.some.inj h) hd
  | case3 ds hshort =>
    cases ds with
    | nil => cases h
    | cons d ds =>
      cases ds with
      | nil => rw [Option.some.inj h]
      | cons e ds => exact absurd rfl (hshort d e ds)

lemma map_significant {α β : Type} [DecidableEq α] [DecidableEq β] {f : α → β} {zero : α}
    {ds : List α} (h : ∀ d ∈ ds, f d = f zero → d = zero) :
    (significant zero ds).map f = significant (f zero) (ds.map f) := by
  fun_induction significant zero ds with
  | case1 e ds ih =>
    rw [ih fun d hd => h d (List.mem_cons_of_mem _ hd)]
    simp [significant]
  | case2 d e ds hd =>
    have hne : f d ≠ f zero := fun e => hd (h d List.mem_cons_self e)
    simp [significant, hne]
  | case3 ds hshort =>
    cases ds with
    | nil => rfl
    | cons d ds =>
      cases ds with
      | nil => rfl
      | cons e ds => exact absurd rfl (hshort d e ds)

lemma places_ne_nil (base v : Nat) : places base v ≠ [] := by
  rw [places]
  split <;> simp

/-- Places below the base are those of their value, unless there is a zero in front. -/
lemma places_ofPlaces {base : Nat} (hb : 2 ≤ base) {ps : List Nat} (hne : ps ≠ [])
    (hlt : ∀ p ∈ ps, p < base) (hzero : ps.head? = some 0 → ps = [0]) :
    places base (ofPlaces base ps) = ps := by
  -- The induction is on the last place, which is the one that `places` splits off.
  induction ps using List.reverseRecOn with
  | nil => exact absurd rfl hne
  | append_singleton ps p ih =>
    have hp : p < base := hlt p (by simp)
    cases ps with
    | nil =>
      rw [List.nil_append, ofPlaces, List.foldl_cons, List.foldl_nil, Nat.zero_mul, Nat.zero_add, places,
        dif_neg (by omega)]
    | cons q ps =>
      have hq : q ≠ 0 := by
        rintro rfl
        have hlen := congrArg List.length (hzero rfl)
        simp at hlen
      have hplaces := ih (by simp) (fun r hr => hlt r (List.mem_append_left _ hr))
        (fun h => absurd (Option.some.inj h) hq)
      -- Zero has the place zero, which is not in front here.
      have hpos : 1 ≤ ofPlaces base (q :: ps) := by
        rcases Nat.eq_zero_or_pos (ofPlaces base (q :: ps)) with h | h
        · rw [h, places, dif_neg (by omega)] at hplaces
          exact absurd (List.cons.inj hplaces).1.symm hq
        · exact h
      have hge : base ≤ ofPlaces base (q :: ps) * base + p := by
        have := Nat.mul_le_mul_right base hpos
        omega
      rw [ofPlaces_append, places, dif_pos ⟨hb, hge⟩, Nat.mul_comm,
        Nat.mul_add_div (by omega), Nat.div_eq_of_lt hp, Nat.add_zero, Nat.mul_add_mod,
        Nat.mod_eq_of_lt hp, hplaces]

/-- The places of the value of places are the significant ones. -/
lemma places_ofPlaces_eq_significant {base : Nat} (hb : 2 ≤ base) {ps : List Nat} (hne : ps ≠ [])
    (hlt : ∀ p ∈ ps, p < base) : places base (ofPlaces base ps) = significant 0 ps := by
  rw [← ofPlaces_significant]
  apply places_ofPlaces hb (significant_ne_nil hne)
  · intro p hp
    exact hlt p (significant_subset hp)
  · exact eq_singleton_of_head?_significant

/-! ### Digits -/

/-- The place that a digit stands for. -/
def placeOf (ds : List Char) (c : Char) : Nat := ds.idxOf c

lemma idxOf?_eq_ite (ds : List Char) (c : Char) :
    ds.idxOf? c = if c ∈ ds then some (placeOf ds c) else none := by
  induction ds with
  | nil => simp
  | cons d ds ih =>
    by_cases hd : d = c
    · simp [placeOf, List.idxOf?_cons, hd]
    · have hbeq : (d == c) = false := beq_eq_false_iff_ne.2 hd
      by_cases hmem : c ∈ ds <;>
        simp [placeOf, List.idxOf?_cons, List.idxOf_cons, ih, hbeq, hmem, Ne.symm hd]

/-- The value of a numeral after one more digit. -/
def readOn (ds text : List Char) (value : Nat) (c : Char) : Except Error Nat :=
  match ds.idxOf? (lowerAscii c) with
  | none => .error (.foreignDigit c (String.ofList text) ds.length)
  | some place =>
    let next := value * ds.length + place
    if next < wordLimit then .ok next else .error (.numeralLimit (String.ofList text))

lemma readOn_eq_ok_iff {ds text : List Char} {value next : Nat} {c : Char} :
    readOn ds text value c = .ok next ↔ lowerAscii c ∈ ds ∧
      value * ds.length + placeOf ds (lowerAscii c) = next ∧ next < wordLimit := by
  rw [readOn, idxOf?_eq_ite]
  by_cases hc : lowerAscii c ∈ ds
  · by_cases hnext : value * ds.length + placeOf ds (lowerAscii c) < wordLimit
    · simp only [hc, hnext, if_true, Except.ok.injEq, true_and]
      constructor
      · rintro rfl
        exact ⟨rfl, hnext⟩
      · exact And.left
    · simp only [hc, hnext, if_true, if_false, reduceCtorEq, true_and, false_iff]
      rintro ⟨rfl, hlt⟩
      exact hnext hlt
  · simp [hc]

/-- Reading on from a word gives the value of all places, if it still is a word. -/
lemma foldlM_readOn_eq_ok_iff {ds : List Char} (hds : 0 < ds.length) {text : List Char}
    (cs : List Char) {value v : Nat} (hvalue : value < wordLimit) :
    cs.foldlM (readOn ds text) value = .ok v ↔ (∀ c ∈ cs.map lowerAscii, c ∈ ds) ∧
      ((cs.map lowerAscii).map (placeOf ds)).foldl (fun value p => value * ds.length + p) value = v ∧
      v < wordLimit := by
  induction cs generalizing value with
  | nil =>
    simp only [List.foldlM_nil, List.map_nil, List.foldl_nil]
    constructor
    · intro h
      cases h
      exact ⟨by simp, rfl, hvalue⟩
    · rintro ⟨_, rfl, _⟩
      rfl
  | cons c cs ih =>
    rw [List.foldlM_cons, Fallible.bind_eq_ok_iff]
    simp only [List.map_cons, List.foldl_cons, List.forall_mem_cons]
    constructor
    · rintro ⟨next, hnext, hcs⟩
      obtain ⟨hc, rfl, hlt⟩ := readOn_eq_ok_iff.1 hnext
      obtain ⟨hmem, hv⟩ := (ih hlt).1 hcs
      exact ⟨⟨hc, hmem⟩, hv⟩
    · rintro ⟨⟨hc, hmem⟩, hv, hlt⟩
      -- The value only grows from here.
      have hle := le_foldl_places hds ((cs.map lowerAscii).map (placeOf ds))
        (value * ds.length + placeOf ds (lowerAscii c))
      have hnext : value * ds.length + placeOf ds (lowerAscii c) < wordLimit := by omega
      exact ⟨_, readOn_eq_ok_iff.2 ⟨hc, rfl, hnext⟩, (ih hnext).2 ⟨hmem, hv, hlt⟩⟩

/-- A numeral is read if all its digits are known and its value is a word. -/
lemma decode_eq_ok_iff {ds : List Char} (hds : 0 < ds.length) {text : List Char} {v : Nat} :
    decode ds text = .ok v ↔ text ≠ [] ∧ (∀ c ∈ text.map lowerAscii, c ∈ ds) ∧
      ofPlaces ds.length ((text.map lowerAscii).map (placeOf ds)) = v ∧ v < wordLimit := by
  have hdecode : decode ds text =
      if text.isEmpty then .error .emptyNumeral else text.foldlM (readOn ds text) 0 := rfl
  rw [hdecode]
  cases text with
  | nil => simp
  | cons c text =>
    rw [if_neg (by simp), foldlM_readOn_eq_ok_iff hds _ (show 0 < wordLimit by decide)]
    simp [ofPlaces]

namespace IsAlphabet

variable {ds : List Char}

lemma length_pos (h : IsAlphabet ds) : 0 < ds.length := Nat.lt_of_lt_of_le (by decide) h.two_le

lemma getD_placeOf {c : Char} (hc : c ∈ ds) : ds.getD (placeOf ds c) ' ' = c := by
  have hlt : placeOf ds c < ds.length := List.idxOf_lt_length_of_mem hc
  rw [List.getD_eq_getElem _ _ hlt]
  exact List.getElem_idxOf hlt

lemma placeOf_getD (h : IsAlphabet ds) {p : Nat} (hp : p < ds.length) :
    placeOf ds (ds.getD p ' ') = p := by
  rw [List.getD_eq_getElem _ _ hp]
  exact h.nodup.idxOf_getElem p hp

lemma getD_zero (h : IsAlphabet ds) : ds.getD 0 ' ' = '0' := by
  have hhead := h.head
  cases ds with
  | nil => cases hhead
  | cons d ds => exact Option.some.inj hhead

lemma placeOf_zero (h : IsAlphabet ds) : placeOf ds '0' = 0 := by
  rw [← h.getD_zero]
  exact h.placeOf_getD h.length_pos

/-- A numeral holds the digits of the places of its value, behind zeros. -/
lemma encode_eq (h : IsAlphabet ds) (v minLength : Nat) :
    encode ds v minLength =
      (((places ds.length v).map fun p => ds.getD p ' ').leftpad minLength '0') := by
  rw [encode, h.getD_zero]

lemma mem_of_mem_encode (h : IsAlphabet ds) {v minLength : Nat} {c : Char}
    (hc : c ∈ encode ds v minLength) : c ∈ ds := by
  rw [h.encode_eq, List.leftpad] at hc
  rcases List.mem_append.1 hc with hc | hc
  · rw [List.eq_of_mem_replicate hc]
    exact List.mem_of_head? h.head
  · obtain ⟨p, hp, rfl⟩ := List.mem_map.1 hc
    have hlt := places_lt h.two_le p hp
    rw [List.getD_eq_getElem _ _ hlt]
    exact List.getElem_mem hlt

/-- The numeral of a word is read back, in either case. -/
theorem decode_encode (h : IsAlphabet ds) {v minLength : Nat} (hv : v < wordLimit) {cs : List Char}
    (hcs : cs.map lowerAscii = encode ds v minLength) : decode ds cs = .ok v := by
  rw [decode_eq_ok_iff h.length_pos, hcs]
  refine ⟨?_, fun c hc => h.mem_of_mem_encode hc, ?_, hv⟩
  · rintro rfl
    have hlen := congrArg List.length hcs
    have hplaces := List.length_pos_iff.2 (places_ne_nil ds.length v)
    rw [h.encode_eq, List.length_leftpad, List.length_map, List.length_map, List.length_nil] at hlen
    omega
  · have hplaces : (places ds.length v).map (placeOf ds ∘ fun p => ds.getD p ' ') =
        places ds.length v :=
      map_eq_self fun p hp => h.placeOf_getD (places_lt h.two_le p hp)
    rw [h.encode_eq, List.leftpad, List.map_append, List.map_replicate, List.map_map, hplaces,
      h.placeOf_zero, ofPlaces_replicate_append]
    exact ofPlaces_places _ _

lemma mem_digits_of_mem_encode (h : IsAlphabet ds) {v minLength : Nat} {c : Char}
    (hc : c ∈ encode ds v minLength) : c ∈ digits := h.subset c (h.mem_of_mem_encode hc)

lemma not_isBlank_of_mem_cased (h : IsAlphabet ds) {v minLength : Nat} {upper : Bool} :
    ∀ c ∈ cased upper (encode ds v minLength), isBlank c = false := by
  cases upper with
  | true => exact not_isBlank_of_mem_upperCase fun c => h.mem_digits_of_mem_encode
  | false => exact fun c hc => (digits_not_blank (h.mem_digits_of_mem_encode hc)).1

/-- The case changes the characters of a numeral, but not the digits that they are read as. -/
lemma decode_cased (h : IsAlphabet ds) {v minLength : Nat} {upper : Bool} (hv : v < wordLimit) :
    decode ds (cased upper (encode ds v minLength)) = .ok v := by
  cases upper with
  | true => exact h.decode_encode hv (map_lowerAscii_upperCase fun c => h.mem_digits_of_mem_encode)
  | false => exact h.decode_encode hv (map_lowerAscii fun c => h.mem_digits_of_mem_encode)

/-- Words that are written alike are the same. -/
lemma cased_encode_inj (h : IsAlphabet ds) {v w minLength : Nat} {upper : Bool} (hv : v < wordLimit)
    (hw : w < wordLimit) (heq : cased upper (encode ds v minLength) = cased upper (encode ds w minLength)) :
    v = w := by
  have hdecode : decode ds (cased upper (encode ds v minLength)) = .ok v := h.decode_cased hv
  rw [heq, h.decode_cased hw] at hdecode
  exact (Except.ok.inj hdecode).symm

/-- A numeral that is read is spelled anew with its significant digits. -/
theorem encode_of_decode (h : IsAlphabet ds) {text : List Char} {v : Nat} (hv : decode ds text = .ok v)
    (minLength : Nat) :
    encode ds v minLength = (significant '0' (text.map lowerAscii)).leftpad minLength '0' := by
  obtain ⟨hne, hmem, rfl, _⟩ := (decode_eq_ok_iff h.length_pos).1 hv
  have hdigits : ∀ c ∈ significant '0' (text.map lowerAscii), c ∈ ds :=
    fun c hc => hmem c (significant_subset hc)
  have hplaces : places ds.length (ofPlaces ds.length ((text.map lowerAscii).map (placeOf ds))) =
      (significant '0' (text.map lowerAscii)).map (placeOf ds) := by
    rw [places_ofPlaces_eq_significant h.two_le (by simpa using hne), map_significant, h.placeOf_zero]
    · intro c hc heq
      rw [← getD_placeOf (hmem c hc), heq, getD_placeOf (List.mem_of_head? h.head)]
    · intro p hp
      obtain ⟨c, hc, rfl⟩ := List.mem_map.1 hp
      exact List.idxOf_lt_length_of_mem (hmem c hc)
  rw [h.encode_eq, hplaces, List.map_map]
  exact congrArg _ (map_eq_self fun c hc => getD_placeOf (hdigits c hc))

end IsAlphabet

end BuildVersion.Numeral
