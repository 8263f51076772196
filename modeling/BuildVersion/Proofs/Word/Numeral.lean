import BuildVersion.Proofs.Numeral
import BuildVersion.Word.Numeral
import Mathlib.Data.Nat.Digits.Defs
import Mathlib.Data.Nat.Log

/-!
# Numerals of words

Writing a word as a numeral and reading a numeral as a word undo each other. How long a numeral is and what it
is worth are said by the logarithm and by the weights of its places, and not by the functions that write and
read it. Main statements: nothing stops the loop that takes the digits off (`IsAlphabet.wordEncode_eq`), a
numeral that is not read is refused for the first thing from the left (`IsAlphabet.decode_eq_error_iff`), and
all of it for every base (`words_written_and_read`).
-/

namespace BuildVersion.Numeral

open Text

/-! ### Lengths and values -/

/-- The value of digits in either case, each by the weight of its place. -/
def valueOf (ds cs : List Char) : Nat :=
  Nat.ofDigits ds.length (cs.reverse.map fun c => placeOf ds (lowerAscii c))

/-- Digits of an alphabet in either case. -/
def Spelled (ds cs : List Char) : Prop := ∀ c ∈ cs, lowerAscii c ∈ ds

instance (ds cs : List Char) : Decidable (Spelled ds cs) :=
  decidable_of_iff ((cs.all fun c => ds.contains (lowerAscii c)) = true) (by simp [Spelled])

/-- How the numeral of a number is written: in digits of the alphabet, with no more zeros in front of the
significant digits than the least length asks for. Zero has one significant digit. -/
structure Written (ds : List Char) (value minLength : Nat) (cs : List Char) : Prop where
  mem : ∀ c ∈ cs, c ∈ ds
  length : cs.length = max minLength (Nat.log ds.length value + 1)
  zeros : ∃ rest, cs = List.replicate (minLength - rest.length) '0' ++ rest ∧
    rest.length = Nat.log ds.length value + 1 ∧ (rest.head? = some '0' → value = 0 ∧ rest = ['0'])

/-- What a text is refused for: for having no digits, or for the first character that is no digit or makes the
value too large. -/
inductive Refuses (ds text : List Char) : Error → ErrorKind → Prop where
  | empty :
    text = [] →
    Refuses ds text .emptyNumeral .format
  | foreign {front rest : List Char} {c : Char} :
    text = front ++ c :: rest →
    Spelled ds front →
    valueOf ds front < wordLimit →
    lowerAscii c ∉ ds →
    Refuses ds text (.foreignDigit c (String.ofList text) ds.length) .format
  | limit {front rest : List Char} {c : Char} :
    text = front ++ c :: rest →
    Spelled ds (front ++ [c]) →
    valueOf ds front < wordLimit →
    wordLimit ≤ valueOf ds (front ++ [c]) →
    Refuses ds text (.numeralLimit (String.ofList text)) .bounds

lemma ofPlaces_eq_ofDigits (base : Nat) (ps : List Nat) : ofPlaces base ps = Nat.ofDigits base ps.reverse := by
  induction ps using List.reverseRecOn with
  | nil => rfl
  | append_singleton ps p ih =>
    rw [ofPlaces_append, ih, List.reverse_append, List.reverse_singleton, List.singleton_append,
      Nat.ofDigits_cons, Nat.mul_comm, Nat.add_comm]

lemma valueOf_eq_ofPlaces (ds cs : List Char) :
    valueOf ds cs = ofPlaces ds.length ((cs.map lowerAscii).map (placeOf ds)) := by
  rw [ofPlaces_eq_ofDigits, ← List.map_reverse, ← List.map_reverse, List.map_map]
  rfl

lemma valueOf_concat (ds cs : List Char) (c : Char) :
    valueOf ds (cs ++ [c]) = valueOf ds cs * ds.length + placeOf ds (lowerAscii c) := by
  rw [valueOf_eq_ofPlaces, valueOf_eq_ofPlaces, List.map_append, List.map_append, List.map_singleton,
    List.map_singleton, ofPlaces_append]

lemma spelled_iff {ds cs : List Char} : Spelled ds cs ↔ ∀ c ∈ cs.map lowerAscii, c ∈ ds := by
  rw [List.forall_mem_map]
  rfl

lemma length_places {base : Nat} (hb : 2 ≤ base) (value : Nat) :
    (places base value).length = Nat.log base value + 1 := by
  fun_induction places base value with
  | case1 value h ih =>
    rw [List.length_append, ih, List.length_singleton, Nat.log_of_one_lt_of_le h.1 h.2]
  | case2 value h =>
    rw [Nat.log_of_lt (by omega)]
    rfl

/-- Only zero begins with the place zero. -/
lemma places_of_head? {base value : Nat} (hb : 2 ≤ base) (h : (places base value).head? = some 0) :
    value = 0 ∧ places base value = [0] := by
  have hsignificant := places_ofPlaces_eq_significant hb (places_ne_nil base value) (places_lt hb)
  rw [ofPlaces_places] at hsignificant
  rw [hsignificant] at h
  have hplaces : places base value = [0] := hsignificant.trans (eq_singleton_of_head?_significant h)
  refine ⟨?_, hplaces⟩
  rw [← ofPlaces_places base value, hplaces, ofPlaces, List.foldl_cons, Nat.zero_mul, List.foldl_nil]

/-- In front of the significant digits there are zeros alone. -/
lemma exists_replicate_significant {α : Type} [DecidableEq α] (zero : α) (ds : List α) :
    ∃ n, List.replicate n zero ++ significant zero ds = ds := by
  fun_induction significant zero ds with
  | case1 e ds ih =>
    obtain ⟨n, hn⟩ := ih
    exact ⟨n + 1, by rw [List.replicate_succ, List.cons_append, hn]⟩
  | case2 d e ds hd => exact ⟨0, rfl⟩
  | case3 ds hshort => exact ⟨0, rfl⟩

lemma leftpad_significant {α : Type} [DecidableEq α] (zero : α) (ds : List α) :
    (significant zero ds).leftpad ds.length zero = ds := by
  obtain ⟨n, hn⟩ := exists_replicate_significant zero ds
  have hlength := congrArg List.length hn
  rw [List.length_append, List.length_replicate] at hlength
  rw [List.leftpad, show ds.length - (significant zero ds).length = n by omega, hn]

/-! ### Reading -/

lemma readOn_eq_error_iff {ds text : List Char} {value : Nat} {c : Char} {e : Error} :
    readOn ds text value c = .error e ↔
      (lowerAscii c ∉ ds ∧ e = .foreignDigit c (String.ofList text) ds.length) ∨
        (lowerAscii c ∈ ds ∧ wordLimit ≤ value * ds.length + placeOf ds (lowerAscii c) ∧
          e = .numeralLimit (String.ofList text)) := by
  rw [readOn, idxOf?_eq_ite]
  by_cases hc : lowerAscii c ∈ ds
  · by_cases hnext : value * ds.length + placeOf ds (lowerAscii c) < wordLimit
    · simp [hc, hnext]
    · simp [hc, hnext, Nat.not_lt.1 hnext, eq_comm]
  · simp [hc, eq_comm]

lemma decode_eq_foldlM {ds text : List Char} (h : text ≠ []) :
    decode ds text = text.foldlM (readOn ds text) 0 := by
  cases text with
  | nil => exact absurd rfl h
  | cons c text => rfl

namespace IsAlphabet

variable {ds : List Char}

/-- A text is read if it has digits alone and its value is a word. -/
lemma decode_eq_ok_iff_valueOf (h : IsAlphabet ds) {text : List Char} {value : Nat} :
    decode ds text = .ok value ↔
      text ≠ [] ∧ Spelled ds text ∧ valueOf ds text < wordLimit ∧ valueOf ds text = value := by
  rw [decode_eq_ok_iff h.length_pos, ← spelled_iff, ← valueOf_eq_ofPlaces]
  refine and_congr_right fun _ => and_congr_right fun _ => ?_
  constructor
  · rintro ⟨rfl, hlt⟩
    exact ⟨hlt, rfl⟩
  · rintro ⟨hlt, rfl⟩
    exact ⟨rfl, hlt⟩

lemma foldlM_readOn_zero (h : IsAlphabet ds) {text front : List Char} {value : Nat} :
    front.foldlM (readOn ds text) 0 = .ok value ↔
      Spelled ds front ∧ valueOf ds front = value ∧ value < wordLimit := by
  rw [foldlM_readOn_eq_ok_iff h.length_pos front (show 0 < wordLimit by decide), ← spelled_iff,
    valueOf_eq_ofPlaces]
  rfl

/-- A text is refused for the first thing from the left. -/
lemma decode_eq_error_iff (h : IsAlphabet ds) {text : List Char} {e : Error} :
    decode ds text = .error e ↔ Refuses ds text e e.kind := by
  cases htext : text with
  | nil =>
    constructor
    · intro hdecode
      cases hdecode
      exact .empty rfl
    · intro hrefuses
      generalize e.kind = kind at hrefuses
      cases hrefuses with
      | empty => rfl
      | foreign hcut => simp at hcut
      | limit hcut => simp at hcut
  | cons d ds' =>
    rw [← htext, decode_eq_foldlM (by rw [htext]; exact List.cons_ne_nil _ _), Fallible.foldlM_eq_error_iff]
    constructor
    · rintro ⟨front, c, rest, hcut, value, hfront, hc⟩
      obtain ⟨hspelled, rfl, hlt⟩ := h.foldlM_readOn_zero.1 hfront
      rcases readOn_eq_error_iff.1 hc with ⟨hforeign, rfl⟩ | ⟨hdigit, hlimit, rfl⟩
      · exact .foreign hcut hspelled hlt hforeign
      · refine .limit hcut ?_ hlt ?_
        · intro b hb
          rcases List.mem_append.1 hb with hb | hb
          · exact hspelled b hb
          · rw [List.mem_singleton.1 hb]
            exact hdigit
        · rwa [valueOf_concat]
    · intro hrefuses
      generalize e.kind = kind at hrefuses
      cases hrefuses with
      | empty hnil => rw [hnil] at htext; cases htext
      | foreign hcut hspelled hlt hforeign =>
        exact ⟨_, _, _, hcut, _, h.foldlM_readOn_zero.2 ⟨hspelled, rfl, hlt⟩,
          readOn_eq_error_iff.2 (.inl ⟨hforeign, rfl⟩)⟩
      | limit hcut hspelled hlt hlimit =>
        rw [valueOf_concat] at hlimit
        exact ⟨_, _, _, hcut, _,
          h.foldlM_readOn_zero.2 ⟨fun b hb => hspelled b (List.mem_append_left _ hb), rfl, hlt⟩,
          readOn_eq_error_iff.2 (.inr ⟨hspelled _ (by simp), hlimit, rfl⟩)⟩

/-- A numeral that is read is written again, its own length being the least length. -/
lemma encode_length_of_decode (h : IsAlphabet ds) {text : List Char} {value : Nat}
    (hvalue : decode ds text = .ok value) : encode ds value text.length = text.map lowerAscii := by
  have hlength : text.length = (text.map lowerAscii).length := (List.length_map _).symm
  rw [h.encode_of_decode hvalue, hlength, leftpad_significant]

end IsAlphabet

/-! ### Reading on words -/

/-- An alphabet is cut out of all digits without cutting a character. -/
lemma wordAlphabet_eq (base : Nat) : wordAlphabet base = .of (alphabet base) := by
  rw [wordAlphabet, alphabet]
  split
  · rfl
  · split
    · next hrange =>
      have hascii : IsAscii digits := by decide
      have hlength : digits.length = 36 := rfl
      have hslice : slice digits 0 (0 + base) = .ok ((digits.drop 0).take base) :=
        slice_of_isAscii hascii (by rw [hlength]; omega)
      rw [Nat.zero_add, List.drop_zero] at hslice
      rw [hslice]
      rfl
    · rfl

/-- A product and a sum stop where the sum is no word. -/
lemma mul_add_eq (a b c : Nat) :
    (do Word.add (← Word.mul a b) c : Except Trap Nat) =
      if a * b + c < wordLimit then .ok (a * b + c) else .error .overflow := by
  by_cases hmul : a * b < wordLimit
  · rw [Word.mul_eq_ok hmul, Fallible.ok_bind]
    split
    · next hadd => exact Word.add_eq_ok hadd
    · next hadd => exact Word.add_eq_error (Nat.le_of_not_lt hadd)
  · rw [Word.mul_eq_error (Nat.le_of_not_lt hmul), if_neg (by omega)]
    rfl

lemma wordReadOn_eq (ds text : List Char) (value : Nat) (c : Char) :
    wordReadOn ds text value c = .of (readOn ds text value c) := by
  rw [wordReadOn, readOn]
  cases ds.idxOf? (lowerAscii c) with
  | none => rfl
  | some place =>
    simp only [mul_add_eq]
    split <;> rfl

lemma foldlM_wordReadOn_eq (ds text cs : List Char) (value : Nat) :
    cs.foldlM (wordReadOn ds text) value = .of (cs.foldlM (readOn ds text) value) := by
  induction cs generalizing value with
  | nil => rfl
  | cons c cs ih =>
    rw [List.foldlM_cons, List.foldlM_cons, wordReadOn_eq]
    cases readOn ds text value c with
    | error e => rfl
    | ok next => exact ih next

/-- Nothing stops the loop that reads a numeral. -/
lemma wordDecode_eq (ds text : List Char) : wordDecode ds text = .of (decode ds text) := by
  cases text with
  | nil => rfl
  | cons c text => exact foldlM_wordReadOn_eq ds _ _ 0

namespace IsAlphabet

variable {ds : List Char}

/-! ### Writing -/

lemma getD_eq_zero_iff (h : IsAlphabet ds) {p : Nat} (hp : p < ds.length) : ds.getD p ' ' = '0' ↔ p = 0 := by
  constructor
  · intro hzero
    rw [← h.placeOf_getD hp, hzero, h.placeOf_zero]
  · rintro rfl
    exact h.getD_zero

lemma written_encode (h : IsAlphabet ds) (value minLength : Nat) :
    Written ds value minLength (encode ds value minLength) := by
  have hlength : ((places ds.length value).map fun p => ds.getD p ' ').length =
      Nat.log ds.length value + 1 := by
    rw [List.length_map, length_places h.two_le]
  refine ⟨fun c => h.mem_of_mem_encode, ?_, _, h.encode_eq value minLength, hlength, ?_⟩
  · rw [h.encode_eq, List.length_leftpad, hlength]
  · intro hhead
    rw [List.head?_map] at hhead
    obtain ⟨p, hp, hzero⟩ := Option.map_eq_some_iff.1 hhead
    have hlt : p < ds.length := places_lt h.two_le p (List.mem_of_head? hp)
    rw [(h.getD_eq_zero_iff hlt).1 hzero] at hp
    obtain ⟨hvalue, hplaces⟩ := places_of_head? h.two_le hp
    refine ⟨hvalue, ?_⟩
    rw [hplaces, List.map_singleton, h.getD_zero]

lemma item_getD {p : Nat} (hp : p < ds.length) : item ds p = .ok (ds.getD p ' ') := by
  apply item_eq_ok
  rw [List.getElem?_eq_getElem hp, List.getD_eq_getElem _ _ hp]

/-- Digits are taken off until none is left. -/
lemma lastDigits_eq (h : IsAlphabet ds) (value : Nat) :
    lastDigits ds value = .ok ((places ds.length value).map fun p => ds.getD p ' ').reverse := by
  have hpos := h.length_pos
  fun_induction places ds.length value with
  | case1 value hle ih =>
    have hrest : value / ds.length ≠ 0 := Nat.ne_of_gt (Nat.div_pos hle.2 hpos)
    have hless : value / ds.length < value := Nat.div_lt_self (by omega) hle.1
    have hlast : item ds (value % ds.length) = .ok (ds.getD (value % ds.length) ' ') :=
      item_getD (Nat.mod_lt value hpos)
    rw [lastDigits, Word.mod_eq_ok _ hpos, Word.div_eq_ok _ hpos, Fallible.ok_bind, hlast,
      Fallible.ok_bind, Fallible.ok_bind, if_neg hrest, dif_pos hless, ih, Fallible.ok_bind,
      List.map_append, List.map_singleton, List.reverse_append, List.reverse_singleton]
    rfl
  | case2 value hlt =>
    have hvalue : value < ds.length := by
      have := h.two_le
      omega
    rw [lastDigits, Word.mod_eq_ok _ hpos, Word.div_eq_ok _ hpos, Nat.mod_eq_of_lt hvalue,
      Nat.div_eq_of_lt hvalue, Fallible.ok_bind, item_getD hvalue, Fallible.ok_bind, Fallible.ok_bind,
      if_pos rfl]
    rfl

lemma mapM_item_zero (h : IsAlphabet ds) (n : Nat) :
    (List.replicate n 0).mapM (item ds) = .ok (List.replicate n '0') := by
  induction n with
  | zero => rfl
  | succ n ih =>
    rw [List.replicate_succ, List.mapM_cons, item_getD h.length_pos, h.getD_zero, ih]
    rfl

/-- Nothing stops the loop that writes a numeral. -/
lemma wordEncode_eq (h : IsAlphabet ds) (value minLength : Nat) :
    wordEncode ds value minLength = .ok (encode ds value minLength) := by
  rw [wordEncode, h.lastDigits_eq, h.encode_eq, List.leftpad]
  simp [Fallible.ok_bind, h.mapM_item_zero]

end IsAlphabet

/-- For every base, words and their numerals determine each other, up to the case of the digits and zeros in
front, and nothing stops the loops that write and read them; what is no numeral of a word is refused for the first
thing from the left. -/
theorem words_written_and_read {base : Nat} (hbase : 2 ≤ base ∧ base ≤ 36) :
    ∃ ds, alphabet base = .ok ds ∧ ds.length = base ∧
      (∀ value minLength, value < wordLimit →
        wordEncode ds value minLength = .ok (encode ds value minLength) ∧
        Written ds value minLength (encode ds value minLength) ∧
        decode ds (encode ds value minLength) = .ok value ∧
        decode ds (upperCase (encode ds value minLength)) = .ok value) ∧
      (∀ text, (wordDecode ds text).run = .ok (decode ds text)) ∧
      (∀ text value, decode ds text = .ok value ↔
        text ≠ [] ∧ Spelled ds text ∧ valueOf ds text < wordLimit ∧ valueOf ds text = value) ∧
      (∀ text value, decode ds text = .ok value → encode ds value text.length = text.map lowerAscii) ∧
      (∀ text e, decode ds text = .error e ↔ Refuses ds text e e.kind) := by
  obtain ⟨ds, hds⟩ := exists_alphabet hbase
  obtain ⟨h, hlength⟩ := isAlphabet_of_alphabet hds
  refine ⟨ds, hds, hlength, ?_, fun text => wordDecode_eq ds text, fun text value => h.decode_eq_ok_iff_valueOf,
    fun text value => h.encode_length_of_decode, fun text e => h.decode_eq_error_iff⟩
  intro value minLength hvalue
  have hlower : decode ds (cased false (encode ds value minLength)) = .ok value := h.decode_cased hvalue
  have hupper : decode ds (cased true (encode ds value minLength)) = .ok value := h.decode_cased hvalue
  exact ⟨h.wordEncode_eq value minLength, h.written_encode value minLength, hlower, hupper⟩

/-- The largest word in base 28, with two zeros in front, and a text whose value leaves the words one digit before
a character that is no digit. -/
theorem words_written_and_read_wordless :
    let largest := 18446744073709551615
    let tooLarge := "2td6n26r66zkvj!".toList
    (2 ≤ 28 ∧ 28 ≤ 36) ∧ largest < wordLimit ∧
      wordEncode wordlessDigits largest 16 = .ok "002td6n26r66zkvh".toList ∧
      decode wordlessDigits "002TD6N26R66ZKVH".toList = .ok largest ∧
      encode wordlessDigits largest "2TD6n26r66zKVH".toList.length = "2td6n26r66zkvh".toList ∧
      decode wordlessDigits tooLarge = .error (.numeralLimit (String.ofList tooLarge)) := by
  intro largest tooLarge
  obtain ⟨ds, hds, _, hwrite, _, hread, hagain, hrefuse⟩ := @words_written_and_read 28 (by decide)
  obtain rfl : wordlessDigits = ds := Except.ok.inj hds
  have hlargest : largest < wordLimit := by decide
  have hpadded : encode wordlessDigits largest 16 = "002td6n26r66zkvh".toList := by decide +kernel
  have hupper : upperCase "002td6n26r66zkvh".toList = "002TD6N26R66ZKVH".toList := by decide +kernel
  obtain ⟨hwritten, _, _, hback⟩ := hwrite largest 16 hlargest
  rw [hpadded] at hwritten hback
  rw [hupper] at hback
  have hspelled : Spelled wordlessDigits "2TD6n26r66zKVH".toList := by decide +kernel
  have hvalue : valueOf wordlessDigits "2TD6n26r66zKVH".toList = largest := by decide +kernel
  have hmixed := (hread "2TD6n26r66zKVH".toList largest).2
    ⟨by decide +kernel, hspelled, by rw [hvalue]; exact hlargest, hvalue⟩
  have hlower : "2TD6n26r66zKVH".toList.map lowerAscii = "2td6n26r66zkvh".toList := by decide +kernel
  have hshort := hagain _ _ hmixed
  rw [hlower] at hshort
  have hcut : tooLarge = "2td6n26r66zkv".toList ++ 'j' :: ['!'] := by decide +kernel
  have hdigits : Spelled wordlessDigits ("2td6n26r66zkv".toList ++ ['j']) := by decide +kernel
  have hlimit := Refuses.limit hcut hdigits (by decide +kernel) (by decide +kernel)
  exact ⟨by decide, hlargest, hwritten, hback, hshort, (hrefuse _ _).2 hlimit⟩

end BuildVersion.Numeral
