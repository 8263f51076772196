import BuildVersion.Error
import BuildVersion.Text.Casing
import BuildVersion.Text.Number

/-!
# Positional numerals

Numbers written with the digits of an alphabet, most significant digit first. Main statements: the
places of a number hold its value, and every place is below the base.
-/

namespace BuildVersion.Numeral

open Text

/-- Ten digits and the ASCII letters. -/
def digits : List Char := "0123456789abcdefghijklmnopqrstuvwxyz".toList

/-- The digits of base 28, without vowels and without letters that look like other digits, so that
no numeral spells a word. -/
def wordlessDigits : List Char := "0123456789bcdfghjkmnprstvwxz".toList

/-- The alphabet of a base. -/
def alphabet (base : Nat) : Except Error (List Char) :=
  if base = 28 then .ok wordlessDigits
  else if 2 ≤ base ∧ base ≤ 36 then .ok (digits.take base)
  else .error (.numeralBase base)

/-- The places of a number in a base, most significant first; zero has one place. -/
def places (base value : Nat) : List Nat :=
  if _h : 2 ≤ base ∧ base ≤ value then places base (value / base) ++ [value % base] else [value]
termination_by value
decreasing_by exact Nat.div_lt_self (by omega) (by omega)

/-- The number that has these places in a base. -/
def ofPlaces (base : Nat) (ps : List Nat) : Nat := ps.foldl (fun value p => value * base + p) 0

/-- The numeral of a number, filled up with the zero digit to a least length. -/
def encode (alphabet : List Char) (value minLength : Nat) : List Char :=
  ((places alphabet.length value).map fun place => alphabet.getD place ' ').leftpad minLength
    (alphabet.getD 0 ' ')

/-- The value of a numeral, digits being taken in either case. A digit that the alphabet does not
have or a value that does not fit a word is an error, whichever is met first from the left. -/
def decode (alphabet : List Char) (text : List Char) : Except Error Nat :=
  if text.isEmpty then .error .emptyNumeral
  else
    text.foldlM (fun value c =>
      match alphabet.idxOf? (lowerAscii c) with
      | none => .error (.foreignDigit c (String.ofList text) alphabet.length)
      | some place =>
        let next := value * alphabet.length + place
        if next < wordLimit then .ok next else .error (.numeralLimit (String.ofList text))) 0

theorem ofPlaces_append (base : Nat) (ps : List Nat) (p : Nat) :
    ofPlaces base (ps ++ [p]) = ofPlaces base ps * base + p := by
  simp [ofPlaces]

/-- The places of a number hold its value. -/
theorem ofPlaces_places (base value : Nat) : ofPlaces base (places base value) = value := by
  fun_induction places base value with
  | case1 value h ih =>
    rw [ofPlaces_append, ih, Nat.mul_comm]
    exact Nat.div_add_mod value base
  | case2 value h => simp [ofPlaces]

/-- Every place is below the base. -/
theorem places_lt {base value : Nat} (hb : 2 ≤ base) : ∀ p ∈ places base value, p < base := by
  fun_induction places base value with
  | case1 value h ih =>
    intro p hp
    rcases List.mem_append.1 hp with hp | hp
    · exact ih p hp
    · rw [List.mem_singleton.1 hp]
      exact Nat.mod_lt _ (by omega)
  | case2 value h =>
    intro p hp
    rw [List.mem_singleton.1 hp]
    omega

end BuildVersion.Numeral
