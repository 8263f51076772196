import BuildVersion.Text.Character

/-!
# Numbers in decimal

Readers for runs of decimal digits and for words of 64 bits with an optional sign, and the padded
spelling. A reader takes the whole text or fails: no blanks, no separators, any number of leading
zeros.
-/

namespace BuildVersion.Text

/-- The first number that no longer fits a word of 64 bits. -/
def wordLimit : Nat := 18446744073709551616

/-- The first number that no longer fits a signed word of 64 bits. -/
def signedLimit : Nat := 9223372036854775808

/-- A non-empty run of decimal digits, read as its value. -/
def natural? (cs : List Char) : Option Nat :=
  if !cs.isEmpty && cs.all isDigit then some (Nat.ofDigitChars 10 cs 0) else none

/-- Drops one plus sign. -/
def dropPlus : List Char → List Char
  | '+' :: cs => cs
  | cs => cs

/-- A word of 64 bits: an optional plus sign and digits. -/
def word? (cs : List Char) : Option UInt64 :=
  match natural? (dropPlus cs) with
  | some n => if n < wordLimit then some (UInt64.ofNat n) else none
  | none => none

/-- An integer: an optional sign and digits. -/
def integer? : List Char → Option Int
  | '-' :: cs => (natural? cs).map fun n => -(n : Int)
  | cs => (natural? (dropPlus cs)).map fun n => (n : Int)

/-- A signed word of 64 bits. -/
def signedWord? (cs : List Char) : Option Int :=
  match integer? cs with
  | some n => if -(signedLimit : Int) ≤ n ∧ n < signedLimit then some n else none
  | none => none

/-- The decimal digits of a number, filled up with zeros on the left. -/
def padded (width n : Nat) : String :=
  String.ofList ((Nat.toDigits 10 n).leftpad width '0')

theorem isDigit_eq (c : Char) : isDigit c = c.isDigit := by
  simp only [isDigit, Char.isDigit, Char.le_def, ge_iff_le]

theorem natural?_eq_some_iff {cs : List Char} {n : Nat} :
    natural? cs = some n ↔ cs ≠ [] ∧ (∀ c ∈ cs, isDigit c = true) ∧ Nat.ofDigitChars 10 cs 0 = n := by
  unfold natural?
  split
  · next h =>
    simp only [Bool.and_eq_true, Bool.not_eq_true', List.isEmpty_eq_false_iff, List.all_eq_true] at h
    simp [h.1]
    exact fun _ => h.2
  · next h =>
    simp only [Bool.and_eq_true, Bool.not_eq_true', List.isEmpty_eq_false_iff, List.all_eq_true] at h
    constructor
    · intro e; cases e
    · rintro ⟨h1, h2, _⟩; exact absurd ⟨h1, h2⟩ h

/-- Every number is read back from its decimal digits. -/
theorem natural?_toDigits (n : Nat) : natural? (Nat.toDigits 10 n) = some n := by
  rw [natural?_eq_some_iff]
  refine ⟨Nat.toDigits_ne_nil, ?_, Nat.ofDigitChars_ten_toDigits⟩
  intro c hc
  rw [isDigit_eq]
  exact Nat.isDigit_of_mem_toDigits (by decide) (by decide) hc

end BuildVersion.Text
