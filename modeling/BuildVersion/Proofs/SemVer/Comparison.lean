import BuildVersion.Proofs.Text.Decimal
import BuildVersion.Proofs.Text.Pieces
import BuildVersion.SemVer.Precedence
import Mathlib.Data.List.Lex

/-!
# Comparing pre-releases that end in a number

Two pre-releases that differ in the number at their ends only. A number that is an identifier of its own
compares by its value. One that a hyphen joins to an identifier is part of a word and compares by its digits.
Main statements: `lex_number_iff`, `lex_dot_number_iff` and `lex_hyphen_number_iff`.
-/

namespace BuildVersion.SemVer

open Text

instance : Std.Irrefl Identifier.Lower := ⟨Identifier.Lower.irrefl⟩

/-- The identifiers of a text. -/
def identifiersOf (cs : List Char) : List Identifier := (split '.' cs).map Identifier.ofChars

/-- Of two pre-releases of one core, the identifiers decide. -/
lemma precedes_iff_lex {v w : SemVer} (hcore : v.core = w.core) (hv : v.pre ≠ "") (hw : w.pre ≠ "") :
    v.Precedes w ↔
      List.Lex Identifier.Lower (identifiersOf v.pre.toList) (identifiersOf w.pre.toList) := by
  rw [Precedes, hcore, or_iff_right (Version.lt_irrefl _), and_iff_right rfl, and_iff_right hv,
    or_iff_right hw]
  rfl

/-- Lists with the same front compare by what follows it. -/
lemma lex_append_left_iff {α : Type} {r : α → α → Prop} [Std.Irrefl r] {as bs : List α} (front : List α) :
    List.Lex r (front ++ as) (front ++ bs) ↔ List.Lex r as bs := by
  induction front with
  | nil => rfl
  | cons a front ih => rw [List.cons_append, List.cons_append, List.lex_cons_iff, ih]

namespace Identifier

lemma lower_number_iff {m n : Nat} : Lower (.number m) (.number n) ↔ m < n := by
  refine ⟨fun h => ?_, .number⟩
  cases h with
  | number h => exact h

lemma lower_word_iff {v w : List Char} : Lower (.word v) (.word w) ↔ v < w := by
  refine ⟨fun h => ?_, .word⟩
  cases h with
  | word h => exact h

lemma ofChars_toDigits (n : Nat) : ofChars (Nat.toDigits 10 n) = .number n := by
  rw [ofChars, natural?_toDigits]

/-- A text with a character that is no digit is a word. -/
lemma ofChars_of_not_isDigit {cs : List Char} {c : Char} (hc : c ∈ cs) (h : isDigit c = false) :
    ofChars cs = .word cs := by
  have hnone : natural? cs = none := by
    rw [Option.eq_none_iff_forall_ne_some]
    intro n hn
    have hdigit := (natural?_eq_some_iff.1 hn).2.1 c hc
    rw [h] at hdigit
    cases hdigit
  rw [ofChars, hnone]

end Identifier

lemma dot_notMem_toDigits (n : Nat) : '.' ∉ Nat.toDigits 10 n := fun h =>
  absurd (isDigit_of_mem_toDigits h) (by decide)

lemma identifiersOf_toDigits (n : Nat) : identifiersOf (Nat.toDigits 10 n) = [.number n] := by
  rw [identifiersOf, split_eq_singleton (dot_notMem_toDigits n), List.map_singleton,
    Identifier.ofChars_toDigits]

/-- Numbers alone compare by value. -/
lemma lex_number_iff {m n : Nat} :
    List.Lex Identifier.Lower (identifiersOf (Nat.toDigits 10 m)) (identifiersOf (Nat.toDigits 10 n)) ↔
      m < n := by
  rw [identifiersOf_toDigits, identifiersOf_toDigits, List.lex_singleton_iff, Identifier.lower_number_iff]

/-- Numbers after a dot compare by value. -/
lemma lex_dot_number_iff {m n : Nat} (front : List Char) :
    List.Lex Identifier.Lower (identifiersOf (front ++ '.' :: Nat.toDigits 10 m))
      (identifiersOf (front ++ '.' :: Nat.toDigits 10 n)) ↔ m < n := by
  have hsplit : ∀ k, identifiersOf (front ++ '.' :: Nat.toDigits 10 k) =
      identifiersOf front ++ identifiersOf (Nat.toDigits 10 k) := fun k => by
    rw [identifiersOf, split_append_cons, List.map_append]
    rfl
  rw [hsplit, hsplit, lex_append_left_iff, lex_number_iff]

/-- Numbers after a hyphen compare by their digits. -/
lemma lex_hyphen_number_iff {m n : Nat} (front : List Char) :
    List.Lex Identifier.Lower (identifiersOf (front ++ '-' :: Nat.toDigits 10 m))
      (identifiersOf (front ++ '-' :: Nat.toDigits 10 n)) ↔ Nat.toDigits 10 m < Nat.toDigits 10 n := by
  obtain ⟨pieces, last, hsplit⟩ := exists_split_append '.' front
  have hword : ∀ k, identifiersOf (front ++ '-' :: Nat.toDigits 10 k) =
      pieces.map Identifier.ofChars ++ [.word (last ++ ['-'] ++ Nat.toDigits 10 k)] := by
    intro k
    have hdot : '.' ∉ '-' :: Nat.toDigits 10 k := by
      rintro (_ | ⟨_, h⟩)
      exact dot_notMem_toDigits k h
    rw [identifiersOf, hsplit _ hdot, List.map_append, List.map_singleton,
      Identifier.ofChars_of_not_isDigit (c := '-') (by simp) (by decide), List.append_assoc]
    rfl
  rw [hword, hword, lex_append_left_iff, List.lex_singleton_iff, Identifier.lower_word_iff]
  exact lex_append_left_iff _

end BuildVersion.SemVer
