import BuildVersion.SemVer

/-!
# Precedence

The order in which semantic versions follow each other. Cores decide first. Of two versions with the
same core, one with a pre-release is lower than one without, and two pre-releases compare by their
first identifiers that differ, or else by their lengths. Build metadata decides nothing. Main
statements: precedence is irreflexive and transitive, and it can be decided.
-/

namespace BuildVersion

open Text

namespace SemVer

/-- An identifier of a pre-release by meaning. -/
inductive Identifier where
  | number (n : Nat)
  | word (cs : List Char)
deriving DecidableEq

/-- An identifier of digits alone is a number, any other one is a word. -/
def Identifier.ofChars (cs : List Char) : Identifier :=
  match natural? cs with
  | some n => .number n
  | none => .word cs

/-- Numbers compare by value and words by the codes of their characters; every number is lower than
every word. -/
inductive Identifier.Lower : Identifier → Identifier → Prop where
  | number {m n} : m < n → Lower (.number m) (.number n)
  | numberWord {n w} : Lower (.number n) (.word w)
  | word {v w} : v < w → Lower (.word v) (.word w)

/-- The identifiers of the pre-release. -/
def identifiers (v : SemVer) : List Identifier :=
  (split '.' v.pre.toList).map Identifier.ofChars

/-- One version is lower than another. -/
def Precedes (v w : SemVer) : Prop :=
  v.core < w.core ∨
    v.core = w.core ∧ v.pre ≠ "" ∧
      (w.pre = "" ∨ List.Lex Identifier.Lower v.identifiers w.identifiers)

theorem Identifier.Lower.irrefl (i : Identifier) : ¬ Lower i i := by
  intro h
  cases h with
  | number h => exact Nat.lt_irrefl _ h
  | word h => exact List.lt_irrefl _ h

theorem Identifier.Lower.trans {i j k : Identifier} (hij : Lower i j) (hjk : Lower j k) :
    Lower i k := by
  cases hij with
  | number h =>
    cases hjk with
    | number h' => exact .number (Nat.lt_trans h h')
    | numberWord => exact .numberWord
  | numberWord =>
    cases hjk with
    | word => exact .numberWord
  | word h =>
    cases hjk with
    | word h' => exact .word (List.lt_trans h h')

instance (i j : Identifier) : Decidable (Identifier.Lower i j) :=
  match i, j with
  | .number m, .number n =>
    if h : m < n then isTrue (.number h) else isFalse fun | .number h' => h h'
  | .number _, .word _ => isTrue .numberWord
  | .word _, .number _ => isFalse fun h => nomatch h
  | .word v, .word w =>
    if h : v < w then isTrue (.word h) else isFalse fun | .word h' => h h'

/-- Lists of identifiers do not precede themselves. -/
theorem lex_lower_irrefl (is : List Identifier) : ¬ List.Lex Identifier.Lower is is := by
  induction is with
  | nil => intro h; cases h
  | cons i is ih =>
    intro h
    cases h with
    | rel h => exact Identifier.Lower.irrefl i h
    | cons h => exact ih h

theorem lex_lower_trans {is js ks : List Identifier} (hij : List.Lex Identifier.Lower is js)
    (hjk : List.Lex Identifier.Lower js ks) : List.Lex Identifier.Lower is ks := by
  induction hij generalizing ks with
  | nil => cases hjk <;> exact .nil
  | rel h =>
    cases hjk with
    | rel h' => exact .rel (h.trans h')
    | cons => exact .rel h
  | cons _ ih =>
    cases hjk with
    | rel h' => exact .rel h'
    | cons h' => exact .cons (ih h')

theorem Precedes.irrefl (v : SemVer) : ¬ Precedes v v := by
  rintro (h | ⟨_, hne, h | h⟩)
  · exact Version.lt_irrefl v.core h
  · exact hne h
  · exact lex_lower_irrefl _ h

theorem Precedes.trans {u v w : SemVer} (huv : Precedes u v) (hvw : Precedes v w) : Precedes u w := by
  rcases huv with h | ⟨e, hu, h⟩
  · rcases hvw with h' | ⟨e', _, _⟩
    · exact .inl (Version.lt_trans h h')
    · exact .inl (e' ▸ h)
  · rcases hvw with h' | ⟨e', hv, h'⟩
    · exact .inl (e ▸ h')
    · refine .inr ⟨e.trans e', hu, ?_⟩
      rcases h' with h' | h'
      · exact .inl h'
      · exact .inr (lex_lower_trans (h.resolve_left hv) h')

instance (v w : SemVer) : Decidable (Precedes v w) :=
  inferInstanceAs (Decidable (v.core < w.core ∨ _))

end SemVer

end BuildVersion
