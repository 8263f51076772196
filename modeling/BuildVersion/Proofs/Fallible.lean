import Mathlib.Tactic.Lemma

/-!
# Computations that can fail

When a computation in several steps has an answer: each step has one.
-/

namespace BuildVersion.Fallible

variable {ε α β : Type}

lemma bind_eq_ok_iff {x : Except ε α} {f : α → Except ε β} {b : β} :
    x >>= f = .ok b ↔ ∃ a, x = .ok a ∧ f a = .ok b := by
  cases x <;> simp [bind, Except.bind]

lemma ok_bind (a : α) (f : α → Except ε β) : Except.ok a >>= f = f a := rfl

lemma map_eq_ok_iff {x : Except ε α} {f : α → β} {b : β} :
    x.map f = .ok b ↔ ∃ a, x = .ok a ∧ f a = b := by
  cases x <;> simp [Except.map]

lemma map_eq_error_iff {x : Except ε α} {f : α → β} {e : ε} : x.map f = .error e ↔ x = .error e := by
  cases x <;> simp [Except.map]

/-- Other words for a failure do not make it an answer. -/
lemma mapError_eq_ok_iff {ε' : Type} {x : Except ε α} {f : ε → ε'} {a : α} :
    x.mapError f = .ok a ↔ x = .ok a := by
  cases x with
  | error e => constructor <;> intro h <;> cases h
  | ok b => constructor <;> intro h <;> cases h <;> rfl

/-- Steps over a list fail at the first one that fails. -/
lemma foldlM_eq_error_iff {f : β → α → Except ε β} {as : List α} {b : β} {e : ε} :
    as.foldlM f b = .error e ↔ ∃ front a rest, as = front ++ a :: rest ∧
      ∃ b', front.foldlM f b = .ok b' ∧ f b' a = .error e := by
  induction as generalizing b with
  | nil =>
    constructor
    · intro h
      cases h
    · rintro ⟨front, a, rest, hcut, _⟩
      simp at hcut
  | cons a as ih =>
    rw [List.foldlM_cons]
    constructor
    · intro h
      cases hfirst : f b a with
      | error e' =>
        rw [hfirst] at h
        cases h
        exact ⟨[], a, as, rfl, b, rfl, hfirst⟩
      | ok b' =>
        rw [hfirst, ok_bind] at h
        obtain ⟨front, a', rest, rfl, b'', hfront, hfail⟩ := ih.1 h
        exact ⟨a :: front, a', rest, rfl, b'', by rw [List.foldlM_cons, hfirst, ok_bind, hfront], hfail⟩
    · rintro ⟨front, a', rest, hcut, b', hfront, hfail⟩
      cases front with
      | nil =>
        cases hcut
        cases hfront
        rw [hfail]
        rfl
      | cons c front =>
        obtain ⟨rfl, rfl⟩ := List.cons.inj hcut
        rw [List.foldlM_cons] at hfront
        obtain ⟨b'', hfirst, hfront⟩ := bind_eq_ok_iff.1 hfront
        rw [hfirst, ok_bind]
        exact ih.2 ⟨front, a', rest, rfl, b', hfront, hfail⟩

/-- An answer can be compared where the reasons of failure cannot. -/
lemma eq_ok_of_toOption {x : Except ε α} {a : α} (h : x.toOption = some a) : x = .ok a := by
  cases x with
  | error e => cases h
  | ok b => rw [Option.some.inj h]

end BuildVersion.Fallible
