import BuildVersion.Template.Basic
import Mathlib.Tactic.Lemma

/-!
# Occurrences of placeholders

Where placeholders stand in a text, said without reading it: an opening brace whose next brace is a
closing one. `atoms` finds them from left to right. Main statements: `atoms` cuts a text exactly at its
occurrences (`cutting_atoms`), there is no other such cutting (`Cutting.unique`), and the cutting of a
concatenation is that of its parts unless an occurrence spans the joint (`atoms_append`).
-/

namespace BuildVersion.Template

/-- The characters that open and close placeholders. -/
def isBrace (c : Char) : Bool := c == '{' || c == '}'

/-- A text without braces. -/
def Braceless (cs : List Char) : Prop := ∀ c ∈ cs, isBrace c = false

/-- A placeholder stands in a text between `before` and `after`. -/
def Occurs (text before inner after : List Char) : Prop :=
  text = before ++ '{' :: (inner ++ '}' :: after) ∧ Braceless inner

/-- Atoms that make up a text, with a placeholder wherever one stands in the text and nowhere else. -/
structure Cutting (text : List Char) (as : List Atom) : Prop where
  /-- Nothing is lost and nothing added. -/
  chars : as.flatMap Atom.chars = text
  /-- Every placeholder is one of the text. -/
  braceless : ∀ inner, .placeholder inner ∈ as → Braceless inner
  /-- Every placeholder of the text is cut out where it stands. -/
  complete : ∀ before inner after, Occurs text before inner after →
    ∃ as₁ as₂, as = as₁ ++ .placeholder inner :: as₂ ∧ as₁.flatMap Atom.chars = before ∧
      as₂.flatMap Atom.chars = after

/-- The first brace of a text. -/
def firstBrace? (cs : List Char) : Option Char := cs.find? isBrace

/-- The last brace of a text. -/
def lastBrace? (cs : List Char) : Option Char := (cs.filter isBrace).getLast?

lemma not_isBrace_iff {c : Char} : isBrace c = false ↔ c ≠ '{' ∧ c ≠ '}' := by
  simp [isBrace]

lemma Braceless.head {c : Char} {cs : List Char} (h : Braceless (c :: cs)) : c ≠ '{' ∧ c ≠ '}' :=
  not_isBrace_iff.1 (h c List.mem_cons_self)

lemma braceless_cons_iff {c : Char} {cs : List Char} : Braceless (c :: cs) ↔ isBrace c = false ∧ Braceless cs :=
  List.forall_mem_cons

lemma braceless_append_iff {cs ds : List Char} : Braceless (cs ++ ds) ↔ Braceless cs ∧ Braceless ds :=
  List.forall_mem_append

instance (cs : List Char) : Decidable (Braceless cs) :=
  decidable_of_iff (cs.all fun c => !isBrace c) (by simp [Braceless])

lemma Braceless.tail {c : Char} {cs : List Char} (h : Braceless (c :: cs)) : Braceless cs :=
  fun d hd => h d (List.mem_cons_of_mem _ hd)

/-- A closing brace is found after characters that are no braces, and only there. -/
lemma close?_eq_some_iff {as rest : List Atom} {inner : List Char} :
    close? as = some (inner, rest) ↔
      as = inner.map .char ++ .char '}' :: rest ∧ Braceless inner := by
  -- The first brace decides, so the cases are those of the first atom.
  induction as generalizing inner with
  | nil => simp [close?]
  | cons a as ih =>
    cases a with
    | placeholder i =>
      constructor
      · intro h
        cases h
      · rintro ⟨e, _⟩
        cases inner <;> simp at e
    | char c =>
      rw [close?]
      split
      · next hc =>
        subst hc
        constructor
        · intro h
          simp only [Option.some.injEq, Prod.mk.injEq] at h
          obtain ⟨rfl, rfl⟩ := h
          exact ⟨rfl, fun _ h => by cases h⟩
        · rintro ⟨e, hb⟩
          cases inner with
          | nil => simpa using e
          | cons d inner =>
            simp only [List.map_cons, List.cons_append, List.cons.injEq, Atom.char.injEq] at e
            exact absurd e.1.symm hb.head.2
      · next hclose =>
        split
        · next hopen =>
          subst hopen
          constructor
          · intro h
            cases h
          · rintro ⟨e, hb⟩
            cases inner with
            | nil => simp at e
            | cons d inner =>
              simp only [List.map_cons, List.cons_append, List.cons.injEq, Atom.char.injEq] at e
              exact absurd e.1.symm hb.head.1
        · next hopen =>
          simp only [Option.map_eq_some_iff, Prod.mk.injEq, Prod.exists]
          constructor
          · rintro ⟨i, r, h, rfl, rfl⟩
            obtain ⟨rfl, hb⟩ := ih.1 h
            refine ⟨rfl, fun d hd => ?_⟩
            rcases List.mem_cons.1 hd with rfl | hd
            · exact not_isBrace_iff.2 ⟨hopen, hclose⟩
            · exact hb d hd
          · rintro ⟨e, hb⟩
            cases inner with
            | nil =>
              simp only [List.map_nil, List.nil_append, List.cons.injEq, Atom.char.injEq] at e
              exact absurd e.1 hclose
            | cons d inner =>
              simp only [List.map_cons, List.cons_append, List.cons.injEq, Atom.char.injEq] at e
              obtain ⟨rfl, e⟩ := e
              exact ⟨inner, rest, ih.2 ⟨e, hb.tail⟩, rfl, rfl⟩

lemma atoms_cons_of_ne {c : Char} (h : c ≠ '{') (cs : List Char) : atoms (c :: cs) = .char c :: atoms cs := by
  rw [atoms, if_neg h]

/-- Characters that are no braces stay as they are. -/
lemma atoms_braceless_append {inner : List Char} (h : Braceless inner) (cs : List Char) :
    atoms (inner ++ cs) = inner.map .char ++ atoms cs := by
  induction inner with
  | nil => rfl
  | cons c inner ih =>
    rw [List.cons_append, atoms_cons_of_ne h.head.1, ih h.tail]
    rfl

lemma atoms_braceless {cs : List Char} (h : Braceless cs) : atoms cs = cs.map .char := by
  have happend := atoms_braceless_append h []
  rwa [List.append_nil, atoms, List.append_nil] at happend

/-- A text that opens with a placeholder. -/
lemma atoms_placeholder {inner : List Char} (h : Braceless inner) (cs : List Char) :
    atoms ('{' :: (inner ++ '}' :: cs)) = .placeholder inner :: atoms cs := by
  have hclose : close? (atoms (inner ++ '}' :: cs)) = some (inner, atoms cs) := by
    rw [close?_eq_some_iff, atoms_braceless_append h, atoms_cons_of_ne (by decide)]
    exact ⟨rfl, h⟩
  rw [atoms, if_pos rfl, hclose]

/-- An opening brace is closed when the next brace is a closing one. -/
lemma close?_atoms_eq_none_iff {cs : List Char} :
    close? (atoms cs) = none ↔ firstBrace? cs ≠ some '}' := by
  induction cs with
  | nil => simp [atoms, close?, firstBrace?]
  | cons c cs ih =>
    by_cases hopen : c = '{'
    · subst hopen
      have hfirst : firstBrace? ('{' :: cs) = some '{' := rfl
      have hnone : close? (atoms ('{' :: cs)) = none := by
        rw [atoms, if_pos rfl]
        split
        · rfl
        · rfl
      simp [hfirst, hnone]
    · rw [atoms_cons_of_ne hopen, close?]
      by_cases hclose : c = '}'
      · subst hclose
        simp [firstBrace?, isBrace]
      · rw [if_neg hclose, if_neg hopen, Option.map_eq_none_iff, ih, firstBrace?, firstBrace?,
          List.find?_cons_of_neg (by simp [isBrace, hopen, hclose])]

/-- The cutting of a concatenation is that of its parts, unless the last brace of the one and the first
brace of the other make a placeholder. -/
lemma atoms_append {cs ds : List Char}
    (h : ¬ (lastBrace? cs = some '{' ∧ firstBrace? ds = some '}')) :
    atoms (cs ++ ds) = atoms cs ++ atoms ds := by
  induction cs with
  | nil => rfl
  | cons c cs ih =>
    have hcs : ¬ (lastBrace? cs = some '{' ∧ firstBrace? ds = some '}') := by
      rintro ⟨hl, hf⟩
      refine h ⟨?_, hf⟩
      rw [lastBrace?] at hl ⊢
      rw [List.filter_cons]
      split
      · rw [List.getLast?_cons, hl]
        rfl
      · exact hl
    by_cases hopen : c = '{'
    · subst hopen
      rw [List.cons_append, atoms, if_pos rfl, atoms, if_pos rfl, ih hcs]
      cases hclose : close? (atoms cs) with
      | some found =>
        obtain ⟨inner, rest⟩ := found
        obtain ⟨e, hb⟩ := close?_eq_some_iff.1 hclose
        have hfound : close? (atoms cs ++ atoms ds) = some (inner, rest ++ atoms ds) :=
          close?_eq_some_iff.2 ⟨by simp [e], hb⟩
        rw [hfound]
        rfl
      | none =>
        have hnone : close? (atoms cs ++ atoms ds) = none := by
          rw [← ih hcs, close?_atoms_eq_none_iff, firstBrace?, List.find?_append]
          rw [close?_atoms_eq_none_iff, firstBrace?] at hclose
          cases hfirst : cs.find? isBrace with
          | some b => simpa [hfirst] using hclose
          | none =>
            -- No brace follows, so the opening brace is the last one of its text.
            have hlast : lastBrace? ('{' :: cs) = some '{' := by
              have hnil : cs.filter isBrace = [] := by simpa using hfirst
              simp [lastBrace?, isBrace, hnil]
            simpa [firstBrace?] using fun hf => h ⟨hlast, hf⟩
        rw [hnone]
        rfl
    · rw [List.cons_append, atoms_cons_of_ne hopen, atoms_cons_of_ne hopen, ih hcs]
      rfl

lemma Atom.chars_ne_nil (a : Atom) : a.chars ≠ [] := by
  cases a <;> simp [Atom.chars]

/-- Placeholders are not hidden behind the characters of a text. -/
lemma placeholder_split {cs : List Char} {as as₁ as₂ : List Atom} {inner : List Char}
    (e : cs.map .char ++ as = as₁ ++ .placeholder inner :: as₂) :
    ∃ as₃, as₁ = cs.map .char ++ as₃ ∧ as = as₃ ++ .placeholder inner :: as₂ := by
  induction cs generalizing as₁ with
  | nil => exact ⟨as₁, rfl, e⟩
  | cons c cs ih =>
    cases as₁ with
    | nil => simp at e
    | cons a as₁ =>
      simp only [List.map_cons, List.cons_append, List.cons.injEq] at e
      obtain ⟨rfl, e⟩ := e
      obtain ⟨as₃, rfl, rfl⟩ := ih e
      exact ⟨as₃, rfl, rfl⟩

lemma flatMap_chars_map_char (cs : List Char) : (cs.map Atom.char).flatMap Atom.chars = cs := by
  induction cs with
  | nil => rfl
  | cons c cs ih => simpa [Atom.chars] using ih

/-- What is cut out are placeholders of the text. -/
lemma braceless_of_mem_atoms {cs inner : List Char} (h : .placeholder inner ∈ atoms cs) :
    Braceless inner := by
  induction cs with
  | nil => cases h
  | cons c cs ih =>
    rw [atoms] at h
    split at h
    · cases hclose : close? (atoms cs) with
      | some found =>
        obtain ⟨inner', rest⟩ := found
        obtain ⟨e, hb⟩ := close?_eq_some_iff.1 hclose
        rw [hclose] at h
        rcases List.mem_cons.1 h with h | h
        · cases h
          exact hb
        · exact ih (by simp [e, h])
      | none =>
        rw [hclose] at h
        exact ih (by simpa using h)
    · exact ih (by simpa using h)

/-- Every placeholder of a text is cut out where it stands. -/
lemma exists_atoms_of_occurs {cs before inner after : List Char} (h : Occurs cs before inner after) :
    ∃ as₁ as₂, atoms cs = as₁ ++ .placeholder inner :: as₂ ∧ as₁.flatMap Atom.chars = before ∧
      as₂.flatMap Atom.chars = after := by
  obtain ⟨e, hb⟩ := h
  induction before generalizing cs with
  | nil =>
    subst e
    exact ⟨[], atoms after, atoms_placeholder hb after, rfl, flatMap_chars_atoms after⟩
  | cons c before ih =>
    subst e
    obtain ⟨as₁, as₂, has, hbefore, hafter⟩ := ih rfl
    rw [List.cons_append, atoms]
    split
    · next hopen =>
      split
      · next inner' rest hclose =>
        -- The placeholder that opens here ends before the one that is looked for.
        obtain ⟨e, _⟩ := close?_eq_some_iff.1 hclose
        have hsplit : (inner' ++ ['}']).map .char ++ rest = as₁ ++ .placeholder inner :: as₂ := by
          rw [← has, e]
          simp
        obtain ⟨as₃, rfl, rfl⟩ := placeholder_split hsplit
        refine ⟨.placeholder inner' :: as₃, as₂, rfl, ?_, hafter⟩
        rw [← hbefore, hopen, List.flatMap_cons, List.flatMap_append, flatMap_chars_map_char]
        rfl
      · exact ⟨.char c :: as₁, as₂, by rw [has]; rfl, by rw [← hbefore]; rfl, hafter⟩
    · exact ⟨.char c :: as₁, as₂, by rw [has]; rfl, by rw [← hbefore]; rfl, hafter⟩

/-- Atoms are the placeholders of a text and the characters between them. -/
lemma cutting_atoms (cs : List Char) : Cutting cs (atoms cs) where
  chars := flatMap_chars_atoms cs
  braceless := fun _ => braceless_of_mem_atoms
  complete := fun _ _ _ => exists_atoms_of_occurs

/-- What follows the first atom of a cutting is cut itself. -/
lemma Cutting.tail {cs : List Char} {a : Atom} {as : List Atom}
    (h : Cutting (a.chars ++ cs) (a :: as)) : Cutting cs as where
  chars := by simpa using h.chars
  braceless := fun inner hi => h.braceless inner (List.mem_cons_of_mem _ hi)
  complete := by
    rintro before inner after ⟨e, hb⟩
    obtain ⟨as₁, as₂, has, hbefore, hafter⟩ :=
      h.complete (a.chars ++ before) inner after ⟨by rw [e, List.append_assoc], hb⟩
    cases as₁ with
    | nil =>
      have hnil := List.append_eq_nil_iff.1 hbefore.symm
      exact absurd hnil.1 a.chars_ne_nil
    | cons b as₁ =>
      simp only [List.cons_append, List.cons.injEq] at has
      obtain ⟨rfl, rfl⟩ := has
      exact ⟨as₁, as₂, rfl, by simpa using hbefore, hafter⟩

/-- A cutting of a text that opens with a placeholder cuts this placeholder out. -/
lemma Cutting.head {cs inner : List Char} {a : Atom} {as : List Atom} (hb : Braceless inner)
    (h : Cutting ((Atom.placeholder inner).chars ++ cs) (a :: as)) : a = .placeholder inner := by
  obtain ⟨as₁, as₂, has, hbefore, _⟩ := h.complete [] inner cs ⟨by simp [Atom.chars], hb⟩
  cases as₁ with
  | nil => exact (List.cons.inj has).1
  | cons b as₁ =>
    have hnil := List.append_eq_nil_iff.1 hbefore
    exact absurd hnil.1 b.chars_ne_nil

/-- A text is cut at its placeholders in one way only. -/
lemma Cutting.unique {cs : List Char} {as bs : List Atom} (ha : Cutting cs as) (hb : Cutting cs bs) :
    as = bs := by
  induction as generalizing cs bs with
  | nil =>
    obtain rfl := ha.chars
    cases bs with
    | nil => rfl
    | cons b bs => exact absurd (List.append_eq_nil_iff.1 hb.chars).1 b.chars_ne_nil
  | cons a as ih =>
    have hcs : cs = a.chars ++ as.flatMap Atom.chars := ha.chars.symm
    cases bs with
    | nil =>
      rw [← hb.chars] at hcs
      exact absurd (List.append_eq_nil_iff.1 hcs.symm).1 a.chars_ne_nil
    | cons b bs =>
      have hab : a = b := by
        have hcs' : cs = b.chars ++ bs.flatMap Atom.chars := hb.chars.symm
        cases a with
        | placeholder inner =>
          have hi := ha.braceless inner List.mem_cons_self
          exact (Cutting.head hi (hcs ▸ hb)).symm
        | char c =>
          cases b with
          | placeholder inner =>
            have hi := hb.braceless inner List.mem_cons_self
            exact Cutting.head hi (hcs' ▸ ha)
          | char d =>
            rw [hcs] at hcs'
            rw [(List.cons.inj hcs').1]
      subst hab
      subst hcs
      have htail := ha.tail
      rw [ih htail hb.tail]

end BuildVersion.Template
