import BuildVersion.Proofs.Text.Pieces
import BuildVersion.Text.Casing

/-!
# Control characters

No way to put a text together brings control characters into it that its parts do not have: numbers have none,
and a change of case makes none. Main statement: `ControlFree.upperCase`.
-/

namespace BuildVersion.Text

/-- A text without control characters. -/
def ControlFree (cs : List Char) : Prop := ∀ c ∈ cs, isControl c = false

instance (cs : List Char) : Decidable (ControlFree cs) :=
  decidable_of_iff (cs.all fun c => !isControl c) (by simp [ControlFree])

variable {cs ds : List Char}

lemma ControlFree.mono (h : ControlFree cs) (hsub : ds ⊆ cs) : ControlFree ds := fun c hc => h c (hsub hc)

@[simp]
lemma controlFree_nil : ControlFree [] := nofun

@[simp]
lemma controlFree_append_iff : ControlFree (cs ++ ds) ↔ ControlFree cs ∧ ControlFree ds := List.forall_mem_append

@[simp]
lemma controlFree_cons_iff {c : Char} : ControlFree (c :: cs) ↔ isControl c = false ∧ ControlFree cs :=
  List.forall_mem_cons

lemma isControl_of_toNat {c : Char} (h : 0x20 ≤ c.toNat ∧ c.toNat < 0x7F ∨ 0x9F < c.toNat) :
    isControl c = false := by
  simp only [isControl, Bool.or_eq_false_iff, Bool.and_eq_false_iff, decide_eq_false_iff_not]
  omega

/-! ### Numbers and letters -/

lemma not_isControl_of_isDigit {c : Char} (h : isDigit c = true) : isControl c = false := by
  have hbounds := digit_bounds h
  exact isControl_of_toNat (by omega)

lemma not_isControl_of_isLetter {c : Char} (h : isLetter c = true) : isControl c = false := by
  simp only [isLetter, Bool.or_eq_true, Bool.and_eq_true, decide_eq_true_eq] at h
  obtain ⟨hfirst, hlast⟩ | ⟨hfirst, hlast⟩ := h
  · have hlower : 0x61 ≤ c.toNat := hfirst
    have hupper : c.toNat ≤ 0x7A := hlast
    exact isControl_of_toNat (by omega)
  · have hlower : 0x41 ≤ c.toNat := hfirst
    have hupper : c.toNat ≤ 0x5A := hlast
    exact isControl_of_toNat (by omega)

lemma ControlFree.of_isDigit (h : ∀ c ∈ cs, isDigit c = true) : ControlFree cs :=
  fun c hc => not_isControl_of_isDigit (h c hc)

@[simp]
lemma controlFree_toDigits (n : Nat) : ControlFree (Nat.toDigits 10 n) :=
  .of_isDigit fun _ hc => isDigit_of_mem_toDigits hc

lemma controlFree_toString (n : Nat) : ControlFree (toString n).toList := by
  rw [toList_toString]
  exact controlFree_toDigits n

@[simp]
lemma controlFree_toString_int (n : Int) : ControlFree (toString n).toList := by
  cases n with
  | ofNat n => exact controlFree_toString n
  | negSucc n =>
    have htext : toString (Int.negSucc n) = "-" ++ toString (n + 1) := rfl
    rw [htext, String.toList_append, controlFree_append_iff]
    exact ⟨by simp [isControl], controlFree_toString (n + 1)⟩

@[simp]
lemma controlFree_padded (width n : Nat) : ControlFree (padded width n).toList :=
  .of_isDigit fun _ hc => isDigit_of_mem_padded hc

/-! ### Pieces -/

lemma ControlFree.intercalate {pieces : List (List Char)} (hcs : ControlFree cs)
    (h : ∀ piece ∈ pieces, ControlFree piece) : ControlFree (cs.intercalate pieces) := by
  intro c hc
  obtain hsep | ⟨piece, hpiece, hmem⟩ := mem_intercalate hc
  · exact hcs c hsep
  · exact h piece hpiece c hmem

lemma ControlFree.flatMap {α : Type} {as : List α} {f : α → List Char} (h : ∀ a ∈ as, ControlFree (f a)) :
    ControlFree (as.flatMap f) := by
  intro c hc
  obtain ⟨a, ha, hmem⟩ := List.mem_flatMap.1 hc
  exact h a ha c hmem

/-! ### Case -/

/-- A number of a character that is no control character. -/
def Visible (n : Nat) : Prop := n.isValidChar ∧ (0x20 ≤ n ∧ n < 0x7F ∨ 0x9F < n)

lemma not_isControl_ofNat {n : Nat} (h : Visible n) : isControl (Char.ofNat n) = false := by
  have hnumber : (Char.ofNat n).toNat = n := by
    rw [Char.ofNat, dif_pos h.1]
    rfl
  apply isControl_of_toNat
  rw [hnumber]
  exact h.2

lemma not_isControl_lowerAscii {c : Char} (h : isControl c = false) : isControl (lowerAscii c) = false := by
  unfold lowerAscii
  split
  · next hcapital =>
    have hlower : 0x41 ≤ c.toNat := hcapital.1
    have hupper : c.toNat ≤ 0x5A := hcapital.2
    exact not_isControl_ofNat ⟨.inl (by omega), .inl (by omega)⟩
  · exact h

lemma ControlFree.map_lowerAscii (h : ControlFree cs) : ControlFree (cs.map lowerAscii) := by
  intro c hc
  obtain ⟨d, hd, rfl⟩ := List.mem_map.1 hc
  exact not_isControl_lowerAscii (h d hd)

/-- A run that keeps clear of control characters and of numbers of no character. -/
def CaseRun.Clear (run : CaseRun) : Prop :=
  0x20 ≤ run.first + run.shift ∧ run.last + run.shift < 0x7F ∨
    0x9F < run.first + run.shift ∧ run.last + run.shift < 0xD800 ∨
      0xDFFF < run.first + run.shift ∧ run.last + run.shift < 0x110000

lemma CaseRun.Clear.visible {run : CaseRun} {n : Nat} (hclear : run.Clear) (hfirst : run.first ≤ n)
    (hlast : n ≤ run.last) : Visible (n + run.shift).toNat := by
  have hstart : (run.first : Int) + run.shift ≤ n + run.shift := by omega
  have hend : (n : Int) + run.shift ≤ run.last + run.shift := by omega
  rw [Visible, Nat.isValidChar]
  rcases hclear with h | h | h
  · omega
  · omega
  · omega

lemma upperRuns_clear : ∀ run ∈ upperRuns, run.Clear := by
  unfold CaseRun.Clear
  decide +kernel

lemma upperExpansions_visible : ∀ e ∈ upperExpansions, ∀ n ∈ e.2, isControl (Char.ofNat n) = false := by
  decide +kernel

/-- A character in upper case is no control character, whether it is found in a run, expanded or left alone. -/
lemma controlFree_upperChar {c : Char} (h : isControl c = false) : ControlFree (upperChar c) := by
  unfold upperChar
  split
  · next ns hlookup =>
    obtain ⟨_, _, hsplit, _⟩ := List.lookup_eq_some_iff.1 hlookup
    have hmem : (c.toNat, ns) ∈ upperExpansions := hsplit ▸ List.mem_append_right _ List.mem_cons_self
    intro d hd
    obtain ⟨n, hn, rfl⟩ := List.mem_map.1 hd
    exact upperExpansions_visible _ hmem n hn
  · split
    · next run hfind =>
      have hholds := List.find?_some hfind
      simp only [CaseRun.holds, Bool.and_eq_true, decide_eq_true_eq] at hholds
      have hclear := upperRuns_clear run (List.mem_of_find?_eq_some hfind)
      exact List.forall_mem_singleton.2 (not_isControl_ofNat (hclear.visible hholds.1.1 hholds.1.2))
    · exact List.forall_mem_singleton.2 h

lemma ControlFree.upperCase (h : ControlFree cs) : ControlFree (upperCase cs) :=
  .flatMap fun c hc => controlFree_upperChar (h c hc)

end BuildVersion.Text
