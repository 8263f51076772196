import BuildVersion.Proofs.Text.Run
import BuildVersion.Text.Character

/-!
# Trimmed texts

A text is trimmed if no blank stands at either of its ends. Main statement: what is left of a text is its only
trimmed piece that has nothing but blanks around it (`trim_eq_iff`).
-/

namespace BuildVersion.Text

/-- A blank stands at the front of a text. -/
def StartsBlank (cs : List Char) : Prop := ∃ c ∈ cs.head?, isBlank c = true

/-- No blank stands at the ends of a text. -/
structure IsTrimmed (cs : List Char) : Prop where
  front : ∀ c ∈ cs.head?, isBlank c = false
  back : ∀ c ∈ cs.getLast?, isBlank c = false

variable {cs mid front back : List Char}

/-- The visible characters of ASCII are no blanks. -/
lemma not_isBlank_of_toNat {c : Char} (h : 0x20 < c.toNat ∧ c.toNat < 0x7F) : isBlank c = false := by
  simp only [isBlank, Bool.or_eq_false_iff, Bool.and_eq_false_iff, decide_eq_false_iff_not, beq_eq_false_iff_ne]
  omega

lemma not_isBlank_of_isHexDigit {c : Char} (h : isHexDigit c = true) : isBlank c = false := by
  simp only [isHexDigit, isDigit, Bool.or_eq_true, Bool.and_eq_true, decide_eq_true_eq] at h
  obtain (⟨hfirst, hlast⟩ | ⟨hfirst, hlast⟩) | ⟨hfirst, hlast⟩ := h
  · have hlower : 0x30 ≤ c.toNat := hfirst
    have hupper : c.toNat ≤ 0x39 := hlast
    exact not_isBlank_of_toNat (by omega)
  · have hlower : 0x61 ≤ c.toNat := hfirst
    have hupper : c.toNat ≤ 0x66 := hlast
    exact not_isBlank_of_toNat (by omega)
  · have hlower : 0x41 ≤ c.toNat := hfirst
    have hupper : c.toNat ≤ 0x46 := hlast
    exact not_isBlank_of_toNat (by omega)

lemma IsTrimmed.reverse (h : IsTrimmed cs) : IsTrimmed cs.reverse := by
  refine ⟨?_, ?_⟩
  · intro c hc
    rw [List.head?_reverse] at hc
    exact h.back c hc
  · intro c hc
    rw [List.getLast?_reverse] at hc
    exact h.front c hc

/-- Both ends of a trimmed text are no blanks. -/
lemma isTrimmed_iff : IsTrimmed cs ↔ ¬ StartsBlank cs ∧ ¬ StartsBlank cs.reverse := by
  simp only [StartsBlank, List.head?_reverse, not_exists, not_and, Bool.not_eq_true]
  exact ⟨fun h => ⟨h.front, h.back⟩, fun h => ⟨h.1, h.2⟩⟩

lemma isTrimmed_trim (cs : List Char) : IsTrimmed (trim cs) := by
  refine ⟨?_, ?_⟩
  · -- what is taken off at the end does not change the front
    intro c hc
    have hprefix : trim cs <+: cs.dropWhile isBlank :=
      List.reverse_suffix.1 (by rw [trim, List.reverse_reverse]; exact List.dropWhile_suffix isBlank)
    obtain ⟨rest, hrest⟩ := hprefix
    have hhead : c ∈ (cs.dropWhile isBlank).head? := by
      rw [← hrest, List.head?_append, Option.mem_def.1 hc, Option.some_or]
      rfl
    exact not_of_mem_head?_dropWhile hhead
  · intro c hc
    rw [trim, List.getLast?_reverse] at hc
    exact not_of_mem_head?_dropWhile hc

/-- What is taken off are blanks. -/
lemma exists_trim (cs : List Char) :
    ∃ front back, cs = front ++ (trim cs ++ back) ∧ (∀ c ∈ front, isBlank c = true) ∧
      ∀ c ∈ back, isBlank c = true := by
  have hback := List.takeWhile_append_dropWhile (p := isBlank) (l := (cs.dropWhile isBlank).reverse)
  have hrest : cs.dropWhile isBlank =
      trim cs ++ ((cs.dropWhile isBlank).reverse.takeWhile isBlank).reverse := by
    rw [trim, ← List.reverse_append, hback, List.reverse_reverse]
  refine ⟨cs.takeWhile isBlank, ((cs.dropWhile isBlank).reverse.takeWhile isBlank).reverse, ?_, ?_, ?_⟩
  · rw [← hrest, List.takeWhile_append_dropWhile]
  · exact fun c hc => List.mem_takeWhile_imp hc
  · exact fun c hc => List.mem_takeWhile_imp (List.mem_reverse.1 hc)

/-- Blanks around a trimmed text are taken off. -/
lemma IsTrimmed.trim_append (h : IsTrimmed mid) (hfront : ∀ c ∈ front, isBlank c = true)
    (hback : ∀ c ∈ back, isBlank c = true) : trim (front ++ (mid ++ back)) = mid := by
  by_cases hmid : mid = []
  · have hblank : ∀ c ∈ front ++ (mid ++ back), isBlank c = true := by
      rw [hmid, List.nil_append]
      exact List.forall_mem_append.2 ⟨hfront, hback⟩
    rw [trim, List.dropWhile_eq_nil_iff.2 hblank, hmid]
    rfl
  · have hrest : (front ++ (mid ++ back)).dropWhile isBlank = mid ++ back := by
      apply dropWhile_run_append hfront
      rw [List.head?_append_of_ne_nil mid hmid]
      exact h.front
    rw [trim, hrest, List.reverse_append, dropWhile_run_append, List.reverse_reverse]
    · exact fun c hc => hback c (List.mem_reverse.1 hc)
    · exact h.reverse.front

/-- What is left of a text is the trimmed piece that has nothing but blanks around it. -/
lemma trim_eq_iff :
    trim cs = mid ↔ IsTrimmed mid ∧ ∃ front back, cs = front ++ (mid ++ back) ∧
      (∀ c ∈ front, isBlank c = true) ∧ ∀ c ∈ back, isBlank c = true := by
  constructor
  · rintro rfl
    exact ⟨isTrimmed_trim cs, exists_trim cs⟩
  · intro h
    obtain ⟨hmid, front, back, rfl, hfront, hback⟩ := h
    exact hmid.trim_append hfront hback

lemma IsTrimmed.trim_eq (h : IsTrimmed cs) : trim cs = cs :=
  trim_eq_iff.2 ⟨h, [], [], (List.append_nil cs).symm, nofun, nofun⟩

lemma trim_eq_self_iff : trim cs = cs ↔ IsTrimmed cs :=
  ⟨fun h => h ▸ isTrimmed_trim cs, IsTrimmed.trim_eq⟩

/-- Nothing is left of a text that holds nothing but blanks. -/
lemma trim_eq_nil_iff : trim cs = [] ↔ ∀ c ∈ cs, isBlank c = true := by
  rw [trim_eq_iff]
  constructor
  · rintro ⟨_, front, back, rfl, hfront, hback⟩
    rw [List.nil_append]
    exact List.forall_mem_append.2 ⟨hfront, hback⟩
  · intro h
    exact ⟨⟨nofun, nofun⟩, cs, [], (List.append_nil cs).symm, h, nofun⟩

/-- Both ends of a text are treated alike. -/
lemma trim_reverse (cs : List Char) : trim cs.reverse = (trim cs).reverse := by
  obtain ⟨front, back, hcs, hfront, hback⟩ := exists_trim cs
  refine trim_eq_iff.2 ⟨(isTrimmed_trim cs).reverse, back.reverse, front.reverse, ?_, ?_, ?_⟩
  · have hreverse := congrArg List.reverse hcs
    rwa [List.reverse_append, List.reverse_append, List.append_assoc] at hreverse
  · exact fun c hc => hback c (List.mem_reverse.1 hc)
  · exact fun c hc => hfront c (List.mem_reverse.1 hc)

end BuildVersion.Text
