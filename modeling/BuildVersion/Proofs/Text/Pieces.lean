import BuildVersion.Proofs.Text.Decimal
import BuildVersion.Text.Character
import BuildVersion.Text.Split
import Mathlib.Tactic.Lemma

/-!
# Texts of pieces

Splitting at a character is the inverse of joining with it, and trimming leaves a text without blanks
alone.
-/

namespace BuildVersion.Text

lemma split_eq_splitOn (separator : Char) (cs : List Char) : split separator cs = cs.splitOn separator := by
  induction cs with
  | nil => rfl
  | cons c cs ih =>
    rw [split, ih, List.splitOn_cons_eq_if_modifyHead]
    simp only [beq_iff_eq]
    congr 1
    cases hs : cs.splitOn separator with
    | nil => exact absurd hs (List.splitOn_ne_nil separator cs)
    | cons piece pieces => rfl

lemma intercalate_split (separator : Char) (cs : List Char) :
    [separator].intercalate (split separator cs) = cs := by
  rw [split_eq_splitOn]
  exact List.intercalate_splitOn separator

lemma join_eq_intercalate (separator : Char) (pieces : List (List Char)) :
    join separator pieces = [separator].intercalate pieces := by
  induction pieces with
  | nil => rfl
  | cons piece pieces ih =>
    cases pieces with
    | nil => exact List.intercalate_singleton.symm
    | cons next pieces =>
      rw [join_cons_of_ne_nil (List.cons_ne_nil next pieces), ih, List.intercalate_cons_cons, List.append_assoc]
      rfl

/-- Pieces without the separator are found again. -/
lemma split_intercalate {separator : Char} {pieces : List (List Char)} (hne : pieces ≠ [])
    (h : ∀ piece ∈ pieces, separator ∉ piece) : split separator ([separator].intercalate pieces) = pieces := by
  rw [split_eq_splitOn]
  exact List.splitOn_intercalate separator h hne

lemma split_eq_singleton {separator : Char} {cs : List Char} (h : separator ∉ cs) :
    split separator cs = [cs] := by
  rw [split_eq_splitOn]
  exact List.splitOn_eq_singleton h

/-- The pieces on both sides of a separator. -/
lemma split_append_cons (separator : Char) (cs ds : List Char) :
    split separator (cs ++ separator :: ds) = split separator cs ++ split separator ds := by
  simp only [split_eq_splitOn]
  exact List.splitOn_append_cons_self cs ds

/-- Text without the separator that is put behind a text joins its last piece. -/
lemma exists_split_append (separator : Char) (cs : List Char) :
    ∃ pieces last, ∀ ds, separator ∉ ds → split separator (cs ++ ds) = pieces ++ [last ++ ds] := by
  induction cs with
  | nil => exact ⟨[], [], fun ds hds => split_eq_singleton hds⟩
  | cons c cs ih =>
    obtain ⟨pieces, last, h⟩ := ih
    by_cases hc : c = separator
    · refine ⟨[] :: pieces, last, fun ds hds => ?_⟩
      rw [List.cons_append, split, if_pos hc, h ds hds, List.cons_append]
    · cases pieces with
      | nil =>
        refine ⟨[], c :: last, fun ds hds => ?_⟩
        rw [List.cons_append, split, if_neg hc, h ds hds]
        rfl
      | cons piece pieces =>
        refine ⟨(c :: piece) :: pieces, last, fun ds hds => ?_⟩
        rw [List.cons_append, split, if_neg hc, h ds hds]
        rfl

lemma cut?_eq_none_iff {separator : Char} {cs : List Char} : cut? separator cs = none ↔ separator ∉ cs := by
  induction cs with
  | nil => simp [cut?]
  | cons c cs ih =>
    rw [cut?]
    split
    · next h => simp [h]
    · next h => rw [Option.map_eq_none_iff, ih, List.mem_cons, not_or, and_iff_right (Ne.symm h)]

/-- The characters of the pieces are those of the text but the separators. -/
lemma mem_piece {separator : Char} {cs piece : List Char} {c : Char} (hpiece : piece ∈ split separator cs)
    (hc : c ∈ piece) : c ∈ cs ∧ c ≠ separator := by
  induction cs generalizing piece with
  | nil =>
    rw [split, List.mem_singleton] at hpiece
    rw [hpiece] at hc
    cases hc
  | cons d cs ih =>
    rw [split] at hpiece
    split at hpiece
    · rcases List.mem_cons.1 hpiece with rfl | hpiece
      · cases hc
      · exact ⟨List.mem_cons_of_mem _ (ih hpiece hc).1, (ih hpiece hc).2⟩
    · next hd =>
      split at hpiece
      · next hnil => exact absurd hnil (split_ne_nil separator cs)
      · next first pieces hsplit =>
        rw [hsplit] at ih
        rcases List.mem_cons.1 hpiece with rfl | hpiece
        · rcases List.mem_cons.1 hc with rfl | hc
          · exact ⟨List.mem_cons_self, hd⟩
          · have hfirst := ih List.mem_cons_self hc
            exact ⟨List.mem_cons_of_mem _ hfirst.1, hfirst.2⟩
        · have hrest := ih (List.mem_cons_of_mem _ hpiece) hc
          exact ⟨List.mem_cons_of_mem _ hrest.1, hrest.2⟩

/-- Pieces without a separator between them. -/
lemma intercalate_nil_eq_flatten (pieces : List (List Char)) : [].intercalate pieces = pieces.flatten := by
  induction pieces with
  | nil => rfl
  | cons piece pieces ih =>
    cases pieces with
    | nil => simp
    | cons next pieces =>
      rw [List.intercalate_cons_cons, ih]
      simp

lemma mem_intercalate {separator : List Char} {pieces : List (List Char)} {c : Char}
    (h : c ∈ separator.intercalate pieces) : c ∈ separator ∨ ∃ piece ∈ pieces, c ∈ piece := by
  induction pieces with
  | nil => cases h
  | cons piece pieces ih =>
    cases pieces with
    | nil =>
      rw [List.intercalate_singleton] at h
      exact .inr ⟨piece, List.mem_cons_self, h⟩
    | cons next pieces =>
      rw [List.intercalate_cons_cons, List.append_assoc] at h
      rcases List.mem_append.1 h with h | h
      · exact .inr ⟨piece, List.mem_cons_self, h⟩
      · rcases List.mem_append.1 h with h | h
        · exact .inl h
        · obtain hsep | ⟨found, hmem, hc⟩ := ih h
          · exact .inl hsep
          · exact .inr ⟨found, List.mem_cons_of_mem _ hmem, hc⟩

lemma dropWhile_isBlank_eq_self {cs : List Char} (h : ∀ c ∈ cs, isBlank c = false) :
    cs.dropWhile isBlank = cs := by
  cases cs with
  | nil => rfl
  | cons c cs => simp [h c List.mem_cons_self]

lemma trim_eq_self {cs : List Char} (h : ∀ c ∈ cs, isBlank c = false) : trim cs = cs := by
  have hrev : ∀ c ∈ cs.reverse, isBlank c = false := fun c hc => h c (List.mem_reverse.1 hc)
  rw [trim, dropWhile_isBlank_eq_self h, dropWhile_isBlank_eq_self hrev, List.reverse_reverse]

/-- No digit is a blank. -/
lemma not_isBlank_of_isDigit {c : Char} (h : isDigit c = true) : isBlank c = false := by
  have hbounds := digit_bounds h
  cases hblank : isBlank c with
  | false => rfl
  | true =>
    simp only [isBlank, Bool.or_eq_true, Bool.and_eq_true, decide_eq_true_eq, beq_iff_eq] at hblank
    omega

end BuildVersion.Text
