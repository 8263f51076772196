import BuildVersion.Proofs.SemVer.Reading
import BuildVersion.Proofs.Text.Pieces
import Mathlib.Data.List.TakeWhile

/-!
# The grammar of semantic versions

What a semantic version is, said apart from its reader: the identifiers that each part admits and the
form in which a version is written. Main statement: the reader accepts exactly the written forms of
well-formed versions, and gives the version that was written (`read_eq_ok_iff`).
-/

namespace BuildVersion.SemVer

open Text

/-- A number of several digits that starts with zero. -/
def IsPadded (cs : List Char) : Prop :=
  (∀ c ∈ cs, isDigit c = true) ∧ 2 ≤ cs.length ∧ cs.head? = some '0'

/-- An identifier: letters, digits and hyphens, at least one. A number in a pre-release has no leading
zeros. -/
structure IsIdentifier (part : Part) (cs : List Char) : Prop where
  nonempty : cs ≠ []
  chars : ∀ c ∈ cs, isIdentifierChar c = true
  unpadded : part = .pre → ¬ IsPadded cs

/-- Identifiers with dots between them. -/
def IsDotted (part : Part) (cs : List Char) : Prop :=
  ∀ segment ∈ split '.' cs, IsIdentifier part segment

instance (cs : List Char) : Decidable (IsPadded cs) :=
  decidable_of_iff (cs.all isDigit = true ∧ 2 ≤ cs.length ∧ cs.head? = some '0')
    (by rw [List.all_eq_true]; rfl)

instance (part : Part) (cs : List Char) : Decidable (IsIdentifier part cs) :=
  decidable_of_iff (cs ≠ [] ∧ cs.all isIdentifierChar = true ∧ (part = .pre → ¬ IsPadded cs))
    ⟨fun h => ⟨h.1, List.all_eq_true.1 h.2.1, h.2.2⟩,
      fun h => ⟨h.nonempty, List.all_eq_true.2 h.chars, h.unpadded⟩⟩

instance (part : Part) (cs : List Char) : Decidable (IsDotted part cs) := by
  unfold IsDotted; infer_instance

/-- A version as the grammar admits it: each of its two texts is missing or made of identifiers. -/
structure WellFormed (v : SemVer) : Prop where
  pre : v.pre = "" ∨ IsDotted .pre v.pre.toList
  build : v.build = "" ∨ IsDotted .build v.build.toList

/-- A text after its mark, or nothing where the text is missing. -/
def marked (mark : Char) (text : String) : List Char :=
  if text = "" then [] else mark :: text.toList

/-- The version as it is written. -/
def text (v : SemVer) : String :=
  v.core.text ++ String.ofList (marked '-' v.pre ++ marked '+' v.build)

/-- The characters of dotted identifiers. -/
def isDottedChar (c : Char) : Bool := isIdentifierChar c || c == '.'

lemma isPadded_iff {cs : List Char} :
    IsPadded cs ↔ cs.all isDigit = true ∧ hasLeadingZero cs = true := by
  simp only [IsPadded, hasLeadingZero, List.all_eq_true, Bool.and_eq_true, beq_iff_eq, decide_eq_true_eq]
  constructor
  · rintro ⟨hds, hlen, hhead⟩
    exact ⟨hds, hhead, hlen⟩
  · rintro ⟨hds, hhead, hlen⟩
    exact ⟨hds, hlen, hhead⟩

lemma not_isPadded_toDigits (n : Nat) : ¬ IsPadded (Nat.toDigits 10 n) := by
  rw [isPadded_iff, hasLeadingZero_toDigits]
  simp

/-- Exactly the identifiers of the part have no fault. -/
lemma identifierFault?_eq_none_iff {part : Part} {segments : List (List Char)} :
    identifierFault? part segments = none ↔
      ∀ segment ∈ segments, segment ≠ [] ∧ (part = .pre → ¬ IsPadded segment) := by
  induction segments with
  | nil => simp [identifierFault?]
  | cons segment segments ih =>
    rw [identifierFault?, List.forall_mem_cons]
    split
    · next hempty => simp [List.isEmpty_iff.1 hempty]
    · next hne =>
      have hne' : segment ≠ [] := fun h => hne (List.isEmpty_iff.2 h)
      split
      · next hzero => simp [hzero.1, isPadded_iff.2 hzero.2]
      · next hzero =>
        have hpadded : part = .pre → ¬ IsPadded segment := fun hpart h =>
          hzero ⟨hpart, isPadded_iff.1 h⟩
        rw [ih, and_iff_right (And.intro hne' hpadded)]

/-- No part of the grammar has a character of another kind than its pieces and the dots. -/
lemma chars_of_isDotted {part : Part} {cs : List Char} (h : IsDotted part cs) :
    ∀ c ∈ cs, isDottedChar c = true := by
  intro c hc
  rw [← intercalate_split '.' cs] at hc
  rcases mem_intercalate hc with hdot | ⟨segment, hsegment, hc⟩
  · rw [List.mem_singleton.1 hdot]
    decide
  · simp [isDottedChar, (h segment hsegment).chars c hc]

lemma isDotted_iff {part : Part} {cs : List Char} (hcs : ∀ c ∈ cs, isDottedChar c = true) :
    IsDotted part cs ↔ identifierFault? part (split '.' cs) = none := by
  rw [identifierFault?_eq_none_iff]
  constructor
  · intro h segment hsegment
    exact ⟨(h segment hsegment).nonempty, (h segment hsegment).unpadded⟩
  · intro h segment hsegment
    refine ⟨(h segment hsegment).1, fun c hc => ?_, (h segment hsegment).2⟩
    obtain ⟨hmem, hdot⟩ := mem_piece hsegment hc
    simpa [isDottedChar, hdot] using hcs c hmem

/-- The run of characters that belong to identifiers is taken, if it has no fault. -/
lemma readIdentifiers_of_no_fault {part : Part} {cs : List Char}
    (h : identifierFault? part (split '.' (cs.takeWhile isDottedChar)) = none) :
    readIdentifiers part cs =
      .ok (String.ofList (cs.takeWhile isDottedChar), cs.dropWhile isDottedChar) := by
  have hrun : identifierFault? part (split '.' (cs.takeWhile fun c => isIdentifierChar c || c == '.')) =
      none := h
  simp only [readIdentifiers, hrun]
  rfl

lemma readIdentifiers_of_fault {part : Part} {cs : List Char} {fault : Fault}
    (h : identifierFault? part (split '.' (cs.takeWhile isDottedChar)) = some fault) :
    readIdentifiers part cs = .error fault := by
  have hrun : identifierFault? part (split '.' (cs.takeWhile fun c => isIdentifierChar c || c == '.')) =
      some fault := h
  simp only [readIdentifiers, hrun]

/-- Identifiers are read up to the first character that belongs to none. -/
lemma readIdentifiers_eq_ok_iff {part : Part} {cs rest : List Char} {identifiers : String} :
    readIdentifiers part cs = .ok (identifiers, rest) ↔
      cs = identifiers.toList ++ rest ∧ IsDotted part identifiers.toList ∧
        ∀ c ∈ rest.head?, isDottedChar c = false := by
  constructor
  · intro h
    cases hfault : identifierFault? part (split '.' (cs.takeWhile isDottedChar)) with
    | some fault =>
      rw [readIdentifiers_of_fault hfault] at h
      cases h
    | none =>
      rw [readIdentifiers_of_no_fault hfault, Except.ok.injEq, Prod.mk.injEq] at h
      obtain ⟨rfl, rfl⟩ := h
      rw [String.toList_ofList]
      refine ⟨List.takeWhile_append_dropWhile.symm, ?_, fun c => not_of_mem_head?_dropWhile⟩
      rw [isDotted_iff fun c => List.mem_takeWhile_imp]
      exact hfault
  · rintro ⟨rfl, hdotted, hrest⟩
    have hchars := chars_of_isDotted hdotted
    have hrun := takeWhile_run_append hchars hrest
    have hfault : identifierFault? part (split '.' ((identifiers.toList ++ rest).takeWhile isDottedChar)) =
        none := by
      rw [hrun]
      exact (isDotted_iff hchars).1 hdotted
    rw [readIdentifiers_of_no_fault hfault, hrun, dropWhile_run_append hchars hrest, String.ofList_toList]

/-- There is at least one identifier. -/
lemma ne_empty_of_isDotted {part : Part} {text : String} (h : IsDotted part text.toList) : text ≠ "" := by
  rintro rfl
  exact (h [] (List.mem_singleton_self [])).nonempty rfl

lemma marked_eq_nil {mark : Char} : marked mark "" = [] := if_pos rfl

lemma marked_of_ne {mark : Char} {text : String} (h : text ≠ "") :
    marked mark text = mark :: text.toList := if_neg h

/-- Where a part is read, it is written. -/
lemma marked_of_readMarked {mark : Char} {part last last' : Part} {cs rest : List Char} {identifiers : String}
    (h : readMarked mark part last cs = .ok (identifiers, last', rest)) :
    (identifiers = "" ∨ IsDotted part identifiers.toList) ∧ cs = marked mark identifiers ++ rest := by
  cases cs with
  | nil =>
    cases h
    exact ⟨.inl rfl, rfl⟩
  | cons c cs =>
    rw [readMarked] at h
    split at h
    · next hc =>
      rw [Fallible.bind_eq_ok_iff] at h
      obtain ⟨⟨found, after⟩, hread, hfound⟩ := h
      cases hfound
      obtain ⟨hcs, hdotted, _⟩ := readIdentifiers_eq_ok_iff.1 hread
      rw [marked_of_ne (ne_empty_of_isDotted hdotted), hc, hcs]
      exact ⟨.inr hdotted, rfl⟩
    · cases h
      exact ⟨.inl rfl, rfl⟩

/-- Where a part is written and the text does not go on with it, it is read. -/
lemma readMarked_marked {mark : Char} {part : Part} (last : Part) {rest : List Char}
    {identifiers : String}
    (hidentifiers : identifiers = "" ∨ IsDotted part identifiers.toList)
    (hrest : ∀ c ∈ rest.head?, isDottedChar c = false ∧ c ≠ mark) :
    ∃ last', readMarked mark part last (marked mark identifiers ++ rest) = .ok (identifiers, last', rest) := by
  by_cases hempty : identifiers = ""
  · subst hempty
    rw [marked_eq_nil, List.nil_append]
    cases rest with
    | nil => exact ⟨last, rfl⟩
    | cons c rest =>
      rw [readMarked, if_neg (hrest c rfl).2]
      exact ⟨last, rfl⟩
  · have hread : readIdentifiers part (identifiers.toList ++ rest) = .ok (identifiers, rest) :=
      readIdentifiers_eq_ok_iff.2
        ⟨rfl, hidentifiers.resolve_left hempty, fun c hc => (hrest c hc).1⟩
    rw [marked_of_ne hempty, List.cons_append, readMarked, if_pos rfl, hread]
    exact ⟨part, rfl⟩

lemma head?_marked {mark c : Char} {text : String} (h : c ∈ (marked mark text).head?) : c = mark := by
  by_cases hempty : text = ""
  · rw [hempty, marked_eq_nil] at h
    cases h
  · rw [marked_of_ne hempty] at h
    exact (Option.some.inj h).symm

/-- The marks are no digits, so they end the core. -/
lemma endsDigits_marks (pre build : String) : EndsDigits (marked '-' pre ++ marked '+' build) := by
  intro c hc
  rw [List.head?_append, Option.mem_def, Option.or_eq_some_iff] at hc
  rcases hc with hc | ⟨_, hc⟩
  · rw [head?_marked hc]
    decide
  · rw [head?_marked hc]
    decide

/-- What follows a core is read as the parts that are written there. -/
lemma readMarks_eq_ok_iff_marked {core : Version} {cs : List Char} {v : SemVer} :
    readMarks core cs = .ok v ↔
      v.WellFormed ∧ v.core = core ∧ cs = marked '-' v.pre ++ marked '+' v.build := by
  rw [readMarks_eq_ok_iff]
  constructor
  · rintro ⟨last, last', rest, hcore, hpre, hbuild⟩
    obtain ⟨hpre', rfl⟩ := marked_of_readMarked hpre
    obtain ⟨hbuild', rfl⟩ := marked_of_readMarked hbuild
    exact ⟨⟨hpre', hbuild'⟩, hcore, by rw [List.append_nil]⟩
  · rintro ⟨⟨hpre, hbuild⟩, hcore, rfl⟩
    have hplus : ∀ c ∈ (marked '+' v.build).head?, isDottedChar c = false ∧ c ≠ '-' := by
      intro c hc
      rw [head?_marked hc]
      decide
    obtain ⟨last, hpre⟩ := readMarked_marked .patch hpre hplus
    have hend : ∀ c ∈ [].head?, isDottedChar c = false ∧ c ≠ '+' := nofun
    obtain ⟨last', hbuild⟩ := readMarked_marked last hbuild hend
    rw [List.append_nil] at hbuild
    exact ⟨last, last', _, hcore, hpre, hbuild⟩

/-- A core and a hyphen are followed by a pre-release, up to the build metadata. -/
lemma parts_of_read_hyphen {core : Version} {cs : List Char} {v : SemVer}
    (h : read (core.text ++ String.ofList ('-' :: cs)) = .ok v) :
    v.core = core ∧ IsDotted .pre v.pre.toList ∧ cs = v.pre.toList ++ marked '+' v.build := by
  have hends : EndsDigits (String.ofList ('-' :: cs)).toList := by
    rw [String.toList_ofList]
    exact endsDigits_cons (by decide)
  rw [read_core_append core hends, String.toList_ofList, readMarks_eq_ok_iff_marked] at h
  obtain ⟨hwell, hcore, hmarks⟩ := h
  have hne : v.pre ≠ "" := by
    intro hempty
    rw [hempty, marked_eq_nil, List.nil_append] at hmarks
    have hhead : '-' ∈ (marked '+' v.build).head? := by
      rw [← hmarks]
      rfl
    exact absurd (head?_marked hhead) (by decide)
  rw [marked_of_ne hne, List.cons_append, List.cons.injEq, and_iff_right rfl] at hmarks
  exact ⟨hcore, hwell.pre.resolve_left hne, hmarks⟩

/-- A number of a core is read where its digits are written, as many as there are. -/
lemma readNumber_eq_ok_iff {part : Part} {cs rest : List Char} {n : UInt64} :
    readNumber part cs = .ok (n, rest) ↔ cs = Nat.toDigits 10 n.toNat ++ rest ∧ EndsDigits rest := by
  constructor
  · intro h
    rw [readNumber.eq_def] at h
    cases hvalue : natural? (cs.takeWhile isDigit) with
    | none =>
      simp only [hvalue] at h
      cases cs <;> cases h
    | some k =>
      simp only [hvalue] at h
      split at h
      · cases h
      · next hzero =>
        split at h
        · next hlt =>
          simp only [Except.ok.injEq, Prod.mk.injEq] at h
          obtain ⟨rfl, rfl⟩ := h
          have hdigits : Nat.toDigits 10 k = cs.takeWhile isDigit := by
            refine toDigits_of_natural? hvalue fun hhead => ?_
            have hne := List.length_pos_iff.2 (natural?_eq_some_iff.1 hvalue).1
            simp only [hasLeadingZero, hhead, beq_self_eq_true, Bool.true_and, decide_eq_true_eq] at hzero
            omega
          rw [UInt64.toNat_ofNat_of_lt' hlt, hdigits]
          exact ⟨List.takeWhile_append_dropWhile.symm, fun c => not_of_mem_head?_dropWhile⟩
        · cases h
  · rintro ⟨rfl, hrest⟩
    exact readNumber_append part n hrest

lemma readDot_eq_ok_iff {part : Part} {cs rest : List Char} :
    readDot part cs = .ok rest ↔ cs = '.' :: rest := by
  cases cs with
  | nil => simp [readDot]
  | cons c cs =>
    rw [readDot]
    split
    · next hc => simp [hc]
    · next hc => simp [hc]

/-- A text that is read opens with a core. -/
lemma exists_core_of_read {text : String} {v : SemVer} (h : read text = .ok v) :
    ∃ core cs, text.toList = core.text.toList ++ cs ∧ readMarks core cs = .ok v := by
  rw [read] at h
  split at h
  · cases h
  · simp only [Fallible.bind_eq_ok_iff, Prod.exists, readNumber_eq_ok_iff, readDot_eq_ok_iff] at h
    obtain ⟨major, _, ⟨htext, _⟩, _, rfl, minor, _, ⟨rfl, _⟩, _, rfl, patch, cs, ⟨rfl, _⟩, hmarks⟩ := h
    refine ⟨⟨major, minor, patch⟩, cs, ?_, ?_⟩
    · rw [htext, toList_core_text]
      simp
    · simp only [readMarks, Fallible.bind_eq_ok_iff, Prod.exists]
      exact hmarks

lemma toList_text (v : SemVer) :
    v.text.toList = v.core.text.toList ++ (marked '-' v.pre ++ marked '+' v.build) := by
  rw [text, String.toList_append, String.toList_ofList]

/-- Exactly the written forms of well-formed versions are read, each as the version that it is the form
of. -/
theorem read_eq_ok_iff {text : String} {v : SemVer} :
    read text = .ok v ↔ v.WellFormed ∧ text = v.text := by
  constructor
  · intro h
    obtain ⟨core, cs, htext, hmarks⟩ := exists_core_of_read h
    obtain ⟨hwell, rfl, rfl⟩ := readMarks_eq_ok_iff_marked.1 hmarks
    exact ⟨hwell, String.toList_inj.1 (by rw [htext, toList_text])⟩
  · rintro ⟨hwell, rfl⟩
    have hends := endsDigits_marks v.pre v.build
    rw [← String.toList_ofList (l := marked '-' v.pre ++ marked '+' v.build)] at hends
    rw [SemVer.text, read_core_append v.core hends, String.toList_ofList]
    exact readMarks_eq_ok_iff_marked.2 ⟨hwell, rfl, rfl⟩

end BuildVersion.SemVer
