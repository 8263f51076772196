import BuildVersion.Text.Character
import BuildVersion.Text.Split
import Mathlib.Data.List.Induction
import Mathlib.Tactic.Lemma

/-!
# Lines of texts and of bytes

A stream is cut into lines before it is decoded. Main statements: bytes are a text exactly if they are its
bytes in UTF-8 (`decodeUtf8?_eq_some_iff`), the lines of the bytes of a text are the bytes of its lines
(`byteLines_encode`), and among lines that are read up to the first that is no text, one is not blank exactly
if the first line that is not blank is a text (`any_not_isBlankText_iff`).
-/

namespace BuildVersion.Text

/-! ### Bytes of characters -/

lemma encodeUtf8_eq (s : String) : encodeUtf8 s = s.toList.flatMap String.utf8EncodeChar := by
  have h : s.toByteArray = s.toList.utf8Encode := String.utf8Encode_toList.symm
  rw [encodeUtf8, String.toUTF8, h, List.utf8Encode, List.data_toByteArray]

/-- Bytes are read as a text exactly if they are its bytes. -/
lemma decodeUtf8?_eq_some_iff {bytes : List UInt8} {s : String} :
    decodeUtf8? bytes = some s ↔ bytes = encodeUtf8 s := by
  have hbytes : bytes = encodeUtf8 s ↔ (⟨bytes.toArray⟩ : ByteArray) = s.toByteArray := by
    rw [encodeUtf8, String.toUTF8, ByteArray.ext_iff, ← Array.toList_inj]
  rw [decodeUtf8?, String.fromUTF8?, hbytes]
  split
  · rw [Option.some.injEq, ← String.toByteArray_inj]
    rfl
  · next h =>
    constructor
    · intro e
      cases e
    · intro e
      exact absurd (e ▸ s.isValidUTF8) h

lemma decodeUtf8?_flatMap (cs : List Char) :
    decodeUtf8? (cs.flatMap String.utf8EncodeChar) = some (String.ofList cs) := by
  rw [decodeUtf8?_eq_some_iff, encodeUtf8_eq, String.toList_ofList]

/-- Only the characters of ASCII have a byte of ASCII. -/
lemma toNat_of_mem_utf8EncodeChar {c : Char} {b : UInt8} (h : b ∈ String.utf8EncodeChar c)
    (hb : b.toNat < 128) : c.toNat = b.toNat := by
  have hc : c.toNat = c.val.toNat := rfl
  unfold String.utf8EncodeChar at h
  dsimp only at h
  split at h
  · simp only [List.mem_singleton] at h
    subst h
    simp only [UInt8.toNat_ofNat'] at hb ⊢
    omega
  · -- the bytes of all other characters have their highest bit set
    exfalso
    split at h
    · simp only [List.mem_cons, List.not_mem_nil, or_false] at h
      rcases h with rfl | rfl <;> simp only [UInt8.toNat_ofNat'] at hb <;> omega
    · split at h
      · simp only [List.mem_cons, List.not_mem_nil, or_false] at h
        rcases h with rfl | rfl | rfl <;> simp only [UInt8.toNat_ofNat'] at hb <;> omega
      · simp only [List.mem_cons, List.not_mem_nil, or_false] at h
        rcases h with rfl | rfl | rfl | rfl <;> simp only [UInt8.toNat_ofNat'] at hb <;> omega

lemma lineFeed_notMem_utf8EncodeChar {c : Char} (h : c ≠ '\n') : 10 ∉ String.utf8EncodeChar c := by
  intro hmem
  apply h
  apply Char.toNat_inj.1
  exact toNat_of_mem_utf8EncodeChar hmem (by decide)

/-- The last byte of a text is a carriage return only where its last character is one. -/
lemma getLast?_flatMap_utf8EncodeChar {cs : List Char} :
    (cs.flatMap String.utf8EncodeChar).getLast? = some 13 ↔ cs.getLast? = some '\r' := by
  induction cs using List.reverseRecOn with
  | nil => simp
  | append_singleton cs c _ =>
    have hsome : (String.utf8EncodeChar c).getLast?.isSome = true :=
      Option.isSome_iff_ne_none.2 (mt List.getLast?_eq_none_iff.1 String.utf8EncodeChar_ne_nil)
    rw [List.flatMap_append, List.flatMap_singleton, List.getLast?_append, Option.or_of_isSome hsome,
      List.getLast?_concat, Option.some.injEq]
    constructor
    · intro h
      apply Char.toNat_inj.1
      exact toNat_of_mem_utf8EncodeChar (List.mem_of_getLast? h) (by decide)
    · intro h
      rw [h]
      decide

/-! ### Lines of a text -/

/-- Puts a character in front of lines: a line feed ends a line, any other character belongs to the
first. -/
def addChar (c : Char) (lines : List (List Char × Bool)) : List (List Char × Bool) :=
  if c = '\n' then ([], true) :: lines
  else
    match lines with
    | [] => [([c], false)]
    | (line, ended) :: rest => (c :: line, ended) :: rest

/-- The lines of a text without their line feeds. Each line says whether a line feed ended it. -/
def charLines (cs : List Char) : List (List Char × Bool) := cs.foldr addChar []

/-- The bytes of a line of characters. -/
def encodeLine (line : List Char × Bool) : List UInt8 × Bool :=
  (line.1.flatMap String.utf8EncodeChar, line.2)

/-- Bytes without a line feed all go to the first line. -/
lemma foldr_addByte {bytes : List UInt8} (h : 10 ∉ bytes) (line : List UInt8) (ended : Bool)
    (rest : List (List UInt8 × Bool)) :
    bytes.foldr addByte ((line, ended) :: rest) = (bytes ++ line, ended) :: rest := by
  induction bytes with
  | nil => rfl
  | cons b bytes ih =>
    have hb : b ≠ 10 := fun e => h (e ▸ List.mem_cons_self)
    have hbytes : 10 ∉ bytes := fun hmem => h (List.mem_cons_of_mem b hmem)
    rw [List.foldr_cons, ih hbytes, addByte, if_neg hb]
    rfl

lemma foldr_addByte_nil {bytes : List UInt8} (h : 10 ∉ bytes) (hne : bytes ≠ []) :
    bytes.foldr addByte [] = [(bytes, false)] := by
  induction bytes using List.reverseRecOn with
  | nil => exact absurd rfl hne
  | append_singleton bytes b _ =>
    have hbytes : 10 ∉ bytes := fun hmem => h (List.mem_append_left _ hmem)
    have hb : b ≠ 10 := fun e => h (e ▸ List.mem_append_right _ List.mem_cons_self)
    rw [List.foldr_append, List.foldr_cons, List.foldr_nil, addByte, if_neg hb]
    exact foldr_addByte hbytes _ _ _

lemma charLines_cons (c : Char) (cs : List Char) : charLines (c :: cs) = addChar c (charLines cs) := rfl

/-- The lines of the bytes of a text are the bytes of its lines. -/
lemma byteLines_encode (cs : List Char) :
    byteLines (cs.flatMap String.utf8EncodeChar) = (charLines cs).map encodeLine := by
  induction cs with
  | nil => rfl
  | cons c cs ih =>
    have hlines : byteLines ((c :: cs).flatMap String.utf8EncodeChar) =
        (String.utf8EncodeChar c).foldr addByte ((charLines cs).map encodeLine) := by
      rw [← ih, List.flatMap_cons, byteLines, List.foldr_append]
      rfl
    rw [hlines, charLines_cons]
    by_cases hc : c = '\n'
    · subst hc
      rfl
    · have hfeed := lineFeed_notMem_utf8EncodeChar hc
      unfold addChar
      rw [if_neg hc]
      cases charLines cs with
      | nil =>
        rw [List.map_nil, foldr_addByte_nil hfeed String.utf8EncodeChar_ne_nil]
        simp only [List.map_cons, List.map_nil, encodeLine, List.flatMap_singleton]
      | cons line rest => exact foldr_addByte hfeed _ _ _

lemma exists_mem_addChar {c d : Char} {lines : List (List Char × Bool)} :
    (∃ line ∈ addChar c lines, d ∈ line.1) ↔ (d = c ∧ c ≠ '\n') ∨ ∃ line ∈ lines, d ∈ line.1 := by
  unfold addChar
  by_cases hc : c = '\n'
  · simp [hc]
  · rw [if_neg hc]
    cases lines with
    | nil => simp [hc]
    | cons line rest =>
      simp only [List.mem_cons, exists_eq_or_imp, or_assoc, hc, ne_eq, not_false_eq_true, and_true]

/-- Every character of a text but the line feeds is in one of its lines. -/
lemma exists_mem_charLines {c : Char} {cs : List Char} :
    (∃ line ∈ charLines cs, c ∈ line.1) ↔ c ∈ cs ∧ c ≠ '\n' := by
  induction cs with
  | nil => simp [charLines]
  | cons d cs ih =>
    rw [charLines_cons, exists_mem_addChar, ih, List.mem_cons]
    constructor
    · intro h
      cases h with
      | inl h => exact ⟨Or.inl h.1, h.1 ▸ h.2⟩
      | inr h => exact ⟨Or.inr h.1, h.2⟩
    · intro h
      obtain ⟨hmem, hc⟩ := h
      cases hmem with
      | inl e => exact Or.inl ⟨e, e ▸ hc⟩
      | inr hmem => exact Or.inr ⟨hmem, hc⟩

/-! ### Lines that are read -/

/-- The text of a line of bytes, where they are one. -/
def lineText? (line : List UInt8 × Bool) : Option String := decodeUtf8? (withoutReturn line)

/-- A line of bytes is blank if it is the text of blanks; bytes that are no text are none. -/
def IsBlankLine (line : List UInt8 × Bool) : Prop :=
  ∃ s, lineText? line = some s ∧ isBlankText s = true

/-- The carriage return at the end of a line is found in its bytes. -/
lemma lineText?_encodeLine (line : List Char × Bool) :
    lineText? (encodeLine line) =
      some (String.ofList
        (if line.2 ∧ line.1.getLast? = some '\r' then line.1.dropLast else line.1)) := by
  obtain ⟨cs, ended⟩ := line
  rw [← decodeUtf8?_flatMap, lineText?]
  congr 1
  unfold withoutReturn encodeLine
  simp only [getLast?_flatMap_utf8EncodeChar]
  split
  · next h =>
    obtain ⟨rest, rfl⟩ := List.getLast?_eq_some_iff.1 h.2
    rw [List.dropLast_concat, List.flatMap_append, List.flatMap_singleton]
    exact List.dropLast_concat
  · rfl

lemma isBlankLine_encodeLine_iff {line : List Char × Bool} :
    IsBlankLine (encodeLine line) ↔ ∀ c ∈ line.1, isBlank c = true := by
  obtain ⟨cs, ended⟩ := line
  rw [IsBlankLine, lineText?_encodeLine]
  simp only [Option.some.injEq, exists_eq_left', isBlankText, String.toList_ofList, List.all_eq_true]
  split
  · next h =>
    obtain ⟨rest, rfl⟩ := List.getLast?_eq_some_iff.1 h.2
    rw [List.dropLast_concat, List.forall_mem_append, List.forall_mem_singleton]
    exact ⟨fun hrest => ⟨hrest, rfl⟩, And.left⟩
  · rfl

/-- Lines are read up to the first that is no text. One of those is not blank exactly if the first line that is
not blank is a text. -/
lemma any_not_isBlankText_iff {lines : List (List UInt8 × Bool)} :
    (((lines.map lineText?).takeWhile Option.isSome).filterMap id).any (fun s => !isBlankText s) = true ↔
      ∃ before line after s, lines = before ++ line :: after ∧ (∀ l ∈ before, IsBlankLine l) ∧
        lineText? line = some s ∧ isBlankText s = false := by
  induction lines with
  | nil => simp
  | cons line lines ih =>
    constructor
    · intro h
      cases htext : lineText? line with
      | none => simp [htext] at h
      | some s =>
        cases hblank : isBlankText s with
        | false => exact ⟨[], line, lines, s, rfl, by simp, htext, hblank⟩
        | true =>
          simp only [List.map_cons, htext, List.takeWhile_cons, Option.isSome_some, if_true,
            List.filterMap_cons, id_eq, List.any_cons, hblank, Bool.not_true, Bool.false_or] at h
          obtain ⟨before, line', after, s', rfl, hbefore, hline⟩ := ih.1 h
          refine ⟨line :: before, line', after, s', rfl, ?_, hline⟩
          exact List.forall_mem_cons.2 ⟨⟨s, htext, hblank⟩, hbefore⟩
    · intro h
      obtain ⟨before, line', after, s', hlines, hbefore, htext', hblank'⟩ := h
      cases before with
      | nil =>
        obtain ⟨rfl, rfl⟩ := List.cons.inj hlines
        simp [htext', hblank']
      | cons l before =>
        obtain ⟨rfl, rfl⟩ := List.cons.inj hlines
        obtain ⟨⟨s, htext, hblank⟩, hrest⟩ := List.forall_mem_cons.1 hbefore
        simp only [List.map_cons, htext, List.takeWhile_cons, Option.isSome_some, if_true,
          List.filterMap_cons, id_eq, List.any_cons, hblank, Bool.not_true, Bool.false_or]
        exact ih.2 ⟨before, line', after, s', rfl, hrest, htext', hblank'⟩

/-- Some line of a text is not blank exactly if the text is not. -/
lemma exists_not_isBlankLine_iff {s : String} :
    (∃ line ∈ byteLines (encodeUtf8 s), ¬ IsBlankLine line) ↔ ∃ c ∈ s.toList, isBlank c = false := by
  rw [encodeUtf8_eq, byteLines_encode]
  constructor
  · intro h
    obtain ⟨line, hline, hblank⟩ := h
    obtain ⟨chars, hchars, rfl⟩ := List.mem_map.1 hline
    rw [isBlankLine_encodeLine_iff] at hblank
    push Not at hblank
    obtain ⟨c, hc, hcblank⟩ := hblank
    exact ⟨c, (exists_mem_charLines.1 ⟨chars, hchars, hc⟩).1, Bool.eq_false_iff.2 hcblank⟩
  · intro h
    obtain ⟨c, hc, hcblank⟩ := h
    have hfeed : c ≠ '\n' := by
      intro e
      rw [e] at hcblank
      exact absurd hcblank (by decide)
    obtain ⟨chars, hchars, hmem⟩ := exists_mem_charLines.2 ⟨hc, hfeed⟩
    refine ⟨encodeLine chars, List.mem_map_of_mem hchars, ?_⟩
    intro hblank
    rw [isBlankLine_encodeLine_iff.1 hblank c hmem] at hcblank
    exact absurd hcblank (by decide)

/-- All lines of a text are texts. -/
lemma isSome_lineText?_of_mem {s : String} {line : List UInt8 × Bool}
    (h : line ∈ byteLines (encodeUtf8 s)) : (lineText? line).isSome = true := by
  rw [encodeUtf8_eq, byteLines_encode] at h
  obtain ⟨chars, _, rfl⟩ := List.mem_map.1 h
  rw [lineText?_encodeLine]
  rfl

end BuildVersion.Text
