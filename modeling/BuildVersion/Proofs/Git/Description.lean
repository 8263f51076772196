import BuildVersion.Proofs.Text.Pieces
import BuildVersion.Proofs.Text.Trimming
import BuildVersion.Proofs.TimeScheme.Grammar
import BuildVersion.Provider.Git

/-!
# Descriptions of commits

A commit is described by a tag, the number of commits after it and its hash, with hyphens between them, and a tag may
hold hyphens itself. Main statement: every tag is read back from such a description, nothing else is read, and no
description can be cut in two ways (`description_reads_back`).
-/

namespace BuildVersion.Git

open Text
open TimeScheme (Digits)

/-- A text is cut into a tag, a number of commits and a hash: a hyphen stands between the tag and the number, and a
hyphen and a `g` before the hash. -/
structure Cut (cs tag number hash : List Char) : Prop where
  eq_append : cs = tag ++ '-' :: (number ++ '-' :: 'g' :: hash)
  number_ne_nil : number ≠ []
  isDigit_number : ∀ c ∈ number, isDigit c = true
  hash_ne_nil : hash ≠ []
  isHexDigit_hash : ∀ c ∈ hash, isHexDigit c = true

variable {separator : Char} {cs before after tag number hash tag' number' hash' : List Char}

/-- The cut falls on the last separator. -/
lemma cutLast?_eq_some_iff :
    cutLast? separator cs = some (before, after) ↔ cs = before ++ separator :: after ∧ separator ∉ after := by
  rw [cutLast?, Option.map_eq_some_iff]
  constructor
  · intro h
    obtain ⟨⟨after', before'⟩, hcut, heq⟩ := h
    obtain ⟨rfl, rfl⟩ := Prod.mk.inj heq
    obtain ⟨hcs, hnot⟩ := cut?_eq_some_iff.1 hcut
    refine ⟨?_, by rwa [List.mem_reverse]⟩
    rw [← List.reverse_reverse cs, hcs, List.reverse_append, List.reverse_cons, List.append_assoc,
      List.singleton_append]
  · intro h
    obtain ⟨rfl, hnot⟩ := h
    refine ⟨(after.reverse, before.reverse), cut?_eq_some_iff.2 ⟨?_, by rwa [List.mem_reverse]⟩, ?_⟩
    · rw [List.reverse_append, List.reverse_cons, List.append_assoc, List.singleton_append]
    · dsimp only
      rw [List.reverse_reverse, List.reverse_reverse]

namespace Cut

lemma iff_all :
    Cut cs tag number hash ↔ cs = tag ++ '-' :: (number ++ '-' :: 'g' :: hash) ∧
      (number ≠ [] ∧ number.all isDigit = true) ∧ hash ≠ [] ∧ hash.all isHexDigit = true := by
  rw [List.all_eq_true, List.all_eq_true]
  exact ⟨fun h => ⟨h.eq_append, ⟨h.number_ne_nil, h.isDigit_number⟩, h.hash_ne_nil, h.isHexDigit_hash⟩,
    fun h => ⟨h.1, h.2.1.1, h.2.1.2, h.2.2.1, h.2.2.2⟩⟩

instance : Decidable (Cut cs tag number hash) := decidable_of_iff' _ iff_all

/-- The hash follows the last hyphen, and the number the last one before it. -/
lemma cutLast?_eq (h : Cut cs tag number hash) :
    cutLast? '-' cs = some (tag ++ '-' :: number, 'g' :: hash) ∧
      cutLast? '-' (tag ++ '-' :: number) = some (tag, number) := by
  have hhash : '-' ∉ 'g' :: hash := by
    intro hmem
    cases hmem with
    | tail _ hmem => exact absurd (h.isHexDigit_hash '-' hmem) (by decide)
  have hnumber : '-' ∉ number := fun hmem => absurd (h.isDigit_number '-' hmem) (by decide)
  refine ⟨cutLast?_eq_some_iff.2 ⟨?_, hhash⟩, cutLast?_eq_some_iff.2 ⟨rfl, hnumber⟩⟩
  rw [h.eq_append, List.append_assoc]
  rfl

/-- A text is cut in one way only. -/
lemma unique (h : Cut cs tag number hash) (h' : Cut cs tag' number' hash') :
    tag = tag' ∧ number = number' ∧ hash = hash' := by
  have hrest := h.cutLast?_eq.1
  rw [h'.cutLast?_eq.1, Option.some.injEq, Prod.mk.injEq] at hrest
  have htag := h.cutLast?_eq.2
  rw [← hrest.1, h'.cutLast?_eq.2, Option.some.injEq, Prod.mk.injEq] at htag
  exact ⟨htag.1.symm, htag.2.symm, (List.cons.inj hrest.2).2.symm⟩

/-- A description ends with the hash, and so only its tag can open with a blank. -/
lemma isTrimmed (h : Cut cs tag number hash) (htag : ∀ c ∈ tag.head?, isBlank c = false) : IsTrimmed cs := by
  refine ⟨?_, ?_⟩
  · intro c hc
    rw [h.eq_append] at hc
    cases tag with
    | nil =>
      cases hc
      decide
    | cons d tag => exact htag c hc
  · intro c hc
    have hfront : cs = (tag ++ '-' :: (number ++ ['-', 'g'])) ++ hash := by
      rw [h.eq_append]
      simp
    rw [hfront, List.getLast?_append_of_ne_nil _ h.hash_ne_nil] at hc
    exact not_isBlank_of_isHexDigit (h.isHexDigit_hash c (List.mem_of_getLast? hc))

end Cut

lemma not_refused_iff {n : Nat} :
    ¬ (hash.isEmpty = true ∨ (!hash.all isHexDigit) = true ∨ '\n' ∈ tag ∨ wordLimit ≤ n) ↔
      hash ≠ [] ∧ (∀ c ∈ hash, isHexDigit c = true) ∧ '\n' ∉ tag ∧ n < wordLimit := by
  simp

/-- A description is read as its tag and its number, if the tag stays on one line and the number fits a word. -/
lemma readDescription?_eq_some_iff {line tag : String} {count : UInt64} :
    readDescription? line = some (tag, count) ↔
      '\n' ∉ tag.toList ∧
        ∃ number hash, Cut (trim line.toList) tag.toList number hash ∧ Digits number count.toNat := by
  rw [readDescription?]
  constructor
  · intro h
    obtain ⟨⟨rest, last⟩, hlast, hcut⟩ := Option.bind_eq_some_iff.1 h
    obtain ⟨⟨before, number⟩, hrest, hmatch⟩ := Option.bind_eq_some_iff.1 hcut
    have htext := (cutLast?_eq_some_iff.1 hlast).1
    have hrest' := (cutLast?_eq_some_iff.1 hrest).1
    subst hrest'
    clear h hcut
    dsimp only at hmatch
    split at hmatch
    · next hash =>
      obtain ⟨n, hn, hword⟩ := Option.bind_eq_some_iff.1 hmatch
      obtain ⟨hkept, heq⟩ := Option.ite_none_left_eq_some.1 hword
      obtain ⟨hne, hhex, hfeed, hlt⟩ := not_refused_iff.1 hkept
      have hnumber := TimeScheme.natural?_eq_some_iff_digits.1 hn
      cases heq
      rw [String.toList_ofList, UInt64.toNat_ofNat_of_lt' hlt]
      refine ⟨hfeed, number, hash, ⟨?_, hnumber.nonempty, hnumber.digits, hne, hhex⟩, hnumber⟩
      rw [htext, List.append_assoc, List.cons_append]
    · cases hmatch
  · intro h
    obtain ⟨hfeed, number, hash, hcut, hnumber⟩ := h
    have hread := TimeScheme.natural?_eq_some_iff_digits.2 hnumber
    have hkept := not_refused_iff.2 ⟨hcut.hash_ne_nil, hcut.isHexDigit_hash, hfeed, count.toNat_lt⟩
    simp only [hcut.cutLast?_eq.1, hcut.cutLast?_eq.2, hread, Option.bind_eq_bind, Option.bind_some]
    rw [if_neg hkept, String.ofList_toList, UInt64.ofNat_toNat]

/-- A commit is described by its tag, the number of commits after it and its hash. -/
def description (tag : String) (count : UInt64) (hash : String) : String :=
  tag ++ "-" ++ toString count.toNat ++ "-g" ++ hash

lemma cut_description {tag hash : String} {count : UInt64} (hne : hash ≠ "")
    (hhex : ∀ c ∈ hash.toList, isHexDigit c = true) :
    Cut (description tag count hash).toList tag.toList (Nat.toDigits 10 count.toNat) hash.toList where
  eq_append := by simp [description]
  number_ne_nil := Nat.toDigits_ne_nil
  isDigit_number := fun _ hc => isDigit_of_mem_toDigits hc
  hash_ne_nil := fun hnil => hne (String.toList_eq_nil_iff.1 hnil)
  isHexDigit_hash := hhex

/-- Every tag on one line that does not open with a blank is read back from its description, whatever hyphens, numbers
or descriptions it holds itself. A line is read if its trimmed text can be cut into a tag on one line, digits of a
number that fits a word, and a hash; and no text can be cut in two ways. -/
theorem description_reads_back :
    (∀ (tag : String) (count : UInt64) (hash : String), '\n' ∉ tag.toList →
      (∀ c ∈ tag.toList.head?, isBlank c = false) → hash ≠ "" → (∀ c ∈ hash.toList, isHexDigit c = true) →
      readDescription? (description tag count hash) = some (tag, count)) ∧
    (∀ (line tag : String) (count : UInt64), readDescription? line = some (tag, count) ↔
      '\n' ∉ tag.toList ∧
        ∃ number hash, Cut (trim line.toList) tag.toList number hash ∧ Digits number count.toNat) ∧
    ∀ cs tag number hash tag' number' hash', Cut cs tag number hash → Cut cs tag' number' hash' →
      tag = tag' ∧ number = number' ∧ hash = hash' := by
  refine ⟨?_, fun _ _ _ => readDescription?_eq_some_iff, fun _ _ _ _ _ _ _ => Cut.unique⟩
  intro tag count hash hfeed hblank hne hhex
  have hcut : Cut (description tag count hash).toList tag.toList (Nat.toDigits 10 count.toNat) hash.toList :=
    cut_description hne hhex
  rw [readDescription?_eq_some_iff, (hcut.isTrimmed hblank).trim_eq]
  exact ⟨hfeed, _, _, hcut, TimeScheme.natural?_eq_some_iff_digits.1 (natural?_toDigits count.toNat)⟩

/-- A tag that looks like a description, the largest number, and a number that fits no word. -/
theorem description_reads_back_nested :
    readDescription? "v1.0-3-gabc-18446744073709551615-g0F" = some ("v1.0-3-gabc", 18446744073709551615) ∧
      readDescription? " v1-007-gab\n" = some ("v1", 7) ∧
      (∀ tag count, readDescription? "v1-18446744073709551616-g0f" ≠ some (tag, count)) ∧
      ∀ tag number hash, Cut "v1.0-3-gabc-4-g0f".toList tag number hash →
        tag = "v1.0-3-gabc".toList ∧ number = ['4'] ∧ hash = ['0', 'f'] := by
  obtain ⟨hback, hread, hunique⟩ := description_reads_back
  have hdigits : Digits ['0', '0', '7'] 7 := TimeScheme.natural?_eq_some_iff_digits.1 (by decide +kernel)
  have hback' : readDescription? (description "v1.0-3-gabc" 18446744073709551615 "0F") =
      some ("v1.0-3-gabc", 18446744073709551615) := by
    apply hback
    · decide
    · rintro _ ⟨⟩
      decide
    · decide
    · exact List.all_eq_true.1 (by decide)
  refine ⟨hback', ?_, ?_, ?_⟩
  · exact (hread _ _ _).2 ⟨by decide, ['0', '0', '7'], ['a', 'b'], by decide +kernel, hdigits⟩
  · intro tag count h
    obtain ⟨_, number, hash, hcut, hnumber⟩ := (hread _ _ _).1 h
    have hlarge : Cut (trim "v1-18446744073709551616-g0f".toList) ['v', '1'] "18446744073709551616".toList
        ['0', 'f'] := by decide +kernel
    obtain ⟨_, rfl, _⟩ := hunique _ _ _ _ _ _ _ hcut hlarge
    have hvalue : Nat.ofDigitChars 10 "18446744073709551616".toList 0 = 18446744073709551616 := by decide +kernel
    have hlt := count.toNat_lt
    rw [← hnumber.value, hvalue] at hlt
    exact absurd hlt (by decide)
  · intro tag number hash hcut
    exact hunique _ _ _ _ _ _ _ hcut (by decide +kernel)

end BuildVersion.Git
