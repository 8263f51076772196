import BuildVersion.Proofs.Release.Precedence
import BuildVersion.Proofs.TimeScheme.Grammar

/-!
# The grammar of tags

Which tags name a version, said without reading them: a `v` or none, one to three numbers, and a suffix or none.
Main statement: exactly these tags are read, as the version that they spell, and among them are versions as they are
printed and development versions without line feeds (`Tag.read_spelled_tags`).
-/

namespace BuildVersion

open Text
open TimeScheme (Digits)

namespace Tag

/-- A `v` in either case, or nothing. -/
def IsMark (cs : List Char) : Prop := cs = [] ∨ cs = ['v'] ∨ cs = ['V']

/-- One to three numbers with dots between them, each of them a word. Those that are left out are zero. -/
inductive CorePart : List Char → Version → Prop where
  | major {xs : List Char} {x : UInt64} :
    Digits xs x.toNat →
    CorePart xs ⟨x, 0, 0⟩
  | minor {xs ys : List Char} {x y : UInt64} :
    Digits xs x.toNat →
    Digits ys y.toNat →
    CorePart (xs ++ '.' :: ys) ⟨x, y, 0⟩
  | patch {xs ys zs : List Char} {x y z : UInt64} :
    Digits xs x.toNat →
    Digits ys y.toNat →
    Digits zs z.toNat →
    CorePart (xs ++ '.' :: (ys ++ '.' :: zs)) ⟨x, y, z⟩

/-- A text that can be a suffix: it is not empty and stays on one line. -/
def SpellableSuffix (text : String) : Prop := text ≠ "" ∧ '\n' ∉ text.toList

/-- A suffix behind a hyphen, or nothing. -/
inductive SuffixPart : List Char → Option String → Prop where
  | nothing : SuffixPart [] none
  | suffix {text : String} :
    SpellableSuffix text →
    SuffixPart ('-' :: text.toList) (some text)

/-- How a tag that names a version is written. -/
inductive Spells : List Char → Reading → Prop where
  | mk {mark cs ss : List Char} {core : Version} {suffix : Option String} :
    IsMark mark →
    CorePart cs core →
    SuffixPart ss suffix →
    Spells (mark ++ (cs ++ ss)) ⟨core, suffix⟩

variable {cs ds : List Char} {core : Version} {suffix : Option String}

/-! ### Numbers -/

lemma number?_eq_some_iff {n : UInt64} : number? cs = some n ↔ Digits cs n.toNat := by
  rw [← TimeScheme.natural?_eq_some_iff_digits]
  have hlt : n.toNat < wordLimit := n.toNat_lt
  unfold number?
  cases natural? cs with
  | none => exact iff_of_false nofun nofun
  | some k =>
    simp only [Option.ite_none_right_eq_some, Option.some.injEq]
    constructor
    · rintro ⟨hk, rfl⟩
      exact (UInt64.toNat_ofNat_of_lt' hk).symm
    · rintro rfl
      exact ⟨hlt, UInt64.ofNat_toNat⟩

lemma split_digits {n : Nat} (h : Digits cs n) : split '.' cs = [cs] :=
  split_eq_singleton (h.notMem (by decide))

/-- A core is read as the numbers between its dots. -/
lemma core?_eq_some_iff : core? cs = some core ↔ CorePart cs core := by
  constructor
  · intro h
    have hjoin := join_split '.' cs
    unfold core? at h
    split at h
    · next hsplit =>
      rw [hsplit] at hjoin
      obtain ⟨x, hx, he⟩ := Option.bind_eq_some_iff.1 h
      cases he
      rw [← hjoin]
      exact .major (number?_eq_some_iff.1 hx)
    · next hsplit =>
      rw [hsplit] at hjoin
      obtain ⟨x, hx, h⟩ := Option.bind_eq_some_iff.1 h
      obtain ⟨y, hy, he⟩ := Option.bind_eq_some_iff.1 h
      cases he
      rw [← hjoin]
      exact .minor (number?_eq_some_iff.1 hx) (number?_eq_some_iff.1 hy)
    · next hsplit =>
      rw [hsplit] at hjoin
      obtain ⟨x, hx, h⟩ := Option.bind_eq_some_iff.1 h
      obtain ⟨y, hy, h⟩ := Option.bind_eq_some_iff.1 h
      obtain ⟨z, hz, he⟩ := Option.bind_eq_some_iff.1 h
      cases he
      rw [← hjoin]
      exact .patch (number?_eq_some_iff.1 hx) (number?_eq_some_iff.1 hy) (number?_eq_some_iff.1 hz)
    · cases h
  · intro h
    cases h with
    | major hx =>
      rw [core?, split_digits hx]
      simp [number?_eq_some_iff.2 hx]
    | minor hx hy =>
      rw [core?, split_append_cons, split_digits hx, split_digits hy]
      simp [number?_eq_some_iff.2 hx, number?_eq_some_iff.2 hy]
    | patch hx hy hz =>
      rw [core?, split_append_cons, split_append_cons, split_digits hx, split_digits hy, split_digits hz]
      simp [number?_eq_some_iff.2 hx, number?_eq_some_iff.2 hy, number?_eq_some_iff.2 hz]

/-- The suffix begins at the first hyphen, as a core has none. -/
lemma CorePart.hyphen_notMem (h : CorePart cs core) : '-' ∉ cs := by
  have hhyphen : isDigit '-' = false := by decide
  cases h with
  | major hx => exact hx.notMem hhyphen
  | minor hx hy => simp [hx.notMem hhyphen, hy.notMem hhyphen]
  | patch hx hy hz => simp [hx.notMem hhyphen, hy.notMem hhyphen, hz.notMem hhyphen]

lemma exists_head_of_digits {n : Nat} (h : Digits cs n) (rest : List Char) :
    ∃ c es, cs ++ rest = c :: es ∧ isDigit c = true := by
  cases cs with
  | nil => exact absurd rfl h.nonempty
  | cons c cs => exact ⟨c, cs ++ rest, rfl, h.digits c List.mem_cons_self⟩

/-- A core opens with a digit. -/
lemma CorePart.exists_head (h : CorePart cs core) (rest : List Char) :
    ∃ c es, cs ++ rest = c :: es ∧ isDigit c = true := by
  cases h with
  | major hx => exact exists_head_of_digits hx rest
  | minor hx hy =>
    rw [List.append_assoc]
    exact exists_head_of_digits hx _
  | patch hx hy hz =>
    rw [List.append_assoc]
    exact exists_head_of_digits hx _

/-! ### Marks -/

/-- What is dropped from a tag is a mark. -/
lemma exists_mark (cs : List Char) : ∃ mark, IsMark mark ∧ cs = mark ++ withoutV cs := by
  unfold withoutV
  split
  · next v c rest =>
    split
    · next h =>
      obtain ⟨rfl | rfl, _⟩ := h
      · exact ⟨['v'], .inr (.inl rfl), rfl⟩
      · exact ⟨['V'], .inr (.inr rfl), rfl⟩
    · exact ⟨[], .inl rfl, rfl⟩
  · exact ⟨[], .inl rfl, rfl⟩

/-- A mark is dropped before a digit, and nothing else is. -/
lemma withoutV_mark {mark : List Char} (hmark : IsMark mark) {c : Char} (hc : isDigit c = true) (es : List Char) :
    withoutV (mark ++ c :: es) = c :: es := by
  obtain rfl | rfl | rfl := hmark
  · rw [List.nil_append]
    unfold withoutV
    split
    · next v d rest he =>
      obtain ⟨rfl, rfl⟩ := List.cons.inj he
      have hletter : ¬ (c = 'v' ∨ c = 'V') := by
        rintro (rfl | rfl)
        · exact absurd hc (by decide)
        · exact absurd hc (by decide)
      rw [if_neg fun h => hletter h.1]
    · rfl
  · simp [withoutV, hc]
  · simp [withoutV, hc]

/-! ### Tags -/

/-- The suffix is told from the core by the first hyphen. -/
lemma read?_eq_some_iff {tag : String} {reading : Reading} :
    read? tag = some reading ↔
      ∃ cs ss, withoutV tag.toList = cs ++ ss ∧ CorePart cs reading.core ∧ SuffixPart ss reading.suffix := by
  rw [read?]
  generalize withoutV tag.toList = ds
  constructor
  · intro h
    split at h
    · obtain ⟨core, hcore, rfl⟩ := Option.map_eq_some_iff.1 h
      exact ⟨ds, [], (List.append_nil ds).symm, core?_eq_some_iff.1 hcore, .nothing⟩
    · next cs text hcut =>
      obtain ⟨rfl, _⟩ := cut?_eq_some_iff.1 hcut
      split at h
      · cases h
      · next hsuffix =>
        obtain ⟨core, hcore, rfl⟩ := Option.map_eq_some_iff.1 h
        rw [not_or, List.isEmpty_iff] at hsuffix
        have hpart : SuffixPart ('-' :: (String.ofList text).toList) (some (String.ofList text)) := by
          refine .suffix ⟨fun he => hsuffix.1 (String.ofList_eq_empty_iff.1 he), ?_⟩
          rw [String.toList_ofList]
          exact hsuffix.2
        rw [String.toList_ofList] at hpart
        exact ⟨cs, '-' :: text, rfl, core?_eq_some_iff.1 hcore, hpart⟩
  · rintro ⟨cs, ss, rfl, hcore, hsuffix⟩
    obtain ⟨core, suffix⟩ := reading
    cases hsuffix with
    | nothing =>
      rw [List.append_nil, cut?_eq_none_iff.2 hcore.hyphen_notMem]
      exact Option.map_eq_some_iff.2 ⟨core, core?_eq_some_iff.2 hcore, rfl⟩
    | @suffix text hspellable =>
      have hcut : cut? '-' (cs ++ '-' :: text.toList) = some (cs, text.toList) :=
        cut?_eq_some_iff.2 ⟨rfl, hcore.hyphen_notMem⟩
      have hkept : ¬ (text.toList.isEmpty = true ∨ '\n' ∈ text.toList) := by
        rw [not_or, List.isEmpty_iff]
        exact ⟨fun he => hspellable.1 (String.toList_eq_nil_iff.1 he), hspellable.2⟩
      simp only [hcut]
      rw [if_neg hkept, String.ofList_toList]
      exact Option.map_eq_some_iff.2 ⟨core, core?_eq_some_iff.2 hcore, rfl⟩

/-- Exactly the tags that are spelled are read. -/
lemma read?_eq_some_iff_spells {tag : String} {reading : Reading} :
    read? tag = some reading ↔ Spells tag.toList reading := by
  rw [read?_eq_some_iff]
  constructor
  · rintro ⟨cs, ss, hcut, hcore, hsuffix⟩
    obtain ⟨mark, hmark, htag⟩ := exists_mark tag.toList
    rw [htag, hcut]
    exact .mk hmark hcore hsuffix
  · intro h
    generalize tag.toList = ts at h
    obtain @⟨mark, cs, ss, core, suffix, hmark, hcore, hsuffix⟩ := h
    obtain ⟨c, es, hhead, hc⟩ := hcore.exists_head ss
    refine ⟨cs, ss, ?_, hcore, hsuffix⟩
    rw [hhead]
    exact withoutV_mark hmark hc es

lemma read?_eq_none_iff {tag : String} : read? tag = none ↔ ∀ reading, ¬ Spells tag.toList reading := by
  simp only [Option.eq_none_iff_forall_ne_some, ne_eq, read?_eq_some_iff_spells]

/-! ### Versions as they are printed -/

/-- The printed form of a version is a core. -/
lemma corePart_text (v : Version) : CorePart v.text.toList v := by
  have hdigits : ∀ n : UInt64, Digits (Nat.toDigits 10 n.toNat) n.toNat := fun n =>
    TimeScheme.natural?_eq_some_iff_digits.1 (natural?_toDigits n.toNat)
  rw [SemVer.toList_core_text]
  exact .patch (hdigits _) (hdigits _) (hdigits _)

lemma spellable_of_read? {tag : String} {reading : Reading} (h : read? tag = some reading) :
    ∀ text ∈ reading.suffix, SpellableSuffix text := by
  obtain ⟨_, _, _, _, hsuffix⟩ := read?_eq_some_iff.1 h
  generalize reading.suffix = suffix at hsuffix
  cases hsuffix with
  | nothing => exact nofun
  | suffix hspellable =>
    rintro _ ⟨⟩
    exact hspellable

/-- A version is read back from its printed form behind a mark. -/
lemma read?_text {mark : String} {reading : Reading} (hmark : IsMark mark.toList)
    (hsuffix : ∀ text ∈ reading.suffix, SpellableSuffix text) : read? (mark ++ reading.text) = some reading := by
  obtain ⟨core, suffix⟩ := reading
  rw [read?_eq_some_iff_spells, String.toList_append, Reading.text, String.toList_append]
  refine .mk hmark (corePart_text core) ?_
  cases suffix with
  | none => exact .nothing
  | some text =>
    have hhyphen : ("-" ++ text).toList = '-' :: text.toList := by simp
    rw [hhyphen]
    exact .suffix (hsuffix text rfl)

end Tag

/-- A label stays on one line if its suffix and its branch do. -/
lemma Label.lineFeed_notMem_text {l : Label} (hsuffix : ∀ suffix ∈ l.suffix, '\n' ∉ suffix.toList)
    (hbranch : ∀ branch ∈ l.branch, '\n' ∉ branch.toList) : '\n' ∉ l.text.toList := by
  obtain ⟨suffix, branch, count⟩ := l
  have hcount : '\n' ∉ Nat.toDigits 10 count.toNat := fun h => absurd (isDigit_of_mem_toDigits h) (by decide)
  have hlead : ∀ {mark : Char}, mark ≠ '\n' → '\n' ∉ lead mark suffix := by
    intro mark hmark
    cases suffix with
    | none => exact List.not_mem_nil
    | some suffix => simp [lead, hsuffix suffix rfl, hmark.symm]
  rw [toList_text, opening]
  cases branch with
  | none => simp [hlead, hcount]
  | some branch => simp [hlead, hcount, hbranch branch rfl]

namespace Release

variable {s : Snapshot} {defaultBranch build fragment : Option String} {core : Version} {label : Label}

/-- The label of a snapshot stays on one line, whatever its branch and tag are. -/
lemma lineFeed_notMem_label (h : ofSnapshot s defaultBranch build = .ok (.development core label fragment)) :
    '\n' ∉ label.text.toList := by
  obtain ⟨_, _, rfl, _⟩ := ofSnapshot_eq_development_iff.1 h
  apply Label.lineFeed_notMem_text
  · intro suffix hsuffix
    cases htag : Tag.read? s.tag with
    | none =>
      rw [basis, htag] at hsuffix
      cases hsuffix
    | some tag =>
      rw [basis_of_read? htag] at hsuffix
      exact (Tag.spellable_of_read? htag suffix hsuffix).2
  · intro identifier hidentifier hline
    exact absurd (Branch.isIdentifierChar_of_identifier? hidentifier '\n' hline) (by decide)

/-- What follows the core of a development version. -/
def behindCore (label : Label) (build : Option String) : String :=
  String.ofList (label.text.toList ++ metadata build)

lemma text_eq_reading_text :
    (development core label fragment).text = (Tag.Reading.mk core (some (behindCore label fragment))).text := by
  rw [development_text, Tag.Reading.text, behindCore]
  simp

/-- Behind its core, a development version stays on one line if its build fragment does. -/
lemma spellable_behindCore_iff (h : ofSnapshot s defaultBranch build = .ok (.development core label fragment)) :
    Tag.SpellableSuffix (behindCore label fragment) ↔ ∀ hash ∈ build, '\n' ∉ hash.toList := by
  have hlabel := lineFeed_notMem_label h
  have hne : label.text.toList ≠ [] := by
    rw [Label.toList_text]
    simp
  obtain ⟨_, _, _, rfl⟩ := ofSnapshot_eq_development_iff.1 h
  have hbuild : '\n' ∈ metadata (build.filter (· != "")) ↔ ∃ hash ∈ build, '\n' ∈ hash.toList := by
    cases build with
    | none => simp [metadata]
    | some hash =>
      by_cases hempty : hash = ""
      · simp [hempty, metadata, Option.filter]
      · simp [hempty, metadata, Option.filter]
  have hbehind : behindCore label (build.filter (· != "")) ≠ "" := by
    rw [behindCore, Ne, String.ofList_eq_empty_iff, List.append_eq_nil_iff]
    exact fun hnil => hne hnil.1
  rw [Tag.SpellableSuffix, and_iff_right hbehind, behindCore, String.toList_ofList, List.mem_append, hbuild]
  simp [hlabel]

end Release

namespace Tag

/-- Exactly the tags that are spelled by the grammar are read, as the version that they spell. Every version is read
back from its printed form, behind a `v` or without one and with a suffix or without one. A development version of any
snapshot that is taken for a tag is read with its own core and all that follows it, unless a line feed in its build
fragment makes it no tag. -/
theorem read_spelled_tags :
    (∀ (tag : String) (reading : Reading), read? tag = some reading ↔ Spells tag.toList reading) ∧
      (∀ (mark : String) (reading : Reading), IsMark mark.toList →
        (∀ text ∈ reading.suffix, SpellableSuffix text) → read? (mark ++ reading.text) = some reading) ∧
      ∀ s defaultBranch build core label fragment,
        Release.ofSnapshot s defaultBranch build = .ok (.development core label fragment) →
        (read? (Release.development core label fragment).text =
            some ⟨core, some (Release.behindCore label fragment)⟩ ↔
          ∀ hash ∈ build, '\n' ∉ hash.toList) := by
  refine ⟨fun _ _ => read?_eq_some_iff_spells, fun _ _ => read?_text, ?_⟩
  intro s defaultBranch build core label fragment h
  rw [Release.text_eq_reading_text, ← Release.spellable_behindCore_iff h]
  constructor
  · intro hread
    exact spellable_of_read? hread _ rfl
  · intro hsuffix
    rw [← String.empty_append (s := Reading.text _)]
    refine read?_text (.inl rfl) ?_
    rintro _ ⟨⟩
    exact hsuffix

/-- The largest number, leading zeros, a suffix that looks like a version, and a development version as the next tag. -/
theorem read_spelled_tags_candidate :
    read? "V18446744073709551615.0.0-1.0.0-rc.1" = some ⟨⟨18446744073709551615, 0, 0⟩, some "1.0.0-rc.1"⟩ ∧
      Spells "v007.1".toList ⟨⟨7, 1, 0⟩, none⟩ ∧
      (∀ reading, ¬ Spells "18446744073709551616".toList reading) ∧
      read? "1.2.1-rc.1.topic-a.3+0f" = some ⟨⟨1, 2, 1⟩, some "rc.1.topic-a.3+0f"⟩ := by
  obtain ⟨hspells, hback, hdevelopment⟩ := read_spelled_tags
  have hlargest := hback "V" ⟨⟨18446744073709551615, 0, 0⟩, some "1.0.0-rc.1"⟩ (.inr (.inr rfl)) (by
    rintro _ ⟨⟩
    exact ⟨by decide, by decide⟩)
  have hsnapshot : Release.ofSnapshot { tag := "v1.2-rc.1", commitsAfterTag := 3, branch := "topic/a" } none (some "0f") =
      .ok (.development ⟨1, 2, 1⟩ ⟨some "rc.1", some "topic-a", 3⟩ (some "0f")) :=
    Fallible.eq_ok_of_toOption (by decide +kernel)
  have hnext := (hdevelopment _ _ _ _ _ _ hsnapshot).2 (by
    rintro _ ⟨⟩
    decide)
  have hlarge : read? "18446744073709551616" = none := by decide +kernel
  exact ⟨hlargest, (hspells _ _).1 (by decide +kernel), read?_eq_none_iff.1 hlarge, hnext⟩

end Tag

end BuildVersion
