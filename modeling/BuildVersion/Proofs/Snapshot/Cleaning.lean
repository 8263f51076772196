import BuildVersion.Proofs.Text.Control
import BuildVersion.Proofs.Text.Trimming
import BuildVersion.Snapshot
import Mathlib.Data.List.Forall2

/-!
# Cleaned snapshots

A snapshot is clean if its texts have no control characters and no blanks at their ends, and its commit hash has no
capitals. Main statement: a snapshot that has been normalized has no control characters and no capitals in its hash,
but blanks at the ends of its texts where control characters had stood before them; if it is normalized once more, it
is clean (`normalize_cleans`).
-/

namespace BuildVersion.Snapshot

open Text

/-- The texts of a snapshot. -/
def texts (s : Snapshot) : List String :=
  [s.vcs, s.commitHash, s.repositoryUrl, s.committerName, s.committerEmail, s.authorName, s.authorEmail,
    s.branch, s.tag]

/-- A snapshot without control characters. -/
def ControlFree (s : Snapshot) : Prop := ∀ text ∈ s.texts, Text.ControlFree text.toList

/-- A letter `A` to `Z`. -/
def IsCapital (c : Char) : Prop := 'A' ≤ c ∧ c ≤ 'Z'

/-- A snapshot whose texts and commit hash need no cleaning. -/
structure Clean (s : Snapshot) : Prop where
  controlFree : s.ControlFree
  trimmed : ∀ text ∈ s.texts, IsTrimmed text.toList
  no_capitals : ∀ c ∈ s.commitHash.toList, ¬ IsCapital c

/-- In a text, a blank that is no control character comes before all other characters that are none. -/
def HidesBlank (cs : List Char) : Prop :=
  ∃ controls blank rest, cs = controls ++ blank :: rest ∧ (∀ c ∈ controls, isControl c = true) ∧
    isBlank blank = true ∧ isControl blank = false

/-- The commit hash as it is cleaned. -/
def cleanHash (text : String) : String := String.ofList ((cleanText text).toList.map lowerAscii)

variable {text : String} {cs : List Char} {s : Snapshot}

/-! ### Texts -/

lemma toList_cleanText (text : String) :
    (cleanText text).toList = (trim text.toList).filter fun c => !isControl c := String.toList_ofList

@[simp]
lemma controlFree_cleanText (text : String) : Text.ControlFree (cleanText text).toList := by
  rw [cleanText, String.toList_ofList]
  intro c hc
  simpa using (List.mem_filter.1 hc).2

/-- Cleaning only takes characters away. -/
lemma cleanText_sublist (text : String) : (cleanText text).toList.Sublist (trim text.toList) := by
  rw [toList_cleanText]
  exact List.filter_sublist

/-- What is as long as it was before it was cleaned has been clean. -/
lemma clean_of_length_le (h : text.toList.length ≤ (cleanText text).toList.length) :
    (cleanText text).toList = text.toList ∧ Text.ControlFree text.toList ∧ IsTrimmed text.toList := by
  have hclean := cleanText_sublist text
  have htrim := trim_sublist text.toList
  have hsame : (cleanText text).toList = text.toList := (hclean.trans htrim).eq_of_length_le h
  refine ⟨hsame, hsame ▸ controlFree_cleanText text, ?_⟩
  exact trim_eq_self_iff.1 (htrim.eq_of_length_le (h.trans hclean.length_le))

/-- A clean text is left as it is. -/
lemma cleanText_eq_self (hcontrol : Text.ControlFree text.toList) (htrim : IsTrimmed text.toList) :
    cleanText text = text := by
  have hkept : text.toList.filter (fun c => !isControl c) = text.toList := by
    apply List.filter_eq_self.2
    intro c hc
    rw [hcontrol c hc]
    rfl
  rw [cleanText, htrim.trim_eq, hkept, String.ofList_toList]

/-- The first character that is left is the first one that is no control character. -/
lemma startsBlank_filter_iff : StartsBlank (cs.filter fun c => !isControl c) ↔ HidesBlank cs := by
  rw [StartsBlank, List.head?_filter]
  constructor
  · intro h
    obtain ⟨blank, hfind, hblank⟩ := h
    obtain ⟨hnot, controls, rest, hcs, hcontrols⟩ := List.find?_eq_some_iff_append.1 hfind
    refine ⟨controls, blank, rest, hcs, ?_, hblank, by simpa using hnot⟩
    intro c hc
    simpa using hcontrols c hc
  · intro h
    obtain ⟨controls, blank, rest, hcs, hcontrols, hblank, hnot⟩ := h
    refine ⟨blank, List.find?_eq_some_iff_append.2 ⟨by simpa using hnot, controls, rest, hcs, ?_⟩, hblank⟩
    intro c hc
    simpa using hcontrols c hc

/-- Blanks are left at the ends where they have stood behind control characters. -/
lemma startsBlank_cleanText_iff :
    (StartsBlank (cleanText text).toList ↔ HidesBlank (trim text.toList)) ∧
      (StartsBlank (cleanText text).toList.reverse ↔ HidesBlank (trim text.toList).reverse) := by
  rw [toList_cleanText, ← List.filter_reverse]
  exact ⟨startsBlank_filter_iff, startsBlank_filter_iff⟩

/-- Without control characters, trimming is enough. -/
lemma not_hidesBlank_trim (h : Text.ControlFree cs) : ¬ HidesBlank (trim cs) := by
  intro hhides
  obtain ⟨controls, blank, rest, hcs, hcontrols, hblank, -⟩ := hhides
  have hcontrol : Text.ControlFree (trim cs) := h.mono (trim_sublist cs).subset
  have hfront := (isTrimmed_trim cs).front
  rw [hcs] at hcontrol hfront
  cases controls with
  | nil => exact absurd (hfront blank rfl) (by rw [hblank]; exact nofun)
  | cons c controls =>
    have hc := hcontrols c List.mem_cons_self
    rw [hcontrol c List.mem_cons_self] at hc
    cases hc

/-! ### The commit hash -/

lemma toList_cleanHash (text : String) : (cleanHash text).toList = (cleanText text).toList.map lowerAscii :=
  String.toList_ofList

lemma toNat_lowerAscii {c : Char} (h : IsCapital c) :
    0x41 ≤ c.toNat ∧ c.toNat ≤ 0x5A ∧ (lowerAscii c).toNat = c.toNat + 32 := by
  have hfirst : 0x41 ≤ c.toNat := h.1
  have hlast : c.toNat ≤ 0x5A := h.2
  have hvalid : (c.toNat + 32).isValidChar := .inl (by omega)
  refine ⟨hfirst, hlast, ?_⟩
  rw [IsCapital] at h
  rw [lowerAscii, if_pos h, Char.ofNat, dif_pos hvalid]
  rfl

lemma lowerAscii_of_not_isCapital {c : Char} (h : ¬ IsCapital c) : lowerAscii c = c := if_neg h

lemma isBlank_lowerAscii (c : Char) : isBlank (lowerAscii c) = isBlank c := by
  by_cases h : IsCapital c
  · obtain ⟨hfirst, hlast, hlower⟩ := toNat_lowerAscii h
    rw [not_isBlank_of_toNat (by omega), not_isBlank_of_toNat (by omega)]
  · rw [lowerAscii_of_not_isCapital h]

lemma not_isCapital_lowerAscii (c : Char) : ¬ IsCapital (lowerAscii c) := by
  by_cases h : IsCapital c
  · obtain ⟨hfirst, _, hlower⟩ := toNat_lowerAscii h
    intro hcapital
    have hbounds := toNat_lowerAscii hcapital
    omega
  · rwa [lowerAscii_of_not_isCapital h]

lemma startsBlank_map_lowerAscii_iff : StartsBlank (cs.map lowerAscii) ↔ StartsBlank cs := by
  cases cs with
  | nil => exact Iff.rfl
  | cons c cs => simp [StartsBlank, isBlank_lowerAscii]

lemma controlFree_cleanHash (text : String) : Text.ControlFree (cleanHash text).toList := by
  rw [toList_cleanHash]
  exact (controlFree_cleanText text).map_lowerAscii

lemma startsBlank_cleanHash_iff :
    (StartsBlank (cleanHash text).toList ↔ HidesBlank (trim text.toList)) ∧
      (StartsBlank (cleanHash text).toList.reverse ↔ HidesBlank (trim text.toList).reverse) := by
  rw [toList_cleanHash, ← List.map_reverse, startsBlank_map_lowerAscii_iff, startsBlank_map_lowerAscii_iff]
  exact startsBlank_cleanText_iff

/-- A hash that is left as it is has been clean. -/
lemma clean_of_cleanHash_eq_self (h : cleanHash text = text) :
    Text.ControlFree text.toList ∧ IsTrimmed text.toList := by
  have hlength : text.toList.length ≤ (cleanText text).toList.length := by
    rw [← h, toList_cleanHash, List.length_map, h]
  exact (clean_of_length_le hlength).2

lemma not_isCapital_of_mem_cleanHash {c : Char} (h : c ∈ (cleanHash text).toList) : ¬ IsCapital c := by
  rw [toList_cleanHash] at h
  obtain ⟨d, _, rfl⟩ := List.mem_map.1 h
  exact not_isCapital_lowerAscii d

lemma cleanHash_eq_self (hcontrol : Text.ControlFree text.toList) (htrim : IsTrimmed text.toList)
    (hsmall : ∀ c ∈ text.toList, ¬ IsCapital c) : cleanHash text = text := by
  have hkept : text.toList.map lowerAscii = text.toList := by
    rw [List.map_congr_left fun c hc => lowerAscii_of_not_isCapital (hsmall c hc), List.map_id']
  rw [cleanHash, cleanText_eq_self hcontrol htrim, hkept, String.ofList_toList]

/-! ### Snapshots -/

/-- Each text is cleaned on its own, and the hash put in small letters. -/
lemma forall₂_texts_normalize {P : String → String → Prop} (htext : ∀ text, P text (cleanText text))
    (hhash : P s.commitHash (cleanHash s.commitHash)) : List.Forall₂ P s.texts s.normalize.texts :=
  .cons (htext _) (.cons hhash (.cons (htext _) (.cons (htext _) (.cons (htext _) (.cons (htext _)
    (.cons (htext _) (.cons (htext _) (.cons (htext _) .nil))))))))

lemma forall_mem_iff_of_forall₂ {α β : Type} {p : α → Prop} {q : β → Prop} {as : List α} {bs : List β}
    (h : List.Forall₂ (fun a b => p a ↔ q b) as bs) : (∀ a ∈ as, p a) ↔ ∀ b ∈ bs, q b := by
  induction h with
  | nil => exact iff_of_true nofun nofun
  | cons hab _ ih => rw [List.forall_mem_cons, List.forall_mem_cons, hab, ih]

lemma controlFree_normalize (s : Snapshot) : s.normalize.ControlFree := by
  have hall : List.Forall₂ (fun _ cleaned => True ↔ Text.ControlFree cleaned.toList) s.texts
      s.normalize.texts :=
    forall₂_texts_normalize (fun text => iff_of_true trivial (controlFree_cleanText text))
      (iff_of_true trivial (controlFree_cleanHash s.commitHash))
  exact (forall_mem_iff_of_forall₂ hall).1 fun _ _ => trivial

lemma startsBlank_normalize (s : Snapshot) :
    List.Forall₂
      (fun text cleaned =>
        (StartsBlank cleaned.toList ↔ HidesBlank (trim text.toList)) ∧
          (StartsBlank cleaned.toList.reverse ↔ HidesBlank (trim text.toList).reverse))
      s.texts s.normalize.texts :=
  forall₂_texts_normalize (fun _ => startsBlank_cleanText_iff) startsBlank_cleanHash_iff

/-- A snapshot is clean after it has been normalized if its texts have hidden no blanks. -/
lemma clean_normalize_iff :
    s.normalize.Clean ↔
      ∀ text ∈ s.texts, ¬ HidesBlank (trim text.toList) ∧ ¬ HidesBlank (trim text.toList).reverse := by
  have hall : List.Forall₂
      (fun text cleaned =>
        (¬ HidesBlank (trim text.toList) ∧ ¬ HidesBlank (trim text.toList).reverse) ↔ IsTrimmed cleaned.toList)
      s.texts s.normalize.texts := by
    apply (startsBlank_normalize s).imp
    intro text cleaned h
    rw [isTrimmed_iff, h.1, h.2]
  rw [forall_mem_iff_of_forall₂ hall]
  constructor
  · intro h
    exact h.trimmed
  · intro h
    exact ⟨controlFree_normalize s, h, fun c hc => not_isCapital_of_mem_cleanHash hc⟩

/-- A snapshot has no more than its texts to be cleaned. -/
lemma normalize_eq_self_of_texts (h : s.texts = s.normalize.texts) : s.normalize = s := by
  cases s
  simp only [texts, normalize, List.cons.injEq] at h
  simp only [normalize, Snapshot.mk.injEq]
  grind

/-- The clean snapshots, and no others, are left as they are. -/
lemma normalize_eq_self_iff : s.normalize = s ↔ s.Clean := by
  constructor
  · intro h
    have hall : List.Forall₂
        (fun text cleaned => cleaned = text → Text.ControlFree text.toList ∧ IsTrimmed text.toList)
        s.texts s.normalize.texts := by
      refine forall₂_texts_normalize (fun text hsame => ?_) clean_of_cleanHash_eq_self
      exact (clean_of_length_le (by rw [hsame])).2
    rw [h, List.forall₂_same] at hall
    refine ⟨fun text htext => (hall text htext rfl).1, fun text htext => (hall text htext rfl).2, ?_⟩
    intro c hc
    rw [← h] at hc
    exact not_isCapital_of_mem_cleanHash hc
  · intro h
    have hall : List.Forall₂
        (fun text cleaned => Text.ControlFree text.toList → IsTrimmed text.toList → text = cleaned)
        s.texts s.normalize.texts :=
      forall₂_texts_normalize (fun text hcontrol htrim => (cleanText_eq_self hcontrol htrim).symm)
        fun hcontrol htrim => (cleanHash_eq_self hcontrol htrim h.no_capitals).symm
    have hclean : ∀ text ∈ s.texts, Text.ControlFree text.toList ∧ IsTrimmed text.toList :=
      fun text htext => ⟨h.controlFree text htext, h.trimmed text htext⟩
    apply normalize_eq_self_of_texts
    rw [← List.forall₂_eq_eq_eq]
    exact ((List.forall₂_and_left _ _).2 ⟨hclean, hall⟩).imp fun text cleaned hsame =>
      hsame.2 hsame.1.1 hsame.1.2

/-- A snapshot that has been normalized has no control characters in its texts and no capitals in its commit hash, and
all other facts are as they were. A blank is left at an end of a text where control characters, but no others, have
stood between it and that end of the trimmed text. Only where there is none, normalizing once more changes nothing;
but it makes any snapshot clean, and the clean ones are those that are left as they are. -/
theorem normalize_cleans (s : Snapshot) :
    let n := s.normalize
    (n.ControlFree ∧ (∀ c ∈ n.commitHash.toList, ¬ IsCapital c) ∧
      n.revision = s.revision ∧ n.commitTime = s.commitTime ∧ n.authorTime = s.authorTime ∧
      n.isModified = s.isModified ∧ n.isMixed = s.isMixed ∧ n.commitsAfterTag = s.commitsAfterTag) ∧
    List.Forall₂
      (fun text cleaned =>
        (StartsBlank cleaned.toList ↔ HidesBlank (trim text.toList)) ∧
          (StartsBlank cleaned.toList.reverse ↔ HidesBlank (trim text.toList).reverse))
      s.texts n.texts ∧
    (n.normalize = n ↔
      ∀ text ∈ s.texts, ¬ HidesBlank (trim text.toList) ∧ ¬ HidesBlank (trim text.toList).reverse) ∧
    n.normalize.Clean ∧ (n = s ↔ s.Clean) := by
  intro n
  refine ⟨⟨controlFree_normalize s, fun c hc => not_isCapital_of_mem_cleanHash hc, rfl, rfl, rfl, rfl, rfl, rfl⟩,
    startsBlank_normalize s, ?_, ?_, normalize_eq_self_iff⟩
  · rw [normalize_eq_self_iff, clean_normalize_iff]
  · rw [clean_normalize_iff]
    intro text htext
    have hcontrol : Text.ControlFree text.toList := controlFree_normalize s text htext
    refine ⟨not_hidesBlank_trim hcontrol, ?_⟩
    rw [← trim_reverse]
    exact not_hidesBlank_trim fun c hc => hcontrol c (List.mem_reverse.1 hc)

/-- A blank behind a control character at the front of the branch, and one before a control character at the end of
the hash. -/
theorem normalize_cleans_hidden :
    let s : Snapshot := { branch := "\x01 main\n", commitHash := "AbC \x1b\t", revision := 7 }
    ('c' ∈ s.normalize.commitHash.toList ∧ ¬ IsCapital 'c') ∧
      s.normalize.branch = " main" ∧ s.normalize.commitHash = "abc " ∧ s.normalize.revision = 7 ∧
      s.normalize.normalize ≠ s.normalize ∧ s.normalize.normalize.Clean ∧
      s.normalize.normalize.branch = "main" ∧ s.normalize.normalize.commitHash = "abc" := by
  intro s
  obtain ⟨⟨_, hsmall, hrevision, _⟩, _, hsame, hclean, _⟩ := normalize_cleans s
  have hmem : 'c' ∈ s.normalize.commitHash.toList := by decide +kernel
  have hhides : HidesBlank (trim s.branch.toList) :=
    ⟨['\x01'], ' ', "main".toList, by decide +kernel, List.all_eq_true.1 (by decide), by decide, by decide⟩
  refine ⟨⟨hmem, hsmall 'c' hmem⟩, by decide +kernel, by decide +kernel, hrevision, ?_, hclean, by decide +kernel,
    by decide +kernel⟩
  intro h
  exact (hsame.1 h s.branch (by simp [texts])).1 hhides

/-- A snapshot that has been normalized need not be clean, and normalizing it again can change it. -/
theorem normalize_leaves_hidden_blank :
    let s : Snapshot := { branch := "\x01 x" }
    s.normalize.branch = " x" ∧ StartsBlank s.normalize.branch.toList ∧ ¬ s.normalize.Clean ∧
      s.normalize.normalize.branch = "x" ∧ s.normalize.normalize ≠ s.normalize := by
  intro s
  have hbranch : s.normalize.branch = " x" := by decide +kernel
  have hblank : StartsBlank s.normalize.branch.toList := by
    rw [hbranch]
    exact ⟨' ', rfl, rfl⟩
  have hclean : ¬ s.normalize.Clean := by
    intro h
    exact (isTrimmed_iff.1 (h.trimmed s.normalize.branch (by simp [texts]))).1 hblank
  exact ⟨hbranch, hblank, hclean, by decide +kernel, fun h => hclean (normalize_eq_self_iff.1 h)⟩

end BuildVersion.Snapshot
