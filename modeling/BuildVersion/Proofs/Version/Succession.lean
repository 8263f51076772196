import BuildVersion.Proofs.Fallible
import BuildVersion.Proofs.SemVer.Reading
import BuildVersion.Proofs.Text.Pieces
import BuildVersion.Version.Reading

/-!
# The next patch release

The next patch release is the first version after a release, and versions can be written down and read again in between.
Main statement: `nextPatch_is_successor`, with the patch releases in a row that come of it.
-/

namespace BuildVersion.Version

open Text

variable {v w next next' : Version} {core text text' : String} {m n : Nat} {e : Error}

/-! ### The order of versions -/

lemma eq_iff : v = w ↔ v.major.toNat = w.major.toNat ∧ v.minor.toNat = w.minor.toNat ∧
    v.patch.toNat = w.patch.toNat := by
  rw [UInt64.toNat_inj, UInt64.toNat_inj, UInt64.toNat_inj]
  cases v
  cases w
  rw [Version.mk.injEq]

lemma le_iff : v ≤ w ↔ v < w ∨ v = w := by
  have hle : v ≤ w ↔ (Version.compare v w).isLE = true := Iff.rfl
  have hlt : v < w ↔ Version.compare v w = .lt := Iff.rfl
  have heq : v = w ↔ Version.compare v w = .eq := by
    simp only [Version.compare, Ordering.then_eq_eq, Nat.compare_eq_eq, eq_iff]
  rw [hle, hlt, heq]
  cases Version.compare v w <;> decide

/-! ### The next patch release -/

/-- The patch number can be raised unless it is the largest word. -/
lemma nextPatch_refused_iff : v.nextPatch = .error e ↔ v.patch.toNat = wordLimit - 1 ∧ e = .patchLimit v := by
  have hlt : v.patch.toNat < wordLimit := v.patch.toNat_lt
  unfold nextPatch
  split
  · next h => exact iff_of_false nofun fun hlimit => absurd hlimit.1 (by omega)
  · next h =>
    have hlimit : v.patch.toNat = wordLimit - 1 := by omega
    rw [Except.error.injEq, and_iff_right hlimit, eq_comm]

lemma nextPatch_eq_error_iff : (∃ e, v.nextPatch = .error e) ↔ v.patch.toNat = wordLimit - 1 := by
  simp only [nextPatch_refused_iff, exists_and_left, exists_eq, and_true]

lemma kind_of_nextPatch (h : v.nextPatch = .error e) : e.kind = .bounds := by
  rw [(nextPatch_refused_iff.1 h).2]
  rfl

/-- The next patch release differs in its patch number only. -/
lemma parts_of_nextPatch (h : v.nextPatch = .ok next) :
    next.major = v.major ∧ next.minor = v.minor ∧ next.patch.toNat = v.patch.toNat + 1 := by
  unfold nextPatch at h
  split at h
  · next hlt =>
    cases h
    have hpatch : (v.patch + 1).toNat = v.patch.toNat + 1 := by
      rw [UInt64.toNat_add]
      exact Nat.mod_eq_of_lt hlt
    exact ⟨rfl, rfl, hpatch⟩
  · cases h

/-- The next patch release comes after the release. -/
lemma lt_nextPatch (h : v.nextPatch = .ok next) : v < next := by
  obtain ⟨hmajor, hminor, hpatch⟩ := parts_of_nextPatch h
  rw [lt_iff, hmajor, hminor, hpatch]
  exact .inr ⟨rfl, .inr ⟨rfl, Nat.lt_succ_self _⟩⟩

/-- No version lies between a release and its next patch release. -/
lemma nextPatch_le (h : v.nextPatch = .ok next) (hlt : v < w) : next ≤ w := by
  obtain ⟨hmajor, hminor, hpatch⟩ := parts_of_nextPatch h
  rw [lt_iff] at hlt
  rw [le_iff, lt_iff, eq_iff, hmajor, hminor, hpatch]
  omega

lemma nextPatch_lt_nextPatch (hlt : v < w) (hv : v.nextPatch = .ok next) (hw : w.nextPatch = .ok next') :
    next < next' := by
  obtain hlt' | heq := le_iff.1 (nextPatch_le hv hlt)
  · exact Version.lt_trans hlt' (lt_nextPatch hw)
  · rw [heq]
    exact lt_nextPatch hw

/-! ### Patch releases in a row -/

/-- A version is read back from its text. -/
lemma read_text (v : Version) : read v.text = .ok v := by
  have hdot : ∀ n : Nat, '.' ∉ Nat.toDigits 10 n := fun n hmem => absurd (isDigit_of_mem_toDigits hmem) (by decide)
  have hcomponent : ∀ n : UInt64, readComponent v.text (Nat.toDigits 10 n.toNat) = .ok n := by
    intro n
    rw [readComponent, word?_toDigits]
  rw [read, SemVer.toList_core_text, split_append_cons, split_append_cons, split_eq_singleton (hdot _),
    split_eq_singleton (hdot _), split_eq_singleton (hdot _)]
  simp only [List.cons_append, List.nil_append, hcomponent]
  rfl

/-- The text of the next patch release after a release that was written down. -/
def nextText (core : String) : Except Error String := do
  return (← (← read core).nextPatch).text

/-- The text of the patch release that comes so many releases later, each of them made from the text of the one before. -/
def textAfter : Nat → String → Except Error String
  | 0, core => .ok core
  | n + 1, core => nextText core >>= textAfter n

lemma nextText_eq_ok_iff :
    nextText core = .ok text ↔ ∃ v next, read core = .ok v ∧ v.nextPatch = .ok next ∧ next.text = text := by
  simp only [nextText, Fallible.bind_eq_ok_iff]
  constructor
  · rintro ⟨v, hv, next, hnext, htext⟩
    exact ⟨v, next, hv, hnext, Except.ok.inj htext⟩
  · rintro ⟨v, next, hv, hnext, rfl⟩
    exact ⟨v, hv, next, hnext, rfl⟩

/-- So many releases later, the patch number is higher by as many. -/
lemma read_textAfter (hcore : read core = .ok v) (htext : textAfter n core = .ok text) :
    ∃ w, read text = .ok w ∧ w.major = v.major ∧ w.minor = v.minor ∧ w.patch.toNat = v.patch.toNat + n := by
  induction n generalizing core v with
  | zero =>
    cases htext
    exact ⟨v, hcore, rfl, rfl, rfl⟩
  | succ n ih =>
    obtain ⟨first, hfirst, hrest⟩ := Fallible.bind_eq_ok_iff.1 htext
    obtain ⟨v', next, hv', hnext, rfl⟩ := nextText_eq_ok_iff.1 hfirst
    cases hcore.symm.trans hv'
    obtain ⟨hmajor, hminor, hpatch⟩ := parts_of_nextPatch hnext
    obtain ⟨w, hw, hmajor', hminor', hpatch'⟩ := ih (read_text next) hrest
    exact ⟨w, hw, hmajor'.trans hmajor, hminor'.trans hminor, by omega⟩

/-- There are patch releases as long as the patch number is a word. -/
lemma exists_textAfter (hcore : read core = .ok v) (hlimit : v.patch.toNat + n < wordLimit) :
    ∃ text, textAfter n core = .ok text := by
  induction n generalizing core v with
  | zero => exact ⟨core, rfl⟩
  | succ n ih =>
    cases hnext : v.nextPatch with
    | error e =>
      have hlast := (nextPatch_refused_iff.1 hnext).1
      omega
    | ok next =>
      have hpatch := (parts_of_nextPatch hnext).2.2
      obtain ⟨text, htext⟩ := ih (read_text next) (by omega)
      exact ⟨text, Fallible.bind_eq_ok_iff.2 ⟨next.text, nextText_eq_ok_iff.2 ⟨v, next, hcore, hnext, rfl⟩, htext⟩⟩

/-- Each of the releases in a row is newer than all before it. -/
lemma lt_of_textAfter (hmn : m < n) (hm : textAfter m core = .ok text) (hn : textAfter n core = .ok text') :
    ∃ v w, read text = .ok v ∧ read text' = .ok w ∧ v < w := by
  obtain ⟨k, rfl⟩ := Nat.exists_eq_add_of_lt hmn
  obtain ⟨first, hfirst, _⟩ := Fallible.bind_eq_ok_iff.1 hn
  obtain ⟨u, _, hcore, _⟩ := nextText_eq_ok_iff.1 hfirst
  obtain ⟨v, hv, hmajor, hminor, hpatch⟩ := read_textAfter hcore hm
  obtain ⟨w, hw, hmajor', hminor', hpatch'⟩ := read_textAfter hcore hn
  refine ⟨v, w, hv, hw, lt_iff.2 (.inr ⟨?_, .inr ⟨?_, by omega⟩⟩)⟩
  · rw [hmajor, hmajor']
  · rw [hminor, hminor']

/-- The next patch release is the first of all versions that come after a release, and there is none only behind the
largest word. A later release has a later next patch release. As a version is read back from its text, patch releases
can be made one from the text of the other: each is newer than all before it, and the row goes on as long as its patch
number is a word. -/
theorem nextPatch_is_successor :
    (∀ (v : Version) (e : Error), v.nextPatch = .error e ↔ v.patch.toNat = 2 ^ 64 - 1 ∧ e = .patchLimit v) ∧
      (∀ v, (Error.patchLimit v).kind = .bounds) ∧
      (∀ v next : Version, v.nextPatch = .ok next → v < next ∧ ∀ w, v < w → next ≤ w) ∧
      (∀ v w next next' : Version, v < w → v.nextPatch = .ok next → w.nextPatch = .ok next' → next < next') ∧
      (∀ v : Version, read v.text = .ok v) ∧
      (∀ core v n, read core = .ok v →
        ((∃ text, textAfter n core = .ok text) ↔ v.patch.toNat + n < 2 ^ 64)) ∧
      ∀ core m n text text', m < n → textAfter m core = .ok text → textAfter n core = .ok text' →
        ∃ v w, read text = .ok v ∧ read text' = .ok w ∧ v < w := by
  refine ⟨fun _ _ => nextPatch_refused_iff, fun _ => rfl, ?_, ?_, read_text, ?_, ?_⟩
  · intro v next h
    exact ⟨lt_nextPatch h, fun w => nextPatch_le h⟩
  · intro v w next next' hlt hv hw
    exact nextPatch_lt_nextPatch hlt hv hw
  · intro core v n hcore
    constructor
    · rintro ⟨text, htext⟩
      obtain ⟨w, _, _, _, hpatch⟩ := read_textAfter hcore htext
      rw [← hpatch]
      exact w.patch.toNat_lt
    · exact exists_textAfter hcore
  · intro core m n text text' hmn hm hn
    exact lt_of_textAfter hmn hm hn

/-- The last patch release of a minor version, and two releases from a core that is not written in full. -/
theorem nextPatch_is_successor_last :
    let v : Version := ⟨1, 2, 18446744073709551614⟩
    let last : Version := ⟨1, 2, 18446744073709551615⟩
    let w : Version := ⟨1, 3, 0⟩
    v.nextPatch = .ok last ∧ v < last ∧ v < w ∧ last ≤ w ∧ last.nextPatch = .error (.patchLimit last) ∧
      w.nextPatch = .ok ⟨1, 3, 1⟩ ∧ last < ⟨1, 3, 1⟩ ∧
      read "1.2" = .ok ⟨1, 2, 0⟩ ∧ (∃ text, textAfter 18446744073709551615 "1.2" = .ok text) ∧
      textAfter 1 "1.2" = .ok "1.2.1" ∧ textAfter 10 "1.2" = .ok "1.2.10" ∧
      ∃ v w, read "1.2.1" = .ok v ∧ read "1.2.10" = .ok w ∧ v < w := by
  intro v last w
  obtain ⟨hlimit, _, hleast, hmono, _, hrow, hnewer⟩ := nextPatch_is_successor
  have hv : v.nextPatch = .ok last := rfl
  have hw : w.nextPatch = .ok ⟨1, 3, 1⟩ := rfl
  have hlt : v < w := by decide
  have hcore : read "1.2" = .ok ⟨1, 2, 0⟩ := Fallible.eq_ok_of_toOption (by decide +kernel)
  have hfirst : textAfter 1 "1.2" = .ok "1.2.1" := Fallible.eq_ok_of_toOption (by decide +kernel)
  have htenth : textAfter 10 "1.2" = .ok "1.2.10" := Fallible.eq_ok_of_toOption (by decide +kernel)
  exact ⟨hv, (hleast v last hv).1, hlt, (hleast v last hv).2 w hlt, (hlimit last _).2 ⟨rfl, rfl⟩, hw,
    hmono v w last ⟨1, 3, 1⟩ hlt hv hw, hcore, (hrow "1.2" _ _ hcore).2 (by decide), hfirst, htenth,
    hnewer "1.2" 1 10 _ _ (by decide) hfirst htenth⟩

end BuildVersion.Version
