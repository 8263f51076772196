import BuildVersion.Proofs.Release.Label
import BuildVersion.Proofs.SemVer.Grammar
import BuildVersion.Proofs.Version.Succession
import BuildVersion.SemVer.Precedence

/-!
# The place of development versions

A development version lies between the version of its tag and the next release. The core decides the
first comparison, the pre-release that the label always opens decides the second, so that neither
depends on what stands in the label. Main statement: `development_between`.
-/

namespace BuildVersion

open Text

/-- A tag as a semantic version is written: all three numbers, and the suffix after a hyphen. -/
def Tag.Reading.text (tag : Tag.Reading) : String :=
  tag.core.text ++
    match tag.suffix with
    | some suffix => "-" ++ suffix
    | none => ""

namespace Release

variable {s : Snapshot} {tag : Tag.Reading} {defaultBranch build : Option String}

/-- After its tag, a snapshot has the development version of the next patch release. -/
lemma ofSnapshot_of_read? (hafter : 0 < s.commitsAfterTag) (htag : Tag.read? s.tag = some tag) :
    ofSnapshot s defaultBranch build =
      tag.core.nextPatch.map fun next =>
        .development next
          ⟨tag.suffix, (Branch.of s.branch defaultBranch).identifier?, s.commitsAfterTag⟩
          (build.filter (· != "")) := by
  rw [ofSnapshot_of_not_isTagged (isTagged_of_pos hafter), basis_of_read? htag]

/-- The version of a tag has the core of the tag. -/
lemma core_of_read_tag {v : SemVer} (h : SemVer.read tag.text = .ok v) : v.core = tag.core := by
  rw [Tag.Reading.text] at h
  split at h
  · next suffix _ =>
    have hhyphen : "-" ++ suffix = String.ofList ('-' :: suffix.toList) := by simp
    rw [hhyphen] at h
    exact (SemVer.parts_of_read_hyphen h).1
  · have hends : EndsDigits "".toList := endsDigits_nil
    rw [SemVer.read_core_append tag.core hends] at h
    obtain ⟨_, _, _, hcore, _⟩ := SemVer.readMarks_eq_ok_iff.1 h
    exact hcore

/-- After a tag that names a version, a snapshot has a version unless the patch number of the tag is the
largest word. Where it and the tag are semantic versions, it comes after the tag and before the next
patch release. -/
theorem development_between (defaultBranch build : Option String)
    (hafter : 0 < s.commitsAfterTag) (htag : Tag.read? s.tag = some tag) :
    ((∃ e, ofSnapshot s defaultBranch build = .error e) ↔ tag.core.patch.toNat = 2 ^ 64 - 1) ∧
    (∀ e, ofSnapshot s defaultBranch build = .error e → e.kind = .bounds) ∧
    ∀ release, ofSnapshot s defaultBranch build = .ok release →
      ∃ next, tag.core.nextPatch = .ok next ∧
        ∀ v t, SemVer.read release.text = .ok v → SemVer.read tag.text = .ok t →
          t.Precedes v ∧ v.Precedes { core := next } := by
  rw [ofSnapshot_of_read? hafter htag]
  refine ⟨?_, ?_, ?_⟩
  · rw [show 2 ^ 64 - 1 = wordLimit - 1 from rfl, ← Version.nextPatch_eq_error_iff]
    cases tag.core.nextPatch <;> simp [Except.map]
  · intro e he
    cases hnext : tag.core.nextPatch with
    | error e' =>
      rw [hnext] at he
      cases he
      exact Version.kind_of_nextPatch hnext
    | ok next =>
      rw [hnext] at he
      cases he
  · intro release hrelease
    obtain ⟨next, hnext, rfl⟩ := Fallible.map_eq_ok_iff.1 hrelease
    refine ⟨next, hnext, fun v t hv ht => ?_⟩
    rw [development_text] at hv
    obtain ⟨hcore, hdotted, _⟩ := SemVer.parts_of_read_hyphen hv
    -- Against the tag the core decides, against the release that the pre-release is not empty.
    constructor
    · left
      rw [core_of_read_tag ht, hcore]
      exact Version.lt_nextPatch hnext
    · right
      exact ⟨hcore, SemVer.ne_empty_of_isDotted hdotted, .inl rfl⟩

/-- A tag of two numbers with a suffix, on a branch with a separator in its name. -/
theorem development_between_candidate :
    let s : Snapshot := { tag := "v1.2-rc.1", commitsAfterTag := 3, branch := "topic/a" }
    let tag : Tag.Reading := ⟨⟨1, 2, 0⟩, some "rc.1"⟩
    let release : Release := .development ⟨1, 2, 1⟩ ⟨some "rc.1", some "topic-a", 3⟩ (some "abcdef1")
    let t : SemVer := ⟨⟨1, 2, 0⟩, "rc.1", ""⟩
    let v : SemVer := ⟨⟨1, 2, 1⟩, "rc.1.topic-a.3", "abcdef1"⟩
    0 < s.commitsAfterTag ∧ Tag.read? s.tag = some tag ∧
      ofSnapshot s none (some "abcdef1") = .ok release ∧ SemVer.read release.text = .ok v ∧
      SemVer.read tag.text = .ok t ∧ t.Precedes v ∧ v.Precedes { core := ⟨1, 2, 1⟩ } := by
  intro s tag release t v
  have hafter : 0 < s.commitsAfterTag := by decide
  have htag : Tag.read? s.tag = some tag := by decide +kernel
  have hrelease : ofSnapshot s none (some "abcdef1") = .ok release :=
    Fallible.eq_ok_of_toOption (by decide +kernel)
  have hv : SemVer.read release.text = .ok v := Fallible.eq_ok_of_toOption (by decide +kernel)
  have ht : SemVer.read tag.text = .ok t := Fallible.eq_ok_of_toOption (by decide +kernel)
  obtain ⟨next, hnext, hbetween⟩ :=
    (development_between none (some "abcdef1") hafter htag).2.2 release hrelease
  have hcore : tag.core.nextPatch = .ok ⟨1, 2, 1⟩ := Fallible.eq_ok_of_toOption (by decide +kernel)
  rw [hcore] at hnext
  cases hnext
  exact ⟨hafter, htag, hrelease, hv, ht, hbetween v t hv ht⟩

end Release

end BuildVersion
