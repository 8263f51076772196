import BuildVersion.Proofs.Release.Label
import BuildVersion.Proofs.SemVer.Comparison
import BuildVersion.Proofs.SemVer.Grammar

/-!
# The order of development versions

How the versions of one snapshot at two counts compare. The count is an identifier of its own, and decides
by its value, unless the suffix of the tag takes it up: after a hyphen its digits are compared as text, and
behind a plus sign of the suffix it is build metadata and decides nothing. Main statement:
`precedes_iff_counts`.
-/

namespace BuildVersion

open Text

/-- The pre-release of a development version is its label up to the first plus sign. -/
lemma Release.pre_of_read {core : Version} {label : Label} {build : Option String} {v : SemVer}
    (h : SemVer.read (development core label build).text = .ok v) :
    v.core = core ∧ v.pre ≠ "" ∧ v.pre.toList = label.text.toList.takeWhile (· != '+') := by
  rw [development_text] at h
  obtain ⟨hcore, hdotted, hmarks⟩ := SemVer.parts_of_read_hyphen h
  -- Both sides are cut before the build metadata.
  have hplus : ∀ c ∈ v.pre.toList, (c != '+') = true := by
    intro c hc
    exact bne_iff_ne.2 fun e => absurd (e ▸ SemVer.chars_of_isDotted hdotted c hc) (by decide)
  have hbuild : ∀ c ∈ (SemVer.marked '+' v.build).head?, (c != '+') = false := by
    intro c hc
    rw [SemVer.head?_marked hc]
    rfl
  have hmetadata : ∀ c ∈ (metadata build).head?, (c != '+') = false := by
    intro c hc
    cases build with
    | none => cases hc
    | some fragment =>
      cases hc
      rfl
  have hcut := congrArg (List.takeWhile (· != '+')) hmarks
  rw [takeWhile_append_of_head? hmetadata, takeWhile_run_append hplus hbuild] at hcut
  exact ⟨hcore, SemVer.ne_empty_of_isDotted hdotted, hcut.symm⟩

namespace Label

variable {suffix branch : Option String}

lemma plus_notMem_text {l : Label} (hsuffix : ∀ suffix ∈ l.suffix, '+' ∉ suffix.toList)
    (hbranch : ∀ branch ∈ l.branch, '+' ∉ branch.toList) : '+' ∉ l.text.toList := by
  have hcount : '+' ∉ Nat.toDigits 10 l.count.toNat := fun h =>
    absurd (isDigit_of_mem_toDigits h) (by decide)
  have hlead : ∀ mark, mark ≠ '+' → '+' ∉ lead mark l.suffix := by
    intro mark hmark
    cases hs : l.suffix with
    | none => exact List.not_mem_nil
    | some suffix => simp [lead, hsuffix suffix hs, hmark.symm]
  rw [toList_text, opening]
  split
  · next branch hb => simp [hlead '.' (by decide), hbranch branch hb, hcount]
  · simp [hlead '-' (by decide), hcount]

/-- A plus sign in the suffix ends the pre-release before the count. -/
lemma takeWhile_text_of_plus {ending : String} (hplus : '+' ∈ ending.toList) (count : UInt64) :
    (Label.mk (some ending) branch count).text.toList.takeWhile (· != '+') =
      ending.toList.takeWhile (· != '+') := by
  cases branch with
  | some name =>
    rw [toList_text_of_branch, lead, List.append_assoc, List.append_assoc]
    exact takeWhile_append_of_mem hplus rfl
  | none =>
    rw [toList_text_of_suffix]
    exact takeWhile_append_of_mem hplus rfl

/-- How two labels compare that differ in their counts. A suffix takes up the count where no branch stands
between them, and the digits are compared in place of the values. -/
lemma lex_text_iff {n m : UInt64} (hlt : n < m) :
    List.Lex SemVer.Identifier.Lower (SemVer.identifiersOf (Label.mk suffix branch n).text.toList)
        (SemVer.identifiersOf (Label.mk suffix branch m).text.toList) ↔
      ∀ ending ∈ suffix, branch = none → (toString n.toNat).toList < (toString m.toNat).toList := by
  have hvalue : n.toNat < m.toNat := UInt64.lt_iff_toNat_lt.1 hlt
  cases branch with
  | some name =>
    rw [toList_text_of_branch, toList_text_of_branch, SemVer.lex_dot_number_iff]
    exact iff_of_true hvalue fun _ _ => nofun
  | none =>
    cases suffix with
    | some ending =>
      rw [toList_text_of_suffix, toList_text_of_suffix, SemVer.lex_hyphen_number_iff, toList_toString,
        toList_toString]
      exact ⟨fun h _ _ _ => h, fun h => h ending rfl rfl⟩
    | none =>
      rw [toList_text_of_count, toList_text_of_count, SemVer.lex_number_iff]
      exact iff_of_true hvalue nofun

/-- How the pre-releases of two labels compare that differ in their counts. -/
lemma lex_pre_iff {n m : UInt64} (hlt : n < m) (hbranch : ∀ name ∈ branch, '+' ∉ name.toList) :
    List.Lex SemVer.Identifier.Lower
        (SemVer.identifiersOf ((Label.mk suffix branch n).text.toList.takeWhile (· != '+')))
        (SemVer.identifiersOf ((Label.mk suffix branch m).text.toList.takeWhile (· != '+'))) ↔
      ∀ ending ∈ suffix, '+' ∉ ending.toList ∧
        (branch = none → (toString n.toNat).toList < (toString m.toNat).toList) := by
  by_cases hplus : ∃ ending ∈ suffix, '+' ∈ ending.toList
  · obtain ⟨ending, rfl, hplus⟩ := hplus
    rw [takeWhile_text_of_plus hplus, takeWhile_text_of_plus hplus]
    exact iff_of_false (SemVer.lex_lower_irrefl _) fun h => (h ending rfl).1 hplus
  · have hsuffix : ∀ ending ∈ suffix, '+' ∉ ending.toList := fun ending hending hmem =>
      hplus ⟨ending, hending, hmem⟩
    have hwhole : ∀ count, (Label.mk suffix branch count).text.toList.takeWhile (· != '+') =
        (Label.mk suffix branch count).text.toList := by
      intro count
      rw [List.takeWhile_eq_self_iff]
      intro c hc
      exact bne_iff_ne.2 fun e => plus_notMem_text hsuffix hbranch (e ▸ hc)
    rw [hwhole, hwhole, lex_text_iff hlt]
    exact forall₂_congr fun ending hending => (and_iff_right (hsuffix ending hending)).symm

end Label

namespace Release

/-- The semantic version of a snapshot, where it has a version whose text is one. -/
def semVer? (s : Snapshot) (defaultBranch build : Option String) : Option SemVer :=
  match ofSnapshot s defaultBranch build with
  | .ok release => (SemVer.read release.text).toOption
  | .error _ => none

variable {s : Snapshot} {defaultBranch build : Option String} {v w : SemVer}

/-- The semantic version of a snapshot that is not tagged. -/
lemma parts_of_semVer? (h : semVer? s defaultBranch build = some v) (htagged : s.isTagged = false) :
    (basis s).1.nextPatch = .ok v.core ∧ v.pre ≠ "" ∧
      v.pre.toList =
        (Label.mk (basis s).2.1 (Branch.of s.branch defaultBranch).identifier?
          (basis s).2.2).text.toList.takeWhile (· != '+') := by
  rw [semVer?, ofSnapshot_of_not_isTagged htagged] at h
  cases hcore : (basis s).1.nextPatch with
  | error e =>
    rw [hcore] at h
    cases h
  | ok core =>
    rw [hcore] at h
    obtain ⟨rfl, hne, hpre⟩ := pre_of_read (Fallible.eq_ok_of_toOption h)
    exact ⟨rfl, hne, hpre⟩

/-- How the versions of two snapshots compare that differ in their counts. -/
lemma precedes_iff_of_basis {s' : Snapshot} {core : Version} {suffix : Option String} {n m : UInt64}
    (hv : semVer? s defaultBranch build = some v) (hw : semVer? s' defaultBranch build = some w)
    (htagged : s.isTagged = false) (htagged' : s'.isTagged = false) (hbasis : basis s = (core, suffix, n))
    (hbasis' : basis s' = (core, suffix, m)) (hbranch : s'.branch = s.branch) (hlt : n < m) :
    v.Precedes w ↔
      ∀ ending ∈ suffix, '+' ∉ ending.toList ∧
        ((Branch.of s.branch defaultBranch).identifier? = none →
          (toString n.toNat).toList < (toString m.toNat).toList) := by
  obtain ⟨hcore, hne, hpre⟩ := parts_of_semVer? hv htagged
  obtain ⟨hcore', hne', hpre'⟩ := parts_of_semVer? hw htagged'
  rw [hbasis] at hcore hpre
  rw [hbasis'] at hcore' hpre'
  rw [hcore, Except.ok.injEq] at hcore'
  rw [SemVer.precedes_iff_lex hcore' hne hne', hpre, hpre', hbranch]
  apply Label.lex_pre_iff hlt
  intro name hname hplus
  exact absurd (Branch.isIdentifierChar_of_identifier? hname '+' hplus) (by decide)

/-- Of two counts after a tag, the version of the lower one is lower, unless the suffix of the tag has a plus
sign, or takes up the counts and puts the digits of the lower one behind those of the other. Without a tag,
the version of the lower revision number is always lower. -/
theorem precedes_iff_counts (s : Snapshot) (defaultBranch build : Option String) {n m : UInt64} (hlt : n < m)
    (v w : SemVer) :
    (∀ tag, Tag.read? s.tag = some tag → 1 ≤ n →
      semVer? { s with commitsAfterTag := n } defaultBranch build = some v →
      semVer? { s with commitsAfterTag := m } defaultBranch build = some w →
        (v.Precedes w ↔ ∀ suffix ∈ tag.suffix, '+' ∉ suffix.toList ∧
          ((Branch.of s.branch defaultBranch).identifier? = none →
            (toString n.toNat).toList < (toString m.toNat).toList)) ∧
        ((∀ suffix ∈ tag.suffix, '+' ∉ suffix.toList) →
          (toString n.toNat).length = (toString m.toNat).length → v.Precedes w)) ∧
    (s.tag = "" → semVer? { s with revision := n } defaultBranch build = some v →
      semVer? { s with revision := m } defaultBranch build = some w → v.Precedes w) := by
  refine ⟨fun tag htag hpos hv hw => ?_, fun htag hv hw => ?_⟩
  · have hn : 0 < n := UInt64.lt_of_lt_of_le (by decide) hpos
    have hiff := precedes_iff_of_basis hv hw (isTagged_of_pos hn) (isTagged_of_pos (UInt64.lt_trans hn hlt))
      (basis_of_read? htag) (basis_of_read? htag) rfl hlt
    refine ⟨hiff, fun hplus hlength => hiff.2 fun suffix hsuffix => ⟨hplus suffix hsuffix, fun _ => ?_⟩⟩
    rw [← String.length_toList, ← String.length_toList, toList_toString, toList_toString] at hlength
    rw [toList_toString, toList_toString]
    exact toDigits_lt (UInt64.lt_iff_toNat_lt.1 hlt) hlength
  · exact (precedes_iff_of_basis hv hw (by simp [Snapshot.isTagged, htag]) (by simp [Snapshot.isTagged, htag])
      (basis_of_no_tag htag) (basis_of_no_tag htag) rfl hlt).2 nofun

/-- Two counts of two digits after a tag with a suffix, on a default branch, and two revision numbers without
a tag, on another branch. -/
theorem precedes_iff_counts_candidate :
    let s : Snapshot := { tag := "v1.2-rc.1", branch := "main" }
    let v : SemVer := ⟨⟨1, 2, 1⟩, "rc.1-12", ""⟩
    let w : SemVer := ⟨⟨1, 2, 1⟩, "rc.1-34", ""⟩
    let s' : Snapshot := { branch := "topic/a" }
    let v' : SemVer := ⟨⟨0, 0, 1⟩, "topic-a.9", "0abc"⟩
    let w' : SemVer := ⟨⟨0, 0, 1⟩, "topic-a.10", "0abc"⟩
    ((12 : UInt64) < 34 ∧ Tag.read? s.tag = some ⟨⟨1, 2, 0⟩, some "rc.1"⟩ ∧
      semVer? { s with commitsAfterTag := 12 } none none = some v ∧
      semVer? { s with commitsAfterTag := 34 } none none = some w ∧ v.Precedes w) ∧
    ((9 : UInt64) < 10 ∧ s'.tag = "" ∧ semVer? { s' with revision := 9 } none (some "0abc") = some v' ∧
      semVer? { s' with revision := 10 } none (some "0abc") = some w' ∧ v'.Precedes w') := by
  intro s v w s' v' w'
  have hlt : (12 : UInt64) < 34 := by decide
  have htag : Tag.read? s.tag = some ⟨⟨1, 2, 0⟩, some "rc.1"⟩ := by decide +kernel
  have hv : semVer? { s with commitsAfterTag := 12 } none none = some v := by decide +kernel
  have hw : semVer? { s with commitsAfterTag := 34 } none none = some w := by decide +kernel
  have hlt' : (9 : UInt64) < 10 := by decide
  have hv' : semVer? { s' with revision := 9 } none (some "0abc") = some v' := by decide +kernel
  have hw' : semVer? { s' with revision := 10 } none (some "0abc") = some w' := by decide +kernel
  have hdigits := ((precedes_iff_counts s none none hlt v w).1 _ htag (by decide) hv hw).2
  refine ⟨⟨hlt, htag, hv, hw, hdigits ?_ (by decide +kernel)⟩, hlt', rfl, hv', hw', ?_⟩
  · rintro _ ⟨⟩
    decide
  · exact (precedes_iff_counts s' none (some "0abc") hlt' v' w').2 rfl hv' hw'

/-- Where a suffix takes up the count, the version of nine commits comes after that of ten. Behind a plus
sign the count decides nothing. -/
theorem precedes_iff_counts_reversed :
    let s : Snapshot := { tag := "1.0.0-beta", branch := "main" }
    let v : SemVer := ⟨⟨1, 0, 1⟩, "beta-9", ""⟩
    let w : SemVer := ⟨⟨1, 0, 1⟩, "beta-10", ""⟩
    let s' : Snapshot := { tag := "1.0.0-rc+x", branch := "topic/a" }
    let v' : SemVer := ⟨⟨1, 0, 1⟩, "rc", "x.topic-a.1"⟩
    let w' : SemVer := ⟨⟨1, 0, 1⟩, "rc", "x.topic-a.2"⟩
    (Tag.read? s.tag = some ⟨⟨1, 0, 0⟩, some "beta"⟩ ∧ (1 : UInt64) ≤ 9 ∧ (9 : UInt64) < 10 ∧
      semVer? { s with commitsAfterTag := 9 } none none = some v ∧
      semVer? { s with commitsAfterTag := 10 } none none = some w ∧ ¬ v.Precedes w ∧ w.Precedes v) ∧
    (Tag.read? s'.tag = some ⟨⟨1, 0, 0⟩, some "rc+x"⟩ ∧ (1 : UInt64) ≤ 1 ∧ (1 : UInt64) < 2 ∧
      semVer? { s' with commitsAfterTag := 1 } none none = some v' ∧
      semVer? { s' with commitsAfterTag := 2 } none none = some w' ∧ ¬ v'.Precedes w' ∧
      ¬ w'.Precedes v') := by
  intro s v w s' v' w'
  have hv : semVer? { s with commitsAfterTag := 9 } none none = some v := by decide +kernel
  have hw : semVer? { s with commitsAfterTag := 10 } none none = some w := by decide +kernel
  have hv' : semVer? { s' with commitsAfterTag := 1 } none none = some v' := by decide +kernel
  have hw' : semVer? { s' with commitsAfterTag := 2 } none none = some w' := by decide +kernel
  exact ⟨⟨by decide +kernel, by decide, by decide, hv, hw, by decide +kernel, by decide +kernel⟩,
    by decide +kernel, by decide, by decide, hv', hw', by decide +kernel, by decide +kernel⟩

end Release

end BuildVersion
