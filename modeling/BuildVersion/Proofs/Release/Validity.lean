import BuildVersion.Proofs.Release.Label
import BuildVersion.Proofs.SemVer.Grammar
import BuildVersion.Proofs.Template.VersionToken

/-!
# Development versions as semantic versions

When a development version is a semantic version. A label is made of identifiers as soon as the suffix of
the tag and the name of the branch are, and no number in it gets a leading zero, since the count has none
and a suffix that takes up the count is no number. Main statement: `development_reads_back`.
-/

namespace BuildVersion

open Text

namespace SemVer

lemma split_of_isIdentifier {part : Part} {cs : List Char} (h : IsIdentifier part cs) : split '.' cs = [cs] :=
  split_eq_singleton fun hdot => absurd (h.chars '.' hdot) (by decide)

/-- One identifier is a list of identifiers. -/
lemma IsIdentifier.isDotted {part : Part} {cs : List Char} (h : IsIdentifier part cs) : IsDotted part cs := by
  intro segment hsegment
  rw [split_of_isIdentifier h, List.mem_singleton] at hsegment
  rwa [hsegment]

/-- Identifiers on both sides of a dot. -/
lemma isDotted_append_cons_iff {part : Part} {cs ds : List Char} :
    IsDotted part (cs ++ '.' :: ds) ↔ IsDotted part cs ∧ IsDotted part ds := by
  simp only [IsDotted, split_append_cons, List.forall_mem_append]

/-- Decimal digits are an identifier of any part. -/
lemma isIdentifier_toDigits (part : Part) (n : Nat) : IsIdentifier part (Nat.toDigits 10 n) where
  nonempty := Nat.toDigits_ne_nil
  chars c hc := by simp [isIdentifierChar, isAlphanumeric, isDigit_of_mem_toDigits hc]
  unpadded _ := not_isPadded_toDigits n

/-- What is put behind identifiers with a hyphen joins the last of them, which is then no number. -/
lemma IsDotted.append_hyphen {part : Part} {cs ds : List Char} (hcs : IsDotted part cs)
    (hds : ∀ c ∈ ds, isIdentifierChar c = true) : IsDotted part (cs ++ '-' :: ds) := by
  obtain ⟨pieces, last, hsplit⟩ := exists_split_append '.' cs
  have hwhole := hsplit [] List.not_mem_nil
  have hdotless : '.' ∉ '-' :: ds := by
    rintro (_ | ⟨_, hdot⟩)
    exact absurd (hds '.' hdot) (by decide)
  rw [List.append_nil, List.append_nil] at hwhole
  rw [IsDotted, hwhole, List.forall_mem_append, List.forall_mem_singleton] at hcs
  rw [IsDotted, hsplit _ hdotless, List.forall_mem_append, List.forall_mem_singleton]
  refine ⟨hcs.1, by simp, ?_, ?_⟩
  · intro c hc
    rcases List.mem_append.1 hc with hc | hc
    · exact hcs.2.chars c hc
    · rcases List.mem_cons.1 hc with rfl | hc
      · decide
      · exact hds c hc
  · rintro _ ⟨hdigits, _⟩
    exact absurd (hdigits '-' (by simp)) (by decide)

end SemVer

/-- A label is made of identifiers if its suffix is and its branch is one. -/
lemma Label.isDotted_text {l : Label} (hsuffix : ∀ suffix ∈ l.suffix, SemVer.IsDotted .pre suffix.toList)
    (hbranch : ∀ branch ∈ l.branch, SemVer.IsIdentifier .pre branch.toList) :
    SemVer.IsDotted .pre l.text.toList := by
  obtain ⟨suffix, branch, count⟩ := l
  have hcount := SemVer.isIdentifier_toDigits .pre count.toNat
  cases branch with
  | some branch =>
    have hnamed := (hbranch branch rfl).isDotted
    rw [toList_text_of_branch, SemVer.isDotted_append_cons_iff]
    refine ⟨?_, hcount.isDotted⟩
    cases suffix with
    | some suffix =>
      rw [lead, List.append_assoc, List.singleton_append, SemVer.isDotted_append_cons_iff]
      exact ⟨hsuffix suffix rfl, hnamed⟩
    | none => exact hnamed
  | none =>
    cases suffix with
    | some suffix =>
      rw [toList_text_of_suffix]
      exact (hsuffix suffix rfl).append_hyphen hcount.chars
    | none =>
      rw [toList_text_of_count]
      exact hcount.isDotted

namespace Release

/-- What makes the version of a snapshot a semantic version: it is no tagged release, the suffix of its tag
is a pre-release, its branch is not named by a number with leading zeros, and its build fragment is made of
letters and digits. -/
structure Presentable (s : Snapshot) (defaultBranch build : Option String) : Prop where
  untagged : s.isTagged = false
  suffix : ∀ tag ∈ Tag.read? s.tag, ∀ suffix ∈ tag.suffix, SemVer.IsDotted .pre suffix.toList
  branch : ∀ identifier ∈ (Branch.of s.branch defaultBranch).identifier?,
    ¬ SemVer.IsPadded identifier.toList
  build : PlainFragment build

variable {s : Snapshot} {defaultBranch build : Option String}

/-- The label of a presentable snapshot is made of identifiers. -/
lemma Presentable.isDotted_label (h : Presentable s defaultBranch build) {core : Version} {label : Label}
    {fragment : Option String}
    (hrelease : ofSnapshot s defaultBranch build = .ok (.development core label fragment)) :
    SemVer.IsDotted .pre label.text.toList := by
  obtain ⟨_, _, rfl, _⟩ := ofSnapshot_eq_development_iff.1 hrelease
  apply Label.isDotted_text
  · intro suffix hsuffix
    cases htag : Tag.read? s.tag with
    | none =>
      rw [basis, htag] at hsuffix
      cases hsuffix
    | some tag =>
      rw [basis_of_read? htag] at hsuffix
      exact h.suffix tag htag suffix hsuffix
  · intro identifier hidentifier
    exact ⟨Branch.identifier?_ne_empty hidentifier, Branch.isIdentifierChar_of_identifier? hidentifier,
      fun _ => h.branch identifier hidentifier⟩

/-- A fragment of letters and digits is build metadata. -/
lemma PlainFragment.isDotted {fragment : String} (h : PlainFragment (some fragment)) (hne : fragment ≠ "") :
    SemVer.IsDotted .build fragment.toList := by
  have hidentifier : SemVer.IsIdentifier .build fragment.toList :=
    { nonempty := fun hnil => hne (String.toList_eq_nil_iff.1 hnil)
      chars := fun c hc => by simp [SemVer.isIdentifierChar, h fragment rfl c hc]
      unpadded := nofun }
  exact hidentifier.isDotted

/-- An empty fragment is written like a missing one. -/
lemma metadata_filter (build : Option String) :
    metadata (build.filter (· != "")) = SemVer.marked '+' (build.getD "") := by
  cases build with
  | none => rfl
  | some fragment =>
    by_cases hempty : fragment = ""
    · subst hempty
      rfl
    · simp [metadata, SemVer.marked_of_ne hempty, Option.filter, hempty]

/-- The version of a presentable snapshot is well-formed, and its text is the written form. -/
lemma Presentable.wellFormed (h : Presentable s defaultBranch build) {core : Version} {label : Label}
    {fragment : Option String}
    (hrelease : ofSnapshot s defaultBranch build = .ok (.development core label fragment)) :
    let v : SemVer := { core, pre := label.text, build := build.getD "" }
    v.WellFormed ∧ (development core label fragment).text = v.text := by
  intro v
  have hlabel := h.isDotted_label hrelease
  have hne : label.text ≠ "" := SemVer.ne_empty_of_isDotted hlabel
  refine ⟨⟨.inr hlabel, ?_⟩, ?_⟩
  · cases build with
    | none => exact .inl rfl
    | some fragment => exact or_iff_not_imp_left.2 h.build.isDotted
  · obtain ⟨_, _, _, rfl⟩ := ofSnapshot_eq_development_iff.1 hrelease
    apply String.toList_inj.1
    rw [toList_development, SemVer.toList_text, SemVer.marked_of_ne hne, metadata_filter]
    rfl

/-- The version of a presentable snapshot, if it has one, is a semantic version: its text is the written form
of its core, its label and its build fragment, and is read back as these. The placeholder for it does not
warn of an invalid version. -/
theorem development_reads_back (s : Snapshot) (defaultBranch build : Option String)
    (h : Presentable s defaultBranch build) :
    (∀ release, ofSnapshot s defaultBranch build = .ok release →
      ∃ core label fragment, release = .development core label fragment ∧
        let v : SemVer := { core, pre := label.text, build := build.getD "" }
        v.WellFormed ∧ release.text = v.text ∧ SemVer.read release.text = .ok v) ∧
    ∀ context zone inline withHash length, Token.branchOfReference context inline = defaultBranch →
      Token.hashFragment s withHash length = build → ∀ version reason,
        (Warning.invalidSemVer version reason).entry ∉
          (Token.value s context zone (.release inline withHash length)).record := by
  have hread : ∀ release, ofSnapshot s defaultBranch build = .ok release →
      ∃ core label fragment, release = .development core label fragment ∧
        let v : SemVer := { core, pre := label.text, build := build.getD "" }
        v.WellFormed ∧ release.text = v.text ∧ SemVer.read release.text = .ok v := by
    intro release hrelease
    have hmap := hrelease
    rw [ofSnapshot_of_not_isTagged h.untagged, Fallible.map_eq_ok_iff] at hmap
    obtain ⟨core, _, rfl⟩ := hmap
    obtain ⟨hwell, htext⟩ := h.wellFormed hrelease
    exact ⟨core, _, _, rfl, hwell, htext, SemVer.read_eq_ok_iff.2 ⟨hwell, htext⟩⟩
  refine ⟨hread, fun context zone inline withHash length hdefault hbuild version reason hmem => ?_⟩
  have hvalue : Token.value s context zone (.release inline withHash length) =
      Token.releaseValue s context inline withHash length := rfl
  rw [hvalue, Token.releaseValue_eq, hdefault, hbuild] at hmem
  rcases List.mem_append.1 hmem with hmem | hmem
  · exact Token.invalidSemVer_notMem_tagWarnings s version reason hmem
  · cases hrelease : ofSnapshot s defaultBranch build with
    | error e =>
      rw [hrelease] at hmem
      cases hmem
    | ok release =>
      obtain ⟨_, _, _, _, _, _, hok⟩ := hread release hrelease
      simp [hrelease, Token.versionWarnings, hok] at hmem

/-- A tag of two numbers with a suffix, on a branch with letters that no identifier has and with leading
zeros behind them. -/
theorem development_reads_back_foreign_branch :
    let s : Snapshot :=
      { tag := "v1.2-rc.1", commitsAfterTag := 3, branch := "größe/007", commitHash := "0abc12" }
    let release : Release := .development ⟨1, 2, 1⟩ ⟨some "rc.1", some "gr--e-007", 3⟩ (some "0abc")
    let context : BuildContext := { time := ⟨⟨0, 0⟩, 0⟩ }
    Presentable s none (some "0abc") ∧ ofSnapshot s none (some "0abc") = .ok release ∧
      Token.branchOfReference context none = none ∧ Token.hashFragment s true (some 4) = some "0abc" ∧
      (∃ core label fragment, release = .development core label fragment ∧
        let v : SemVer := { core, pre := label.text, build := "0abc" }
        v.WellFormed ∧ release.text = v.text ∧ SemVer.read release.text = .ok v) ∧
      ∀ version reason, (Warning.invalidSemVer version reason).entry ∉
        (Token.value s context (.fixed 0) (.release none true (some 4))).record := by
  intro s release context
  have htag : Tag.read? s.tag = some ⟨⟨1, 2, 0⟩, some "rc.1"⟩ := by decide +kernel
  have hbranch : (Branch.of s.branch none).identifier? = some "gr--e-007" := by decide +kernel
  have h : Presentable s none (some "0abc") := by
    refine ⟨by decide, ?_, ?_, ?_⟩
    · rw [htag]
      rintro _ ⟨⟩ _ ⟨⟩
      decide
    · rw [hbranch]
      rintro _ ⟨⟩
      decide
    · rintro _ ⟨⟩
      exact List.all_eq_true.1 (by decide)
  have hrelease : ofSnapshot s none (some "0abc") = .ok release :=
    Fallible.eq_ok_of_toOption (by decide +kernel)
  have hdefault : Token.branchOfReference context none = none := rfl
  have hhash : Token.hashFragment s true (some 4) = some "0abc" := by decide +kernel
  obtain ⟨hread, hsilent⟩ := development_reads_back s none (some "0abc") h
  exact ⟨h, hrelease, hdefault, hhash, hread release hrelease,
    hsilent context (.fixed 0) none true (some 4) hdefault hhash⟩

end Release

end BuildVersion
