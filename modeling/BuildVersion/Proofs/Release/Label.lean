import BuildVersion.Proofs.Fallible
import BuildVersion.Proofs.Text.Decimal
import BuildVersion.Release
import BuildVersion.SemVer

/-!
# The parts of a development version

How a development version falls into its parts. Every label is an opening and the digits of its count, and
the opening ends with a dot or a hyphen if there is one. Main statements: the characters of a label
(`Label.toList_text`) and of a development version (`Release.toList_development`), and the parts that the
version of a snapshot has (`Release.ofSnapshot_eq_development_iff`).
-/

namespace BuildVersion

open Text

namespace Branch

lemma isIdentifierChar_sanitizeChar (c : Char) : SemVer.isIdentifierChar (sanitizeChar c) = true := by
  unfold sanitizeChar
  split
  · next h => exact h
  · decide

/-- A branch is named by an identifier, whatever characters its own name has. -/
lemma isIdentifierChar_of_identifier? {b : Branch} {identifier : String}
    (h : b.identifier? = some identifier) : ∀ c ∈ identifier.toList, SemVer.isIdentifierChar c = true := by
  rw [identifier?, Option.ite_none_right_eq_some] at h
  obtain ⟨_, hsanitize⟩ := h
  cases hsanitize
  intro c hc
  rw [sanitize, String.toList_ofList] at hc
  obtain ⟨d, _, rfl⟩ := List.mem_map.1 hc
  exact isIdentifierChar_sanitizeChar d

lemma identifier?_ne_empty {b : Branch} {identifier : String} (h : b.identifier? = some identifier) :
    identifier.toList ≠ [] := by
  rw [identifier?, Option.ite_none_right_eq_some] at h
  obtain ⟨hknown, hsanitize⟩ := h
  cases hsanitize
  have hname : b.name ≠ "" := by
    intro hempty
    simp [isKnown, hempty] at hknown
  rw [sanitize, String.toList_ofList]
  intro hnil
  exact hname (String.toList_eq_nil_iff.1 (List.map_eq_nil_iff.1 hnil))

end Branch

namespace Label

/-- The suffix and the character after it, or nothing where there is no suffix. -/
def lead (mark : Char) (suffix : Option String) : List Char :=
  match suffix with
  | some suffix => suffix.toList ++ [mark]
  | none => []

/-- What stands before the count of a label: the suffix and the branch with what sets them apart. -/
def opening (l : Label) : List Char :=
  match l.branch with
  | some branch => lead '.' l.suffix ++ branch.toList ++ ['.']
  | none => lead '-' l.suffix

/-- A label is its opening and its count. -/
lemma toList_text (l : Label) : l.text.toList = l.opening ++ Nat.toDigits 10 l.count.toNat := by
  obtain ⟨suffix, branch, count⟩ := l
  cases suffix <;> cases branch <;> simp [text, opening, lead]

/-- The branch is set apart from the count by a dot. -/
lemma toList_text_of_branch (suffix : Option String) (branch : String) (count : UInt64) :
    (Label.mk suffix (some branch) count).text.toList =
      lead '.' suffix ++ branch.toList ++ '.' :: Nat.toDigits 10 count.toNat := by
  rw [toList_text, opening, List.append_cons]

/-- A suffix is set apart from the count by a hyphen where no branch stands between them. -/
lemma toList_text_of_suffix (suffix : String) (count : UInt64) :
    (Label.mk (some suffix) none count).text.toList =
      suffix.toList ++ '-' :: Nat.toDigits 10 count.toNat := by
  rw [toList_text, List.append_cons]
  rfl

lemma toList_text_of_count (count : UInt64) :
    (Label.mk none none count).text.toList = Nat.toDigits 10 count.toNat := toList_text _

lemma mem_getLast?_lead {mark c : Char} {suffix : Option String} (h : c ∈ (lead mark suffix).getLast?) :
    c = mark := by
  cases suffix with
  | some suffix =>
    rw [lead, List.getLast?_concat] at h
    exact (Option.some.inj h).symm
  | none => cases h

/-- The count is set apart from what stands before it. -/
lemma mem_getLast?_opening {l : Label} {c : Char} (h : c ∈ l.opening.getLast?) : c = '.' ∨ c = '-' := by
  rw [opening] at h
  split at h
  · rw [List.getLast?_concat] at h
    exact .inl (Option.some.inj h).symm
  · exact .inr (mem_getLast?_lead h)

end Label

namespace Release

/-- A build fragment of letters and digits, where there is one. -/
def PlainFragment (build : Option String) : Prop :=
  ∀ fragment ∈ build, ∀ c ∈ fragment.toList, isAlphanumeric c = true

/-- An empty fragment counts as none. -/
lemma PlainFragment.filter {build : Option String} (h : PlainFragment build) :
    PlainFragment (build.filter (· != "")) := by
  intro fragment hfragment
  exact h fragment (Option.eq_some_of_filter_eq_some hfragment)

/-- Build metadata as it is written. -/
def metadata (build : Option String) : List Char :=
  match build with
  | some build => '+' :: build.toList
  | none => []

/-- A development version is its core, a hyphen, its label and its build metadata. -/
lemma development_text (core : Version) (label : Label) (build : Option String) :
    (development core label build).text =
      core.text ++ String.ofList ('-' :: (label.text.toList ++ metadata build)) := by
  apply String.toList_inj.1
  cases build <;> simp [text, metadata]

/-- The characters of a development version. -/
lemma toList_development (core : Version) (label : Label) (build : Option String) :
    (development core label build).text.toList =
      core.text.toList ++ '-' :: (label.text.toList ++ metadata build) := by
  rw [development_text, String.toList_append, String.toList_ofList]

variable {s : Snapshot} {defaultBranch build : Option String}

/-- A revision with commits after its tag is not tagged. -/
lemma isTagged_of_pos (h : 0 < s.commitsAfterTag) : s.isTagged = false := by
  have hne : s.commitsAfterTag ≠ 0 := fun hzero => by rw [hzero] at h; cases h
  simp [Snapshot.isTagged, hne]

lemma basis_of_read? {tag : Tag.Reading} (htag : Tag.read? s.tag = some tag) :
    basis s = (tag.core, tag.suffix, s.commitsAfterTag) := by
  rw [basis, htag]

lemma basis_of_no_tag (htag : s.tag = "") : basis s = ({}, none, s.revision) := by
  rw [basis, htag]
  rfl

/-- A snapshot that is not tagged has a development version if the core that it is based on has a next
patch release. -/
lemma ofSnapshot_of_not_isTagged (htagged : s.isTagged = false) :
    ofSnapshot s defaultBranch build =
      (basis s).1.nextPatch.map fun next =>
        .development next ⟨(basis s).2.1, (Branch.of s.branch defaultBranch).identifier?, (basis s).2.2⟩
          (build.filter (· != "")) := by
  rw [ofSnapshot, htagged, if_neg Bool.false_ne_true]
  obtain ⟨core, suffix, count⟩ := basis s
  cases hnext : core.nextPatch with
  | error e => simp [hnext, Except.map]
  | ok next => simp [hnext, Except.map]

/-- The parts of a development version are determined by the fields of the snapshot. -/
lemma ofSnapshot_eq_development_iff {core : Version} {label : Label} {fragment : Option String} :
    ofSnapshot s defaultBranch build = .ok (.development core label fragment) ↔
      s.isTagged = false ∧ (basis s).1.nextPatch = .ok core ∧
        label = ⟨(basis s).2.1, (Branch.of s.branch defaultBranch).identifier?, (basis s).2.2⟩ ∧
        fragment = build.filter (· != "") := by
  cases htagged : s.isTagged with
  | true => simp [ofSnapshot, htagged]
  | false =>
    rw [ofSnapshot_of_not_isTagged htagged, Fallible.map_eq_ok_iff]
    simp only [development.injEq, true_and]
    constructor
    · rintro ⟨next, hnext, rfl, rfl, rfl⟩
      exact ⟨hnext, rfl, rfl⟩
    · rintro ⟨hnext, rfl, rfl⟩
      exact ⟨core, hnext, rfl, rfl, rfl⟩

end Release

end BuildVersion
