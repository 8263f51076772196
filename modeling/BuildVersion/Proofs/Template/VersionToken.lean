import BuildVersion.Template.Resolve
import Mathlib.Tactic.Lemma

/-!
# The version placeholder

What the placeholder for the version of a snapshot gives and records, in terms of the version that the
snapshot has with its default branch and build fragment. Main statement: `releaseValue_eq`.
-/

namespace BuildVersion.Token

/-- The default branch that the placeholder goes by: its own, or else that of the context. -/
def branchOfReference (context : BuildContext) (inline : Option String) : Option String :=
  (inline.or context.defaultBranch).filter (· != "")

/-- The build fragment that the placeholder asks for. -/
def hashFragment (s : Snapshot) (withHash : Bool) (length : Option Nat) : Option String :=
  if withHash then some (truncate s.commitHash length) else none

/-- The warning about a tag that names no version, where the version had to be made without it. -/
def tagWarnings (s : Snapshot) : List Entry :=
  if s.tag != "" && !s.isTagged && (Tag.read? s.tag).isNone then [(Warning.unparsableTag s.tag).entry] else []

/-- The warning about a version that is no semantic version. -/
def versionWarnings : Except Error Release → List Entry
  | .error _ => []
  | .ok version =>
    match SemVer.read version.text with
    | .ok _ => []
    | .error fault => [(Warning.invalidSemVer version.text fault.text).entry]

/-- The placeholder gives the text of the version, and the warnings are those about the tag and the
version. -/
lemma releaseValue_eq (s : Snapshot) (context : BuildContext) (inline : Option String) (withHash : Bool)
    (length : Option Nat) :
    releaseValue s context inline withHash length =
      let version :=
        Release.ofSnapshot s (branchOfReference context inline) (hashFragment s withHash length)
      ⟨version.map Release.text, tagWarnings s ++ versionWarnings version⟩ := by
  rw [releaseValue, branchOfReference, hashFragment]
  simp only [bind, Recorded.andThen, Recorded.noteIf, Recorded.note, pure]
  cases hversion : Release.ofSnapshot s ((inline.or context.defaultBranch).filter (· != ""))
    (if withHash then some (truncate s.commitHash length) else none) with
  | error e => rfl
  | ok version =>
    cases hread : SemVer.read version.text with
    | error fault => simp [hread, versionWarnings, tagWarnings, Except.map]
    | ok v => simp [hread, versionWarnings, tagWarnings, Except.map]

/-- The two warnings of the placeholder differ in their first words. -/
lemma invalidSemVer_notMem_tagWarnings (s : Snapshot) (version reason : String) :
    (Warning.invalidSemVer version reason).entry ∉ tagWarnings s := by
  have hinvalid : (Warning.invalidSemVer version reason).text =
      "'" ++ version ++ "' is not a valid semantic version: " ++ reason := rfl
  have htag : (Warning.unparsableTag s.tag).text =
      "Tag '" ++ s.tag ++ "' is not a numeric version, falling back to the revision number" := rfl
  intro h
  rw [tagWarnings] at h
  split at h
  · have htext : (Warning.invalidSemVer version reason).text = (Warning.unparsableTag s.tag).text :=
      congrArg Entry.message (List.mem_singleton.1 h)
    rw [hinvalid, htag] at htext
    have hhead := congrArg (fun text => text.toList.head?) htext
    simp at hhead
  · cases h

end BuildVersion.Token
