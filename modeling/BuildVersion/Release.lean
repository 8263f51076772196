import BuildVersion.Branch
import BuildVersion.Snapshot
import BuildVersion.Tag
import BuildVersion.Version.Reading

/-!
# Releases

The version of a snapshot by the rules of Semantic Versioning. The tagged revision has the version of
its tag. Every other revision has a development version: the next patch release after the tag, with a
pre-release label that counts the commits since then.
-/

namespace BuildVersion

/-- The label of a pre-release. -/
structure Label where
  /-- The suffix that the tag already had. -/
  suffix : Option String
  /-- The branch, where it is named. -/
  branch : Option String
  /-- The commits since the tag, or the revision number where there is no tag. -/
  count : UInt64
deriving DecidableEq

/-- The label as it is written after the core. -/
def Label.text (l : Label) : String :=
  match l.suffix, l.branch with
  | some suffix, some branch => suffix ++ "." ++ branch ++ "." ++ toString l.count.toNat
  | some suffix, none => suffix ++ "-" ++ toString l.count.toNat
  | none, some branch => branch ++ "." ++ toString l.count.toNat
  | none, none => toString l.count.toNat

/-- The version of a snapshot. -/
inductive Release where
  | tagged (text : String)
  | development (core : Version) (label : Label) (build : Option String)
deriving DecidableEq

namespace Release

/-- The core, suffix and count from which a development version is made: those of the tag where it
names a version, else zero and the revision number. -/
def basis (s : Snapshot) : Version × Option String × UInt64 :=
  match Tag.read? s.tag with
  | some tag => (tag.core, tag.suffix, s.commitsAfterTag)
  | none => ({}, none, s.revision)

/-- The version of a snapshot, with build metadata for revisions that are not tagged. -/
def ofSnapshot (s : Snapshot) (defaultBranch build : Option String) : Except Error Release :=
  if s.isTagged then .ok (.tagged (Tag.bare s.tag))
  else
    let (core, suffix, count) := basis s
    match core.nextPatch with
    | .error e => .error e
    | .ok next =>
      let branch := (Branch.of s.branch defaultBranch).identifier?
      .ok (.development next { suffix, branch, count } (build.filter (· != "")))

/-- The version as it is written. -/
def text : Release → String
  | tagged text => text
  | development core label none => core.text ++ "-" ++ label.text
  | development core label (some build) => core.text ++ "-" ++ label.text ++ "+" ++ build

end Release

end BuildVersion
