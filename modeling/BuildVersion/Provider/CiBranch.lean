import BuildVersion.Text.Character

/-!
# Branches in continuous integration

Runners of continuous integration check out a commit without its branch and name the branch in the
environment.
-/

namespace BuildVersion

open Text

/-- Where the branch is looked for. -/
inductive CiBranch where
  /-- The environment of GitLab CI names the branch, unless a tag is built. -/
  | gitlab
  /-- Only the tool is asked. -/
  | none
deriving DecidableEq

namespace CiBranch

/-- The trimmed value of an environment variable, empty where it is not set. -/
def valueOf (environment : String → Option String) (name : String) : String :=
  trimmed ((environment name).getD "")

/-- The branch, given the one that the tool has reported. -/
def branch (strategy : CiBranch) (environment : String → Option String) (reported : String) : String :=
  match strategy with
  | none => reported
  | gitlab =>
    let value := valueOf environment
    if value "GITLAB_CI" = "" ∧ value "CI_SERVER" = "" then reported
    else if value "CI_COMMIT_REF_NAME" ≠ "" ∧ value "CI_COMMIT_TAG" = "" then
      value "CI_COMMIT_REF_NAME"
    else reported

end CiBranch

end BuildVersion
