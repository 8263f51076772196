import BuildVersion.Proofs.Git.Commands
import BuildVersion.Proofs.Text.Trimming
import BuildVersion.Provider.CiBranch

/-!
# The branch in continuous integration

Which branch a job is built for is decided by its environment, and by Git only where the environment does not name one.
Main statement: a branch that the environment names takes the place of whatever Git reports
(`environment_names_branch`), also of a branch that is checked out (`environment_replaces_checked_out`).
-/

namespace BuildVersion.CiBranch

open Text

/-- A variable that is not set, or that holds nothing but blanks. -/
def Blank (environment : String → Option String) (name : String) : Prop :=
  ∀ value ∈ environment name, ∀ c ∈ value.toList, isBlank c = true

/-- A variable holds a text, with blanks around it or without them. -/
structure Holds (environment : String → Option String) (name text : String) : Prop where
  nonempty : text ≠ ""
  trimmed : IsTrimmed text.toList
  value : ∃ value front back, environment name = some value ∧ value.toList = front ++ (text.toList ++ back) ∧
    (∀ c ∈ front, isBlank c = true) ∧ ∀ c ∈ back, isBlank c = true

/-- A job of GitLab CI that builds no tag names its branch. -/
structure Names (environment : String → Option String) (branch : String) : Prop where
  job : ¬ Blank environment "GITLAB_CI" ∨ ¬ Blank environment "CI_SERVER"
  branch : Holds environment "CI_COMMIT_REF_NAME" branch
  untagged : Blank environment "CI_COMMIT_TAG"

variable {environment : String → Option String} {name branch branch' reported : String}

/-! ### Variables -/

lemma valueOf_eq_empty_iff : valueOf environment name = "" ↔ Blank environment name := by
  rw [valueOf, trimmed, String.ofList_eq_empty_iff, trim_eq_nil_iff, Blank]
  cases environment name with
  | none =>
    refine iff_of_true (List.forall_mem_nil _) ?_
    intro value hvalue
    cases hvalue
  | some value => simp only [Option.getD_some, Option.mem_def, Option.some.injEq, forall_eq']

lemma valueOf_eq_iff (hne : branch ≠ "") :
    valueOf environment name = branch ↔ Holds environment name branch := by
  rw [valueOf, ← String.toList_inj, toList_trimmed, trim_eq_iff]
  cases hvalue : environment name with
  | none =>
    refine iff_of_false ?_ ?_
    · rintro ⟨_, front, back, hempty, _⟩
      have hnil : branch.toList = [] := by
        have hmid := (List.append_eq_nil_iff.1 hempty.symm).2
        exact (List.append_eq_nil_iff.1 hmid).1
      exact hne (String.toList_eq_nil_iff.1 hnil)
    · rintro ⟨_, _, value, _, _, hsome, _⟩
      rw [hvalue] at hsome
      cases hsome
  | some value =>
    rw [Option.getD_some]
    constructor
    · rintro ⟨htrimmed, front, back, h⟩
      exact ⟨hne, htrimmed, value, front, back, hvalue, h⟩
    · rintro ⟨_, htrimmed, value', front, back, hsome, h⟩
      cases hvalue.symm.trans hsome
      exact ⟨htrimmed, front, back, h⟩

/-! ### Branches -/

/-- The environment names a branch exactly if the variables are set that it takes. -/
lemma exists_names_iff :
    (∃ branch, Names environment branch) ↔
      (¬ Blank environment "GITLAB_CI" ∨ ¬ Blank environment "CI_SERVER") ∧
        ¬ Blank environment "CI_COMMIT_REF_NAME" ∧ Blank environment "CI_COMMIT_TAG" := by
  constructor
  · rintro ⟨branch, hjob, hbranch, htag⟩
    refine ⟨hjob, ?_, htag⟩
    rw [← valueOf_eq_empty_iff, (valueOf_eq_iff hbranch.nonempty).2 hbranch]
    exact hbranch.nonempty
  · rintro ⟨hjob, hbranch, htag⟩
    rw [← valueOf_eq_empty_iff] at hbranch
    exact ⟨_, hjob, (valueOf_eq_iff hbranch).1 rfl, htag⟩

/-- A branch that the environment names takes the place of the reported one. -/
lemma branch_of_names (h : Names environment branch) : gitlab.branch environment reported = branch := by
  have hjob : ¬ (valueOf environment "GITLAB_CI" = "" ∧ valueOf environment "CI_SERVER" = "") := by
    rw [valueOf_eq_empty_iff, valueOf_eq_empty_iff, not_and_or]
    exact h.job
  have hbranch : valueOf environment "CI_COMMIT_REF_NAME" = branch := (valueOf_eq_iff h.branch.nonempty).2 h.branch
  have htag : valueOf environment "CI_COMMIT_TAG" = "" := valueOf_eq_empty_iff.2 h.untagged
  simp only [CiBranch.branch, if_neg hjob, hbranch]
  rw [if_pos ⟨h.branch.nonempty, htag⟩]

/-- The reported branch stays where the environment names none. -/
lemma branch_of_not_names (h : ∀ branch, ¬ Names environment branch) :
    gitlab.branch environment reported = reported := by
  rw [← not_exists, exists_names_iff, ← valueOf_eq_empty_iff, ← valueOf_eq_empty_iff, ← valueOf_eq_empty_iff,
    ← valueOf_eq_empty_iff, ← not_and_or] at h
  simp only [CiBranch.branch]
  split
  · rfl
  · next hjob =>
    rw [if_neg]
    exact fun hbranch => h ⟨hjob, hbranch⟩

/-- The branch that Git reports. -/
def reportedBranch (tools : Toolbox) (milliseconds : Nat) (request : Request) : String :=
  (Git.firstLine? (Git.linesOf? tools milliseconds request .branch)).getD ""

/-- A commit is collected with the branch that is made of the reported one. -/
lemma branch_collect {tools : Toolbox} {milliseconds : Nat} {branchOf : String → String} {request : Request}
    (h : (Git.collect tools milliseconds branchOf request).value.commitHash ≠ "") :
    (Git.collect tools milliseconds branchOf request).value.branch =
      branchOf (reportedBranch tools milliseconds request) := by
  rw [Git.commitHash_collect] at h
  rw [(Git.collect_of_commit branchOf h).1, reportedBranch]

/-- The environment names a branch exactly in a job of GitLab CI that has the name of a branch and no tag. This name is
then the branch, whatever is reported, and otherwise the reported branch stays. So a branch differs from the reported one
only if the environment names it, and a commit is collected with the one that the environment names, or else with the one
that Git reports. -/
theorem environment_names_branch :
    (∀ environment, (∃ branch, Names environment branch) ↔
      (¬ Blank environment "GITLAB_CI" ∨ ¬ Blank environment "CI_SERVER") ∧
        ¬ Blank environment "CI_COMMIT_REF_NAME" ∧ Blank environment "CI_COMMIT_TAG") ∧
      (∀ environment reported branch, Names environment branch → gitlab.branch environment reported = branch) ∧
      (∀ environment reported, (∀ branch, ¬ Names environment branch) →
        gitlab.branch environment reported = reported) ∧
      (∀ environment reported, gitlab.branch environment reported ≠ reported →
        ∃ branch, Names environment branch ∧ gitlab.branch environment reported = branch) ∧
      ∀ tools milliseconds environment request,
        let s := (Git.collect tools milliseconds (gitlab.branch environment) request).value
        s.commitHash ≠ "" →
          (∀ branch, Names environment branch → s.branch = branch) ∧
          ((∀ branch, ¬ Names environment branch) → s.branch = reportedBranch tools milliseconds request) := by
  refine ⟨fun _ => exists_names_iff, fun _ _ _ => branch_of_names, fun _ _ => branch_of_not_names, ?_, ?_⟩
  · intro environment reported hne
    by_cases hnames : ∃ branch, Names environment branch
    · obtain ⟨branch, hbranch⟩ := hnames
      exact ⟨branch, hbranch, branch_of_names hbranch⟩
    · exact absurd (branch_of_not_names (not_exists.1 hnames)) hne
  · intro tools milliseconds environment request s hcommit
    have hbranch : s.branch = gitlab.branch environment (reportedBranch tools milliseconds request) :=
      branch_collect hcommit
    rw [hbranch]
    exact ⟨fun branch => branch_of_names, branch_of_not_names⟩

/-- The environment of a job that names its branch with blanks around it. -/
def exampleEnvironment (name : String) : Option String :=
  if name = "CI_SERVER" then some "yes"
  else if name = "CI_COMMIT_REF_NAME" then some " feature/login\n"
  else if name = "CI_COMMIT_TAG" then some " "
  else .none

/-- Git that knows a commit and reports a branch. -/
def exampleGit : Toolbox where
  has _ := true
  outcome _ call :=
    match call.arguments.head? with
    | some "log" => .ended (.code 0) [.output (encodeUtf8 "0123456789abcdef0123456789abcdef01234567\n"), .errors []]
    | some "rev-parse" => .ended (.code 0) [.errors [], .output (encodeUtf8 "main\n")]
    | _ => .notStarted .missing

/-- A job on a detached commit, and a job of which no branch is known. -/
theorem environment_names_branch_detached :
    let collected (environment : String → Option String) :=
      (Git.collect exampleGit 1000 (gitlab.branch environment) ⟨".", ".", ""⟩).value
    Names exampleEnvironment "feature/login" ∧
      gitlab.branch exampleEnvironment "HEAD" = "feature/login" ∧
      gitlab.branch exampleEnvironment "HEAD" ≠ "HEAD" ∧
      (∀ branch, ¬ Names (fun _ => .none) branch) ∧ gitlab.branch (fun _ => .none) "HEAD" = "HEAD" ∧
      (collected exampleEnvironment).commitHash ≠ "" ∧ (collected exampleEnvironment).branch = "feature/login" ∧
      (collected fun _ => .none).commitHash ≠ "" ∧ (collected fun _ => .none).branch = "main" := by
  intro collected
  obtain ⟨hexists, hnamed, hunnamed, hreplaced, hcollected⟩ := environment_names_branch
  have hdiffers : gitlab.branch exampleEnvironment "HEAD" ≠ "HEAD" := by decide +kernel
  have hvalue : gitlab.branch exampleEnvironment "HEAD" = "feature/login" := by decide +kernel
  obtain ⟨branch, hnames, hbranch⟩ := hreplaced exampleEnvironment "HEAD" hdiffers
  rw [hvalue] at hbranch
  subst hbranch
  have hnone : ∀ branch, ¬ Names (fun _ => .none) branch := by
    rw [← not_exists, hexists]
    rintro ⟨hjob | hjob, _⟩
    · exact hjob nofun
    · exact hjob nofun
  have hcommit : (collected exampleEnvironment).commitHash ≠ "" := by decide +kernel
  have hcommit' : (collected fun _ => .none).commitHash ≠ "" := by decide +kernel
  have hreported : reportedBranch exampleGit 1000 ⟨".", ".", ""⟩ = "main" := by decide +kernel
  exact ⟨hnames, hnamed _ "HEAD" _ hnames, hdiffers, hnone, hunnamed _ "HEAD" hnone, hcommit,
    (hcollected _ _ _ _ hcommit).1 _ hnames, hcommit', ((hcollected _ _ _ _ hcommit').2 hnone).trans hreported⟩

/-- A branch that is checked out in a job is reported as such and is replaced. -/
theorem environment_replaces_checked_out :
    gitlab.branch exampleEnvironment "main" = "feature/login" ∧
      ¬ ∀ environment reported, gitlab.branch environment reported ≠ reported → reported = "" ∨ reported = "HEAD" := by
  have hbranch : gitlab.branch exampleEnvironment "main" = "feature/login" := by decide +kernel
  refine ⟨hbranch, ?_⟩
  intro h
  have hne : gitlab.branch exampleEnvironment "main" ≠ "main" := by
    rw [hbranch]
    decide
  exact absurd (h exampleEnvironment "main" hne) (by decide)

end BuildVersion.CiBranch
