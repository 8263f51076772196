import BuildVersion.Proofs.Tool.Answer
import BuildVersion.Provider.Git

/-!
# The commands of Git

The facts of a working copy come from six commands, and each of them has a group of facts of its own. Main
statement: where a commit is known, the group of a command is what its answer holds, or else what is put in
its place (`group_collect`).
-/

namespace BuildVersion.Git

open Text

/-- The commands that Git is asked with. -/
inductive Command where
  | log
  | count
  | status
  | address
  | branch
  | description
deriving DecidableEq

namespace Command

/-- All commands, in the order in which they are run. -/
def all : List Command := [log, count, status, address, branch, description]

def arguments (tagMatch : String) : Command → List String
  | log => logArguments
  | count => countArguments
  | status => statusArguments
  | address => addressArguments
  | branch => branchArguments
  | description => describeArguments tagMatch

/-- The call of a command for a working copy. -/
def call (request : Request) (c : Command) : ToolCall :=
  { program := "git", arguments := c.arguments request.tagMatch, directory := request.path }

/-- The facts that a command gives. -/
def Group : Command → Type
  | log => LogFacts
  | count => UInt64
  | status => Bool
  | address => String
  | branch => String
  | description => String × UInt64

/-- The group of a command in a snapshot. -/
def group (s : Snapshot) : (c : Command) → c.Group
  | log =>
    { commitHash := s.commitHash
      commitTime := s.commitTime
      authorTime := s.authorTime
      committerName := s.committerName
      committerEmail := s.committerEmail
      authorName := s.authorName
      authorEmail := s.authorEmail : LogFacts }
  | count => s.revision
  | status => s.isModified
  | address => s.repositoryUrl
  | branch => s.branch
  | description => (s.tag, s.commitsAfterTag)

/-- The group of a command in the lines of its answer, unless they hold nothing to use. -/
def read? (branchOf : String → String) : (c : Command) → List String → Option c.Group
  | log, lines => some (readLog lines)
  | count, lines => count? (some lines)
  | status, lines => if isModified (some lines) then some true else none
  | address, lines => firstLine? (some lines)
  | branch, lines => (firstLine? (some lines)).map branchOf
  | description, lines => (firstLine? (some lines)).bind readDescription?

/-- The group of a command that has given nothing to use. The branch is decided without a reported one. -/
def unknown (branchOf : String → String) : (c : Command) → c.Group
  | log => ({} : LogFacts)
  | count => (0 : UInt64)
  | status => false
  | address => ""
  | branch => branchOf ""
  | description => ("", (0 : UInt64))

/-- What becomes of the answer of a command. -/
def ofAnswer (branchOf : String → String) (c : Command) (lines : Option (List String)) : c.Group :=
  (lines.bind (c.read? branchOf)).getD (c.unknown branchOf)

end Command

variable (tools : Toolbox) (milliseconds : Nat) (branchOf : String → String) (request : Request)

/-- The lines that a command answers with. -/
def linesOf? (c : Command) : Option (List String) := (tools.outcome milliseconds (c.call request)).lines?

/-- The facts of the log, as far as there are any. -/
def logFacts : LogFacts := ((linesOf? tools milliseconds request .log).map readLog).getD {}

/-- The snapshot that only the log has told of. -/
def ofLog (log : LogFacts) : Snapshot where
  vcs := "git"
  commitHash := log.commitHash
  commitTime := log.commitTime
  authorTime := log.authorTime
  committerName := log.committerName
  committerEmail := log.committerEmail
  authorName := log.authorName
  authorEmail := log.authorEmail

variable {tools milliseconds request}

lemma logFacts_eq :
    ((tools.outcome milliseconds ⟨"git", logArguments, request.path⟩).lines?.map readLog).getD {} =
      logFacts tools milliseconds request := rfl

/-- Without a commit, the log is all that is asked for. -/
lemma collect_of_no_commit (h : (logFacts tools milliseconds request).commitHash = "") :
    (collect tools milliseconds branchOf request).value = ofLog (logFacts tools milliseconds request) ∧
      callsOf (collect tools milliseconds branchOf request).record = [Command.log.call request] := by
  unfold collect
  simp only [Recorded.value_bind, Recorded.record_bind, callsOf_append, Toolbox.value_run,
    Toolbox.callsOf_run, logFacts_eq, if_pos h]
  exact ⟨rfl, rfl⟩

/-- With a commit, every command is run once, and its answer is read apart from the others. -/
lemma collect_of_commit (h : (logFacts tools milliseconds request).commitHash ≠ "") :
    (collect tools milliseconds branchOf request).value =
        (let lines := linesOf? tools milliseconds request
        let tag := (firstLine? (lines .description)).bind readDescription?
        { ofLog (logFacts tools milliseconds request) with
          revision := (count? (lines .count)).getD 0
          isModified := isModified (lines .status)
          repositoryUrl := (firstLine? (lines .address)).getD ""
          branch := branchOf ((firstLine? (lines .branch)).getD "")
          tag := (tag.map Prod.fst).getD ""
          commitsAfterTag := (tag.map Prod.snd).getD 0 }) ∧
      callsOf (collect tools milliseconds branchOf request).record =
        Command.all.map (Command.call request) := by
  unfold collect
  simp only [Recorded.value_bind, Recorded.record_bind, callsOf_append, Toolbox.value_run,
    Toolbox.callsOf_run, logFacts_eq, if_neg h]
  exact ⟨rfl, rfl⟩

/-- The commit is that of the log. -/
lemma commitHash_collect :
    (collect tools milliseconds branchOf request).value.commitHash =
      (logFacts tools milliseconds request).commitHash := by
  by_cases h : (logFacts tools milliseconds request).commitHash = ""
  · rw [(collect_of_no_commit branchOf h).1]
    rfl
  · rw [(collect_of_commit branchOf h).1]
    rfl

/-- The group of the log is what the log holds, also where no commit is known. -/
lemma group_log_collect :
    Command.log.group (collect tools milliseconds branchOf request).value =
      Command.log.ofAnswer branchOf (linesOf? tools milliseconds request .log) := by
  have hlog : Command.log.ofAnswer branchOf (linesOf? tools milliseconds request .log) =
      logFacts tools milliseconds request := by
    rw [logFacts]
    cases linesOf? tools milliseconds request .log with
    | none => rfl
    | some lines => rfl
  rw [hlog]
  by_cases h : (logFacts tools milliseconds request).commitHash = ""
  · rw [(collect_of_no_commit branchOf h).1]
    rfl
  · rw [(collect_of_commit branchOf h).1]
    rfl

/-- A tag and its count are put in place together. -/
lemma getD_fst_snd (tag : Option (String × UInt64)) :
    ((tag.map Prod.fst).getD "", (tag.map Prod.snd).getD 0) = tag.getD ("", 0) := by
  cases tag with
  | none => rfl
  | some tag => rfl

/-- With a commit, the group of a command is what its own answer holds, or else what stands for nothing. -/
lemma group_collect (h : (collect tools milliseconds branchOf request).value.commitHash ≠ "")
    (c : Command) :
    c.group (collect tools milliseconds branchOf request).value =
      c.ofAnswer branchOf (linesOf? tools milliseconds request c) := by
  rw [commitHash_collect] at h
  cases c with
  | log => exact group_log_collect branchOf
  | count =>
    rw [(collect_of_commit branchOf h).1]
    dsimp only [Command.group]
    cases linesOf? tools milliseconds request .count with
    | none => rfl
    | some lines => rfl
  | status =>
    rw [(collect_of_commit branchOf h).1]
    dsimp only [Command.group]
    cases linesOf? tools milliseconds request .status with
    | none => rfl
    | some lines =>
      rw [Command.ofAnswer, Option.bind_some, Command.read?]
      cases isModified (some lines) with
      | false => rfl
      | true => rfl
  | address =>
    rw [(collect_of_commit branchOf h).1]
    dsimp only [Command.group]
    cases linesOf? tools milliseconds request .address with
    | none => rfl
    | some lines => rfl
  | branch =>
    rw [(collect_of_commit branchOf h).1]
    dsimp only [Command.group]
    cases linesOf? tools milliseconds request .branch with
    | none => rfl
    | some lines =>
      rw [Command.ofAnswer, Option.bind_some, Command.read?]
      cases firstLine? (some lines) with
      | none => rfl
      | some line => rfl
  | description =>
    rw [(collect_of_commit branchOf h).1]
    dsimp only [Command.group]
    cases linesOf? tools milliseconds request .description with
    | none => rfl
    | some lines => exact getD_fst_snd _

end BuildVersion.Git
