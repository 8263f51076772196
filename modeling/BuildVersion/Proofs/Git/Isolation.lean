import BuildVersion.Proofs.Git.Commands

/-!
# Commands of Git apart from each other

What one command of Git answers, or that it fails, does not show in the facts that come from another one.
Main statement: the group of every command depends on its own answer, a command without a usable answer
leaves its group as it was, and without a commit no command but the log is run (`collect_isolates`).
-/

namespace BuildVersion.Git

open Text

/-- A line holds a commit hash: between blanks, 40 to 64 hexadecimal digits and nothing else. -/
def HoldsHash (line : String) : Prop :=
  40 ≤ (trim line.toList).length ∧ (trim line.toList).length ≤ 64 ∧
    ∀ c ∈ trim line.toList, isHexDigit c = true

lemma isCommitHash_iff {line : String} : isCommitHash (trim line.toList) = true ↔ HoldsHash line := by
  rw [isCommitHash, HoldsHash, Bool.and_eq_true, Bool.and_eq_true, decide_eq_true_eq, decide_eq_true_eq,
    List.all_eq_true, and_assoc]

/-- The log gives a commit exactly if its first line holds a hash. -/
lemma commitHash_readLog_ne_iff {lines : List String} :
    (readLog lines).commitHash ≠ "" ↔ ∃ first rest, lines = first :: rest ∧ HoldsHash first := by
  cases lines with
  | nil => simp [readLog, trimmed, trim, isCommitHash]
  | cons first rest =>
    have hexists : (∃ first' rest', first :: rest = first' :: rest' ∧ HoldsHash first') ↔
        HoldsHash first := by
      constructor
      · intro h
        obtain ⟨first', rest', e, hfirst⟩ := h
        rw [(List.cons.inj e).1]
        exact hfirst
      · intro h
        exact ⟨first, rest, rfl, h⟩
    rw [hexists, ← isCommitHash_iff]
    simp only [readLog, List.getD_cons_zero, toList_trimmed]
    cases hhash : isCommitHash (trim first.toList) with
    | false => simp
    | true =>
      -- a hash is not empty, nor is what is made of it in small letters
      have hlength : 40 ≤ (trim first.toList).length := (isCommitHash_iff.1 hhash).1
      have hne : String.ofList ((trim first.toList).map lowerAscii) ≠ "" := by
        intro e
        have hnil := congrArg (fun s => s.toList.length) e
        simp only [String.toList_ofList, List.length_map] at hnil
        rw [hnil] at hlength
        exact absurd hlength (by decide)
      exact iff_of_true hne rfl

variable {tools tools' : Toolbox} {milliseconds milliseconds' : Nat} {branchOf branchOf' : String → String}
  {request request' : Request}

lemma commitHash_collect_ne_iff :
    (collect tools milliseconds branchOf request).value.commitHash ≠ "" ↔
      ∃ first rest, linesOf? tools milliseconds request .log = some (first :: rest) ∧ HoldsHash first := by
  rw [commitHash_collect, logFacts]
  cases linesOf? tools milliseconds request .log with
  | none => simp
  | some lines => simp [commitHash_readLog_ne_iff]

namespace Command

/-- Only the branch is decided by the environment, and all other groups are left as they were. -/
lemma unknown_eq {c : Command} (h : c ≠ .branch) : c.unknown branchOf = c.group {} := by
  cases c with
  | branch => exact absurd rfl h
  | _ => rfl

lemma read?_congr {c : Command} (h : c = .branch → branchOf = branchOf') :
    c.read? branchOf = c.read? branchOf' := by
  cases c with
  | branch => rw [h rfl]
  | _ => rfl

/-- There is nothing else in a snapshot than the groups of the commands, the system and the mixture. -/
lemma eq_of_group_eq {s s' : Snapshot} (hvcs : s.vcs = s'.vcs) (hmixed : s.isMixed = s'.isMixed)
    (h : ∀ c : Command, c.group s = c.group s') : s = s' := by
  have hlog := LogFacts.mk.inj (h .log)
  obtain ⟨hhash, hcommit, hauthor, hcname, hcmail, haname, hamail⟩ := hlog
  obtain ⟨htag, hafter⟩ := Prod.mk.inj (h .description)
  cases s
  cases s'
  simp only [Snapshot.mk.injEq]
  exact ⟨hvcs, hhash, h .count, hcommit, hauthor, h .status, hmixed, h .address, hcname, hcmail, haname,
    hamail, h .branch, htag, hafter⟩

/-- What becomes of an answer is decided by nothing else, the branch apart. -/
lemma ofAnswer_congr {c : Command} (h : c = .branch → branchOf = branchOf') (lines : Option (List String)) :
    c.ofAnswer branchOf lines = c.ofAnswer branchOf' lines := by
  have hunknown : c.unknown branchOf = c.unknown branchOf' := by
    cases c with
    | branch => rw [h rfl]
    | _ => rfl
  rw [ofAnswer, ofAnswer, read?_congr h, hunknown]

/-- An answer without anything to use counts as none. -/
lemma ofAnswer_of_unusable {c : Command} {lines : Option (List String)}
    (h : lines = none ∨ ∃ text, lines = some text ∧ c.read? branchOf text = none) :
    c.ofAnswer branchOf lines = c.unknown branchOf := by
  have hnone : lines.bind (c.read? branchOf) = none := by
    cases h with
    | inl h => rw [h, Option.bind_none]
    | inr h =>
      obtain ⟨text, htext, hread⟩ := h
      rw [htext, Option.bind_some, hread]
  rw [ofAnswer, hnone, Option.getD_none]

end Command

/-- The system and the mixture are the same for all working copies. -/
lemma vcs_isMixed_collect :
    (collect tools milliseconds branchOf request).value.vcs = "git" ∧
      (collect tools milliseconds branchOf request).value.isMixed = false := by
  by_cases h : (logFacts tools milliseconds request).commitHash = ""
  · rw [(collect_of_no_commit branchOf h).1]
    exact ⟨rfl, rfl⟩
  · rw [(collect_of_commit branchOf h).1]
    exact ⟨rfl, rfl⟩

/-- Without a commit, all groups but that of the log are as they were. -/
lemma group_collect_of_no_commit (h : (collect tools milliseconds branchOf request).value.commitHash = "")
    {c : Command} (hc : c ≠ .log) :
    c.group (collect tools milliseconds branchOf request).value = c.group {} := by
  rw [commitHash_collect] at h
  rw [(collect_of_no_commit branchOf h).1]
  cases c with
  | log => exact absurd rfl hc
  | _ => rfl

/-- A command that has failed, or whose answer holds nothing to use, leaves its group unknown. -/
lemma group_collect_of_unusable (h : (collect tools milliseconds branchOf request).value.commitHash ≠ "")
    {c : Command}
    (hfail : (tools.outcome milliseconds (c.call request)).Fails ∨
      ∃ lines, (tools.outcome milliseconds (c.call request)).lines? = some lines ∧
        c.read? branchOf lines = none) :
    c.group (collect tools milliseconds branchOf request).value = c.unknown branchOf := by
  rw [group_collect branchOf h c]
  apply Command.ofAnswer_of_unusable
  exact hfail.imp ToolOutcome.lines?_eq_none_iff.2 id

/-- Two collections in which a command answers the same have its group in common. -/
lemma group_collect_congr (h : (collect tools milliseconds branchOf request).value.commitHash ≠ "")
    (h' : (collect tools' milliseconds' branchOf' request').value.commitHash ≠ "") {c : Command}
    (hanswer : (tools.outcome milliseconds (c.call request)).lines? =
      (tools'.outcome milliseconds' (c.call request')).lines?)
    (hbranch : c = .branch → branchOf = branchOf') :
    c.group (collect tools milliseconds branchOf request).value =
      c.group (collect tools' milliseconds' branchOf' request').value := by
  have hlines : linesOf? tools milliseconds request c = linesOf? tools' milliseconds' request' c := hanswer
  rw [group_collect branchOf h c, group_collect branchOf' h' c, hlines]
  exact Command.ofAnswer_congr hbranch _

/-- The tag and the count of commits after it come from one description, or neither of them is there. -/
lemma tag_collect :
    ((collect tools milliseconds branchOf request).value.tag,
        (collect tools milliseconds branchOf request).value.commitsAfterTag) = ("", 0) ∨
      ∃ line, firstLine? (linesOf? tools milliseconds request .description) = some line ∧
        readDescription? line =
          some ((collect tools milliseconds branchOf request).value.tag,
            (collect tools milliseconds branchOf request).value.commitsAfterTag) := by
  by_cases h : (logFacts tools milliseconds request).commitHash = ""
  · rw [(collect_of_no_commit branchOf h).1]
    exact Or.inl rfl
  · rw [(collect_of_commit branchOf h).1]
    dsimp only
    rw [getD_fst_snd]
    cases hread : (firstLine? (linesOf? tools milliseconds request .description)).bind readDescription? with
    | none => exact Or.inl rfl
    | some tag =>
      obtain ⟨line, hline, htag⟩ := Option.bind_eq_some_iff.1 hread
      exact Or.inr ⟨line, hline, htag⟩

/-- Every command has its own group of facts. Without a commit, only the log has been run and all other
groups are as they were. With one, each command has been run once, and its group is what its own answer
holds; a command that has failed or has answered nothing to use leaves its group as it was, or the branch to
be decided without a reported one. Two collections in which a command answers the same have its group in
common, whatever the other commands do. -/
theorem collect_isolates (tools : Toolbox) (milliseconds : Nat) (branchOf : String → String)
    (request : Request) :
    let r := collect tools milliseconds branchOf request
    let outcome (c : Command) := tools.outcome milliseconds (c.call request)
    (r.value.vcs = "git" ∧ r.value.isMixed = false ∧
      ∀ s : Snapshot, s.vcs = "git" → s.isMixed = false → (∀ c : Command, c.group r.value = c.group s) →
        r.value = s) ∧
    (r.value.commitHash ≠ "" ↔
      ∃ first rest, (outcome .log).lines? = some (first :: rest) ∧ HoldsHash first) ∧
    Command.log.group r.value = Command.log.ofAnswer branchOf (outcome .log).lines? ∧
    (r.value.commitHash = "" →
      callsOf r.record = [Command.log.call request] ∧
      ∀ c : Command, c ≠ .log → c.group r.value = c.group {}) ∧
    (r.value.commitHash ≠ "" →
      callsOf r.record = Command.all.map (Command.call request) ∧
      ∀ c : Command, c.group r.value = c.ofAnswer branchOf (outcome c).lines? ∧
        ((outcome c).Fails ∨ (∃ lines, (outcome c).lines? = some lines ∧ c.read? branchOf lines = none) →
          (c ≠ .branch → c.group r.value = c.group {}) ∧ (c = .branch → r.value.branch = branchOf ""))) ∧
    (∀ tools' milliseconds' branchOf' request',
      let s' := (collect tools' milliseconds' branchOf' request').value
      r.value.commitHash ≠ "" → s'.commitHash ≠ "" →
      ∀ c : Command, (outcome c).lines? = (tools'.outcome milliseconds' (c.call request')).lines? →
        (c = .branch → branchOf = branchOf') → c.group r.value = c.group s') ∧
    ((r.value.tag, r.value.commitsAfterTag) = ("", 0) ∨
      ∃ lines line, (outcome .description).lines? = some lines ∧ firstLine? (some lines) = some line ∧
        readDescription? line = some (r.value.tag, r.value.commitsAfterTag)) := by
  intro r outcome
  refine ⟨?_, commitHash_collect_ne_iff, group_log_collect branchOf, ?_, ?_, ?_, ?_⟩
  · obtain ⟨hvcs, hmixed⟩ : r.value.vcs = "git" ∧ r.value.isMixed = false := vcs_isMixed_collect
    refine ⟨hvcs, hmixed, ?_⟩
    intro s hvcs' hmixed' hgroup
    exact Command.eq_of_group_eq (hvcs.trans hvcs'.symm) (hmixed.trans hmixed'.symm) hgroup
  · intro h
    exact ⟨(collect_of_no_commit branchOf (commitHash_collect branchOf ▸ h)).2,
      fun c hc => group_collect_of_no_commit h hc⟩
  · intro h
    refine ⟨(collect_of_commit branchOf (commitHash_collect branchOf ▸ h)).2, ?_⟩
    intro c
    refine ⟨group_collect branchOf h c, ?_⟩
    intro hfail
    have hgroup : c.group r.value = c.unknown branchOf := group_collect_of_unusable h hfail
    refine ⟨fun hc => hgroup.trans (Command.unknown_eq hc), ?_⟩
    intro hc
    subst hc
    exact hgroup
  · intro tools' milliseconds' branchOf' request' s' h h' c hanswer hbranch
    exact group_collect_congr h h' hanswer hbranch
  · refine Or.imp id ?_ (@tag_collect tools milliseconds branchOf request)
    intro h
    obtain ⟨line, hline, htag⟩ := h
    cases hlines : linesOf? tools milliseconds request .description with
    | none =>
      rw [hlines] at hline
      cases hline
    | some lines => exact ⟨lines, line, hlines, hlines ▸ hline, htag⟩

/-- The number of commits is not there in time, the address is not set, the branch is not to be had and the
commit is described by nothing to use; changed files are still found, and the environment names the branch. -/
theorem collect_isolates_failures :
    let tools : Toolbox :=
      { has := fun _ => true
        outcome := fun _ call =>
          match call.arguments.head? with
          | some "log" =>
            .ended (.code 0)
              [.output (encodeUtf8 "0123456789ABCDEF0123456789abcdef01234567\n\n\nCarol\n"), .errors []]
          | some "rev-list" => .overran
          | some "status" => .ended (.code 0) [.errors [], .output (encodeUtf8 " M a\n")]
          | some "config" => .ended (.code 1) [.output [], .errors []]
          | some "rev-parse" => .notStarted .missing
          | _ => .ended (.code 0) [.output (encodeUtf8 "v1.2.3\n"), .errors []] }
    let branchOf := CiBranch.gitlab.branch fun name =>
      if name = "GITLAB_CI" then some "true"
      else if name = "CI_COMMIT_REF_NAME" then some "topic" else none
    let request : Request := ⟨".", ".", ""⟩
    let r := collect tools 1000 branchOf request
    r.value.commitHash ≠ "" ∧
      (tools.outcome 1000 (Command.count.call request)).Fails ∧
      (tools.outcome 1000 (Command.address.call request)).Fails ∧
      (tools.outcome 1000 (Command.branch.call request)).Fails ∧
      callsOf r.record = Command.all.map (Command.call request) ∧
      r.value.revision = 0 ∧ r.value.repositoryUrl = "" ∧ r.value.branch = "topic" ∧
      r.value =
        { vcs := "git"
          commitHash := "0123456789abcdef0123456789abcdef01234567"
          committerName := "Carol"
          isModified := true
          branch := "topic" } := by
  intro tools branchOf request r
  have hvalue : r.value =
      { vcs := "git"
        commitHash := "0123456789abcdef0123456789abcdef01234567"
        committerName := "Carol"
        isModified := true
        branch := "topic" } := by decide +kernel
  have hhash : r.value.commitHash ≠ "" := by
    rw [hvalue]
    decide
  have hcount : (tools.outcome 1000 (Command.count.call request)).Fails := .overran
  have haddress : (tools.outcome 1000 (Command.address.call request)).Fails := .status (by decide)
  have hbranch : (tools.outcome 1000 (Command.branch.call request)).Fails := .notStarted .missing
  obtain ⟨hcalls, hgroups⟩ := (collect_isolates tools 1000 branchOf request).2.2.2.2.1 hhash
  exact ⟨hhash, hcount, haddress, hbranch, hcalls, ((hgroups .count).2 (Or.inl hcount)).1 (by decide),
    ((hgroups .address).2 (Or.inl haddress)).1 (by decide), ((hgroups .branch).2 (Or.inl hbranch)).2 rfl,
    hvalue⟩

end BuildVersion.Git
