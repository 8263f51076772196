import BuildVersion.Proofs.Git.Commands

/-!
# Changed files of a Git working copy

Git names changed files, one in a line, and the names of files need not be texts. Main statement: a working
copy is reported as modified exactly if the first line that is not blank is a text
(`isModified_iff_first_line`), so that changes go unnoticed where it is none
(`isModified_misses_foreign_name`).
-/

namespace BuildVersion.Git

open Text

/-- The line that is found to be not blank is the first of its kind. -/
lemma isModified_textLines_iff {bytes : List UInt8} :
    isModified (some (textLines bytes)) = true ↔
      ∃ before line after, byteLines bytes = before ++ line :: after ∧ (∀ l ∈ before, IsBlankLine l) ∧
        ¬ IsBlankLine line ∧ (lineText? line).isSome = true := by
  have htext : ∀ line, (∃ s, lineText? line = some s ∧ isBlankText s = false) ↔
      ¬ IsBlankLine line ∧ (lineText? line).isSome = true := by
    intro line
    cases hline : lineText? line with
    | none => simp
    | some s => simp [IsBlankLine, hline]
  have hread := @any_not_isBlankText_iff (byteLines bytes)
  simp only [exists_and_left, htext] at hread
  exact hread

/-- Where all lines are texts, it does not matter which of them is the first that is not blank. -/
lemma exists_first_line_iff {lines : List (List UInt8 × Bool)}
    (h : ∀ line ∈ lines, (lineText? line).isSome = true) :
    (∃ before line after, lines = before ++ line :: after ∧ (∀ l ∈ before, IsBlankLine l) ∧
        ¬ IsBlankLine line ∧ (lineText? line).isSome = true) ↔ ∃ line ∈ lines, ¬ IsBlankLine line := by
  classical
  constructor
  · intro hfirst
    obtain ⟨before, line, after, rfl, _, hline, _⟩ := hfirst
    exact ⟨line, by simp, hline⟩
  · intro hline
    obtain ⟨first, hfirst⟩ := Option.isSome_iff_exists.1
      ((List.find?_isSome (p := fun line => decide (¬ IsBlankLine line))).2 (by simpa using hline))
    obtain ⟨hblank, before, after, rfl, hbefore⟩ := List.find?_eq_some_iff_append.1 hfirst
    refine ⟨before, first, after, rfl, ?_, of_decide_eq_true hblank, h first (by simp)⟩
    intro l hl
    simpa using hbefore l hl

lemma isModified_collect {tools : Toolbox} {milliseconds : Nat} {branchOf : String → String}
    {request : Request} {bytes : List UInt8}
    (hcommit : (collect tools milliseconds branchOf request).value.commitHash ≠ "")
    (hstatus : (tools.outcome milliseconds (Command.status.call request)).Wrote bytes) :
    (collect tools milliseconds branchOf request).value.isModified = isModified (some (textLines bytes)) := by
  rw [commitHash_collect] at hcommit
  rw [(collect_of_commit branchOf hcommit).1]
  dsimp only
  rw [linesOf?, hstatus.lines?_eq]

/-- The status of a working copy with a commit is modified exactly if the first line that is not blank is a
text. Where all lines are texts, it is modified exactly if any line is not blank, and so for an answer in
UTF-8 exactly if the answer is not blank. -/
theorem isModified_iff_first_line (tools : Toolbox) (milliseconds : Nat) (branchOf : String → String)
    (request : Request) (bytes : List UInt8)
    (hcommit : (collect tools milliseconds branchOf request).value.commitHash ≠ "")
    (hstatus : (tools.outcome milliseconds (Command.status.call request)).Wrote bytes) :
    let s := (collect tools milliseconds branchOf request).value
    (s.isModified = true ↔
      ∃ before line after, byteLines bytes = before ++ line :: after ∧ (∀ l ∈ before, IsBlankLine l) ∧
        ¬ IsBlankLine line ∧ (lineText? line).isSome = true) ∧
    ((∀ line ∈ byteLines bytes, (lineText? line).isSome = true) →
      (s.isModified = true ↔ ∃ line ∈ byteLines bytes, ¬ IsBlankLine line)) ∧
    (∀ text, decodeUtf8? bytes = some text →
      (s.isModified = true ↔ ∃ line ∈ byteLines bytes, ¬ IsBlankLine line) ∧
      (s.isModified = true ↔ ∃ c ∈ text.toList, isBlank c = false)) := by
  intro s
  have hfirst : s.isModified = true ↔
      ∃ before line after, byteLines bytes = before ++ line :: after ∧ (∀ l ∈ before, IsBlankLine l) ∧
        ¬ IsBlankLine line ∧ (lineText? line).isSome = true := by
    rw [isModified_collect hcommit hstatus]
    exact isModified_textLines_iff
  have htexts : (∀ line ∈ byteLines bytes, (lineText? line).isSome = true) →
      (s.isModified = true ↔ ∃ line ∈ byteLines bytes, ¬ IsBlankLine line) :=
    fun h => hfirst.trans (exists_first_line_iff h)
  refine ⟨hfirst, htexts, ?_⟩
  intro text htext
  rw [decodeUtf8?_eq_some_iff] at htext
  subst htext
  have hany := htexts fun line hline => isSome_lineText?_of_mem hline
  exact ⟨hany, hany.trans exists_not_isBlankLine_iff⟩

/-- The tools of a working copy whose last commit is known and of whose files these have changed. -/
def toolsOfStatus (bytes : List UInt8) : Toolbox where
  has _ := true
  outcome _ call :=
    match call.arguments.head? with
    | some "log" =>
      .ended (.code 0) [.output (encodeUtf8 "0123456789abcdef0123456789abcdef01234567\n"), .errors []]
    | some "status" => .ended (.code 0) [.errors [], .output bytes]
    | _ => .ended (.code 1) [.output [], .errors []]

lemma wrote_toolsOfStatus (bytes : List UInt8) (request : Request) :
    ((toolsOfStatus bytes).outcome 1000 (Command.status.call request)).Wrote bytes := .errorsFirst []

lemma commitHash_toolsOfStatus (bytes : List UInt8) (request : Request) :
    (collect (toolsOfStatus bytes) 1000 id request).value.commitHash ≠ "" := by
  have hlog : (logFacts (toolsOfStatus bytes) 1000 request).commitHash =
      (readLog (textLines (encodeUtf8 "0123456789abcdef0123456789abcdef01234567\n"))).commitHash := rfl
  rw [commitHash_collect, hlog]
  decide +kernel

/-- A blank line, and a changed file whose name is a text beyond ASCII. -/
theorem isModified_iff_first_line_umlaut :
    let bytes := encodeUtf8 " \r\n M Grüße.txt\n"
    let request : Request := ⟨".", ".", ""⟩
    let s := (collect (toolsOfStatus bytes) 1000 id request).value
    s.commitHash ≠ "" ∧ ((toolsOfStatus bytes).outcome 1000 (Command.status.call request)).Wrote bytes ∧
      (∃ line ∈ byteLines bytes, ¬ IsBlankLine line) ∧ s.isModified = true := by
  intro bytes request s
  have hcommit : s.commitHash ≠ "" := commitHash_toolsOfStatus bytes request
  have hstatus := wrote_toolsOfStatus bytes request
  have htext : decodeUtf8? bytes = some " \r\n M Grüße.txt\n" := decodeUtf8?_eq_some_iff.2 rfl
  obtain ⟨hany, hchars⟩ :=
    (isModified_iff_first_line (toolsOfStatus bytes) 1000 id request bytes hcommit hstatus).2.2 _ htext
  have hmodified : s.isModified = true := hchars.2 ⟨'M', by decide, by decide⟩
  exact ⟨hcommit, hstatus, hany.1 hmodified, hmodified⟩

/-- A changed file whose name is no text in UTF-8 is not noticed, though its line is not blank. -/
theorem isModified_misses_foreign_name :
    let bytes : List UInt8 := encodeUtf8 " M caf" ++ [0xE9] ++ encodeUtf8 ".txt\n"
    let request : Request := ⟨".", ".", ""⟩
    let s := (collect (toolsOfStatus bytes) 1000 id request).value
    s.commitHash ≠ "" ∧ ((toolsOfStatus bytes).outcome 1000 (Command.status.call request)).Wrote bytes ∧
      (∃ line ∈ byteLines bytes, ¬ IsBlankLine line) ∧ s.isModified = false := by
  intro bytes request s
  have hcommit : s.commitHash ≠ "" := commitHash_toolsOfStatus bytes request
  have hstatus := wrote_toolsOfStatus bytes request
  have hlines : byteLines bytes = [(encodeUtf8 " M caf" ++ [0xE9] ++ encodeUtf8 ".txt", true)] := by
    decide +kernel
  have hnone : lineText? (encodeUtf8 " M caf" ++ [0xE9] ++ encodeUtf8 ".txt", true) = none := by
    decide +kernel
  refine ⟨hcommit, hstatus, ⟨_, hlines ▸ List.mem_cons_self, ?_⟩, ?_⟩
  · intro hblank
    obtain ⟨text, htext, _⟩ := hblank
    rw [hnone] at htext
    cases htext
  · rw [isModified_collect hcommit hstatus, Bool.eq_false_iff]
    intro hmodified
    obtain ⟨before, line, after, hsplit, _, _, htext⟩ := isModified_textLines_iff.1 hmodified
    rw [hlines] at hsplit
    cases before with
    | nil =>
      rw [← (List.cons.inj hsplit).1, hnone] at htext
      cases htext
    | cons l before => simp at hsplit

end BuildVersion.Git
