import BuildVersion.Proofs.Subversion.Spelling
import BuildVersion.Proofs.Text.Trimming
import BuildVersion.Proofs.TimeScheme.Grammar

/-!
# Revision ranges

Subversion prints the revisions of a working copy as one number or two, with a letter for each sort of change. Main
statement: such ranges are read back, everything else that does not open with a digit is no revision, and without a
revision or the information on it the facts of a working copy are those of its range (`ranges_read_back`).
-/

namespace BuildVersion.Subversion

open Text
open TimeScheme (Digits)

/-- The highest revision behind a colon, or nothing. -/
inductive HighestPart : List Char → Bool → Prop where
  | single : HighestPart [] false
  | highest {ds : List Char} {n : Nat} :
    Digits ds n →
    HighestPart (':' :: ds) true

/-- The letters for changed files, for switched directories and for partial working copies. -/
def IsMark (c : Char) : Prop := c = 'M' ∨ c = 'S' ∨ c = 'P'

/-- How the range of a working copy is printed. A revision that is no word counts as zero. -/
inductive Prints : List Char → Range → Prop where
  | mk {ds highest marks : List Char} {n : Nat} {isMixed : Bool} :
    Digits ds n →
    HighestPart highest isMixed →
    (∀ c ∈ marks, IsMark c) →
    Prints (ds ++ (highest ++ marks))
      { revision := if n < 2 ^ 64 then UInt64.ofNat n else 0
        isMixed
        isModified := decide (marks ≠ []) }

variable {cs marks : List Char} {line : String} {range : Range}

/-! ### Ranges -/

lemma IsMark.not_isDigit {c : Char} (h : IsMark c) : isDigit c = false := by
  obtain rfl | rfl | rfl := h <;> decide

lemma IsMark.not_isBlank {c : Char} (h : IsMark c) : isBlank c = false := by
  obtain rfl | rfl | rfl := h <;> decide

lemma endsDigits_of_isMark (hmarks : ∀ c ∈ marks, IsMark c) : EndsDigits marks :=
  fun c hc => (hmarks c (List.mem_of_head? hc)).not_isDigit

lemma HighestPart.not_isBlank {highest : List Char} {isMixed : Bool} (h : HighestPart highest isMixed) :
    ∀ c ∈ highest, isBlank c = false := by
  cases h with
  | single => exact nofun
  | highest hds =>
    refine List.forall_mem_cons.2 ⟨by decide, ?_⟩
    exact fun c hc => not_isBlank_of_isDigit (hds.digits c hc)

/-- A printed range has no blanks to be trimmed. -/
lemma Prints.isTrimmed (h : Prints cs range) : IsTrimmed cs := by
  obtain ⟨hds, hhighest, hmarks⟩ := h
  refine trim_eq_self_iff.1 (trim_eq_self ?_)
  simp only [List.forall_mem_append]
  exact ⟨fun c hc => not_isBlank_of_isDigit (hds.digits c hc), hhighest.not_isBlank,
    fun c hc => (hmarks c hc).not_isBlank⟩

/-- The highest revision is split off, and the marks are left. -/
lemma splitRange_append {highest : List Char} {isMixed : Bool} (h : HighestPart highest isMixed)
    (hmarks : ∀ c ∈ marks, IsMark c) : splitRange (highest ++ marks) = (isMixed, marks) := by
  cases h with
  | single =>
    rw [List.nil_append]
    unfold splitRange
    split
    · next rest =>
      obtain h | h | h := hmarks ':' List.mem_cons_self <;> exact absurd h (by decide)
    · rfl
  | @highest ds n hds =>
    have hends := endsDigits_of_isMark hmarks
    have hne : ds.isEmpty = false := List.isEmpty_eq_false_iff.2 hds.nonempty
    simp only [List.cons_append, splitRange, takeWhile_run_append hds.digits hends,
      dropWhile_run_append hds.digits hends, hne, Bool.false_eq_true, if_false]

/-- The lowest revision ends before the highest one or the marks. -/
lemma HighestPart.endsDigits {highest : List Char} {isMixed : Bool} (h : HighestPart highest isMixed)
    (hmarks : ∀ c ∈ marks, IsMark c) : EndsDigits (highest ++ marks) := by
  cases h with
  | single => exact endsDigits_of_isMark hmarks
  | highest hds => exact endsDigits_cons (by decide)

/-- A printed range is read back. -/
lemma read_of_prints (h : Prints (trim line.toList) range) : Range.read line = range := by
  rw [Range.read]
  generalize trim line.toList = cs at h
  obtain @⟨ds, highest, marks, n, isMixed, hds, hhighest, hmarks⟩ := h
  have hends := hhighest.endsDigits hmarks
  have hfeed : '\n' ∉ marks := by
    intro hmem
    obtain h | h | h := hmarks _ hmem <;> exact absurd h (by decide)
  have htrim : trim marks = marks := trim_eq_self fun c hc => (hmarks c hc).not_isBlank
  have hmodified : (!marks.isEmpty) = decide (marks ≠ []) := by
    cases marks <;> rfl
  simp only [takeWhile_run_append hds.digits hends, dropWhile_run_append hds.digits hends,
    TimeScheme.natural?_eq_some_iff_digits.2 hds, splitRange_append hhighest hmarks, if_neg hfeed, htrim, hmodified]
  rfl

/-- What does not open with a digit is no range. -/
lemma read_of_endsDigits (h : EndsDigits (trim line.toList)) : Range.read line = {} := by
  have hnone : (trim line.toList).takeWhile isDigit = [] := by
    rw [← List.nil_append (trim line.toList)]
    exact takeWhile_run_append nofun h
  rw [Range.read]
  simp only [hnone]
  rfl

/-! ### Facts of the range alone -/

variable {tools : Toolbox} {w : List String} {milliseconds : Nat} {request : Request}

/-- The call that asks for the range of a working copy. -/
def versionCall (w : List String) (path : String) : ToolCall :=
  ⟨"svnversion", [], ((Path.ofText path).full w).text⟩

/-- The range that is found for a working copy. -/
def rangeFound (tools : Toolbox) (w : List String) (milliseconds : Nat) (path : String) : Range :=
  rangeOf (tools.outcome milliseconds (versionCall w path)).lines?

/-- The snapshot that only the range has told of. -/
def ofRange (range : Range) : Snapshot where
  vcs := "svn"
  revision := range.revision
  isMixed := range.isMixed
  isModified := range.isModified

/-- The range is read from the first line that is not blank. -/
lemma rangeOf_append_cons {before after : List String} (hbefore : ∀ l ∈ before, isBlankText l = true)
    (hline : isBlankText line = false) : rangeOf (some (before ++ line :: after)) = Range.read line := by
  have hfind : (before ++ line :: after).find? (fun l => !isBlankText l) = some line := by
    refine List.find?_eq_some_iff_append.2 ⟨by rw [hline]; rfl, before, after, rfl, ?_⟩
    intro l hl
    rw [hbefore l hl]
    rfl
  simp only [rangeOf, Option.getD_some, hfind]

/-- An answer without such a line gives no range. -/
lemma rangeOf_of_blank {lines : Option (List String)} (h : ∀ l ∈ lines.getD [], isBlankText l = true) :
    rangeOf lines = {} := by
  have hfind : (lines.getD []).find? (fun l => !isBlankText l) = none := by
    refine List.find?_eq_none.2 fun l hl => ?_
    rw [h l hl]
    decide
  simp only [rangeOf, hfind]

/-- Without a revision, nothing else is asked for. -/
lemma collect_of_no_revision (h : (rangeFound tools w milliseconds request.path).revision = 0) :
    (collect tools w milliseconds request).value = ofRange (rangeFound tools w milliseconds request.path) ∧
      callsOf (collect tools w milliseconds request).record = [versionCall w request.path] := by
  rw [rangeFound, versionCall] at h
  unfold collect
  simp only [Recorded.value_bind, Recorded.record_bind, callsOf_append, Toolbox.value_run, Toolbox.callsOf_run,
    if_pos h]
  exact ⟨rfl, rfl⟩

/-- Without the information on the revision, all facts are those of the range. -/
lemma collect_of_no_information (h : (rangeFound tools w milliseconds request.path).revision ≠ 0)
    (hinfo : (tools.outcome milliseconds
      (infoCall w request.path (rangeFound tools w milliseconds request.path).revision)).lines? = none) :
    (collect tools w milliseconds request).value = ofRange (rangeFound tools w milliseconds request.path) ∧
      callsOf (collect tools w milliseconds request).record =
        [versionCall w request.path,
          infoCall w request.path (rangeFound tools w milliseconds request.path).revision] := by
  rw [infoCall, rangeFound, versionCall] at hinfo
  rw [rangeFound, versionCall] at h
  unfold collect
  simp only [Recorded.value_bind, Recorded.record_bind, callsOf_append, Toolbox.value_run, Toolbox.callsOf_run,
    if_neg h, hinfo]
  exact ⟨rfl, rfl⟩

/-- A range is read back as it was printed, with any blanks around it, and a text that does not open with a digit is no
range. The range of a working copy is read from the first line that is not blank. Where there is no such line, or it holds
no range or no revision, nothing else is asked for, and where the information on the revision is not to be had, nothing else
is known: then all facts but those of the range are unknown. -/
theorem ranges_read_back :
    (∀ (line : String) cs range front back, Prints cs range → line.toList = front ++ (cs ++ back) →
      (∀ c ∈ front, isBlank c = true) → (∀ c ∈ back, isBlank c = true) → Range.read line = range) ∧
    (∀ line : String, EndsDigits (trim line.toList) → Range.read line = {}) ∧
    ∀ tools w milliseconds request,
      let r := collect tools w milliseconds request
      let answer := (tools.outcome milliseconds (versionCall w request.path)).lines?
      ((∀ l ∈ answer.getD [], isBlankText l = true) →
        r.value = { vcs := "svn" } ∧ callsOf r.record = [versionCall w request.path]) ∧
      ∀ before line after, answer = some (before ++ line :: after) → (∀ l ∈ before, isBlankText l = true) →
        isBlankText line = false →
        let range := Range.read line
        (EndsDigits (trim line.toList) →
          r.value = { vcs := "svn" } ∧ callsOf r.record = [versionCall w request.path]) ∧
        (range.revision = 0 → r.value = ofRange range ∧ callsOf r.record = [versionCall w request.path]) ∧
        (range.revision ≠ 0 → (tools.outcome milliseconds (infoCall w request.path range.revision)).Fails →
          r.value = ofRange range ∧
            callsOf r.record = [versionCall w request.path, infoCall w request.path range.revision]) := by
  refine ⟨?_, fun _ => read_of_endsDigits, ?_⟩
  · intro line cs range front back hprints hline hfront hback
    have htrim : trim line.toList = cs := by
      rw [hline]
      exact hprints.isTrimmed.trim_append hfront hback
    exact read_of_prints (htrim ▸ hprints)
  · intro tools w milliseconds request r answer
    -- both cases without a range end alike
    have hnothing : rangeFound tools w milliseconds request.path = {} →
        r.value = { vcs := "svn" } ∧ callsOf r.record = [versionCall w request.path] := by
      intro hrange
      have hzero : (rangeFound tools w milliseconds request.path).revision = 0 := by rw [hrange]
      have hfacts := collect_of_no_revision hzero
      rw [hrange] at hfacts
      exact hfacts
    refine ⟨fun hblank => hnothing (rangeOf_of_blank hblank), ?_⟩
    intro before line after hanswer hbefore hline range
    have hrange : rangeFound tools w milliseconds request.path = range := by
      rw [rangeFound, show (tools.outcome milliseconds (versionCall w request.path)).lines? = answer from rfl, hanswer]
      exact rangeOf_append_cons hbefore hline
    refine ⟨fun hends => hnothing (hrange.trans (read_of_endsDigits hends)), ?_, ?_⟩
    · intro hzero
      rw [← hrange]
      exact collect_of_no_revision (hrange ▸ hzero)
    · intro hpositive hfails
      rw [← hrange] at hpositive hfails ⊢
      exact collect_of_no_information hpositive (ToolOutcome.lines?_eq_none_iff.2 hfails)

/-- A working copy of which only the range is to be had. -/
def rangeTools (text : String) : Toolbox where
  has _ := true
  outcome _ call :=
    if call.program = "svnversion" then .ended (.code 0) [.output (encodeUtf8 text), .errors []] else .overran

/-- Leading zeros, a revision that is no word, a directory without revisions, and information that is not there in time. -/
theorem ranges_read_back_overrun :
    let exported := collect (rangeTools "\nexported\n") [] 1000 ⟨".", ".", ""⟩
    let large := collect (rangeTools "18446744073709551616P\n") [] 1000 ⟨".", ".", ""⟩
    let mixed := collect (rangeTools " 1230:1234MS\n") [] 1000 ⟨".", ".", ""⟩
    Prints ("0012".toList ++ (":0034".toList ++ "S".toList)) ⟨12, true, true⟩ ∧
      Range.read "\t0012:0034S \n" = ⟨12, true, true⟩ ∧
      EndsDigits (trim " r12".toList) ∧ Range.read " r12" = {} ∧
      (collect (rangeTools "") [] 1000 ⟨".", ".", ""⟩).value = { vcs := "svn" } ∧
      exported.value = { vcs := "svn" } ∧ callsOf exported.record = [versionCall [] "."] ∧
      large.value = { vcs := "svn", isModified := true } ∧ callsOf large.record = [versionCall [] "."] ∧
      mixed.value = { vcs := "svn", revision := 1230, isMixed := true, isModified := true } ∧
      callsOf mixed.record = [versionCall [] ".", infoCall [] "." 1230] := by
  intro exported large mixed
  obtain ⟨hback, hnone, hcollect⟩ := ranges_read_back
  have hdigits : Digits "0012".toList 12 := TimeScheme.natural?_eq_some_iff_digits.1 (by decide)
  have hhighest : Digits "0034".toList 34 := TimeScheme.natural?_eq_some_iff_digits.1 (by decide)
  have hmarks : ∀ c ∈ "S".toList, IsMark c := by
    intro c hc
    exact .inr (.inl (List.mem_singleton.1 hc))
  have hprints : Prints ("0012".toList ++ (":0034".toList ++ "S".toList)) ⟨12, true, true⟩ :=
    .mk hdigits (.highest hhighest) hmarks
  have hends : EndsDigits (trim " r12".toList) := by
    rintro _ ⟨⟩
    decide
  have hexported := (hcollect (rangeTools "\nexported\n") [] 1000 ⟨".", ".", ""⟩).2 [""] "exported" []
    (by decide +kernel) (by decide) (by decide)
  have hlarge := (hcollect (rangeTools "18446744073709551616P\n") [] 1000 ⟨".", ".", ""⟩).2 [] "18446744073709551616P" []
    (by decide +kernel) (by decide) (by decide)
  have hmixed := (hcollect (rangeTools " 1230:1234MS\n") [] 1000 ⟨".", ".", ""⟩).2 [] " 1230:1234MS" []
    (by decide +kernel) (by decide) (by decide)
  have hlargeRange : Range.read "18446744073709551616P" = ⟨0, false, true⟩ := by decide +kernel
  have hmixedRange : Range.read " 1230:1234MS" = ⟨1230, true, true⟩ := by decide +kernel
  rw [hlargeRange] at hlarge
  rw [hmixedRange] at hmixed
  have hword : EndsDigits (trim "exported".toList) := by
    rintro _ ⟨⟩
    decide
  obtain ⟨hvalue, hcalls⟩ := hexported.1 hword
  obtain ⟨hvalue', hcalls'⟩ := hlarge.2.1 rfl
  obtain ⟨hvalue'', hcalls''⟩ := hmixed.2.2 (by decide) .overran
  have hread : Range.read "\t0012:0034S \n" = ⟨12, true, true⟩ :=
    hback _ _ _ "\t".toList " \n".toList hprints rfl (List.all_eq_true.1 rfl) (List.all_eq_true.1 rfl)
  have hsilent := (hcollect (rangeTools "") [] 1000 ⟨".", ".", ""⟩).1 (by decide +kernel)
  exact ⟨hprints, hread, hends, hnone _ hends, hsilent.1, hvalue, hcalls, hvalue', hcalls', hvalue'', hcalls''⟩

end BuildVersion.Subversion
