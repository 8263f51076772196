import BuildVersion.Proofs.Release.Label
import BuildVersion.Proofs.SemVer.Reading
import BuildVersion.Text.Split

/-!
# Unique readability

A development version is written without escapes, and its suffix can be any text. Its parts can be told
from its text all the same: the core from the left end, as it has no hyphen, and the other parts from the
right end, where every part is a run of characters that what stands before it does not end with. Main
statement: `development_text_determines_parts`.
-/

namespace BuildVersion

open Text

lemma Version.hyphen_notMem_text (v : Version) : '-' ∉ v.text.toList := by
  have hdigits : ∀ n : UInt64, '-' ∉ Nat.toDigits 10 n.toNat := fun n h =>
    absurd (isDigit_of_mem_toDigits h) (by decide)
  rw [SemVer.toList_core_text]
  simp [hdigits]

/-- A core is read back from its text. -/
lemma Version.text_inj {v w : Version} (h : v.text = w.text) : v = w := by
  have hread : ∀ u : Version, SemVer.read u.text = .ok { core := u } := by
    intro u
    have hends : EndsDigits "".toList := endsDigits_nil
    have hcore := SemVer.read_core_append u hends
    rw [String.append_empty] at hcore
    exact hcore
  have hv := hread v
  rw [h, hread w] at hv
  simp only [Except.ok.injEq, SemVer.mk.injEq] at hv
  exact hv.1.symm

/-- No branch is named with a dot. -/
lemma Branch.dot_notMem_of_identifier? {b : Branch} {identifier : String}
    (h : b.identifier? = some identifier) : '.' ∉ identifier.toList := by
  intro hdot
  exact absurd (isIdentifierChar_of_identifier? h '.' hdot) (by decide)

namespace Label

lemma lead_inj {mark : Char} {suffix suffix' : Option String} (h : lead mark suffix = lead mark suffix') :
    suffix = suffix' := by
  cases suffix with
  | none =>
    cases suffix' with
    | none => rfl
    | some suffix' => simp [lead] at h
  | some suffix =>
    cases suffix' with
    | none => simp [lead] at h
    | some suffix' =>
      rw [lead, lead, List.append_cancel_right_eq] at h
      rw [String.toList_inj.1 h]

/-- A branch leaves a dot before the count, which a missing one does not. -/
lemma lead_ne_concat {suffix : Option String} {cs : List Char} : lead '-' suffix ≠ cs ++ ['.'] := by
  intro h
  have hlast : '.' ∈ (lead '-' suffix).getLast? := by
    rw [h, List.getLast?_concat]
    rfl
  exact absurd (mem_getLast?_lead hlast) (by decide)

/-- The suffix and the branch can be told from what stands before the count, as no branch has a dot. -/
lemma opening_inj {l l' : Label} (hl : ∀ branch ∈ l.branch, '.' ∉ branch.toList)
    (hl' : ∀ branch ∈ l'.branch, '.' ∉ branch.toList) (h : l.opening = l'.opening) :
    l.suffix = l'.suffix ∧ l.branch = l'.branch := by
  obtain ⟨suffix, branch, count⟩ := l
  obtain ⟨suffix', branch', count'⟩ := l'
  cases branch with
  | none =>
    cases branch' with
    | none => exact ⟨lead_inj h, rfl⟩
    | some branch' => exact absurd h lead_ne_concat
  | some branch =>
    cases branch' with
    | none => exact absurd h.symm lead_ne_concat
    | some branch' =>
      -- Both branches are the last runs without a dot.
      have hrun : ∀ {branch : String}, '.' ∉ branch.toList → ∀ c ∈ branch.toList, (c != '.') = true := by
        intro branch hdot c hc
        exact bne_iff_ne.2 fun e => hdot (e ▸ hc)
      have hlead : ∀ {suffix : Option String}, ∀ c ∈ (lead '.' suffix).getLast?, (c != '.') = false := by
        intro suffix c hc
        rw [mem_getLast?_lead hc]
        rfl
      have hcut := append_run_inj (hrun (hl branch rfl)) (hrun (hl' branch' rfl)) hlead hlead
        (List.append_cancel_right h)
      exact ⟨lead_inj hcut.1, congrArg some (String.toList_inj.1 hcut.2)⟩

/-- A label can be told from its text. -/
lemma text_inj {l l' : Label} (hl : ∀ branch ∈ l.branch, '.' ∉ branch.toList)
    (hl' : ∀ branch ∈ l'.branch, '.' ∉ branch.toList) (h : l.text = l'.text) : l = l' := by
  have hdigits : ∀ n : UInt64, ∀ c ∈ Nat.toDigits 10 n.toNat, isDigit c = true :=
    fun n c hc => isDigit_of_mem_toDigits hc
  have hopening : ∀ {l : Label}, ∀ c ∈ l.opening.getLast?, isDigit c = false := by
    intro l c hc
    rcases mem_getLast?_opening hc with rfl | rfl <;> decide
  have hlist := congrArg String.toList h
  rw [toList_text, toList_text] at hlist
  obtain ⟨hopen, hcount⟩ := append_run_inj (hdigits _) (hdigits _) hopening hopening hlist
  obtain ⟨hsuffix, hbranch⟩ := opening_inj hl hl' hopen
  obtain ⟨suffix, branch, count⟩ := l
  obtain ⟨suffix', branch', count'⟩ := l'
  cases hsuffix
  cases hbranch
  cases UInt64.toNat_inj.1 (toDigits_inj hcount)
  rfl

end Label

namespace Release

/-- Build metadata is what follows the last plus sign, if only letters and digits follow it. A label has a
dot or a hyphen behind every plus sign of its suffix. -/
lemma label_metadata_inj {l l' : Label} {build build' : Option String} (hbuild : PlainFragment build)
    (hbuild' : PlainFragment build')
    (h : l.text.toList ++ metadata build = l'.text.toList ++ metadata build') :
    l.text = l'.text ∧ build = build' := by
  have hdigits : ∀ n : UInt64, ∀ c ∈ Nat.toDigits 10 n.toNat, isAlphanumeric c = true := by
    intro n c hc
    simp [isAlphanumeric, isDigit_of_mem_toDigits hc]
  have hopening : ∀ {l : Label}, ∀ c ∈ l.opening.getLast?, isAlphanumeric c = false := by
    intro l c hc
    rcases Label.mem_getLast?_opening hc with rfl | rfl <;> decide
  have hplus : ∀ {l : Label}, ∀ c ∈ (l.text.toList ++ ['+']).getLast?, isAlphanumeric c = false := by
    intro l c hc
    rw [List.getLast?_concat] at hc
    cases hc
    decide
  have hmixed : ∀ {l l' : Label} {fragment : String}, PlainFragment (some fragment) →
      l.text.toList ++ metadata (some fragment) ≠ l'.text.toList := by
    intro l l' fragment hfragment e
    rw [metadata, List.append_cons, Label.toList_text l'] at e
    have hopen := (append_run_inj (hfragment fragment rfl) (hdigits _) hplus hopening e).1
    have hlast : '+' ∈ l'.opening.getLast? := by
      rw [← hopen, List.getLast?_concat]
      rfl
    rcases Label.mem_getLast?_opening hlast with e | e <;> exact absurd e (by decide)
  cases build with
  | none =>
    rw [metadata.eq_2, List.append_nil] at h
    cases build' with
    | none =>
      rw [metadata.eq_2, List.append_nil] at h
      exact ⟨String.toList_inj.1 h, rfl⟩
    | some fragment' => exact absurd h.symm (hmixed hbuild')
  | some fragment =>
    cases build' with
    | none =>
      rw [metadata.eq_2, List.append_nil] at h
      exact absurd h (hmixed hbuild)
    | some fragment' =>
      rw [metadata, metadata, List.append_cons, List.append_cons l'.text.toList] at h
      obtain ⟨hlabel, hfragment⟩ :=
        append_run_inj (hbuild fragment rfl) (hbuild' fragment' rfl) hplus hplus h
      exact ⟨String.toList_inj.1 (List.append_cancel_right hlabel),
        congrArg some (String.toList_inj.1 hfragment)⟩

/-- The core ends at the first hyphen. -/
lemma core_inj {core core' : Version} {cs cs' : List Char}
    (h : core.text.toList ++ '-' :: cs = core'.text.toList ++ '-' :: cs') : core = core' ∧ cs = cs' := by
  have hcut : ∀ (core : Version) (cs : List Char),
      cut? '-' (core.text.toList ++ '-' :: cs) = some (core.text.toList, cs) :=
    fun core cs => cut?_eq_some_iff.2 ⟨rfl, core.hyphen_notMem_text⟩
  have hboth := hcut core cs
  rw [h, hcut core' cs'] at hboth
  simp only [Option.some.injEq, Prod.mk.injEq] at hboth
  exact ⟨Version.text_inj (String.toList_inj.1 hboth.1.symm), hboth.2.symm⟩

/-- Two development versions of snapshots with the same text have the same parts, if their build fragments
are made of letters and digits. Nothing is asked of tags and branches. -/
theorem development_text_determines_parts {s s' : Snapshot} {defaultBranch defaultBranch' : Option String}
    {build build' fragment fragment' : Option String} {core core' : Version} {label label' : Label}
    (hbuild : PlainFragment build) (hbuild' : PlainFragment build')
    (h : ofSnapshot s defaultBranch build = .ok (.development core label fragment))
    (h' : ofSnapshot s' defaultBranch' build' = .ok (.development core' label' fragment'))
    (htext : (development core label fragment).text = (development core' label' fragment').text) :
    core = core' ∧ label.suffix = label'.suffix ∧ label.branch = label'.branch ∧
      label.count = label'.count ∧ fragment = fragment' := by
  obtain ⟨_, _, hlabel, hfragment⟩ := ofSnapshot_eq_development_iff.1 h
  obtain ⟨_, _, hlabel', hfragment'⟩ := ofSnapshot_eq_development_iff.1 h'
  have hlist := congrArg String.toList htext
  rw [toList_development, toList_development] at hlist
  obtain ⟨hcore, hrest⟩ := core_inj hlist
  have hplain : PlainFragment fragment := hfragment ▸ hbuild.filter
  have hplain' : PlainFragment fragment' := hfragment' ▸ hbuild'.filter
  obtain ⟨hlabels, hbuilds⟩ := label_metadata_inj hplain hplain' hrest
  have hdotless : ∀ branch ∈ label.branch, '.' ∉ branch.toList := by
    rw [hlabel]
    exact fun branch => Branch.dot_notMem_of_identifier?
  have hdotless' : ∀ branch ∈ label'.branch, '.' ∉ branch.toList := by
    rw [hlabel']
    exact fun branch => Branch.dot_notMem_of_identifier?
  cases Label.text_inj hdotless hdotless' hlabels
  exact ⟨hcore, rfl, rfl, rfl, hbuilds⟩

/-- Two tags with build metadata of their own, and two branches that are named alike. -/
theorem development_text_determines_parts_plus :
    let s : Snapshot := { tag := "1.0.0-rc+abc.x-3", commitsAfterTag := 5, branch := "a/b" }
    let s' : Snapshot := { tag := "v1.0-rc+abc.x-3", commitsAfterTag := 5, branch := "a_b" }
    let core : Version := ⟨1, 0, 1⟩
    let label : Label := ⟨some "rc+abc.x-3", some "a-b", 5⟩
    PlainFragment (some "0f") ∧
      ofSnapshot s none (some "0f") = .ok (.development core label (some "0f")) ∧
      ∃ core' label' fragment',
        ofSnapshot s' (some "main") (some "0f") = .ok (.development core' label' fragment') ∧
        (development core label (some "0f")).text = (development core' label' fragment').text ∧
        core = core' ∧ label.suffix = label'.suffix ∧ label.branch = label'.branch ∧
        label.count = label'.count ∧ some "0f" = fragment' := by
  intro s s' core label
  have hbuild : PlainFragment (some "0f") := by
    intro fragment hfragment
    cases hfragment
    exact List.all_eq_true.1 (by decide)
  have h : ofSnapshot s none (some "0f") = .ok (.development core label (some "0f")) :=
    Fallible.eq_ok_of_toOption (by decide +kernel)
  have h' : ofSnapshot s' (some "main") (some "0f") = .ok (.development core label (some "0f")) :=
    Fallible.eq_ok_of_toOption (by decide +kernel)
  exact ⟨hbuild, h, core, label, some "0f", h', rfl,
    development_text_determines_parts hbuild hbuild h h' rfl⟩

end Release

end BuildVersion
