import BuildVersion.Proofs.Release.Precedence
import BuildVersion.Proofs.Template.DottedTime
import BuildVersion.Proofs.Template.VersionToken
import BuildVersion.Proofs.Template.Written

/-!
# Versions with and without the commit hash

The placeholder for the version of a snapshot can ask for the commit hash as build metadata. This changes nothing
but the end of the text, and nothing at all in its short version, which ends before the label. Main statement:
`Template.release_variants_agree`.
-/

namespace BuildVersion

open Calendar Fallible Text

/-- The front of a text: as many characters as are asked for, or all of them where there are no more or no number is
given. -/
structure IsFront (text : String) (length : Option Nat) (front : String) : Prop where
  opens : front.toList <+: text.toList
  size : front.toList.length = length.elim text.toList.length (min · text.toList.length)

lemma isFront_truncate (text : String) (length : Option Nat) : IsFront text length (truncate text length) := by
  cases length with
  | none => exact ⟨List.prefix_rfl, rfl⟩
  | some n =>
    constructor
    · rw [truncate, String.toList_ofList]
      exact List.take_prefix n text.toList
    · rw [truncate, String.toList_ofList, List.length_take]
      rfl

/-- A positive number of characters leaves something of every text but the empty one. -/
lemma truncate_eq_empty_iff {text : String} {length : Option Nat} (h : ∀ n ∈ length, 0 < n) :
    truncate text length = "" ↔ text = "" := by
  cases length with
  | none => rfl
  | some n =>
    have hn : n ≠ 0 := Nat.ne_of_gt (h n rfl)
    rw [truncate, String.ofList_eq_empty_iff, List.take_eq_nil_iff, or_iff_right hn, String.toList_eq_nil_iff]

namespace Release

variable {s : Snapshot} {defaultBranch : Option String}

/-- The build fragment is written behind the version of a revision that is not tagged, unless it is empty. -/
lemma map_text_ofSnapshot (s : Snapshot) (defaultBranch : Option String) (hash : String) :
    (ofSnapshot s defaultBranch (some hash)).map text =
      ((ofSnapshot s defaultBranch none).map text).map fun text =>
        if s.isTagged = true ∨ hash = "" then text else text ++ "+" ++ hash := by
  cases htagged : s.isTagged with
  | true => simp [ofSnapshot, htagged, Except.map]
  | false =>
    rw [ofSnapshot_of_not_isTagged htagged, ofSnapshot_of_not_isTagged htagged]
    cases (basis s).1.nextPatch with
    | error e => rfl
    | ok next =>
      by_cases hhash : hash = ""
      · simp [hhash, Except.map, Option.filter]
      · simp [hhash, Except.map, Option.filter, text]

end Release

namespace Version

/-- The numbers of a version. -/
def numbers (v : Version) : List Nat := [v.major.toNat, v.minor.toNat, v.patch.toNat]

lemma text_eq_dotted (v : Version) : v.text = ShortVersion.dotted v.numbers := by
  apply String.toList_inj.1
  rw [SemVer.toList_core_text, ShortVersion.toList_dotted]
  simp [numbers]

end Version

namespace Release

/-- The short version of a development version is its core, as the hyphen behind it is no part of a number. -/
lemma read_development (core : Version) (label : Label) (build : Option String) :
    ShortVersion.WholeIf (∀ n ∈ core.numbers, n ≤ 65534) (ShortVersion.dotted core.numbers)
      (ShortVersion.read (development core label build).text) := by
  have hcount : 2 ≤ core.numbers.length ∧ core.numbers.length ≤ 4 := ⟨Nat.le_succ 2, Nat.le_succ 3⟩
  have htext := development_text core label build
  rw [Version.text_eq_dotted] at htext
  refine ShortVersion.read_dotted _ hcount htext ?_
  rw [String.toList_ofList]
  rintro _ ⟨⟩
  decide

/-- The numbers of the release that is next after the core which a snapshot is based on. -/
def nextNumbers (s : Snapshot) : List Nat :=
  [(basis s).1.major.toNat, (basis s).1.minor.toNat, (basis s).1.patch.toNat + 1]

/-- The version of a revision that is not tagged is shortened to the numbers of the next release, whatever stands
behind them. -/
lemma read_ofSnapshot {build : Option String} {version : Release} (htagged : s.isTagged = false)
    (h : ofSnapshot s defaultBranch build = .ok version) :
    ShortVersion.WholeIf (∀ n ∈ nextNumbers s, n ≤ 65534) (ShortVersion.dotted (nextNumbers s))
      (ShortVersion.read version.text) := by
  rw [ofSnapshot_of_not_isTagged htagged] at h
  obtain ⟨next, hnext, rfl⟩ := map_eq_ok_iff.1 h
  obtain ⟨hmajor, hminor, hpatch⟩ := Version.parts_of_nextPatch hnext
  have hnumbers : next.numbers = nextNumbers s := by rw [Version.numbers, hmajor, hminor, hpatch, nextNumbers]
  rw [← hnumbers]
  exact read_development next _ _

end Release

namespace Template

open Placeholder (HashPart LengthPart TextPart withoutBraces_iff)

variable {s : Snapshot} {context : BuildContext} {zone : Zone}

/-- A placeholder that is spelled is a template with nothing else in it, and has its own value. -/
lemma value_resolve_spelled {inner text : String} {token : Token} (h : Token.Spells inner.toList token)
    (htext : text = "\x7b" ++ inner ++ "\x7d") :
    (resolve s context zone text).value = (token.value s context zone).value := by
  have hempty : Braceless "".toList := by decide
  have hread := read_between hempty h.braceless hempty (h.read_braced rfl)
  rw [String.empty_append, String.append_empty, ← htext] at hread
  have hrest := valueOf_token s context zone token []
  rw [valueOf_nil] at hrest
  rw [(resolve_of_read hread).1]
  refine hrest.trans ?_
  cases (token.value s context zone).value <;> simp [Except.bind, Except.map]

variable {ref arguments : String} {inline : Option String} {withHash : Bool} {length : Option Nat}

/-- The placeholder for the version of a snapshot gives the text of this version. -/
lemma value_resolve_release {hs : List Char} (href : TextPart ref.toList inline)
    (hname : ∀ name ∈ inline, name ≠ "" ∧ '+' ∉ name.toList) (hhash : HashPart hs withHash length)
    (harguments : arguments.toList = ref.toList ++ hs) :
    (resolve s context zone ("\x7bsemvertag" ++ arguments ++ "\x7d")).value =
      (Release.ofSnapshot s (Token.branchOfReference context inline) (Token.hashFragment s withHash length)).map
        Release.text := by
  have hspells : Token.Spells ("semvertag" ++ arguments).toList (.release inline withHash length) := by
    rw [String.toList_append, harguments]
    exact .mk (.release href hname hhash)
  have hbraces : "\x7bsemvertag" ++ arguments ++ "\x7d" = "\x7b" ++ ("semvertag" ++ arguments) ++ "\x7d" := by
    rw [← String.append_assoc]
    rfl
  rw [value_resolve_spelled hspells hbraces, Token.value, Token.releaseValue_eq]

/-- A template that has the text of a version is shortened to the numbers of the next release. -/
lemma resolveShort_of_release {template : String} {defaultBranch build : Option String}
    (htagged : s.isTagged = false)
    (hvalue : (resolve s context zone template).value = (Release.ofSnapshot s defaultBranch build).map Release.text)
    (h : ∃ text, (resolve s context zone template).value = .ok text) :
    ShortVersion.WholeIf (∀ n ∈ Release.nextNumbers s, n ≤ 65534) (ShortVersion.dotted (Release.nextNumbers s))
      (resolveShort s context zone template).value := by
  obtain ⟨text, htext⟩ := h
  rw [htext] at hvalue
  obtain ⟨version, hversion, rfl⟩ := map_eq_ok_iff.1 hvalue.symm
  rw [value_resolveShort, htext, ok_bind]
  exact Release.read_ofSnapshot htagged hversion

/-- The placeholder for the version of a snapshot has a value with the commit hash exactly if it has one without it,
whatever reference and length stand in it. Both are the same text if the revision is the tagged one or has no hash;
otherwise the hash, cut to the length, follows behind a plus sign. If the revision is not the tagged one, both are
shortened to the numbers of the next release, and to nothing if one of them is above the limit. -/
theorem release_variants_agree (s : Snapshot) (context : BuildContext) (zone : Zone) {ref size : String}
    {inline : Option String} {length : Option Nat} (href : TextPart ref.toList inline)
    (hname : ∀ name ∈ inline, name ≠ "" ∧ '+' ∉ name.toList) (hsize : LengthPart size.toList length) :
    let plain := "\x7bsemvertag" ++ ref ++ "\x7d"
    let hashed := "\x7bsemvertag" ++ (ref ++ "+chash" ++ size) ++ "\x7d"
    ((∃ text, (resolve s context zone hashed).value = .ok text) ↔
      ∃ text, (resolve s context zone plain).value = .ok text) ∧
    (∀ text text', (resolve s context zone plain).value = .ok text →
      (resolve s context zone hashed).value = .ok text' →
      (s.isTagged = true ∨ s.commitHash = "" → text' = text) ∧
        (¬ (s.isTagged = true ∨ s.commitHash = "") →
          ∃ fragment, IsFront s.commitHash length fragment ∧ text' = text ++ "+" ++ fragment)) ∧
    (s.isTagged = false → (∃ text, (resolve s context zone plain).value = .ok text) →
      ∀ template ∈ [plain, hashed],
        ShortVersion.WholeIf (∀ n ∈ Release.nextNumbers s, n ≤ 65534)
          (ShortVersion.dotted (Release.nextNumbers s)) (resolveShort s context zone template).value) := by
  intro plain hashed
  have hplain : (resolve s context zone plain).value =
      (Release.ofSnapshot s (Token.branchOfReference context inline) none).map Release.text :=
    value_resolve_release href hname .nothing (List.append_nil _).symm
  have hhashed : (resolve s context zone hashed).value =
      (Release.ofSnapshot s (Token.branchOfReference context inline) (some (truncate s.commitHash length))).map
        Release.text :=
    value_resolve_release href hname (.hash hsize) (by simp)
  -- Both are the version of one snapshot, so that the one text can be said in terms of the other.
  have hboth := hhashed
  rw [Release.map_text_ofSnapshot, ← hplain] at hboth
  simp only [truncate_eq_empty_iff fun n hn => (hsize.limits n hn).1] at hboth
  have hexists : (∃ text, (resolve s context zone hashed).value = .ok text) ↔
      ∃ text, (resolve s context zone plain).value = .ok text := by
    rw [hboth]
    simp only [map_eq_ok_iff]
    constructor
    · rintro ⟨_, text, htext, _⟩
      exact ⟨text, htext⟩
    · rintro ⟨text, htext⟩
      exact ⟨_, text, htext, rfl⟩
  refine ⟨hexists, ?_, ?_⟩
  · intro text text' htext htext'
    rw [hboth, htext] at htext'
    obtain rfl := Except.ok.inj htext'
    refine ⟨fun hsame => if_pos hsame, fun hother => ?_⟩
    exact ⟨_, isFront_truncate s.commitHash length, if_neg hother⟩
  · intro htagged h template htemplate
    obtain rfl | htemplate := List.mem_cons.1 htemplate
    · exact resolveShort_of_release htagged hplain h
    · obtain rfl := List.mem_singleton.1 htemplate
      exact resolveShort_of_release htagged hhashed (hexists.2 h)

/-- A suffix that begins with digits and dots, a branch off the reference, and a hash cut to four characters. -/
theorem release_variants_agree_candidate :
    let s : Snapshot := { tag := "v1.2-3.4", commitsAfterTag := 5, branch := "topic/a", commitHash := "0.1f2e" }
    let context : BuildContext := { time := ⟨⟨0, 0⟩, 0⟩ }
    (resolve s context (.fixed 0) "\x7bsemvertag:main\x7d").value = .ok "1.2.1-3.4.topic-a.5" ∧
      (resolve s context (.fixed 0) "\x7bsemvertag:main+chash:04\x7d").value = .ok "1.2.1-3.4.topic-a.5+0.1f" ∧
      (∃ fragment, IsFront s.commitHash (some 4) fragment ∧
        "1.2.1-3.4.topic-a.5+0.1f" = "1.2.1-3.4.topic-a.5" ++ "+" ++ fragment) ∧
      (resolveShort s context (.fixed 0) "\x7bsemvertag:main+chash:04\x7d").value = .ok "1.2.1" := by
  intro s context
  have hmain : Token.WithoutBraces "main" := withoutBraces_iff.2 (by decide)
  have href : TextPart ":main".toList (some "main") := .text hmain
  have hname : ∀ name ∈ some "main", name ≠ "" ∧ '+' ∉ name.toList := by
    rintro _ ⟨⟩
    exact ⟨by decide, by decide⟩
  have hsize : LengthPart ":04".toList (some 4) :=
    .length ⟨nofun, List.all_eq_true.1 (by decide), rfl⟩ ⟨by decide, by decide⟩
  have hplain : (resolve s context (.fixed 0) "\x7bsemvertag:main\x7d").value = .ok "1.2.1-3.4.topic-a.5" :=
    eq_ok_of_toOption (by decide +kernel)
  have hhashed : (resolve s context (.fixed 0) "\x7bsemvertag:main+chash:04\x7d").value =
      .ok "1.2.1-3.4.topic-a.5+0.1f" := eq_ok_of_toOption (by decide +kernel)
  obtain ⟨-, htexts, hshort⟩ := release_variants_agree s context (.fixed 0) href hname hsize
  have hfragment := (htexts _ _ hplain hhashed).2 (by decide)
  have hwithin := hshort (by decide) ⟨_, hplain⟩ _ (List.mem_cons_of_mem _ List.mem_cons_self)
  have hnumbers : Release.nextNumbers s = [1, 2, 1] := by decide +kernel
  have hcore : ShortVersion.dotted [1, 2, 1] = "1.2.1" := by decide +kernel
  rw [hnumbers, hcore] at hwithin
  exact ⟨hplain, hhashed, hfragment, hwithin.whole (by decide)⟩

end Template

end BuildVersion
