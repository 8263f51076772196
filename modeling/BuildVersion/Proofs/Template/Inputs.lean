import BuildVersion.Proofs.Release.Label
import BuildVersion.Proofs.Template.VersionToken
import BuildVersion.Proofs.TimeScheme.Readable
import BuildVersion.Template.Resolve

/-!
# The inputs of a template

What the resolution of a template reads. Every placeholder has its own inputs, and some of them are read
only where others call for it: the build time where the time that is asked for is unknown, the facts behind
a development version where the revision is not tagged. Main statement: two runs that agree on the inputs
of all placeholders of a template give the same text and record the same (`resolve_eq_of_agree`).
-/

namespace BuildVersion

open Calendar

/-- What templates are resolved with. -/
structure Run where
  snapshot : Snapshot
  context : BuildContext
  zone : Zone

/-- The inputs of a run. Whether a tag is that of the revision itself can be known without the count of
commits after it. -/
inductive Input where
  | vcs
  | commitHash
  | revision
  | commitTime
  | authorTime
  | isModified
  | isMixed
  | repositoryUrl
  | committerName
  | committerEmail
  | authorName
  | authorEmail
  | branch
  | tag
  | isAtTag
  | commitsAfterTag
  | buildTime
  | configuration
  | machineName
  | removeTagV
  | defaultBranch
  | zone
deriving DecidableEq

/-- Two runs have the same in an input. -/
def Input.Same (r r' : Run) : Input → Prop
  | vcs => r.snapshot.vcs = r'.snapshot.vcs
  | commitHash => r.snapshot.commitHash = r'.snapshot.commitHash
  | revision => r.snapshot.revision = r'.snapshot.revision
  | commitTime => r.snapshot.commitTime = r'.snapshot.commitTime
  | authorTime => r.snapshot.authorTime = r'.snapshot.authorTime
  | isModified => r.snapshot.isModified = r'.snapshot.isModified
  | isMixed => r.snapshot.isMixed = r'.snapshot.isMixed
  | repositoryUrl => r.snapshot.repositoryUrl = r'.snapshot.repositoryUrl
  | committerName => r.snapshot.committerName = r'.snapshot.committerName
  | committerEmail => r.snapshot.committerEmail = r'.snapshot.committerEmail
  | authorName => r.snapshot.authorName = r'.snapshot.authorName
  | authorEmail => r.snapshot.authorEmail = r'.snapshot.authorEmail
  | branch => r.snapshot.branch = r'.snapshot.branch
  | tag => r.snapshot.tag = r'.snapshot.tag
  | isAtTag => r.snapshot.commitsAfterTag = 0 ↔ r'.snapshot.commitsAfterTag = 0
  | commitsAfterTag => r.snapshot.commitsAfterTag = r'.snapshot.commitsAfterTag
  | buildTime => r.context.time = r'.context.time
  | configuration => r.context.configuration = r'.context.configuration
  | machineName => r.context.machineName = r'.context.machineName
  | removeTagV => r.context.removeTagV = r'.context.removeTagV
  | defaultBranch => r.context.defaultBranch = r'.context.defaultBranch
  | zone => r.zone = r'.zone

instance (input : Input) (r r' : Run) : Decidable (input.Same r r') := by
  cases input <;> unfold Input.Same <;> infer_instance

namespace Run

/-- Two runs have the same in some inputs. -/
def Agree (inputs : List Input) (r r' : Run) : Prop := ∀ input ∈ inputs, input.Same r r'

instance (inputs : List Input) (r r' : Run) : Decidable (Agree inputs r r') := by
  unfold Agree; infer_instance

variable {r r' : Run} {inputs inputs' : List Input}

lemma agree_cons_iff {input : Input} :
    Agree (input :: inputs) r r' ↔ input.Same r r' ∧ Agree inputs r r' := List.forall_mem_cons

lemma agree_append_iff : Agree (inputs ++ inputs') r r' ↔ Agree inputs r r' ∧ Agree inputs' r r' :=
  List.forall_mem_append

lemma agree_singleton_iff {input : Input} : Agree [input] r r' ↔ input.Same r r' :=
  List.forall_mem_singleton

/-- There is nothing else to a run than its inputs. -/
lemma eq_of_same (h : ∀ input : Input, input.Same r r') : r = r' := by
  obtain ⟨s, context, zone⟩ := r
  obtain ⟨s', context', zone'⟩ := r'
  have hs : s = s' := by
    cases s
    cases s'
    simp only [Snapshot.mk.injEq]
    exact ⟨h .vcs, h .commitHash, h .revision, h .commitTime, h .authorTime, h .isModified, h .isMixed,
      h .repositoryUrl, h .committerName, h .committerEmail, h .authorName, h .authorEmail, h .branch,
      h .tag, h .commitsAfterTag⟩
  have hcontext : context = context' := by
    cases context
    cases context'
    simp only [BuildContext.mk.injEq]
    exact ⟨h .buildTime, h .configuration, h .machineName, h .removeTagV, h .defaultBranch⟩
  rw [hs, hcontext, show zone = zone' from h .zone]

end Run

/-- The input that holds a fact; the offset is that of the build time. -/
def Field.input : Field → Input
  | committerName => .committerName
  | committerEmail => .committerEmail
  | authorName => .authorName
  | authorEmail => .authorEmail
  | machineName => .machineName
  | timeZone => .buildTime
  | repositoryUrl => .repositoryUrl

/-- The input that holds a time. -/
def TimeSource.input : TimeSource → Input
  | build => .buildTime
  | commit => .commitTime
  | author => .authorTime

/-- The input that holds a time, and the build time where that time is unknown. -/
def TimeSource.inputs (r : Run) (source : TimeSource) : List Input :=
  source.input :: if (Token.sourceTime r.snapshot r.context source).isNone then [.buildTime] else []

/-- The inputs of a development version, besides the tag: the branch, the configured default branch where
the placeholder has none, the hash where it is asked for, and the count that goes with the tag. -/
def Token.developmentInputs (r : Run) (inline : Option String) (withHash : Bool) : List Input :=
  .branch :: (if inline.isNone then [.defaultBranch] else []) ++ (if withHash then [.commitHash] else []) ++
    [if (Tag.read? r.snapshot.tag).isSome then .commitsAfterTag else .revision]

/-- The inputs of a placeholder in a run. -/
def Token.inputs (r : Run) : Token → List Input
  | hash _ _ => [.commitHash]
  | revision _ => [.revision]
  | modified _ => [.isModified]
  | field f => [f.input]
  | config _ => [.configuration]
  | branch _ => [.branch]
  | tag withoutV => .tag :: if withoutV then [] else [.removeTagV]
  | commitsAfterTag _ => [.commitsAfterTag]
  | copyright _ => .commitTime :: if r.snapshot.commitYear?.isNone then [.buildTime] else []
  | time spec => spec.source.inputs r ++ if spec.scheme.readsZone then [.zone] else []
  | release inline withHash _ =>
    [.tag, .isAtTag] ++ if r.snapshot.isTagged then [] else developmentInputs r inline withHash

/-- Without the local clock, the zone decides nothing. -/
lemma TimeScheme.encode_congr_zone {scheme : TimeScheme} (h : scheme.readsZone = false) (zone zone' : Zone)
    (t : Timestamp) : scheme.encode zone t = scheme.encode zone' t := by
  cases scheme with
  | readable date clock separator utc =>
    obtain rfl : utc = true := by rwa [readsZone, Bool.not_eq_false'] at h
    rw [encode_readable (.inl rfl), encode_readable (.inl rfl)]
    rfl
  | dotted => rfl
  | numeral => rfl
  | hours => rfl

variable {r r' : Run}

lemma Field.value_congr {f : Field} (h : f.input.Same r r') :
    Token.fieldValue r.snapshot r.context f = Token.fieldValue r'.snapshot r'.context f := by
  cases f with
  | timeZone =>
    have htime : r.context.time = r'.context.time := h
    rw [Token.fieldValue, Token.fieldValue, htime]
  | _ => exact h

namespace Token

lemma copyrightText_congr (startYear : Option Int) (h : Run.Agree ((copyright startYear).inputs r) r r') :
    copyrightText r.snapshot r.context startYear = copyrightText r'.snapshot r'.context startYear := by
  rw [inputs, Run.agree_cons_iff] at h
  obtain ⟨htime, hbuild⟩ := h
  have hyear : r'.snapshot.commitYear? = r.snapshot.commitYear? := by
    rw [Snapshot.commitYear?, Snapshot.commitYear?, show r.snapshot.commitTime = _ from htime]
  unfold copyrightText
  rw [hyear]
  cases hknown : r.snapshot.commitYear? with
  | some year => rfl
  | none =>
    rw [hknown] at hbuild
    rw [show r.context.time = r'.context.time from hbuild .buildTime List.mem_cons_self]

lemma sourceTime_congr {source : TimeSource} (h : source.input.Same r r') :
    sourceTime r.snapshot r.context source = sourceTime r'.snapshot r'.context source := by
  cases source with
  | build =>
    have htime : r.context.time = r'.context.time := h
    rw [sourceTime, sourceTime, htime]
  | commit => exact h
  | author => exact h

lemma timeValue_congr {spec : TimeSpec} (h : Run.Agree ((time spec).inputs r) r r') :
    timeValue r.snapshot r.context r.zone spec = timeValue r'.snapshot r'.context r'.zone spec := by
  rw [inputs, TimeSource.inputs, Run.agree_append_iff, Run.agree_cons_iff] at h
  obtain ⟨⟨hsource, hbuild⟩, hzone⟩ := h
  have hencode : ∀ t, spec.scheme.encode r.zone t = spec.scheme.encode r'.zone t := by
    intro t
    cases hreads : spec.scheme.readsZone with
    | false => exact TimeScheme.encode_congr_zone hreads _ _ t
    | true =>
      rw [hreads] at hzone
      rw [show r.zone = r'.zone from hzone .zone List.mem_cons_self]
  rw [timeValue, timeValue, ← sourceTime_congr hsource]
  cases hknown : sourceTime r.snapshot r.context spec.source with
  | some known => simp only [hencode]
  | none =>
    rw [hknown] at hbuild
    have htime : r.context.time = r'.context.time := hbuild .buildTime List.mem_cons_self
    simp only [hencode, htime]

/-- Whether the revision is tagged shows without the count of commits. -/
lemma isTagged_congr (htag : Input.tag.Same r r') (hat : Input.isAtTag.Same r r') :
    r.snapshot.isTagged = r'.snapshot.isTagged := by
  have hcount : (r.snapshot.commitsAfterTag == 0) = (r'.snapshot.commitsAfterTag == 0) := by
    rw [Bool.eq_iff_iff, beq_iff_eq, beq_iff_eq]
    exact hat
  rw [Snapshot.isTagged, Snapshot.isTagged, show r.snapshot.tag = _ from htag, hcount]

/-- The basis of a development version is the tag, and the count that goes with it. -/
lemma basis_congr (htag : Input.tag.Same r r')
    (hcount : (if (Tag.read? r.snapshot.tag).isSome then Input.commitsAfterTag else .revision).Same r r') :
    Release.basis r.snapshot = Release.basis r'.snapshot := by
  unfold Release.basis
  rw [show r'.snapshot.tag = r.snapshot.tag from htag.symm]
  cases hread : Tag.read? r.snapshot.tag with
  | some tag =>
    rw [hread] at hcount
    rw [show r.snapshot.commitsAfterTag = r'.snapshot.commitsAfterTag from hcount]
  | none =>
    rw [hread] at hcount
    rw [show r.snapshot.revision = r'.snapshot.revision from hcount]

/-- The configured default branch stands in for a missing one only. -/
lemma branchOfReference_congr {inline : Option String}
    (h : Run.Agree (if inline.isNone then [.defaultBranch] else []) r r') :
    branchOfReference r.context inline = branchOfReference r'.context inline := by
  cases inline with
  | some name => rfl
  | none =>
    have hconfigured : r.context.defaultBranch = _ := h .defaultBranch List.mem_cons_self
    rw [branchOfReference, branchOfReference, hconfigured]

lemma hashFragment_congr {withHash : Bool} (length : Option Nat)
    (h : Run.Agree (if withHash then [.commitHash] else []) r r') :
    hashFragment r.snapshot withHash length = hashFragment r'.snapshot withHash length := by
  cases withHash with
  | false => rfl
  | true =>
    have hcommit : r.snapshot.commitHash = _ := h .commitHash List.mem_cons_self
    rw [hashFragment, hashFragment, hcommit]

/-- The version of a snapshot has the tag as its input, and where it is not that of the revision also the
parts of a development version. -/
lemma ofSnapshot_congr {inline : Option String} {withHash : Bool} (length : Option Nat)
    (h : Run.Agree ((release inline withHash length).inputs r) r r') :
    Release.ofSnapshot r.snapshot (branchOfReference r.context inline)
        (hashFragment r.snapshot withHash length) =
      Release.ofSnapshot r'.snapshot (branchOfReference r'.context inline)
        (hashFragment r'.snapshot withHash length) := by
  rw [inputs, Run.agree_append_iff, Run.agree_cons_iff, Run.agree_singleton_iff] at h
  obtain ⟨⟨htag, hat⟩, hdevelopment⟩ := h
  have htagged' := isTagged_congr htag hat
  cases htagged : r.snapshot.isTagged with
  | true =>
    rw [htagged] at htagged'
    rw [Release.ofSnapshot, Release.ofSnapshot, htagged, ← htagged', if_pos rfl, if_pos rfl,
      show r.snapshot.tag = _ from htag]
  | false =>
    rw [htagged] at htagged' hdevelopment
    rw [if_neg Bool.false_ne_true, developmentInputs, List.cons_append, List.cons_append, Run.agree_cons_iff,
      Run.agree_append_iff, Run.agree_append_iff, Run.agree_singleton_iff] at hdevelopment
    obtain ⟨hbranch, ⟨hdefault, hhash⟩, hcount⟩ := hdevelopment
    rw [Release.ofSnapshot_of_not_isTagged htagged, Release.ofSnapshot_of_not_isTagged htagged'.symm,
      basis_congr htag hcount, branchOfReference_congr hdefault, hashFragment_congr length hhash,
      show r.snapshot.branch = _ from hbranch]

lemma releaseValue_congr {inline : Option String} {withHash : Bool} (length : Option Nat)
    (h : Run.Agree ((release inline withHash length).inputs r) r r') :
    releaseValue r.snapshot r.context inline withHash length =
      releaseValue r'.snapshot r'.context inline withHash length := by
  have htag : Input.tag.Same r r' := h .tag List.mem_cons_self
  have hat : Input.isAtTag.Same r r' := h .isAtTag (List.mem_cons_of_mem _ List.mem_cons_self)
  have hwarnings : tagWarnings r.snapshot = tagWarnings r'.snapshot := by
    rw [tagWarnings, tagWarnings, isTagged_congr htag hat, show r.snapshot.tag = _ from htag]
  rw [releaseValue_eq, releaseValue_eq, ofSnapshot_congr length h, hwarnings]

/-- The value of a placeholder and what is recorded on the way follow from its inputs. -/
lemma value_congr {token : Token} (h : Run.Agree (token.inputs r) r r') :
    token.value r.snapshot r.context r.zone = token.value r'.snapshot r'.context r'.zone := by
  cases token with
  | hash upper length =>
    have hhash : r.snapshot.commitHash = _ := h .commitHash List.mem_cons_self
    rw [value, value, hhash]
  | revision offset =>
    have hrevision : r.snapshot.revision = _ := h .revision List.mem_cons_self
    rw [value, value, hrevision]
  | modified marker =>
    have hmodified : r.snapshot.isModified = _ := h .isModified List.mem_cons_self
    rw [value, value, hmodified]
  | field f =>
    rw [value, value, Field.value_congr (h f.input List.mem_cons_self)]
  | config suppression =>
    have hconfiguration : r.context.configuration = _ := h .configuration List.mem_cons_self
    rw [value, value, hconfiguration]
  | branch suppression =>
    have hbranch : r.snapshot.branch = _ := h .branch List.mem_cons_self
    rw [value, value, hbranch]
  | tag withoutV =>
    have htag : r.snapshot.tag = _ := h .tag List.mem_cons_self
    cases withoutV with
    | true => rw [value, value, htag, Bool.true_or, Bool.true_or]
    | false =>
      have hremove : r.context.removeTagV = _ :=
        h .removeTagV (List.mem_cons_of_mem _ List.mem_cons_self)
      rw [value, value, htag, hremove]
  | commitsAfterTag separator =>
    have hcount : r.snapshot.commitsAfterTag = _ := h .commitsAfterTag List.mem_cons_self
    simp only [value, hcount]
  | copyright startYear => rw [value, value, copyrightText_congr startYear h]
  | time spec => exact timeValue_congr h
  | release inline withHash length => exact releaseValue_congr length h

end Token

namespace Token

/-- The inputs of a placeholder follow from themselves, so it does not matter of which run they are. -/
lemma inputs_congr {token : Token} (h : Run.Agree (token.inputs r) r r') :
    token.inputs r' = token.inputs r := by
  cases token with
  | copyright startYear =>
    have htime : r.snapshot.commitTime = _ := h .commitTime List.mem_cons_self
    rw [inputs, inputs, Snapshot.commitYear?, Snapshot.commitYear?, htime]
  | time spec =>
    rw [inputs, inputs, TimeSource.inputs, TimeSource.inputs,
      sourceTime_congr (h spec.source.input List.mem_cons_self)]
  | release inline withHash length =>
    have htag : r.snapshot.tag = _ := h .tag List.mem_cons_self
    have hat : Input.isAtTag.Same r r' := h .isAtTag (List.mem_cons_of_mem _ List.mem_cons_self)
    rw [inputs, inputs, isTagged_congr htag hat, developmentInputs, developmentInputs, htag]
  | _ => rfl

/-- No placeholder is for the version control system or for mixed revisions. -/
lemma notMem_inputs (token : Token) (r : Run) : .vcs ∉ token.inputs r ∧ .isMixed ∉ token.inputs r := by
  cases token with
  | field f =>
    rw [inputs]
    cases f <;> decide
  | tag withoutV =>
    rw [inputs]
    cases withoutV <;> decide
  | copyright startYear =>
    rw [inputs]
    split <;> decide
  | time spec =>
    rw [inputs, TimeSource.inputs]
    cases spec.source <;> split <;> split <;> decide
  | release inline withHash length =>
    rw [inputs]
    split
    · decide
    · rw [developmentInputs]
      cases inline.isNone <;> cases withHash <;> cases (Tag.read? r.snapshot.tag).isSome <;> decide
  | _ => simp [inputs]

end Token

namespace Template

/-- The text of segments and what is recorded on the way follow from the inputs of their placeholders. -/
lemma valueOf_congr {segments : List Segment}
    (h : ∀ token, .token token ∈ segments → Run.Agree (token.inputs r) r r') :
    valueOf r.snapshot r.context r.zone segments = valueOf r'.snapshot r'.context r'.zone segments := by
  induction segments with
  | nil => rfl
  | cons segment segments ih =>
    have hrest := ih fun token htoken => h token (List.mem_cons_of_mem _ htoken)
    cases segment with
    | text cs => rw [valueOf, valueOf, hrest]
    | token token =>
      rw [valueOf, valueOf, Token.value_congr (h token List.mem_cons_self), hrest]

/-- Two runs that agree on the inputs of all placeholders of a template resolve it to the same and record the
same on the way. The version control system and mixed revisions are no inputs of any placeholder. -/
theorem resolve_eq_of_agree (template : String) (r r' : Run)
    (h : ∀ segments, read template = .ok segments → ∀ token, .token token ∈ segments →
      Run.Agree (token.inputs r) r r') :
    resolve r.snapshot r.context r.zone template = resolve r'.snapshot r'.context r'.zone template ∧
      ∀ token : Token, .vcs ∉ token.inputs r ∧ .isMixed ∉ token.inputs r := by
  refine ⟨?_, fun token => token.notMem_inputs r⟩
  rw [resolve, resolve]
  cases hread : read template with
  | error e => rfl
  | ok segments => simp only [valueOf_congr (h segments hread)]

/-- A development version on a branch, with a hash, an inline default branch and a tag that is a version, the
day of a known commit in UTC and its year. All that these placeholders do not name differs. -/
theorem resolve_eq_of_agree_development :
    let r : Run :=
      { snapshot :=
          { tag := "v1.2.0", commitsAfterTag := 3, branch := "topic", commitHash := "0123456789"
            commitTime := some ⟨⟨1600000000, 0⟩, 7200⟩ }
        context := { time := ⟨⟨0, 0⟩, 0⟩ }
        zone := .fixed 0 }
    let r' : Run :=
      { snapshot :=
          { r.snapshot with
            vcs := "git", revision := 7, authorTime := some ⟨⟨1, 0⟩, 0⟩, isModified := true, isMixed := true
            repositoryUrl := "u", committerName := "c", committerEmail := "d", authorName := "a"
            authorEmail := "b" }
        context :=
          { time := ⟨⟨2, 0⟩, 3600⟩, configuration := "Release", machineName := "m", removeTagV := true
            defaultBranch := some "topic" }
        zone := .summer 3600 }
    let template := "\x7bsemvertag:main+chash:7\x7d \x7bcu:ymd\x7d \x7bcopyright\x7d \x7btag:nov\x7d"
    (∀ segments, read template = .ok segments → ∀ token, .token token ∈ segments →
      Run.Agree (token.inputs r) r r') ∧
      (∀ input : Input, input.Same r r' ↔
        input ∈ [.tag, .isAtTag, .commitsAfterTag, .branch, .commitHash, .commitTime]) ∧
      resolve r.snapshot r.context r.zone template = resolve r'.snapshot r'.context r'.zone template ∧
      (resolve r.snapshot r.context r.zone template).value =
        .ok "1.2.1-topic.3+0123456 20200913 2020 1.2.0" := by
  intro r r' template
  have hread : read template =
      .ok [.token (.release (some "main") true (some 7)), .text [' '],
        .token (.time ⟨.commit, .readable true .nothing none true⟩), .text [' '],
        .token (.copyright none), .text [' '], .token (.tag true)] :=
    Fallible.eq_ok_of_toOption (by decide +kernel)
  have hagree : ∀ segments, read template = .ok segments → ∀ token, .token token ∈ segments →
      Run.Agree (token.inputs r) r r' := by
    intro segments hsegments token htoken
    rw [hread, Except.ok.injEq] at hsegments
    rw [← hsegments] at htoken
    simp only [List.mem_cons, Segment.token.injEq, reduceCtorEq, List.not_mem_nil, false_or,
      or_false] at htoken
    rcases htoken with rfl | rfl | rfl | rfl <;> decide +kernel
  refine ⟨hagree, ?_, (resolve_eq_of_agree template r r' hagree).1,
    Fallible.eq_ok_of_toOption (by decide +kernel)⟩
  intro input
  cases input <;> decide +kernel

end Template

end BuildVersion
