import BuildVersion.Proofs.Numeral
import BuildVersion.Proofs.Release.Label
import BuildVersion.Proofs.Snapshot.Cleaning
import BuildVersion.Proofs.Template.ShortVersion
import BuildVersion.Proofs.Template.TimePlaceholder
import BuildVersion.Proofs.Template.VersionToken
import BuildVersion.Proofs.TimeScheme.Readable

/-!
# Resolved texts without control characters

A cleaned snapshot has no control characters, and no placeholder makes any. So a template without them is resolved
to a text without them. Main statement: `Template.resolve_controlFree`.
-/

namespace BuildVersion

open Calendar Fallible Text

namespace TimeScheme

lemma controlFree_separatorText {separator : Option Char} (h : ∀ c ∈ separator, c = '-' ∨ c = '.' ∨ c = ':') :
    ControlFree (separatorText separator).toList := by
  obtain rfl | rfl | rfl | rfl := separator_cases h <;> decide

lemma controlFree_yearField (year : Int) : ControlFree (yearField year).toList := by
  unfold yearField
  split
  · rw [String.toList_append, controlFree_append_iff]
    exact ⟨by simp [isControl], controlFree_padded _ _⟩
  · exact controlFree_padded _ _

lemma controlFree_readableFields (date : Bool) (clock : ClockFields) (c : Civil) :
    ∀ field ∈ readableFields date clock c, ControlFree field.toList := by
  cases date <;> cases clock <;> simp [readableFields, controlFree_yearField]

lemma controlFree_digits : ControlFree Numeral.digits := by decide

/-- Every scheme within the limits writes digits, letters and separators. -/
lemma controlFree_encode {scheme : TimeScheme} {zone : Zone} {t : Timestamp} {value : String}
    (hscheme : scheme.WellFormed) (h : encode scheme zone t = .ok value) : ControlFree value.toList := by
  cases scheme with
  | readable date clock separator utc =>
    obtain ⟨_, rfl⟩ := encode_readable_eq_ok_iff.1 h
    rw [String.toList_intercalate]
    refine (controlFree_separatorText hscheme.2).intercalate fun piece hpiece => ?_
    obtain ⟨field, hfield, rfl⟩ := List.mem_map.1 hpiece
    exact controlFree_readableFields _ _ _ field hfield
  | dotted interval baseYear =>
    obtain ⟨n, _, h⟩ := bind_eq_ok_iff.1 h
    simp only at h
    split at h
    · cases h
      simp [isControl]
    · cases h
  | numeral radix interval baseYear minLength upper =>
    obtain ⟨n, _, h⟩ := bind_eq_ok_iff.1 h
    obtain ⟨digits, hdigits, h⟩ := bind_eq_ok_iff.1 h
    cases h
    have halphabet := (Numeral.isAlphabet_of_alphabet hdigits).1
    have hnumeral : ControlFree (Numeral.encode digits (n / interval) minLength) :=
      fun c hc => controlFree_digits c (halphabet.subset c (halphabet.mem_of_mem_encode hc))
    rw [String.toList_ofList]
    split
    · exact hnumeral.upperCase
    · exact hnumeral
  | hours baseYear baseMonth =>
    obtain ⟨n, _, h⟩ := bind_eq_ok_iff.1 h
    cases h
    exact controlFree_toString _

end TimeScheme

namespace Tag

lemma withoutV_subset (tag : List Char) : withoutV tag ⊆ tag := by
  unfold withoutV
  split
  · split
    · exact List.subset_cons_self _ _
    · exact List.Subset.refl _
  · exact List.Subset.refl _

lemma controlFree_bare {tag : String} (h : ControlFree tag.toList) : ControlFree (bare tag).toList := by
  rw [bare, String.toList_ofList]
  exact h.mono (withoutV_subset _)

/-- The suffix of a tag is a part of it. -/
lemma controlFree_suffix {tag : String} {reading : Reading} (h : ControlFree tag.toList)
    (hread : read? tag = some reading) : ∀ suffix ∈ reading.suffix, ControlFree suffix.toList := by
  unfold read? at hread
  simp only at hread
  split at hread
  · obtain ⟨core, _, rfl⟩ := Option.map_eq_some_iff.1 hread
    exact nofun
  · next front suffix hcut =>
    split at hread
    · cases hread
    · obtain ⟨core, _, rfl⟩ := Option.map_eq_some_iff.1 hread
      have hparts : ControlFree (front ++ '-' :: suffix) := by
        rw [← (cut?_eq_some_iff.1 hcut).1]
        exact h.mono (withoutV_subset _)
      intro text htext
      cases htext
      rw [String.toList_ofList]
      exact hparts.mono fun c hc => List.mem_append_right _ (List.mem_cons_of_mem _ hc)

end Tag

namespace Release

lemma controlFree_core (core : Version) : ControlFree core.text.toList := by
  simp [Version.text, isControl]

lemma controlFree_label {label : Label} (hsuffix : ∀ suffix ∈ label.suffix, ControlFree suffix.toList)
    (hbranch : ∀ branch ∈ label.branch, ControlFree branch.toList) : ControlFree label.text.toList := by
  have hlead : ∀ mark, isControl mark = false → ControlFree (Label.lead mark label.suffix) := by
    intro mark hmark
    cases hlabel : label.suffix with
    | none => exact controlFree_nil
    | some suffix => simp [Label.lead, hsuffix suffix hlabel, hmark]
  rw [Label.toList_text, controlFree_append_iff, Label.opening]
  refine ⟨?_, controlFree_toDigits _⟩
  split
  · next branch hlabel =>
    simp [hlead '.' rfl, hbranch branch hlabel, isControl]
  · exact hlead '-' rfl

lemma controlFree_identifier? {b : Branch} : ∀ identifier ∈ b.identifier?, ControlFree identifier.toList := by
  intro identifier h c hc
  have hclass := Branch.isIdentifierChar_of_identifier? h c hc
  simp only [SemVer.isIdentifierChar, isAlphanumeric, Bool.or_eq_true, beq_iff_eq] at hclass
  obtain (hdigit | hletter) | rfl := hclass
  · exact not_isControl_of_isDigit hdigit
  · exact not_isControl_of_isLetter hletter
  · rfl

variable {s : Snapshot} {defaultBranch build : Option String}

lemma controlFree_basis (h : ControlFree s.tag.toList) :
    ∀ suffix ∈ (basis s).2.1, ControlFree suffix.toList := by
  unfold basis
  split
  · next reading hread => exact Tag.controlFree_suffix h hread
  · exact nofun

/-- The version of a snapshot is made of its tag, its branch, numbers and the build fragment. -/
lemma controlFree_ofSnapshot {version : Release} (htag : ControlFree s.tag.toList)
    (hbuild : ∀ fragment ∈ build, ControlFree fragment.toList)
    (h : ofSnapshot s defaultBranch build = .ok version) : ControlFree version.text.toList := by
  cases version with
  | tagged text =>
    cases htagged : s.isTagged with
    | true =>
      rw [ofSnapshot, htagged, if_pos rfl] at h
      cases h
      exact Tag.controlFree_bare htag
    | false =>
      rw [ofSnapshot_of_not_isTagged htagged, map_eq_ok_iff] at h
      obtain ⟨_, _, h⟩ := h
      cases h
  | development core label fragment =>
    obtain ⟨_, _, rfl, rfl⟩ := ofSnapshot_eq_development_iff.1 h
    rw [toList_development, controlFree_append_iff, controlFree_cons_iff, controlFree_append_iff]
    refine ⟨controlFree_core core, rfl, controlFree_label (controlFree_basis htag) controlFree_identifier?, ?_⟩
    cases hfragment : build.filter (· != "") with
    | none => exact controlFree_nil
    | some fragment =>
      exact controlFree_cons_iff.2 ⟨rfl, hbuild fragment (Option.eq_some_of_filter_eq_some hfragment)⟩

end Release

namespace Token

variable {s : Snapshot} {context : BuildContext} {zone : Zone}

lemma controlFree_truncate {text : String} (h : ControlFree text.toList) (length : Option Nat) :
    ControlFree (truncate text length).toList := by
  cases length with
  | none => exact h
  | some n =>
    rw [truncate, String.toList_ofList]
    exact h.mono (List.take_subset n _)

lemma controlFree_suppress {suppression : Option Suppression} {value : String} {isReference : String → Bool}
    (hparts : ∀ part ∈ suppression.toList.flatMap fun s => [s.separator, s.reference], ControlFree part.toList)
    (hvalue : ControlFree value.toList) : ControlFree (suppress suppression value isReference).toList := by
  unfold suppress
  split
  · exact hvalue
  · next part =>
    split
    · exact controlFree_nil
    · rw [String.toList_append, controlFree_append_iff]
      exact ⟨hparts part.separator List.mem_cons_self, hvalue⟩

lemma controlFree_offsetText (offset : Int) : ControlFree (offsetText offset).toList := by
  unfold offsetText
  split <;> simp [isControl]

/-- All texts that a value can be made of, without control characters. -/
structure ControlFreeInputs (s : Snapshot) (context : BuildContext) : Prop where
  snapshot : s.ControlFree
  configuration : ControlFree context.configuration.toList
  machineName : ControlFree context.machineName.toList

/-- A placeholder that brings no control characters with it. -/
structure Printable (token : Token) : Prop where
  texts : ∀ text ∈ token.texts, ControlFree text.toList
  limits : ∀ spec, token = .time spec → spec.scheme.WellFormed

lemma controlFree_fieldValue (h : ControlFreeInputs s context) (f : Field) :
    ControlFree (fieldValue s context f).toList := by
  cases f with
  | committerName => exact h.snapshot s.committerName (by simp [Snapshot.texts])
  | committerEmail => exact h.snapshot s.committerEmail (by simp [Snapshot.texts])
  | authorName => exact h.snapshot s.authorName (by simp [Snapshot.texts])
  | authorEmail => exact h.snapshot s.authorEmail (by simp [Snapshot.texts])
  | machineName => exact h.machineName
  | timeZone => exact controlFree_offsetText _
  | repositoryUrl => exact h.snapshot s.repositoryUrl (by simp [Snapshot.texts])

lemma controlFree_copyrightText (startYear : Option Int) :
    ControlFree (copyrightText s context startYear).toList := by
  unfold copyrightText
  simp only
  split
  · split
    · exact controlFree_toString_int _
    · simp only [String.toList_append, controlFree_append_iff]
      exact ⟨⟨controlFree_toString_int _, by simp [isControl]⟩, controlFree_toString_int _⟩
  · exact controlFree_toString_int _

/-- No value has control characters that neither its placeholder nor the inputs have. -/
lemma controlFree_value (h : ControlFreeInputs s context) {token : Token} (htoken : token.Printable) {value : String}
    (hvalue : (token.value s context zone).value = .ok value) : ControlFree value.toList := by
  have hhash := h.snapshot s.commitHash (by simp [Snapshot.texts])
  have hbranch := h.snapshot s.branch (by simp [Snapshot.texts])
  have htag := h.snapshot s.tag (by simp [Snapshot.texts])
  cases token with
  | hash upper length =>
    cases hvalue
    split
    · rw [String.toList_ofList]
      exact (controlFree_truncate hhash length).upperCase
    · exact controlFree_truncate hhash length
  | revision offset =>
    simp only [Token.value, Recorded.value_pure] at hvalue
    split at hvalue
    · cases hvalue
    · cases hvalue
      exact controlFree_toString_int _
  | modified marker =>
    cases hvalue
    split
    · exact htoken.texts marker (by simp [texts])
    · exact controlFree_nil
  | field f =>
    cases hvalue
    exact controlFree_fieldValue h f
  | config suppression =>
    cases hvalue
    exact controlFree_suppress htoken.texts h.configuration
  | branch suppression =>
    cases hvalue
    exact controlFree_suppress htoken.texts hbranch
  | tag withoutV =>
    cases hvalue
    split
    · exact Tag.controlFree_bare htag
    · exact htag
  | commitsAfterTag separator =>
    cases hvalue
    split
    · exact controlFree_toString _
    · next separator =>
      split
      · exact controlFree_nil
      · rw [String.toList_append, controlFree_append_iff]
        exact ⟨htoken.texts separator (by simp [texts]), controlFree_toString _⟩
  | copyright startYear =>
    cases hvalue
    exact controlFree_copyrightText _
  | time spec =>
    rw [Token.value, value_timeValue] at hvalue
    exact TimeScheme.controlFree_encode (htoken.limits spec rfl) hvalue
  | release defaultBranch withHash length =>
    rw [Token.value, releaseValue_eq] at hvalue
    obtain ⟨version, hversion, rfl⟩ := map_eq_ok_iff.1 hvalue
    refine Release.controlFree_ofSnapshot htag (fun fragment hfragment => ?_) hversion
    rw [hashFragment] at hfragment
    split at hfragment
    · cases hfragment
      exact controlFree_truncate hhash length
    · cases hfragment

/-- What is read of a text without control characters brings none with it. -/
lemma printable_of_read {text : String} {token : Token} (htext : ControlFree text.toList)
    (h : Token.read text = .ok (some token)) : token.Printable := by
  by_cases htime : TimeSpec.isTimePlaceholder text = true
  · rw [read_of_time htime, map_eq_ok_iff] at h
    obtain ⟨spec, hread, he⟩ := h
    cases he
    refine ⟨nofun, fun spec' he => ?_⟩
    cases he
    exact TimeSpec.wellFormed_of_read hread
  · have htaken := takenFrom_of_read h htime
    constructor
    · intro part hpart c hc
      obtain hmem | rfl := htaken.chars part hpart c hc
      · exact htext c hmem
      · rfl
    · rintro spec rfl
      cases htaken.notTime

end Token

namespace Template

variable {s : Snapshot} {context : BuildContext} {zone : Zone}

lemma controlFree_fills (h : Token.ControlFreeInputs s context) {a : Atom} {piece : String}
    (ha : ControlFree a.chars) (hpiece : Fills s context zone a piece) : ControlFree piece.toList := by
  have htext : ControlFree a.text.toList := by
    rw [Atom.text, String.toList_ofList]
    exact ha
  cases hpiece with
  | char c => exact htext
  | unknown => exact htext
  | known hread hvalue => exact Token.controlFree_value h (Token.printable_of_read htext hread) hvalue

/-- The pieces of a template are free of control characters one by one, and so are all of them in a row. -/
lemma controlFree_yields (h : Token.ControlFreeInputs s context) {as : List Atom} {out : String}
    (has : ∀ a ∈ as, ControlFree a.chars) (hout : Yields s context zone as out) : ControlFree out.toList := by
  induction as generalizing out with
  | nil =>
    rw [yields_nil_iff.1 hout]
    exact controlFree_nil
  | cons a as ih =>
    obtain ⟨piece, rest, hpiece, hrest, rfl⟩ := yields_cons_iff.1 hout
    obtain ⟨ha, has⟩ := List.forall_mem_cons.1 has
    rw [String.toList_append, controlFree_append_iff]
    exact ⟨controlFree_fills h ha hpiece, ih has hrest⟩

/-- A template without control characters is resolved to a text without them, and shortened to one, if the build
names none. What the snapshot held before it was cleaned does not matter. -/
theorem resolve_controlFree (s : Snapshot) (context : BuildContext) (zone : Zone) (template : String)
    (htemplate : ControlFree template.toList) (hconfiguration : ControlFree context.configuration.toList)
    (hmachine : ControlFree context.machineName.toList) :
    (∀ out, (resolve s.normalize context zone template).value = .ok out → ControlFree out.toList) ∧
      ∀ short, (resolveShort s.normalize context zone template).value = .ok short → ControlFree short.toList := by
  have hinputs : Token.ControlFreeInputs s.normalize context :=
    ⟨s.controlFree_normalize, hconfiguration, hmachine⟩
  constructor
  · intro out hout
    rw [resolve_eq_ok_iff] at hout
    refine controlFree_yields hinputs (fun a ha => ?_) hout
    apply htemplate.mono
    rw [← flatMap_chars_atoms template.toList]
    exact fun c hc => List.mem_flatMap.2 ⟨a, ha, hc⟩
  · intro short hshort
    rw [value_resolveShort, bind_eq_ok_iff] at hshort
    obtain ⟨_, _, hread⟩ := hshort
    intro c hc
    have hnumeric := ShortVersion.isNumeric_of_mem_short hread c hc
    rw [ShortVersion.isNumeric, Bool.or_eq_true, beq_iff_eq] at hnumeric
    obtain hdigit | rfl := hnumeric
    · exact not_isControl_of_isDigit hdigit
    · rfl

/-- A hash, a branch, a tag and a name with a bell, an escape, a null, a delete character and line ends in them. -/
theorem resolve_controlFree_bell :
    let s : Snapshot :=
      { commitHash := "AB\x07CDEF\n", branch := "fea\x1bture/x", tag := "v1.0\x00.2-beta\x7f",
        commitsAfterTag := 4, authorName := "Ada\x85\x09L" }
    let context : BuildContext := { time := ⟨⟨0, 0⟩, 0⟩, configuration := "Release", machineName := "m1" }
    let template := "\x7bsemvertag+chash:4\x7d \x7bCHASH:3\x7d \x7baname\x7d@\x7bmname\x7d"
    (resolve s.normalize context (.fixed 0) template).value = .ok "1.0.3-beta.feature-x.4+abcd ABC AdaL@m1" ∧
      ControlFree "1.0.3-beta.feature-x.4+abcd ABC AdaL@m1".toList ∧
      (resolveShort s.normalize context (.fixed 0) template).value = .ok "1.0.3" ∧
      ControlFree "1.0.3".toList := by
  intro s context template
  have hout : (resolve s.normalize context (.fixed 0) template).value =
      .ok "1.0.3-beta.feature-x.4+abcd ABC AdaL@m1" := eq_ok_of_toOption (by decide +kernel)
  have hshort : (resolveShort s.normalize context (.fixed 0) template).value = .ok "1.0.3" :=
    eq_ok_of_toOption (by decide +kernel)
  have hfree := resolve_controlFree s context (.fixed 0) template
    (by decide +kernel) (by decide +kernel) (by decide +kernel)
  exact ⟨hout, hfree.1 _ hout, hshort, hfree.2 _ hshort⟩

end Template

end BuildVersion
