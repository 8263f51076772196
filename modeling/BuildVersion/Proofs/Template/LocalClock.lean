import BuildVersion.Proofs.Release.Label
import BuildVersion.Proofs.Template.Malformed
import BuildVersion.Proofs.Template.TimePlaceholder
import BuildVersion.Proofs.Template.VersionToken
import BuildVersion.Proofs.TimeScheme.Counted
import BuildVersion.Proofs.TimeScheme.Readable
import BuildVersion.Proofs.Version.Succession

/-!
# Times that local clocks do not cover

The years that clocks show have an end. A placeholder that asks for the local clock of a time beyond it stops the
program, and nothing else in a template does. Main statements: which schemes stop (`TimeScheme.encode_stopped_iff`),
which placeholders (`Token.value_stopped_iff`) and which templates (`Template.resolve_stopped_iff`).
-/

namespace BuildVersion

open Calendar Fallible

/-- Whether the program stops at the error of a computation. -/
def Stopped {α : Type} (x : Except Error α) : Prop := ∃ e, x = .error e ∧ e.stops = true

section

variable {α β : Type} {x : Except Error α}

/-- The program stops at no error of another sort. -/
lemma Error.kind_of_stops {e : Error} (h : e.stops = true) : e.kind = .config := by
  cases e with
  | localTime => rfl
  | _ => cases h

lemma stopped_error_iff {e : Error} : Stopped (.error e : Except Error α) ↔ e.stops = true := by
  simp [Stopped]

lemma not_stopped_error {e : Error} (h : e.stops = false) : ¬ Stopped (.error e : Except Error α) := by
  rw [stopped_error_iff, h]
  exact Bool.false_ne_true

lemma not_stopped_ok (a : α) : ¬ Stopped (.ok a : Except Error α) := by
  rintro ⟨e, he, _⟩
  cases he

lemma not_stopped_of_kind (h : ∀ e, x = .error e → e.kind ≠ .config) : ¬ Stopped x := by
  rintro ⟨e, he, hstops⟩
  exact h e he (Error.kind_of_stops hstops)

lemma stopped_map_iff (f : α → β) : Stopped (x.map f) ↔ Stopped x := by
  simp only [Stopped, map_eq_error_iff]

/-- A computation in two steps stops in the first or in the second. -/
lemma stopped_bind_iff (f : α → Except Error β) :
    Stopped (x >>= f) ↔ Stopped x ∨ ∃ a, x = .ok a ∧ Stopped (f a) := by
  cases x with
  | error e => simp [bind, Except.bind, stopped_error_iff]
  | ok a => simp [ok_bind, not_stopped_ok]

lemma not_stopped_bind {f : α → Except Error β} (hx : ¬ Stopped x)
    (hf : ∀ a, x = .ok a → ¬ Stopped (f a)) : ¬ Stopped (x >>= f) := by
  rw [stopped_bind_iff]
  rintro (h | ⟨a, ha, h⟩)
  · exact hx h
  · exact hf a ha h

end

/-! ### Times -/

namespace TimeScheme

variable {zone : Zone} {t : Timestamp}

lemma not_stopped_secondsSince (base : Date) : ¬ Stopped (secondsSince t base) := by
  rintro ⟨e, he, hstops⟩
  obtain ⟨_, rfl⟩ := secondsSince_eq_error_iff.1 he
  cases hstops

lemma not_stopped_alphabet (radix : Nat) : ¬ Stopped (Numeral.alphabet radix) := by
  unfold Numeral.alphabet
  split
  · exact not_stopped_ok _
  · split
    · exact not_stopped_ok _
    · exact not_stopped_error rfl

/-- The program stops where local clocks are asked for and do not cover the time. -/
theorem encode_stopped_iff {scheme : TimeScheme} :
    Stopped (scheme.encode zone t) ↔ scheme.readsZone = true ∧ ¬ zone.Covers t.instant := by
  cases scheme with
  | readable date clock separator utc =>
    constructor
    · rintro ⟨e, he, _⟩
      exact (encode_readable_eq_error_iff.1 he).1
    · intro h
      exact ⟨_, encode_readable_eq_error_iff.2 ⟨h, rfl⟩, rfl⟩
  | dotted interval baseYear =>
    refine iff_of_false ?_ fun h => Bool.false_ne_true h.1
    rw [encode]
    refine not_stopped_bind (not_stopped_secondsSince _) fun seconds _ => ?_
    dsimp only
    split
    · exact not_stopped_ok _
    · exact not_stopped_error rfl
  | numeral radix interval baseYear minLength upper =>
    refine iff_of_false ?_ fun h => Bool.false_ne_true h.1
    rw [encode]
    refine not_stopped_bind (not_stopped_secondsSince _) fun seconds _ => ?_
    exact not_stopped_bind (not_stopped_alphabet _) fun _ _ => not_stopped_ok _
  | hours baseYear baseMonth =>
    refine iff_of_false ?_ fun h => Bool.false_ne_true h.1
    rw [encode]
    exact not_stopped_bind (not_stopped_secondsSince _) fun _ _ => not_stopped_ok _

end TimeScheme

lemma TimeSpec.not_stopped_read (text : String) : ¬ Stopped (TimeSpec.read text) := by
  unfold TimeSpec.read
  split
  · exact not_stopped_error rfl
  · split
    · exact not_stopped_ok _
    · exact not_stopped_error rfl

/-! ### Placeholders -/

lemma Release.not_stopped_ofSnapshot (s : Snapshot) (defaultBranch build : Option String) :
    ¬ Stopped (ofSnapshot s defaultBranch build) := by
  cases htagged : s.isTagged with
  | true =>
    rw [ofSnapshot, if_pos htagged]
    exact not_stopped_ok _
  | false =>
    rw [ofSnapshot_of_not_isTagged htagged, stopped_map_iff]
    refine not_stopped_of_kind fun e h => ?_
    rw [Version.kind_of_nextPatch h]
    decide

namespace Token

/-- The placeholders that ask for the local clock of a time that it does not cover. -/
inductive Stops (s : Snapshot) (context : BuildContext) (zone : Zone) : Token → Prop where
  | localTime {spec : TimeSpec} :
    spec.scheme.readsZone = true →
    ¬ zone.Covers ((sourceTime s context spec.source).getD context.time).instant →
    Stops s context zone (.time spec)

variable {s : Snapshot} {context : BuildContext} {zone : Zone} {token : Token}

theorem value_stopped_iff : Stopped (token.value s context zone).value ↔ token.Stops s context zone := by
  cases token with
  | time spec =>
    rw [value, value_timeValue, TimeScheme.encode_stopped_iff]
    constructor
    · rintro ⟨hreads, huncovered⟩
      exact .localTime hreads huncovered
    · rintro ⟨hreads, huncovered⟩
      exact ⟨hreads, huncovered⟩
  | release inline withHash length =>
    refine iff_of_false ?_ nofun
    rw [value, releaseValue_eq, stopped_map_iff]
    exact Release.not_stopped_ofSnapshot _ _ _
  | revision offset =>
    refine iff_of_false ?_ nofun
    rw [value, Recorded.value_pure]
    split
    · exact not_stopped_error rfl
    · exact not_stopped_ok _
  | _ => exact iff_of_false (not_stopped_ok _) nofun

end Token

/-! ### Templates -/

namespace Template

/-- The templates at which the program stops: one of their placeholders does, and all those before it have a value. -/
inductive Stops (s : Snapshot) (context : BuildContext) (zone : Zone) (template : String) : Prop where
  | placeholder {front rest : List Segment} {token : Token} :
    read template = .ok (front ++ .token token :: rest) →
    (∀ token', .token token' ∈ front → ∃ value, (token'.value s context zone).value = .ok value) →
    token.Stops s context zone →
    Stops s context zone template

variable {s : Snapshot} {context : BuildContext} {zone : Zone}

lemma valueOf_stopped_iff {segments : List Segment} :
    Stopped (valueOf s context zone segments).value ↔
      ∃ front token rest, segments = front ++ .token token :: rest ∧
        (∀ token', .token token' ∈ front → ∃ value, (token'.value s context zone).value = .ok value) ∧
        token.Stops s context zone := by
  -- By induction on the segments: the first one stops, or it has a value and one of the others does.
  induction segments with
  | nil => exact iff_of_false (not_stopped_ok _) (by simp)
  | cons segment segments ih =>
    cases segment with
    | text cs =>
      rw [valueOf_text, stopped_map_iff, ih]
      constructor
      · rintro ⟨front, token, rest, rfl, hfront, htoken⟩
        exact ⟨.text cs :: front, token, rest, rfl, by simpa using hfront, htoken⟩
      · rintro ⟨front, token, rest, hcut, hfront, htoken⟩
        cases front with
        | nil => cases hcut
        | cons segment front =>
          cases hcut
          exact ⟨front, token, rest, rfl, fun token' h => hfront token' (List.mem_cons_of_mem _ h), htoken⟩
    | token first =>
      rw [valueOf_token]
      have hsteps := stopped_bind_iff (x := (first.value s context zone).value) fun value =>
        (valueOf s context zone segments).value.map (value ++ ·)
      simp only [stopped_map_iff, ih, Token.value_stopped_iff] at hsteps
      refine hsteps.trans ?_
      constructor
      · rintro (hfirst | ⟨value, hvalue, front, token, rest, rfl, hfront, htoken⟩)
        · exact ⟨[], first, segments, rfl, nofun, hfirst⟩
        · refine ⟨.token first :: front, token, rest, rfl, ?_, htoken⟩
          intro token' h
          cases h with
          | head => exact ⟨value, hvalue⟩
          | tail _ h => exact hfront token' h
      · rintro ⟨front, token, rest, hcut, hfront, htoken⟩
        cases front with
        | nil =>
          cases hcut
          exact .inl htoken
        | cons segment front =>
          cases hcut
          obtain ⟨value, hvalue⟩ := hfront first List.mem_cons_self
          exact .inr ⟨value, hvalue, front, token, rest, rfl,
            fun token' h => hfront token' (List.mem_cons_of_mem _ h), htoken⟩

/-- A template that is malformed is refused before any clock is asked for. -/
lemma not_stopped_read (template : String) : ¬ Stopped (read template) := by
  refine not_stopped_of_kind fun e h => ?_
  obtain ⟨_, _, _, _, hread⟩ := exists_firstMalformed_of_read h
  rw [(Token.message_of_read_eq_error hread).1]
  decide

theorem resolve_stopped_iff {template : String} :
    Stopped (resolve s context zone template).value ↔ Stops s context zone template := by
  cases hread : read template with
  | error e =>
    rw [resolve_of_read_eq_error hread]
    have hreported : ¬ Stopped (read template) := not_stopped_read template
    rw [hread, stopped_error_iff] at hreported
    refine iff_of_false (mt stopped_error_iff.1 hreported) ?_
    rintro ⟨h, _, _⟩
    rw [hread] at h
    cases h
  | ok segments =>
    rw [(resolve_of_read hread).1, valueOf_stopped_iff]
    constructor
    · rintro ⟨front, token, rest, rfl, hfront, htoken⟩
      exact .placeholder hread hfront htoken
    · rintro ⟨h, hfront, htoken⟩
      rw [hread] at h
      cases h
      exact ⟨_, _, _, rfl, hfront, htoken⟩

lemma not_stopped_shortVersion (text : String) : ¬ Stopped (ShortVersion.read text) := by
  unfold ShortVersion.read
  dsimp only
  split
  · split
    · exact not_stopped_error rfl
    · split
      · exact not_stopped_error rfl
      · exact not_stopped_ok _
  · exact not_stopped_error rfl

lemma resolveShort_stopped_iff {template : String} :
    Stopped (resolveShort s context zone template).value ↔ Stops s context zone template := by
  rw [← resolve_stopped_iff, resolveShort, Recorded.value_bind]
  cases (resolve s context zone template).value with
  | error e => exact Iff.rfl
  | ok text => exact iff_of_false (not_stopped_shortVersion text) (not_stopped_ok text)

end Template

end BuildVersion
