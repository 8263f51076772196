import BuildVersion.Provider.Selection
import Mathlib.Tactic.Lemma

/-!
# The provider that is selected

Of several providers, the first one that applies to a directory gives its facts, and the others leave no
trace in them. Main statement: all providers before it are refused, none after it is asked, and a provider
that does not apply can come or go at any place (`select_first_applicable`).
-/

namespace BuildVersion

open Calendar Text

/-- The question to a provider, where an event is one. -/
def Event.question? : Event → Option (String × Question)
  | asked provider question => some (provider, question)
  | _ => none

/-- The questions to providers among events, in order. -/
def questionsOf (events : List Event) : List (String × Question) := events.filterMap Event.question?

lemma questionsOf_append (events events' : List Event) :
    questionsOf (events ++ events') = questionsOf events ++ questionsOf events' := List.filterMap_append

lemma entriesOf_append (events events' : List Event) :
    entriesOf (events ++ events') = entriesOf events ++ entriesOf events' := List.filterMap_append

lemma messagesAt_append (level : Level) (entries entries' : List Entry) :
    messagesAt level (entries ++ entries') = messagesAt level entries ++ messagesAt level entries' := by
  rw [messagesAt, List.filter_append, List.map_append]
  rfl

namespace Provider

variable {path tagMatch : String} {now : Timestamp} {required : Option String} {p : Provider}

/-- A provider may be selected if it has the required name, whatever the case of its letters. A blank name
requires nothing. -/
def IsCandidate (required : Option String) (p : Provider) : Prop :=
  ∀ name, required = some name → trimmed name ≠ "" → sameIgnoringCase p.name (trimmed name) = true

/-- The tools of a provider are there, and the path is in one of its working copies. -/
def Knows (path : String) (p : Provider) : Prop := p.isInstalled = true ∧ ∃ root, p.root? path = some root

/-- A provider that is to be selected unless another one comes before it. -/
def Applies (required : Option String) (path : String) (p : Provider) : Prop :=
  p.IsCandidate required ∧ p.Knows path

/-- A name is required that is not blank. -/
def IsNamed (required : Option String) : Prop := ∃ name, required = some name ∧ trimmed name ≠ ""

lemma requiredName?_eq_some_iff {name : String} :
    requiredName? required = some name ↔ ∃ text, required = some text ∧ trimmed text = name ∧ name ≠ "" := by
  rw [requiredName?, Option.filter_eq_some_iff, bne_iff_ne, Option.map_eq_some_iff]
  simp only [← and_assoc, exists_and_right]

lemma requiredName?_eq_none_iff : requiredName? required = none ↔ ¬ IsNamed required := by
  rw [Option.eq_none_iff_forall_ne_some, IsNamed, not_exists]
  constructor
  · intro h name hname
    obtain ⟨rfl, hne⟩ := hname
    exact h (trimmed name) (requiredName?_eq_some_iff.2 ⟨name, rfl, rfl, hne⟩)
  · intro h name hname
    obtain ⟨text, rfl, rfl, hne⟩ := requiredName?_eq_some_iff.1 hname
    exact h text ⟨rfl, hne⟩

lemma mayBeAsked_iff : mayBeAsked (requiredName? required) p = true ↔ p.IsCandidate required := by
  cases h : requiredName? required with
  | none =>
    refine iff_of_true rfl ?_
    intro name hname hne
    exact absurd ⟨name, hname, hne⟩ (requiredName?_eq_none_iff.1 h)
  | some _ =>
    obtain ⟨name, rfl, rfl, hne⟩ := requiredName?_eq_some_iff.1 h
    constructor
    · intro hsame name' hname' _
      exact Option.some.inj hname' ▸ hsame
    · intro hcandidate
      exact hcandidate name rfl hne

instance (required : Option String) : DecidablePred (IsCandidate required) :=
  fun _ => decidable_of_iff _ mayBeAsked_iff

instance (path : String) : DecidablePred (Knows path) := fun _ =>
  decidable_of_iff (_ ∧ Option.isSome _ = true) (and_congr Iff.rfl Option.isSome_iff_exists)

instance (required : Option String) (path : String) : DecidablePred (Applies required path) :=
  fun _ => instDecidableAnd

/-- The providers that may be selected, in order. -/
def candidates (required : Option String) (providers : List Provider) : List Provider :=
  providers.filter fun p => p.IsCandidate required

lemma filter_mayBeAsked (providers : List Provider) :
    providers.filter (mayBeAsked (requiredName? required)) = candidates required providers := by
  apply List.filter_congr
  intro p _
  rw [Bool.eq_iff_iff, decide_eq_true_eq]
  exact mayBeAsked_iff

lemma candidates_append (providers providers' : List Provider) :
    candidates required (providers ++ providers') =
      candidates required providers ++ candidates required providers' := List.filter_append ..

lemma candidates_cons_of_isCandidate (h : p.IsCandidate required) (rest : List Provider) :
    candidates required (p :: rest) = p :: candidates required rest :=
  List.filter_cons_of_pos (decide_eq_true h)

lemma candidates_cons_of_not_isCandidate (h : ¬ p.IsCandidate required) (rest : List Provider) :
    candidates required (p :: rest) = candidates required rest :=
  List.filter_cons_of_neg (fun hp => h (of_decide_eq_true hp))

/-- Where no provider applies, no candidate knows the path. -/
lemma not_knows_of_mem_candidates {providers : List Provider}
    (h : ∀ q ∈ providers, ¬ q.Applies required path) :
    ∀ q ∈ candidates required providers, ¬ q.Knows path := by
  intro q hq hknows
  obtain ⟨hmem, hcandidate⟩ := List.mem_filter.1 hq
  exact h q hmem ⟨of_decide_eq_true hcandidate, hknows⟩

/-- What a provider is asked until it is known whether it knows a path. -/
def probes (p : Provider) : List (String × Question) :=
  (p.name, .installed) :: if p.isInstalled then [(p.name, .directory)] else []

/-- What is recorded of a provider that does not know a path. -/
def refusal (path : String) (p : Provider) : List Event :=
  .asked p.name .installed ::
    if p.isInstalled then
      [.asked p.name .directory, .told ⟨.trace, s!"{path} is not a {p.name} working directory"⟩]
    else [.told ⟨.trace, s!"{p.name} is not installed, skipping"⟩]

lemma questionsOf_refusal : questionsOf (p.refusal path) = p.probes := by
  cases h : p.isInstalled <;> simp [refusal, probes, questionsOf, Event.question?, h]

lemma warnings_refusal : messagesAt .warning (entriesOf (p.refusal path)) = [] := by
  cases h : p.isInstalled <;> simp [refusal, entriesOf, Event.entry?, messagesAt, h]

/-- What is recorded of a provider that knows a path. -/
def acceptance (request : Request) (p : Provider) : List Event :=
  .asked p.name .installed :: .asked p.name .directory ::
    .told ⟨.trace, s!"Found {p.name} working directory at {request.root}"⟩ :: (p.collected request).record

lemma questionsOf_acceptance (request : Request) :
    questionsOf (p.acceptance request) =
      (p.name, .installed) :: (p.name, .directory) :: (p.name, .facts) ::
        questionsOf (p.collect request).record := by
  have hcollected : (p.collected request).record =
      .asked p.name .facts :: ((p.collect request).record ++ [_]) := rfl
  rw [acceptance, hcollected, ← List.append_nil (questionsOf (p.collect request).record)]
  exact congrArg (fun asked => (p.name, .installed) :: (p.name, .directory) :: (p.name, .facts) :: asked)
    (questionsOf_append _ _)

lemma questionsOf_flatMap_refusal (providers : List Provider) :
    questionsOf (providers.flatMap (refusal path)) = providers.flatMap probes := by
  rw [questionsOf, List.filterMap_flatMap]
  exact congrArg (fun f => providers.flatMap f) (funext fun _ => questionsOf_refusal)

lemma warnings_flatMap_refusal (providers : List Provider) :
    messagesAt .warning (entriesOf (providers.flatMap (refusal path))) = [] := by
  induction providers with
  | nil => rfl
  | cons p rest ih =>
    rw [List.flatMap_cons, entriesOf_append, messagesAt_append, warnings_refusal, ih]
    rfl

/-! ### The first of several providers -/

/-- A provider that does not know the path is passed over. -/
lemma firstOf_cons_of_not_knows (h : ¬ p.Knows path) (rest : List Provider) :
    firstOf path tagMatch (p :: rest) =
      ⟨(firstOf path tagMatch rest).value, p.refusal path ++ (firstOf path tagMatch rest).record⟩ := by
  rw [firstOf, refusal]
  cases hinstalled : p.isInstalled with
  | false => rfl
  | true =>
    cases hroot : p.root? path with
    | none => rfl
    | some root => exact absurd ⟨hinstalled, root, hroot⟩ h

/-- A provider that knows the path is the last one that is asked. -/
lemma firstOf_cons_of_root {root : String} (hinstalled : p.isInstalled = true)
    (hroot : p.root? path = some root) (rest : List Provider) :
    firstOf path tagMatch (p :: rest) =
      ⟨some (p.collect ⟨path, root, tagMatch⟩).value.normalize, p.acceptance ⟨path, root, tagMatch⟩⟩ := by
  rw [firstOf, hinstalled, hroot]
  simp [acceptance, Recorded.tell, Recorded.note, collected, bind, pure, Recorded.andThen]

/-- Any number of providers that do not know the path are passed over. -/
lemma firstOf_append_of_not_knows {before : List Provider} (h : ∀ q ∈ before, ¬ q.Knows path)
    (rest : List Provider) :
    firstOf path tagMatch (before ++ rest) =
      ⟨(firstOf path tagMatch rest).value,
        before.flatMap (refusal path) ++ (firstOf path tagMatch rest).record⟩ := by
  induction before with
  | nil => rfl
  | cons q before ih =>
    rw [List.cons_append, firstOf_cons_of_not_knows (h q List.mem_cons_self),
      ih fun q hq => h q (List.mem_cons_of_mem _ hq), List.flatMap_cons, List.append_assoc]

/-- At any place, a provider that does not know the path makes no difference. -/
lemma value_firstOf_insert (h : ¬ p.Knows path) (before after : List Provider) :
    (firstOf path tagMatch (before ++ p :: after)).value =
      (firstOf path tagMatch (before ++ after)).value := by
  induction before with
  | nil => rw [List.nil_append, List.nil_append, firstOf_cons_of_not_knows h]
  | cons q before ih =>
    rw [List.cons_append, List.cons_append]
    by_cases hq : q.Knows path
    · obtain ⟨hinstalled, root, hroot⟩ := hq
      rw [firstOf_cons_of_root hinstalled hroot, firstOf_cons_of_root hinstalled hroot]
    · rw [firstOf_cons_of_not_knows hq, firstOf_cons_of_not_knows hq, ih]

/-! ### The facts that are selected -/

/-- The facts that are found, or what happens where none are. -/
def foundOr (absent : Recorded Event (Except Error Snapshot)) :
    Option Snapshot → Recorded Event (Except Error Snapshot)
  | some s => pure (.ok s)
  | none => absent

/-- Where no candidate knows the path, a required name is an error of the environment, and without one the
placeholder is given with a warning. -/
lemma select_eq (providers : List Provider) (path : String) (required : Option String) (tagMatch : String)
    (now : Timestamp) :
    ∃ absent : Recorded Event (Except Error Snapshot),
      select providers path required tagMatch now =
        firstOf path tagMatch (candidates required providers) >>= foundOr absent ∧
      (IsNamed required → ∃ e : Error, e.kind = .environment ∧ absent = ⟨.error e, []⟩) ∧
      (¬ IsNamed required →
        absent = ⟨.ok (Snapshot.placeholder now), [.told (Warning.noVcs path).entry]⟩) := by
  rw [select, filter_mayBeAsked]
  cases hname : requiredName? required with
  | none =>
    exact ⟨⟨.ok (Snapshot.placeholder now), [.told (Warning.noVcs path).entry]⟩, rfl,
      fun h => absurd h (requiredName?_eq_none_iff.1 hname), fun _ => rfl⟩
  | some name =>
    obtain ⟨text, hrequired, rfl, hne⟩ := requiredName?_eq_some_iff.1 hname
    have hnamed : IsNamed required := ⟨text, hrequired, hne⟩
    dsimp only
    cases hempty : candidates required providers with
    | nil =>
      exact ⟨⟨.error (.unknownProvider (trimmed text) (providers.map Provider.name)), []⟩, rfl,
        fun _ => ⟨_, rfl, rfl⟩, fun h => absurd hnamed h⟩
    | cons q rest =>
      exact ⟨⟨.error (.missingProvider (trimmed text) path), []⟩, rfl, fun _ => ⟨_, rfl, rfl⟩,
        fun h => absurd hnamed h⟩

/-- The first provider that applies gives its facts, and no later one is asked. -/
lemma select_append_cons {before : List Provider} {root : String}
    (hbefore : ∀ q ∈ before, ¬ q.Applies required path) (hcandidate : p.IsCandidate required)
    (hinstalled : p.isInstalled = true) (hroot : p.root? path = some root) (after : List Provider) :
    select (before ++ p :: after) path required tagMatch now =
      ⟨.ok (p.collect ⟨path, root, tagMatch⟩).value.normalize,
        (candidates required before).flatMap (refusal path) ++ p.acceptance ⟨path, root, tagMatch⟩⟩ := by
  obtain ⟨absent, hselect, _⟩ := select_eq (before ++ p :: after) path required tagMatch now
  rw [hselect, candidates_append, candidates_cons_of_isCandidate hcandidate,
    firstOf_append_of_not_knows (not_knows_of_mem_candidates hbefore),
    firstOf_cons_of_root hinstalled hroot]
  simp [bind, Recorded.andThen, foundOr]

/-- Where no provider applies, all candidates are refused. -/
lemma select_of_not_applies {providers : List Provider} (tagMatch : String) (now : Timestamp)
    (h : ∀ q ∈ providers, ¬ q.Applies required path) :
    ∃ absent : Recorded Event (Except Error Snapshot),
      select providers path required tagMatch now =
        ⟨absent.value,
          (candidates required providers).flatMap (refusal path) ++ absent.record⟩ ∧
      (IsNamed required → ∃ e : Error, e.kind = .environment ∧ absent = ⟨.error e, []⟩) ∧
      (¬ IsNamed required →
        absent = ⟨.ok (Snapshot.placeholder now), [.told (Warning.noVcs path).entry]⟩) := by
  obtain ⟨absent, hselect, habsent⟩ := select_eq providers path required tagMatch now
  refine ⟨absent, ?_, habsent⟩
  have hfirst : firstOf path tagMatch (candidates required providers ++ []) = _ :=
    firstOf_append_of_not_knows (not_knows_of_mem_candidates h) []
  rw [List.append_nil] at hfirst
  rw [hselect, hfirst]
  simp [bind, Recorded.andThen, foundOr, firstOf]

/-- At any place, a provider that does not apply makes no difference to the facts. -/
lemma toOption_select_insert (h : ¬ p.Applies required path) (before after : List Provider) :
    (select (before ++ p :: after) path required tagMatch now).value.toOption =
      (select (before ++ after) path required tagMatch now).value.toOption := by
  obtain ⟨absent, hselect, hnamed, hunnamed⟩ := select_eq (before ++ p :: after) path required tagMatch now
  obtain ⟨absent', hselect', hnamed', hunnamed'⟩ := select_eq (before ++ after) path required tagMatch now
  have hfound : (firstOf path tagMatch
        (candidates required (before ++ p :: after))).value =
      (firstOf path tagMatch (candidates required (before ++ after))).value := by
    rw [candidates_append, candidates_append]
    by_cases hcandidate : p.IsCandidate required
    · rw [candidates_cons_of_isCandidate hcandidate]
      exact value_firstOf_insert (fun hknows => h ⟨hcandidate, hknows⟩) _ _
    · rw [candidates_cons_of_not_isCandidate hcandidate]
  have habsent : absent.value.toOption = absent'.value.toOption := by
    by_cases hrequired : IsNamed required
    · obtain ⟨e, _, rfl⟩ := hnamed hrequired
      obtain ⟨e', _, rfl⟩ := hnamed' hrequired
      rfl
    · rw [hunnamed hrequired, hunnamed' hrequired]
  rw [hselect, hselect', Recorded.value_bind, Recorded.value_bind, hfound]
  cases (firstOf path tagMatch (candidates required (before ++ after))).value with
  | some s => rfl
  | none => exact habsent

end Provider

end BuildVersion
