import BuildVersion.Proofs.Diagnostics.Level
import BuildVersion.Proofs.Fallible
import BuildVersion.Proofs.Template.Inputs
import BuildVersion.Proofs.Template.LocalClock
import BuildVersion.Proofs.Tool.Answer
import BuildVersion.Proofs.Word.TimeScheme

/-!
# Answers and failures

What a user gets of an invocation: its text, or one error and nothing else, or not even an error where a template
stops the program. Main statement: a run that has an answer prints it and one line break, every other run prints
nothing and tells one error unless it stops, and what can be found wrong without the facts of the working copy is
found before any tool is called (`Machine.respond_answers_or_fails`).
-/

namespace BuildVersion

open Calendar Fallible

namespace Options

/-- What can be found wrong before any facts are asked for: the settings cannot be had, they are not valid together
with the options, or the time of the build is none. -/
inductive Unprepared (o : Options) (m : Machine) : Failure → Prop where
  | settings {e : Error} :
    Settings.load m o.configuration o.directory = .error e →
    Unprepared o m (.settings e)
  | invalid {loaded : Settings} {e : Error} :
    Settings.load m o.configuration o.directory = .ok loaded →
    (o.override loaded).validate = .error e →
    Unprepared o m (.error e)
  | buildTime {text : String} :
    o.buildTime = some text →
    Timestamp.ofRfc3339? text = none →
    Unprepared o m (.buildTime text)

variable {o : Options} {m : Machine} {failure : Failure}

lemma Unprepared.of_settings (h : o.settings m = .error failure) : o.Unprepared m failure := by
  unfold Options.settings at h
  split at h
  · next hload =>
    cases h
    exact .settings hload
  · next loaded hload =>
    split at h
    · next hinvalid =>
      cases h
      exact .invalid hload hinvalid
    · cases h

lemma Unprepared.of_time (h : o.time m = .error failure) : o.Unprepared m failure := by
  unfold time at h
  split at h
  · cases h
  · next text htext =>
    split at h
    · cases h
    · next hnone =>
      cases h
      exact .buildTime htext hnone

/-- Preparing a run fails for nothing else. -/
lemma Unprepared.of_prepare (h : o.prepare m = .error failure) : o.Unprepared m failure := by
  rw [prepare] at h
  cases hsettings : o.settings m with
  | error f =>
    rw [hsettings] at h
    cases h
    exact of_settings hsettings
  | ok s =>
    rw [hsettings] at h
    cases htime : o.time m with
    | error f =>
      rw [htime] at h
      cases h
      exact of_time htime
    | ok t =>
      rw [htime] at h
      cases h

/-- The program stops at nothing of this. -/
lemma Unprepared.stops_eq_false (h : o.Unprepared m failure) : failure.stops = false := by
  cases h with
  | settings => rfl
  | buildTime => rfl
  | invalid hload hinvalid =>
    unfold Settings.validate at hinvalid
    split at hinvalid
    · cases hinvalid
      rfl
    · split at hinvalid
      · cases hinvalid
        rfl
      · cases hinvalid

lemma prepare_eq_ok_iff {s : Settings} {t : Timestamp} :
    o.prepare m = .ok (s, t) ↔ o.settings m = .ok s ∧ o.time m = .ok t := by
  rw [prepare, bind_eq_ok_iff]
  simp only [bind_eq_ok_iff]
  constructor
  · rintro ⟨s, hs, t, ht, ⟨⟩⟩
    exact ⟨hs, ht⟩
  · rintro ⟨hs, ht⟩
    exact ⟨s, hs, t, ht, rfl⟩

/-- Where something is found wrong, preparing a run fails. -/
lemma Unprepared.exists_prepare_error (h : o.Unprepared m failure) :
    ∃ failure', o.prepare m = .error failure' := by
  cases hprepare : o.prepare m with
  | error failure' => exact ⟨failure', rfl⟩
  | ok prepared =>
    -- A run that is prepared has its settings and its time, which what was found wrong denies.
    obtain ⟨hsettings, htime⟩ := prepare_eq_ok_iff.1 hprepare
    cases h with
    | settings hload =>
      rw [Options.settings, hload] at hsettings
      cases hsettings
    | invalid hload hinvalid =>
      rw [Options.settings, hload] at hsettings
      dsimp only at hsettings
      rw [hinvalid] at hsettings
      cases hsettings
    | buildTime htext hnone =>
      rw [time, htext] at htime
      dsimp only at htime
      rw [hnone] at htime
      cases htime

end Options

namespace Product

/-- The template of a product; the facts themselves have none. -/
def template? (settings : Settings) : Product → Option String
  | version template => some (template.getD settings.format.version)
  | shortVersion template => some (template.getD settings.format.shortTemplate)
  | copyright template => some (template.getD settings.format.copyright)
  | facts => none

lemma text_stopped_iff {product : Product} {s : Snapshot} {settings : Settings} {context : BuildContext}
    {zone : Zone} :
    Stopped (product.text s settings context zone).value ↔
      ∃ template, product.template? settings = some template ∧ Template.Stops s context zone template := by
  cases product with
  | version template => simp [text, template?, Template.resolve_stopped_iff]
  | shortVersion template => simp [text, template?, Template.resolveShort_stopped_iff]
  | copyright template => simp [text, template?, Template.resolve_stopped_iff]
  | facts => exact iff_of_false (not_stopped_ok _) (by simp [template?])

end Product

namespace Invocation

/-- The text that an invocation has for an answer on a machine: that of a product, made of the settings, the time and
the facts of the inspected directory, or the time that a value stands for. -/
inductive Answers (m : Machine) : Invocation → String → Prop where
  | produce {o : Options} {product : Product} {settings : Settings} {time : Timestamp} {s : Snapshot}
      {text : String} :
    o.settings m = .ok settings →
    o.time m = .ok time →
    (m.collect settings o.directory time).value = .ok s →
    (product.text s settings (settings.context time m.name) m.zone).value = .ok text →
    Answers m ⟨o, .produce product⟩ text
  | decode {o : Options} {placeholder value : String} {spec : TimeSpec} {t : Instant} :
    TimeSpec.read placeholder = .ok spec →
    spec.scheme.decode m.zone value = .ok t →
    Answers m ⟨o, .decode placeholder value⟩ t.rfc3339

/-- The runs that stop the program: the template of their product does, made of what they have for an answer
otherwise. -/
inductive Stops (m : Machine) : Invocation → Prop where
  | produce {o : Options} {product : Product} {settings : Settings} {time : Timestamp} {s : Snapshot}
      {template : String} :
    o.settings m = .ok settings →
    o.time m = .ok time →
    (m.collect settings o.directory time).value = .ok s →
    product.template? settings = some template →
    Template.Stops s (settings.context time m.name) m.zone template →
    Stops m ⟨o, .produce product⟩

variable {i : Invocation} {m : Machine}

lemma value_make_eq_ok_iff {product : Product} {o : Options} {text : String} :
    (product.make o m).value = .ok text ↔ Answers m ⟨o, .produce product⟩ text := by
  constructor
  · intro h
    rw [Product.make] at h
    cases hprepare : o.prepare m with
    | error failure =>
      rw [hprepare] at h
      cases h
    | ok prepared =>
      obtain ⟨hsettings, htime⟩ := Options.prepare_eq_ok_iff.1 hprepare
      rw [hprepare] at h
      dsimp only at h
      rw [Recorded.value_bind] at h
      cases hcollect : (m.collect prepared.1 o.directory prepared.2).value with
      | error e =>
        rw [hcollect] at h
        cases h
      | ok s =>
        rw [hcollect] at h
        exact .produce hsettings htime hcollect (mapError_eq_ok_iff.1 h)
  · rintro (⟨hsettings, htime, hcollect, htext⟩ | _)
    rw [Product.make, Options.prepare_eq_ok_iff.2 ⟨hsettings, htime⟩]
    dsimp only
    rw [Recorded.value_bind, hcollect]
    exact mapError_eq_ok_iff.2 htext

lemma value_run_eq_ok_iff {text : String} : (i.run m).value = .ok text ↔ i.Answers m text := by
  obtain ⟨o, command⟩ := i
  cases command with
  | produce product => exact value_make_eq_ok_iff
  | decode placeholder value =>
    have hdecode : (decodedText m.zone placeholder value).mapError Failure.error = .ok text ↔ _ :=
      mapError_eq_ok_iff
    refine hdecode.trans ?_
    rw [decodedText, bind_eq_ok_iff]
    simp only [bind_eq_ok_iff]
    constructor
    · rintro ⟨spec, hspec, t, ht, ⟨⟩⟩
      exact .decode hspec ht
    · rintro (_ | ⟨hspec, ht⟩)
      exact ⟨_, hspec, _, ht, rfl⟩

lemma stops_mapError_iff {x : Except Error String} :
    (∃ failure, x.mapError Failure.error = .error failure ∧ failure.stops = true) ↔ Stopped x := by
  cases x with
  | ok text => simp [Except.mapError, not_stopped_ok]
  | error e => simp [Except.mapError, stopped_error_iff, Failure.stops]

/-- Collecting facts is refused for the providers alone. -/
lemma not_stopped_collect (settings : Settings) (directory : String) (time : Timestamp) :
    ¬ Stopped (m.collect settings directory time).value := by
  unfold Machine.collect Provider.select
  dsimp only
  split
  · split
    · exact not_stopped_error rfl
    · rw [Recorded.value_bind]
      split
      · exact not_stopped_ok _
      · exact not_stopped_error rfl
  · rw [Recorded.value_bind]
    split
    · exact not_stopped_ok _
    · exact not_stopped_ok _

/-- Clocks are not asked for a time that is none yet. -/
lemma not_stopped_decodedText {zone : Zone} {placeholder value : String} :
    ¬ Stopped (decodedText zone placeholder value) := by
  rw [decodedText]
  refine not_stopped_bind (TimeSpec.not_stopped_read placeholder) fun spec hspec => ?_
  refine not_stopped_bind (not_stopped_of_kind fun e he => ?_) fun _ _ => not_stopped_ok _
  obtain hkind | hkind := TimeScheme.kind_of_decode_eq_error (TimeSpec.wellFormed_of_read hspec) he
  · rw [hkind]
    decide
  · rw [hkind]
    decide

/-- A run stops in what makes the text of its product. -/
lemma value_make_stops_iff {product : Product} {o : Options} :
    (∃ failure, (product.make o m).value = .error failure ∧ failure.stops = true) ↔
      Stops m ⟨o, .produce product⟩ := by
  rw [Product.make]
  cases hprepare : o.prepare m with
  | error failure =>
    constructor
    · rintro ⟨failure', ⟨⟩, hstops⟩
      rw [(Options.Unprepared.of_prepare hprepare).stops_eq_false] at hstops
      cases hstops
    · rintro ⟨hsettings, htime, _⟩
      rw [Options.prepare_eq_ok_iff.2 ⟨hsettings, htime⟩] at hprepare
      cases hprepare
  | ok prepared =>
    obtain ⟨settings, time⟩ := prepared
    obtain ⟨hsettings, htime⟩ := Options.prepare_eq_ok_iff.1 hprepare
    dsimp only
    rw [Recorded.value_bind]
    cases hcollect : (m.collect settings o.directory time).value with
    | error e =>
      have hreported := not_stopped_collect (m := m) settings o.directory time
      rw [hcollect, stopped_error_iff] at hreported
      constructor
      · rintro ⟨failure, ⟨⟩, hstops⟩
        exact absurd hstops hreported
      · rintro ⟨hsettings', htime', hcollect', _⟩
        cases hsettings.symm.trans hsettings'
        cases htime.symm.trans htime'
        cases hcollect.symm.trans hcollect'
    | ok s =>
      refine (stops_mapError_iff (x := (product.text s settings (settings.context time m.name) m.zone).value)).trans ?_
      rw [Product.text_stopped_iff]
      constructor
      · rintro ⟨template, htemplate, hstops⟩
        exact .produce hsettings htime hcollect htemplate hstops
      · rintro ⟨hsettings', htime', hcollect', htemplate, hstops⟩
        cases hsettings.symm.trans hsettings'
        cases htime.symm.trans htime'
        cases hcollect.symm.trans hcollect'
        exact ⟨_, htemplate, hstops⟩

/-- A run stops where a template does, and decoding never. -/
lemma value_run_stops_iff : (∃ failure, (i.run m).value = .error failure ∧ failure.stops = true) ↔ i.Stops m := by
  obtain ⟨o, command⟩ := i
  cases command with
  | produce product => exact value_make_stops_iff
  | decode placeholder value =>
    exact (stops_mapError_iff (x := decodedText m.zone placeholder value)).trans
      (iff_of_false not_stopped_decodedText nofun)

/-- A run that is not prepared does nothing. -/
lemma run_of_prepare_error {product : Product} {failure : Failure} (hcommand : i.command = .produce product)
    (h : i.options.prepare m = .error failure) : i.run m = pure (.error failure) := by
  rw [run, hcommand]
  dsimp only
  rw [Product.make, h]

end Invocation

namespace Response

/-- Whether a line of the diagnostics opens as one of an error does. -/
def isErrorLine (line : String) : Bool := "ERROR:".toList.isPrefixOf line.toList

/-- The errors among the diagnostics. -/
def errors (r : Response) : List String := r.diagnostics.filter isErrorLine

/-- A line opens like that of an error only if it is one. -/
lemma isErrorLine_line (entry : Entry) : isErrorLine (entry.line false) = true ↔ entry.level = .error := by
  obtain ⟨level, message⟩ := entry
  cases level <;> simp [isErrorLine, Entry.line, Style.apply, String.toList_append]

lemma filter_shownLines_of_mild {entries : List Entry} (isVerbose : Bool) (h : ∀ entry ∈ entries, entry.Mild) :
    (shownLines isVerbose entries).filter isErrorLine = [] := by
  rw [List.filter_eq_nil_iff, shownLines, List.forall_mem_map]
  intro entry hentry herror
  exact h entry (List.mem_filter.1 hentry).1 ((isErrorLine_line entry).1 herror)

lemma mild_of_mem_entriesOf {events : List Event} (h : ∀ event ∈ events, event.Mild) :
    ∀ entry ∈ entriesOf events, entry.Mild := by
  intro entry hentry
  obtain ⟨event, hevent, he⟩ := List.mem_filterMap.1 hentry
  cases event with
  | told entry' =>
    cases he
    exact h _ hevent
  | asked | called => cases he

/-- An error is shown whatever else is. -/
lemma shownLines_append_error (isVerbose : Bool) (entries : List Entry) (message : String) :
    shownLines isVerbose (entries ++ [⟨.error, message⟩]) = shownLines isVerbose entries ++ ["ERROR: " ++ message] := by
  have hline : Entry.line false ⟨.error, message⟩ = "ERROR: " ++ message := by
    rw [Entry.line, Style.apply]
    exact String.append_assoc ..
  have hshown : shownLines isVerbose [⟨.error, message⟩] = ["ERROR: " ++ message] := by
    rw [← hline]
    cases isVerbose <;> rfl
  rw [← hshown, shownLines, List.filter_append, List.map_append]
  rfl

variable {isVerbose : Bool} {run : Recorded Event (Except Failure String)}

lemma ofRun_ok {text : String} (hrun : run.Always Event.Mild) (h : run.value = .ok text) :
    (ofRun isVerbose run).status = 0 ∧ (ofRun isVerbose run).output = text ++ "\n" ∧
      (ofRun isVerbose run).errors = [] := by
  rw [ofRun, h]
  exact ⟨rfl, rfl, filter_shownLines_of_mild _ (mild_of_mem_entriesOf hrun)⟩

lemma ofRun_of_stops {failure : Failure} (h : run.value = .error failure) (hstops : failure.stops = true) :
    ofRun isVerbose run = ⟨101, "", shownLines isVerbose (entriesOf run.record)⟩ := by
  rw [ofRun, h]
  exact if_pos hstops

lemma ofRun_of_reported {failure : Failure} (h : run.value = .error failure) (hstops : failure.stops = false) :
    ofRun isVerbose run =
      ⟨1, "", shownLines isVerbose (entriesOf run.record ++ [⟨.error, failure.message⟩])⟩ := by
  rw [ofRun, h]
  exact if_neg (ne_true_of_eq_false hstops)

lemma ofRun_stops {failure : Failure} (hrun : run.Always Event.Mild) (h : run.value = .error failure)
    (hstops : failure.stops = true) :
    (ofRun isVerbose run).status = 101 ∧ (ofRun isVerbose run).output = "" ∧ (ofRun isVerbose run).errors = [] := by
  rw [ofRun_of_stops h hstops]
  exact ⟨rfl, rfl, filter_shownLines_of_mild _ (mild_of_mem_entriesOf hrun)⟩

lemma ofRun_error {failure : Failure} (hrun : run.Always Event.Mild) (h : run.value = .error failure)
    (hstops : failure.stops = false) :
    (ofRun isVerbose run).status = 1 ∧ (ofRun isVerbose run).output = "" ∧
      (ofRun isVerbose run).errors = ["ERROR: " ++ failure.message] ∧
      (ofRun isVerbose run).diagnostics.getLast? = some ("ERROR: " ++ failure.message) := by
  have herror : isErrorLine ("ERROR: " ++ failure.message) = true := by
    simp [isErrorLine, String.toList_append]
  rw [ofRun_of_reported h hstops]
  refine ⟨rfl, rfl, ?_, ?_⟩
  · rw [errors, shownLines_append_error, List.filter_append,
      filter_shownLines_of_mild _ (mild_of_mem_entriesOf hrun), List.filter_cons_of_pos herror]
    rfl
  · rw [shownLines_append_error, List.getLast?_concat]

/-- Of a run without events, nothing more is seen where all entries are shown. -/
lemma ofRun_pure (isVerbose isVerbose' : Bool) (result : Except Failure String) :
    ofRun isVerbose (pure result) = ofRun isVerbose' (pure result) := by
  cases result with
  | ok text => cases isVerbose <;> cases isVerbose' <;> rfl
  | error failure =>
    cases hstops : failure.stops with
    | true =>
      rw [ofRun_of_stops rfl hstops, ofRun_of_stops rfl hstops]
      rfl
    | false =>
      rw [ofRun_of_reported rfl hstops, ofRun_of_reported rfl hstops]
      cases isVerbose <;> cases isVerbose' <;> rfl

end Response

/-! ### Decoding -/

/-- Without the local clock, the zone decides nothing. -/
lemma TimeScheme.decode_congr_zone {scheme : TimeScheme} (h : scheme.readsZone = false) (zone zone' : Zone)
    (value : String) : scheme.decode zone value = scheme.decode zone' value := by
  cases scheme with
  | readable date clock separator utc =>
    rw [readsZone, Bool.not_eq_false'] at h
    rw [decode, decode, h]
    rfl
  | dotted => rfl
  | numeral => rfl
  | hours => rfl

lemma decodedText_congr_zone {zone zone' : Zone} {placeholder : String} (value : String)
    (h : ∀ spec, TimeSpec.read placeholder = .ok spec → spec.scheme.readsZone = true → zone = zone') :
    decodedText zone placeholder value = decodedText zone' placeholder value := by
  rw [decodedText, decodedText]
  cases hread : TimeSpec.read placeholder with
  | error e => rfl
  | ok spec =>
    rw [ok_bind, ok_bind]
    cases hzone : spec.scheme.readsZone with
    | true => rw [h spec hread hzone]
    | false => rw [TimeScheme.decode_congr_zone hzone zone zone']

namespace Machine

lemma respond_of_read {arguments : List String} {i : Invocation} (h : Invocation.read arguments = .ok i)
    (m : Machine) : m.respond arguments = .ofRun i.options.isVerbose (i.run m) := by
  rw [respond, h]

/-- What arguments that make up an invocation come to on a machine. If the invocation has a text for an answer, this
text and a line break are printed and no error is told; if it has none, nothing is printed and one error is told,
after everything else. One case is apart: where a template asks for the local clock of a time that local clocks do
not cover, the program stops, and neither a text nor an error comes of it. Where the settings, with the options in
their place, or the time of the build are found wrong, the run fails with this before any tool is called, whatever
the tools are. Decoding calls no tools and depends on nothing but the placeholder, the value and, for a readable time
that is not in UTC, the zone. -/
theorem respond_answers_or_fails (m : Machine) {arguments : List String} {i : Invocation}
    (h : Invocation.read arguments = .ok i) :
    let r := m.respond arguments
    (∀ text, i.Answers m text → r.status = 0 ∧ r.output = text ++ "\n" ∧ r.errors = []) ∧
      (i.Stops m → r.status = 101 ∧ r.output = "" ∧ r.errors = []) ∧
      ((∀ text, ¬ i.Answers m text) → ¬ i.Stops m → r.status = 1 ∧ r.output = "" ∧
        ∃ failure : Failure, r.errors = ["ERROR: " ++ failure.message] ∧
          r.diagnostics.getLast? = some ("ERROR: " ++ failure.message)) ∧
      (∀ product, i.command = .produce product → (∃ failure, i.options.Unprepared m failure) →
        ∃ failure, i.options.Unprepared m failure ∧
          ∀ tools, callsOf (i.run { m with tools }).record = [] ∧
            { m with tools }.respond arguments = ⟨1, "", ["ERROR: " ++ failure.message]⟩) ∧
      ∀ placeholder value, i.command = .decode placeholder value →
        callsOf (i.run m).record = [] ∧
          ∀ (m' : Machine) (arguments' : List String) (i' : Invocation), Invocation.read arguments' = .ok i' →
            i'.command = i.command →
            (∀ spec, TimeSpec.read placeholder = .ok spec → spec.scheme.readsZone = true → m'.zone = m.zone) →
            m'.respond arguments' = r := by
  intro r
  have hr : r = .ofRun i.options.isVerbose (i.run m) := respond_of_read h m
  refine ⟨?_, ?_, ?_, ?_, ?_⟩
  · intro text htext
    rw [hr]
    exact Response.ofRun_ok (i.run_mild m) (Invocation.value_run_eq_ok_iff.2 htext)
  · intro hstops
    rw [hr]
    obtain ⟨failure, hvalue, hfailure⟩ := Invocation.value_run_stops_iff.2 hstops
    exact Response.ofRun_stops (i.run_mild m) hvalue hfailure
  · intro hnone hgoes
    rw [hr]
    cases hvalue : (i.run m).value with
    | ok text => exact absurd (Invocation.value_run_eq_ok_iff.1 hvalue) (hnone text)
    | error failure =>
      have hreported : failure.stops = false := by
        rw [← Bool.not_eq_true]
        exact fun hfailure => hgoes (Invocation.value_run_stops_iff.1 ⟨failure, hvalue, hfailure⟩)
      obtain ⟨hstatus, houtput, herrors, hlast⟩ := Response.ofRun_error (i.run_mild m) hvalue hreported
      exact ⟨hstatus, houtput, failure, herrors, hlast⟩
  · rintro product hcommand ⟨_, hunprepared⟩
    obtain ⟨failure, hprepare⟩ := hunprepared.exists_prepare_error
    have hfound : i.options.Unprepared m failure := .of_prepare hprepare
    refine ⟨failure, hfound, fun tools => ?_⟩
    -- What prepares a run does not look at the tools.
    have hrun : i.run { m with tools } = pure (.error failure) := Invocation.run_of_prepare_error hcommand hprepare
    rw [respond_of_read h, hrun]
    refine ⟨rfl, ?_⟩
    rw [Response.ofRun_of_reported rfl hfound.stops_eq_false]
    exact congrArg (Response.mk 1 "") (Response.shownLines_append_error _ [] _)
  · intro placeholder value hcommand
    have hrun : ∀ (m' : Machine) (i' : Invocation), i'.command = .decode placeholder value →
        i'.run m' = pure ((decodedText m'.zone placeholder value).mapError Failure.error) := by
      intro m' i' hcommand'
      rw [Invocation.run, hcommand']
    refine ⟨by rw [hrun m i hcommand]; rfl, ?_⟩
    intro m' arguments' i' hread' hcommand' hzone
    rw [hr, respond_of_read hread', hrun m i hcommand, hrun m' i' (hcommand'.trans hcommand),
      decodedText_congr_zone value hzone]
    exact Response.ofRun_pure ..

/-- A machine with clocks ahead of UTC and a working copy of Git, to which the last second of the last year was
committed. -/
def lateMachine : Machine where
  files := .ofList [([".git"], .directory)]
  workingDirectory := []
  environment := fun _ => none
  tools :=
    { has := (· == "git")
      outcome := fun _ call =>
        if call.arguments.head? = some "log" then
          let log := "0123456789abcdef0123456789abcdef01234567\n+262142-12-31 23:59:59 +0000\n"
          .ended (.code 0) [.output (Text.encodeUtf8 log), .errors []]
        else .ended (.code 1) [.output [], .errors []] }
  zone := .fixed 19800
  now := ⟨⟨0, 0⟩, 0⟩

/-- A copyright that is only text, the same text as a short version, a time of the build that is none, a counted time
that is decoded in two zones, once with other options, and a date of a commit that local clocks do not cover. -/
theorem respond_answers_or_fails_bare :
    let tools : Toolbox := { has := fun _ => false, outcome := fun _ _ => .notStarted .missing }
    let m : Machine := ⟨.ofList [], [], fun _ => none, tools, .fixed 0, ⟨⟨0, 0⟩, 0⟩⟩
    let decoded := ["decode", "\x7bc:d20m:2020\x7d", "1.3"]
    (m.respond ["copyright", "-f", "(c)"]).output = "(c)\n" ∧
      (m.respond ["short", "-f", "(c)"]).output = "" ∧
      (∃ failure : Failure, m.respond ["info", "--build-time", "noon"] = ⟨1, "", ["ERROR: " ++ failure.message]⟩) ∧
      (m.respond decoded).output = "2020-01-02T01:00:00Z\n" ∧
      { m with zone := .fixed 3600 }.respond ("-v" :: decoded) = m.respond decoded ∧
      (lateMachine.respond ["resolve", "-f", "\x7bc:ymd\x7d"]).status = 101 := by
  intro tools m decoded
  have hcopyright : Invocation.read ["copyright", "-f", "(c)"] = .ok ⟨{}, .produce (.copyright (some "(c)"))⟩ :=
    eq_ok_of_toOption (by decide +kernel)
  have hshort : Invocation.read ["short", "-f", "(c)"] = .ok ⟨{}, .produce (.shortVersion (some "(c)"))⟩ :=
    eq_ok_of_toOption (by decide +kernel)
  have hinfo : Invocation.read ["info", "--build-time", "noon"] =
      .ok ⟨{ buildTime := some "noon" }, .produce .facts⟩ := eq_ok_of_toOption (by decide +kernel)
  have hdecoded : Invocation.read decoded = .ok ⟨{}, .decode "\x7bc:d20m:2020\x7d" "1.3"⟩ :=
    eq_ok_of_toOption (by decide +kernel)
  have hverbose : Invocation.read ("-v" :: decoded) =
      .ok ⟨{ isVerbose := true }, .decode "\x7bc:d20m:2020\x7d" "1.3"⟩ := eq_ok_of_toOption (by decide +kernel)
  have hspec : TimeSpec.read "\x7bc:d20m:2020\x7d" = .ok ⟨.commit, .dotted 1200 2020⟩ :=
    eq_ok_of_toOption (by decide +kernel)
  have hlate : Invocation.read ["resolve", "-f", "\x7bc:ymd\x7d"] =
      .ok ⟨{}, .produce (.version (some "\x7bc:ymd\x7d"))⟩ := eq_ok_of_toOption (by decide +kernel)
  obtain ⟨hanswer, -, -, -, -⟩ := respond_answers_or_fails m hcopyright
  obtain ⟨-, -, hfailed, -, -⟩ := respond_answers_or_fails m hshort
  obtain ⟨-, -, -, hunprepared, -⟩ := respond_answers_or_fails m hinfo
  obtain ⟨hdecodes, -, -, -, hsame⟩ := respond_answers_or_fails m hdecoded
  obtain ⟨-, hstops, -, -, -⟩ := respond_answers_or_fails lateMachine hlate
  refine ⟨?_, ?_, ?_, ?_, ?_, ?_⟩
  · have htext : Invocation.Answers m ⟨{}, .produce (.copyright (some "(c)"))⟩ "(c)" :=
      Invocation.value_make_eq_ok_iff.1 (eq_ok_of_toOption (by decide +kernel))
    exact (hanswer "(c)" htext).2.1
  · have hnone : ∀ text, ¬ Invocation.Answers m ⟨{}, .produce (.shortVersion (some "(c)"))⟩ text := by
      intro text htext
      have hvalue : ((Product.shortVersion (some "(c)")).make {} m).value.toOption = none := by decide +kernel
      rw [Invocation.value_make_eq_ok_iff.2 htext] at hvalue
      cases hvalue
    have hgoes : ¬ Invocation.Stops m ⟨{}, .produce (.shortVersion (some "(c)"))⟩ := by
      rintro ⟨_, _, _, htemplate, hstops⟩
      cases htemplate
      obtain @⟨front, rest, token, hcut, _, _⟩ := hstops
      have hread : Template.read "(c)" = .ok [.text "(c)".toList] := eq_ok_of_toOption (by decide +kernel)
      have hmem : Segment.token token ∈ [Segment.text "(c)".toList] := by
        rw [Except.ok.inj (hread.symm.trans hcut)]
        exact List.mem_append_right _ List.mem_cons_self
      cases List.mem_singleton.1 hmem
    exact (hfailed hnone hgoes).2.1
  · obtain ⟨failure, -, hfails⟩ := hunprepared .facts rfl ⟨_, .buildTime rfl (by decide +kernel)⟩
    exact ⟨failure, (hfails tools).2⟩
  · have htext : Invocation.Answers m ⟨{}, .decode "\x7bc:d20m:2020\x7d" "1.3"⟩ "2020-01-02T01:00:00Z" :=
      Invocation.value_run_eq_ok_iff.1 (eq_ok_of_toOption (by decide +kernel))
    exact (hdecodes _ htext).2.1
  · refine (hsame _ _ rfl).2 _ _ _ hverbose rfl ?_
    intro spec hread hzone
    rw [hspec] at hread
    cases hread
    cases hzone
  · refine (hstops ?_).1
    have hcollect : (lateMachine.collect {} "." lateMachine.now).value.toOption.map Snapshot.commitTime =
        some (some ⟨⟨8210266876799, 0⟩, 0⟩) := by decide +kernel
    have hsettings : Options.settings {} lateMachine = .ok {} := eq_ok_of_toOption (by decide +kernel)
    cases hfacts : (lateMachine.collect {} "." lateMachine.now).value with
    | error e =>
      rw [hfacts] at hcollect
      cases hcollect
    | ok s =>
      rw [hfacts] at hcollect
      have htime : s.commitTime = some ⟨⟨8210266876799, 0⟩, 0⟩ := Option.some.inj hcollect
      have hplaceholder : Template.read "\x7bc:ymd\x7d" =
          .ok ([] ++ [.token (.time ⟨.commit, .readable true .nothing none false⟩)]) :=
        eq_ok_of_toOption (by decide +kernel)
      refine .produce hsettings rfl hfacts rfl (.placeholder hplaceholder nofun (.localTime rfl ?_))
      rw [Token.sourceTime, htime]
      decide +kernel

/-- The same machine at work: the program stops, without a text and without an error. -/
theorem respond_stops_beyond_clocks :
    let arguments := ["resolve", "-f", "\x7bc:ymd\x7d"]
    (∃ i, Invocation.read arguments = .ok i ∧ ∀ text, ¬ i.Answers lateMachine text) ∧
      lateMachine.respond arguments = ⟨101, "", ["✓ Collected git revision 0 (0123456)"]⟩ ∧
      (lateMachine.respond arguments).errors = [] := by
  intro arguments
  have hread : Invocation.read arguments = .ok ⟨{}, .produce (.version (some "\x7bc:ymd\x7d"))⟩ :=
    eq_ok_of_toOption (by decide +kernel)
  have hresponse : lateMachine.respond arguments = ⟨101, "", ["✓ Collected git revision 0 (0123456)"]⟩ := by
    decide +kernel
  refine ⟨⟨_, hread, fun text htext => ?_⟩, hresponse, by decide +kernel⟩
  have hnone : ((Product.version (some "\x7bc:ymd\x7d")).make {} lateMachine).value.toOption = none := by
    decide +kernel
  rw [Invocation.value_make_eq_ok_iff.2 htext] at hnone
  cases hnone

end Machine

end BuildVersion
