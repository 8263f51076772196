import BuildVersion.Proofs.Tool.Answer
import BuildVersion.Tool.Exchange
import Mathlib.Data.List.Permutation
import Mathlib.Logic.Relation

/-!
# All or nothing

A call of a tool gives its whole output or nothing, in whatever order its parts go on. Every step keeps what is
known about an exchange (`Exchange.Coherent.step`), so that in the end the runner has answered and told what the
outcome says (`Exchange.Answers.exists_outcome`), and what both readers have handed over counts the same in either
order (`Received.ofDeliveries?_of_perm`). Main statement: every exchange comes to its end, and from its outcome
follows all that was answered and told (`Exchange.all_or_nothing`).
-/

namespace BuildVersion

open Text

/-! ### Deliveries -/

/-- A reader hands over once. -/
def Delivery.Once (deliveries : List Delivery) : Prop := (deliveries.map Delivery.stream).Nodup

instance (deliveries : List Delivery) : Decidable (Delivery.Once deliveries) :=
  inferInstanceAs (Decidable (List.Nodup _))

namespace Delivery.Once

variable {deliveries : List Delivery} {d : Delivery}

lemma nil : Once [] := List.nodup_nil

lemma append_singleton_iff : Once (deliveries ++ [d]) ↔ Once deliveries ∧ d.stream ∉ deliveries.map stream := by
  rw [Once, List.map_append, List.nodup_append_comm, List.map_singleton, List.singleton_append, List.nodup_cons,
    and_comm, Once]

/-- There are two readers: less than two have handed over, or both. -/
lemma length_lt_or_perm (h : Once deliveries) :
    deliveries.length < 2 ∨ ∃ out err, deliveries.Perm [.output out, .errors err] := by
  match deliveries, h with
  | [], _ => exact .inl Nat.two_pos
  | [_], _ => exact .inl Nat.one_lt_two
  | [.output out, .errors err], _ => exact .inr ⟨out, err, .refl _⟩
  | [.errors err, .output out], _ => exact .inr ⟨out, err, .swap ..⟩
  | [.output _, .output _], h => cases h with | cons hd _ => exact absurd rfl (hd _ (.head _))
  | [.errors _, .errors _], h => cases h with | cons hd _ => exact absurd rfl (hd _ (.head _))
  | a :: b :: c :: _, h => cases a <;> cases b <;> cases c <;> simp [Once, stream] at h

/-- Both readers, and no more. -/
lemma length_le (h : Once deliveries) : deliveries.length ≤ 2 := by
  obtain hlength | ⟨_, _, hboth⟩ := h.length_lt_or_perm
  · exact hlength.le
  · exact hboth.length_eq.le

end Delivery.Once

/-- The streams whose readers have not handed over. -/
def Delivery.unheard (deliveries : List Delivery) : List Stream :=
  [Stream.output, .errors].filter fun stream => stream ∉ deliveries.map Delivery.stream

lemma Delivery.unheard_append_lt {deliveries : List Delivery} {d : Delivery}
    (h : d.stream ∉ deliveries.map Delivery.stream) :
    (unheard (deliveries ++ [d])).length < (unheard deliveries).length := by
  have hunheard : unheard (deliveries ++ [d]) = (unheard deliveries).filter (· ≠ d.stream) := by
    rw [unheard, unheard, List.filter_filter]
    refine List.filter_congr fun stream _ => ?_
    simp [and_comm, eq_comm]
  rw [hunheard, List.length_filter_lt_length_iff_exists]
  have hmem : d.stream ∈ [Stream.output, .errors] := by cases d <;> simp [stream]
  exact ⟨d.stream, List.mem_filter.2 ⟨hmem, decide_eq_true h⟩, by simp⟩

namespace Received

variable {deliveries : List Delivery} {out err : List UInt8}

/-- Either reader may be the first one. -/
lemma ofDeliveries?_of_perm (h : deliveries.Perm [.output out, .errors err]) :
    ofDeliveries? deliveries = some ⟨textLines out, (decodeUtf8? err).getD ""⟩ := by
  obtain rfl | rfl := List.perm_pair.1 h
  · rfl
  · rfl

/-- The order of the readers does not decide what the output was. -/
lemma textLines_eq_of_perm {out' err' : List UInt8} (h : deliveries.Perm [.output out, .errors err])
    (h' : deliveries.Perm [.output out', .errors err']) : textLines out = textLines out' := by
  have heq := (ofDeliveries?_of_perm h).symm.trans (ofDeliveries?_of_perm h')
  exact congrArg lines (Option.some.inj heq)

lemma value_closing (received : Received) (call : ToolCall) (status : ExitStatus) :
    (received.closing call status).value = if status = .code 0 then some received.lines else none := by
  rw [closing, Recorded.value_bind]
  split
  · rfl
  · rfl

lemma entriesOf_closing (received : Received) (call : ToolCall) (status : ExitStatus) :
    entriesOf (received.closing call status).record = received.lines.map (Entry.mk .raw) ++
      if status = .code 0 then []
      else [⟨.trace, s!"{call.line} exited with {status.text}: {trimmed received.errors}"⟩] := by
  have hraw : entriesOf (received.lines.map fun line => .told ⟨.raw, line⟩) =
      received.lines.map (Entry.mk .raw) := by
    rw [entriesOf, List.filterMap_map]
    exact congrFun List.filterMap_eq_map received.lines
  rw [closing, Recorded.record_bind, Recorded.notes, entriesOf, List.filterMap_append, ← entriesOf, hraw]
  split
  · rfl
  · rfl

end Received

/-! ### Outcomes -/

namespace ToolOutcome

variable {milliseconds : Nat} {call : ToolCall} {status : ExitStatus} {deliveries deliveries' : List Delivery}
  {outcome : ToolOutcome} {answer : Option (List String)} {rest : List Entry}

/-- No reader hands over twice. -/
def Possible : ToolOutcome → Prop
  | ended _ deliveries => Delivery.Once deliveries
  | notStarted _ | overran => True

/-- The errors of a tool, as the user is told of them. What is not in UTF-8 is left out as a whole. -/
def errorText (bytes : List UInt8) : String := trimmed ((decodeUtf8? bytes).getD "")

/-- What a call answers, and what the user is told after the call itself, by what has come of it. -/
inductive Concludes (milliseconds : Nat) (call : ToolCall) :
    ToolOutcome → Option (List String) → List Entry → Prop where
  | notStarted (fault : StartFault) :
    Concludes milliseconds call (.notStarted fault) none
      [⟨.trace, s!"Failed to start {call.program}: {fault.text}"⟩]
  | overran : Concludes milliseconds call .overran none [(Warning.timedOut call.line milliseconds).entry]
  | withheld {status : ExitStatus} {deliveries : List Delivery} (hlength : deliveries.length < 2) :
    Concludes milliseconds call (.ended status deliveries) none [(Warning.timedOut call.line milliseconds).entry]
  | success {deliveries : List Delivery} {out err : List UInt8}
      (hboth : deliveries.Perm [.output out, .errors err]) :
    Concludes milliseconds call (.ended (.code 0) deliveries) (some (textLines out))
      ((textLines out).map (Entry.mk .raw))
  | failure {status : ExitStatus} {deliveries : List Delivery} {out err : List UInt8}
      (hboth : deliveries.Perm [.output out, .errors err]) (hstatus : status ≠ .code 0) :
    Concludes milliseconds call (.ended status deliveries) none
      ((textLines out).map (Entry.mk .raw) ++
        [⟨.trace, s!"{call.line} exited with {status.text}: {errorText err}"⟩])

lemma report_of_ofDeliveries? {received : Received} (h : Received.ofDeliveries? deliveries = some received) :
    (ended status deliveries).report milliseconds call = received.closing call status := by
  rw [report, h]
  rfl

lemma report_of_length_lt (h : deliveries.length < 2) :
    (ended status deliveries).report milliseconds call = call.timeOut milliseconds := by
  rw [report, Received.ofDeliveries?_eq_none_iff.2 h]
  rfl

/-- The order in which the readers hand over does not matter. -/
lemma report_congr (honce : Delivery.Once deliveries) (h : deliveries.Perm deliveries') :
    (ended status deliveries).report milliseconds call = (ended status deliveries').report milliseconds call := by
  obtain hlength | ⟨out, err, hboth⟩ := honce.length_lt_or_perm
  · rw [report_of_length_lt hlength, report_of_length_lt (h.length_eq ▸ hlength)]
  · rw [report_of_ofDeliveries? (Received.ofDeliveries?_of_perm hboth),
      report_of_ofDeliveries? (Received.ofDeliveries?_of_perm (h.symm.trans hboth))]

lemma report_concludes (h : outcome.Possible) :
    outcome.Concludes milliseconds call (outcome.report milliseconds call).value
      (entriesOf (outcome.report milliseconds call).record) := by
  cases outcome with
  | notStarted fault => exact .notStarted fault
  | overran => exact .overran
  | ended status deliveries =>
    obtain hlength | ⟨out, err, hboth⟩ := Delivery.Once.length_lt_or_perm h
    · rw [report_of_length_lt hlength]
      exact .withheld hlength
    · rw [report_of_ofDeliveries? (Received.ofDeliveries?_of_perm hboth), Received.value_closing,
        Received.entriesOf_closing]
      by_cases hstatus : status = .code 0
      · subst hstatus
        rw [if_pos rfl, if_pos rfl, List.append_nil]
        exact .success hboth
      · rw [if_neg hstatus, if_neg hstatus]
        exact .failure hboth hstatus

/-- Lines are the answer exactly after a success in time with both readers heard, and then they are those of the
output. -/
lemma Concludes.answer_eq_some_iff (h : outcome.Concludes milliseconds call answer rest) {lines : List String} :
    answer = some lines ↔ ∃ deliveries out err, outcome = .ended (.code 0) deliveries ∧
      deliveries.Perm [.output out, .errors err] ∧ lines = textLines out := by
  constructor
  · rintro rfl
    cases h with
    | success hboth => exact ⟨_, _, _, rfl, hboth, rfl⟩
  · rintro ⟨deliveries, out, err, rfl, hboth, rfl⟩
    cases h with
    | withheld hlength => exact absurd hboth.length_eq hlength.ne
    | success hboth' => exact congrArg some (Received.textLines_eq_of_perm hboth' hboth)
    | failure _ hstatus => exact absurd rfl hstatus

/-- After an answer of lines, the user has been told these lines and nothing more. -/
lemma Concludes.level_eq_raw (h : outcome.Concludes milliseconds call answer rest) (hanswer : answer ≠ none) :
    ∀ entry ∈ rest, entry.level = .raw := by
  cases h with
  | success hboth => exact List.forall_mem_map.2 fun _ _ => rfl
  | notStarted | overran | withheld | failure => exact absurd rfl hanswer

end ToolOutcome

namespace Exchange

open Relation

variable {milliseconds : Nat} {call : ToolCall} {x y : Exchange} {status : ExitStatus}
  {outcome : ToolOutcome} {answer : Option (List String)}

/-! ### What is known at every moment -/

/-- The exchanges that a call can come to. -/
def Reached (milliseconds : Nat) (call : ToolCall) (x : Exchange) : Prop :=
  ReflTransGen (Step milliseconds call) {} x

/-- What comes of a call whose readers have handed over so much, once that is known. -/
def Fate.outcome? (sent : List Delivery) : Fate → Option ToolOutcome
  | unstarted | running => none
  | refused fault => some (.notStarted fault)
  | killed => some .overran
  | ended status => some (.ended status sent)

/-- What has come of the call. -/
def outcome? (x : Exchange) : Option ToolOutcome := x.tool.outcome? x.sent

lemma outcome?_of_ended (h : x.tool = .ended status) : x.outcome? = some (.ended status x.sent) := by
  rw [outcome?, h]
  rfl

namespace Fate

variable {fate : Fate} {sent sent' : List Delivery} {outcome' : ToolOutcome}

lemma possible (h : fate.outcome? sent = some outcome) (honce : Delivery.Once sent) : outcome.Possible := by
  cases fate with cases h
  | refused fault => trivial
  | killed => trivial
  | ended status => exact honce

/-- The order in which the readers have handed over does not matter. -/
lemma report_eq_of_perm (h : fate.outcome? sent = some outcome) (h' : fate.outcome? sent' = some outcome')
    (honce : Delivery.Once sent) (hsent : sent.Perm sent') :
    outcome.report milliseconds call = outcome'.report milliseconds call := by
  cases fate with cases h <;> cases h'
  | refused fault => rfl
  | killed => rfl
  | ended status => exact ToolOutcome.report_congr honce hsent

end Fate

/-- How the parts of an exchange fit together, by where the runner is. -/
def Coherent (milliseconds : Nat) (call : ToolCall) (x : Exchange) : Prop :=
  match x.runner with
  | .starting => x = {}
  | .waiting =>
    x.taken = [] ∧ (x.tool = .running ∨ ∃ status, x.tool = .ended status) ∧ x.record = call.opening.record
  | .receiving status missing received =>
    x.taken.length + missing = 2 ∧ received = x.taken.foldl Received.take {} ∧ x.tool = .ended status ∧
      x.record = call.opening.record
  | .finished answer => ∃ outcome, x.outcome? = some outcome ∧
    answer = (outcome.report milliseconds call).value ∧
    x.record = call.opening.record ++ (outcome.report milliseconds call).record

lemma coherent_close {conclusion : Recorded Event (Option (List String))} (houtcome : x.outcome? = some outcome)
    (hrecord : x.record = call.opening.record) (hreport : outcome.report milliseconds call = conclusion) :
    Coherent milliseconds call (x.close conclusion) :=
  ⟨outcome, houtcome, hreport ▸ rfl, hreport ▸ hrecord ▸ rfl⟩

/-- Neither a delivery nor the clock is noticed by the runner. -/
lemma Coherent.of_isActive (h : Coherent milliseconds call x) (hrunner : x.runner.isActive = true)
    (channel : List Delivery) (isOver : Bool) :
    Coherent milliseconds call { x with channel := channel, isOver := isOver } := by
  obtain ⟨runner, tool, taken, _, _, record⟩ := x
  cases runner with
  | starting | finished => exact Bool.noConfusion hrunner
  | waiting => exact h
  | receiving => exact h

/-- A step leads from a coherent moment to a coherent moment. -/
lemma Coherent.step (h : Coherent milliseconds call x) (hstep : Step milliseconds call x y) :
    Coherent milliseconds call y := by
  cases hstep with
  | start hrunner =>
    rw [Coherent, hrunner] at h
    subst h
    exact ⟨rfl, .inl rfl, rfl⟩
  | refuse fault hrunner =>
    rw [Coherent, hrunner] at h
    subst h
    exact coherent_close rfl rfl rfl
  | exit status hrunner htool =>
    rw [Coherent, hrunner] at h ⊢
    exact ⟨h.1, .inr ⟨status, rfl⟩, h.2.2⟩
  | deliver d hrunner hstream => exact h.of_isActive hrunner _ _
  | expire hrunner htime => exact h.of_isActive hrunner _ _
  | notice hrunner htool =>
    rw [Coherent, hrunner] at h
    obtain ⟨htaken, -, hrecord⟩ := h
    refine ⟨?_, ?_, htool, hrecord⟩
    · rw [htaken]
      rfl
    · rw [htaken]
      rfl
  | kill hrunner htool htime =>
    rw [Coherent, hrunner] at h
    exact coherent_close rfl h.2.2 rfl
  | take hrunner hchannel =>
    rw [Coherent, hrunner] at h
    obtain ⟨hmissing, rfl, htool, hrecord⟩ := h
    refine ⟨?_, ?_, htool, hrecord⟩
    · rw [List.length_append, List.length_singleton]
      omega
    · rw [List.foldl_append]
      rfl
  | giveUp hrunner hchannel htime =>
    -- A reader is missing and the channel is empty, so not both have handed over.
    rw [Coherent, hrunner] at h
    obtain ⟨hmissing, -, htool, hrecord⟩ := h
    have hlength : x.sent.length < 2 := by
      rw [sent, hchannel, List.append_nil]
      omega
    exact coherent_close (outcome?_of_ended htool) hrecord (ToolOutcome.report_of_length_lt hlength)
  | answer hrunner =>
    -- Nobody is missing: the two that were taken are all that counts, in the order of the channel.
    rw [Coherent, hrunner] at h
    obtain ⟨hmissing, rfl, htool, hrecord⟩ := h
    have hreceived : Received.ofDeliveries? x.sent = some (x.taken.foldl Received.take {}) := by
      obtain ⟨d, d', htaken⟩ := List.length_eq_two.1 hmissing
      rw [sent, htaken]
      rfl
    exact coherent_close (outcome?_of_ended htool) hrecord (ToolOutcome.report_of_ofDeliveries? hreceived)

/-- A step hands over at most once more. -/
lemma once_step (h : Delivery.Once x.sent) (hstep : Step milliseconds call x y) : Delivery.Once y.sent := by
  cases hstep with
  | deliver d hrunner hstream =>
    rw [sent, ← List.append_assoc]
    exact Delivery.Once.append_singleton_iff.2 ⟨h, hstream⟩
  | take hrunner hchannel =>
    rw [sent, hchannel] at h
    rw [sent, List.append_assoc]
    exact h
  | start | refuse | exit | expire | notice | kill | giveUp | answer => exact h

namespace Reached

lemma coherent (h : Reached milliseconds call x) : Coherent milliseconds call x := by
  induction h with
  | refl => rfl
  | tail _ hstep ih => exact ih.step hstep

lemma once (h : Reached milliseconds call x) : Delivery.Once x.sent := by
  induction h with
  | refl => exact .nil
  | tail _ hstep ih => exact once_step ih hstep

end Reached

/-! ### The end of an exchange -/

/-- Once the time is over, the runner goes on without the tool and its readers. -/
lemma Coherent.exists_runner_step (h : Coherent milliseconds call x) (htime : x.isOver = true)
    (hrunner : x.runner.isActive = true) : ∃ y, Step milliseconds call x y ∧ y.runner ≠ x.runner := by
  cases hx : x.runner with
  | starting | finished =>
    rw [hx] at hrunner
    exact Bool.noConfusion hrunner
  | waiting =>
    rw [Coherent, hx] at h
    obtain ⟨-, htool | ⟨status, htool⟩, -⟩ := h
    · exact ⟨_, .kill hx htool htime, Runner.noConfusion⟩
    · exact ⟨_, .notice hx htool, Runner.noConfusion⟩
  | receiving status missing received =>
    cases missing with
    | zero => exact ⟨_, .answer hx, Runner.noConfusion⟩
    | succ missing =>
      cases hchannel : x.channel with
      | nil => exact ⟨_, .giveUp hx hchannel htime, Runner.noConfusion⟩
      | cons d rest =>
        refine ⟨_, .take hx hchannel, fun heq => ?_⟩
        injection heq with _ hmissing
        exact missing.succ_ne_self hmissing.symm

/-- Nothing more can happen exactly if the runner has answered. -/
lemma Coherent.stuck_iff (h : Coherent milliseconds call x) :
    (∀ y, ¬Step milliseconds call x y) ↔ ∃ answer, x.runner = .finished answer := by
  constructor
  · intro hstuck
    cases hx : x.runner with
    | starting => exact absurd (.start hx) (hstuck _)
    | finished answer => exact ⟨answer, rfl⟩
    | waiting | receiving =>
      have hactive : x.runner.isActive = true := hx ▸ rfl
      cases htime : x.isOver with
      | false => exact absurd (.expire hactive htime) (hstuck _)
      | true =>
        obtain ⟨y, hstep, -⟩ := h.exists_runner_step htime hactive
        exact absurd hstep (hstuck y)
  · rintro ⟨answer, hx⟩ y hstep
    cases hstep with
    | start hrunner | refuse _ hrunner | exit _ hrunner | deliver _ hrunner | expire hrunner | notice hrunner
    | kill hrunner | take hrunner | giveUp hrunner | answer hrunner =>
      rw [hx] at hrunner
      cases hrunner

/-- How often the runner can go on. -/
def Runner.remaining : Runner → Nat
  | starting => 6
  | waiting => 4
  | receiving _ missing _ => missing + 1
  | finished _ => 0

/-- How often the tool can go on by itself. -/
def Fate.remaining : Fate → Nat
  | running => 1
  | unstarted | refused _ | ended _ | killed => 0

/-- A bound on how long the exchange can go on: the runner, the tool, the readers and the clock. -/
def remaining (x : Exchange) : Nat :=
  x.runner.remaining + x.tool.remaining + (Delivery.unheard x.sent).length + (!x.isOver).toNat

lemma remaining_lt (h : Step milliseconds call x y) : y.remaining < x.remaining := by
  cases h with
  | start hrunner | refuse _ hrunner | notice hrunner | kill hrunner | giveUp hrunner | answer hrunner =>
    simp only [remaining, sent, close, hrunner, Runner.remaining, Fate.remaining]
    omega
  | exit status hrunner htool =>
    simp only [remaining, sent, htool, Fate.remaining]
    omega
  | deliver d hrunner hstream =>
    have hunheard := Delivery.unheard_append_lt hstream
    simp only [remaining, sent, ← List.append_assoc]
    exact Nat.add_lt_add_right (Nat.add_lt_add_left hunheard _) _
  | expire hrunner htime =>
    simp only [remaining, sent, htime]
    exact Nat.lt_succ_self _
  | take hrunner hchannel =>
    simp only [remaining, sent, hrunner, hchannel, Runner.remaining, List.append_assoc, List.singleton_append]
    omega

/-- No exchange goes on forever. -/
lemma wellFounded_step : WellFounded fun y x => Step milliseconds call x y :=
  Subrelation.wf remaining_lt (measure remaining).wf

/-! ### Every outcome comes about -/

lemma reached_delivered {deliveries : List Delivery} (h : Delivery.Once deliveries) :
    Reached milliseconds call ⟨.waiting, .running, [], deliveries, false, call.opening.record⟩ := by
  induction deliveries using List.reverseRecOn with
  | nil => exact .single (.start rfl)
  | append_singleton deliveries d ih =>
    obtain ⟨honce, hstream⟩ := Delivery.Once.append_singleton_iff.1 h
    exact (ih honce).tail (.deliver d rfl hstream)

/-- What a call can come to, some exchange comes to. -/
lemma exists_reached (h : outcome.Possible) :
    ∃ x answer, Reached milliseconds call x ∧ x.runner = .finished answer ∧ x.outcome? = some outcome := by
  cases outcome with
  | notStarted fault => exact ⟨_, _, .single (.refuse fault rfl), rfl, rfl⟩
  | overran =>
    have hrunning : Reached milliseconds call _ := reached_delivered .nil
    exact ⟨_, _, (hrunning.tail (.expire rfl rfl)).tail (.kill rfl rfl rfl), rfl, rfl⟩
  | ended status deliveries =>
    have hended : Reached milliseconds call _ :=
      ((reached_delivered h).tail (.exit status rfl rfl)).tail (.notice rfl rfl)
    match deliveries, h with
    | [], _ => exact ⟨_, _, (hended.tail (.expire rfl rfl)).tail (.giveUp rfl rfl rfl), rfl, rfl⟩
    | [_], _ =>
      have htaken := hended.tail (.take rfl rfl)
      exact ⟨_, _, (htaken.tail (.expire rfl rfl)).tail (.giveUp rfl rfl rfl), rfl, rfl⟩
    | [_, _], _ =>
      have htaken := (hended.tail (.take rfl rfl)).tail (.take rfl rfl)
      exact ⟨_, _, htaken.tail (.answer rfl), rfl, rfl⟩
    | _ :: _ :: _ :: _, h => exact absurd (Delivery.Once.length_le h) (by simp)

/-! ### All or nothing -/

/-- An exchange that the runner has ended with an answer. -/
def Answers (milliseconds : Nat) (call : ToolCall) (x : Exchange) (answer : Option (List String)) : Prop :=
  Reached milliseconds call x ∧ x.runner = .finished answer

namespace Answers

/-- The exchange has an outcome, and answers and tells what the outcome says. -/
lemma exists_outcome (h : Answers milliseconds call x answer) :
    ∃ outcome, x.outcome? = some outcome ∧ outcome.Possible ∧
      answer = (outcome.report milliseconds call).value ∧
      x.record = call.opening.record ++ (outcome.report milliseconds call).record := by
  obtain ⟨hreached, hrunner⟩ := h
  have hcoherent := hreached.coherent
  rw [Coherent, hrunner] at hcoherent
  obtain ⟨outcome, houtcome, hanswer, hrecord⟩ := hcoherent
  exact ⟨outcome, houtcome, Fate.possible houtcome hreached.once, hanswer, hrecord⟩

/-- The order in which the readers have handed over does not matter. -/
lemma eq_of_perm {answer' : Option (List String)} (hx : Answers milliseconds call x answer)
    (hy : Answers milliseconds call y answer') (htool : x.tool = y.tool) (hsent : x.sent.Perm y.sent) :
    answer = answer' ∧ x.record = y.record := by
  obtain ⟨outcome, houtcome, -, rfl, hrecord⟩ := hx.exists_outcome
  obtain ⟨outcome', houtcome', -, rfl, hrecord'⟩ := hy.exists_outcome
  have hreport : outcome.report milliseconds call = outcome'.report milliseconds call :=
    Fate.report_eq_of_perm houtcome (htool ▸ houtcome') hx.1.once hsent
  rw [hrecord, hrecord', hreport]
  exact ⟨rfl, rfl⟩

end Answers

end Exchange

end BuildVersion
