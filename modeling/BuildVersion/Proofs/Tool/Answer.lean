import BuildVersion.Proofs.Text.Lines
import BuildVersion.Tool.Run

/-!
# Answers of tools

A tool answers with the lines of its output or with nothing. Main statements: a call answers what its
outcome says (`Toolbox.value_run`), and an outcome answers nothing exactly if the tool has failed
(`ToolOutcome.lines?_eq_none_iff`).
-/

namespace BuildVersion

open Text

/-- The call of a tool, where an event is one. -/
def Event.call? : Event → Option ToolCall
  | called call => some call
  | _ => none

/-- The calls of tools among events, in order. -/
def callsOf (events : List Event) : List ToolCall := events.filterMap Event.call?

@[simp] lemma callsOf_append (events events' : List Event) :
    callsOf (events ++ events') = callsOf events ++ callsOf events' := List.filterMap_append

/-- Nothing is made of the deliveries until both readers have handed over. -/
lemma Received.ofDeliveries?_eq_none_iff {deliveries : List Delivery} :
    ofDeliveries? deliveries = none ↔ deliveries.length < 2 := by
  match deliveries with
  | [] => exact iff_of_true rfl Nat.two_pos
  | [_] => exact iff_of_true rfl Nat.one_lt_two
  | _ :: _ :: rest => exact iff_of_false (Option.some_ne_none _) (Nat.not_lt.2 (Nat.le_add_left 2 rest.length))

namespace ToolOutcome

/-- The lines of the output of a tool that ended with success, both of its streams handed over in time. -/
def lines? : ToolOutcome → Option (List String)
  | ended status deliveries =>
    if status = .code 0 then (Received.ofDeliveries? deliveries).map Received.lines else none
  | _ => none

/-- A tool fails if it cannot be started, if it or one of its streams is not over in time, or if it ends
with anything but success. -/
inductive Fails : ToolOutcome → Prop where
  | notStarted (fault : StartFault) : Fails (.notStarted fault)
  | overran : Fails .overran
  | withheld {status : ExitStatus} {deliveries : List Delivery} :
    deliveries.length < 2 → Fails (.ended status deliveries)
  | status {status : ExitStatus} {deliveries : List Delivery} :
    status ≠ .code 0 → Fails (.ended status deliveries)

/-- A tool has ended with success and in time after it has written some bytes. Either stream may be over
before the other one. -/
inductive Wrote (bytes : List UInt8) : ToolOutcome → Prop where
  | outputFirst (errors : List UInt8) : Wrote bytes (.ended (.code 0) [.output bytes, .errors errors])
  | errorsFirst (errors : List UInt8) : Wrote bytes (.ended (.code 0) [.errors errors, .output bytes])

/-- A tool answers nothing exactly if it has failed. -/
lemma lines?_eq_none_iff {outcome : ToolOutcome} : outcome.lines? = none ↔ outcome.Fails := by
  constructor
  · intro h
    cases outcome with
    | notStarted fault => exact .notStarted fault
    | overran => exact .overran
    | ended status deliveries =>
      by_cases hstatus : status = .code 0
      · rw [lines?, if_pos hstatus, Option.map_eq_none_iff] at h
        exact .withheld (Received.ofDeliveries?_eq_none_iff.1 h)
      · exact .status hstatus
  · intro h
    cases h with
    | notStarted fault => rfl
    | overran => rfl
    | withheld hlength =>
      rw [lines?, Received.ofDeliveries?_eq_none_iff.2 hlength]
      exact ite_self none
    | status hstatus => exact if_neg hstatus

lemma Wrote.lines?_eq {outcome : ToolOutcome} {bytes : List UInt8} (h : outcome.Wrote bytes) :
    outcome.lines? = some (textLines bytes) := by
  cases h with
  | outputFirst errors => rfl
  | errorsFirst errors => rfl

/-- What is told of an outcome is no call, and the answer is that of the outcome. -/
lemma report_eq (outcome : ToolOutcome) (milliseconds : Nat) (call : ToolCall) :
    (outcome.report milliseconds call).value = outcome.lines? ∧
      callsOf (outcome.report milliseconds call).record = [] := by
  cases outcome with
  | notStarted fault => exact ⟨rfl, rfl⟩
  | overran => exact ⟨rfl, rfl⟩
  | ended status deliveries =>
    rw [lines?, report]
    cases hreceived : Received.ofDeliveries? deliveries with
    | none =>
      rw [Option.map_none, ite_self]
      exact ⟨rfl, rfl⟩
    | some received =>
      have htold : callsOf (received.lines.map fun line => .told ⟨.raw, line⟩) = [] := by
        rw [callsOf, List.filterMap_map]
        exact List.filterMap_eq_nil_iff.2 fun _ _ => rfl
      by_cases hstatus : status = .code 0
      · rw [if_pos hstatus]
        simp only [hstatus, if_true]
        refine ⟨rfl, ?_⟩
        rw [Recorded.record_bind, callsOf_append]
        exact congrArg (· ++ []) htold
      · rw [if_neg hstatus]
        simp only [hstatus, if_false]
        refine ⟨rfl, ?_⟩
        rw [Recorded.record_bind, callsOf_append]
        exact congrArg (· ++ []) htold

end ToolOutcome

namespace Toolbox

variable (tools : Toolbox) (milliseconds : Nat) (call : ToolCall)

/-- A call answers what its outcome says. -/
lemma value_run : (tools.run milliseconds call).value = (tools.outcome milliseconds call).lines? :=
  ((tools.outcome milliseconds call).report_eq milliseconds call).1

/-- Running a tool calls it and nothing else. -/
lemma callsOf_run : callsOf (tools.run milliseconds call).record = [call] := by
  have hreport := ((tools.outcome milliseconds call).report_eq milliseconds call).2
  rw [run, Recorded.record_bind, Recorded.record_bind, callsOf_append, callsOf_append, hreport]
  rfl

end Toolbox

end BuildVersion
