import BuildVersion.Diagnostics.Event
import BuildVersion.Text.Character
import BuildVersion.Text.Split

/-!
# Running external tools

A tool gives its output lines or nothing. It gives them only if it ended with success and all that it
wrote was delivered, both before its time was over. Failures are told to the user and end nothing.
-/

namespace BuildVersion

open Text

/-- The lines of the output and the text of the errors that were handed over. -/
structure Received where
  lines : List String := []
  errors : String := ""
deriving DecidableEq

/-- Takes one delivery. Errors that are not in UTF-8 read as nothing. -/
def Received.take (received : Received) : Delivery → Received
  | .output bytes => { received with lines := textLines bytes }
  | .errors bytes => { received with errors := (decodeUtf8? bytes).getD "" }

/-- What was handed over, if both readers did so. -/
def Received.ofDeliveries? : List Delivery → Option Received
  | first :: second :: _ => some ((({} : Received).take first).take second)
  | _ => none

/-- How the end of a tool is told. -/
def ExitStatus.text : ExitStatus → String
  | code n => toString n
  | signal => "signal"

/-- Tells the user what came of a call and gives its output lines. -/
def ToolOutcome.report (outcome : ToolOutcome) (milliseconds : Nat) (call : ToolCall) :
    Recorded Event (Option (List String)) := do
  match outcome with
  | .notStarted fault =>
    Recorded.tell .trace s!"Failed to start {call.program}: {fault.text}"
    return none
  | .overran =>
    Recorded.warn (.timedOut call.line milliseconds)
    return none
  | .ended status deliveries =>
    match Received.ofDeliveries? deliveries with
    | none =>
      Recorded.warn (.timedOut call.line milliseconds)
      return none
    | some received =>
      Recorded.notes (received.lines.map fun line => .told ⟨.raw, line⟩)
      if status = .code 0 then return some received.lines
      else
        Recorded.tell .trace s!"{call.line} exited with {status.text}: {trimmed received.errors}"
        return none

/-- Calls a tool that may take so many milliseconds. -/
def Toolbox.run (tools : Toolbox) (milliseconds : Nat) (call : ToolCall) :
    Recorded Event (Option (List String)) := do
  Recorded.tell .trace s!"Executing: {call.line} (in {call.directory})"
  Recorded.note (.called call)
  (tools.outcome milliseconds call).report milliseconds call

end BuildVersion
