import BuildVersion.Tool.Run

/-!
# The exchange with a tool

How the outcome of a call comes about. The runner starts a tool and waits for it. Two readers, one for each
stream of the tool, hand over what they have read through one channel, and once the tool has ended the runner
takes it from there. The tool, the readers, the clock and the runner go on in any order, until the runner answers.
That waiting for the tool itself fails is left out.
-/

namespace BuildVersion

open Text

/-- The streams of a tool. Each has a reader. -/
inductive Stream where
  | output
  | errors
deriving DecidableEq

/-- The stream whose reader hands something over. -/
def Delivery.stream : Delivery → Stream
  | output _ => .output
  | errors _ => .errors

/-- Tells the user what is called, and calls it. -/
def ToolCall.opening (call : ToolCall) : Recorded Event Unit := do
  Recorded.tell .trace s!"Executing: {call.line} (in {call.directory})"
  Recorded.note (.called call)

/-- Tells the user that the time of a call is over. -/
def ToolCall.timeOut (call : ToolCall) (milliseconds : Nat) : Recorded Event (Option (List String)) := do
  Recorded.warn (.timedOut call.line milliseconds)
  return none

/-- Tells the user what was received from a tool that ended so, and gives its output lines if that was a
success. -/
def Received.closing (received : Received) (call : ToolCall) (status : ExitStatus) :
    Recorded Event (Option (List String)) := do
  Recorded.notes (received.lines.map fun line => .told ⟨.raw, line⟩)
  if status = .code 0 then return some received.lines
  else
    Recorded.tell .trace s!"{call.line} exited with {status.text}: {trimmed received.errors}"
    return none

namespace Exchange

/-- What has become of a tool. -/
inductive Fate where
  | unstarted
  | refused (fault : StartFault)
  | running
  | ended (status : ExitStatus)
  /-- The runner has killed it. -/
  | killed
deriving DecidableEq

/-- Where the runner is. -/
inductive Runner where
  | starting
  /-- It waits for the end of the tool. -/
  | waiting
  /-- The tool has ended so, and so many readers are still to be heard. -/
  | receiving (status : ExitStatus) (missing : Nat) (received : Received)
  | finished (answer : Option (List String))
deriving DecidableEq

/-- The runner has started a tool and not answered yet. -/
def Runner.isActive : Runner → Bool
  | starting | finished _ => false
  | waiting | receiving .. => true

end Exchange

/-- One moment of an exchange. -/
structure Exchange where
  runner : Exchange.Runner := .starting
  tool : Exchange.Fate := .unstarted
  /-- What the runner has taken from the channel. -/
  taken : List Delivery := []
  /-- What the readers have handed over and the runner has not taken yet. -/
  channel : List Delivery := []
  /-- The time of the call is over. -/
  isOver : Bool := false
  record : List Event := []
deriving DecidableEq

namespace Exchange

/-- All that the readers have handed over, in order. -/
def sent (x : Exchange) : List Delivery := x.taken ++ x.channel

/-- The runner tells what there is to tell, and answers. -/
def close (x : Exchange) (conclusion : Recorded Event (Option (List String))) : Exchange :=
  { x with runner := .finished conclusion.value, record := x.record ++ conclusion.record }

/-- What can happen next in a call that may take so many milliseconds. -/
inductive Step (milliseconds : Nat) (call : ToolCall) : Exchange → Exchange → Prop where
  | start {x : Exchange} (hrunner : x.runner = .starting) :
    Step milliseconds call x
      { x with runner := .waiting, tool := .running, record := x.record ++ call.opening.record }
  | refuse {x : Exchange} (fault : StartFault) (hrunner : x.runner = .starting) :
    Step milliseconds call x
      ({ x with tool := .refused fault, record := x.record ++ call.opening.record }.close
        ((ToolOutcome.notStarted fault).report milliseconds call))
  | exit {x : Exchange} (status : ExitStatus) (hrunner : x.runner = .waiting) (htool : x.tool = .running) :
    Step milliseconds call x { x with tool := .ended status }
  /-- A reader hands over what it has read, once. Its stream may be over before or after the tool is. -/
  | deliver {x : Exchange} (d : Delivery) (hrunner : x.runner.isActive = true)
      (hstream : d.stream ∉ x.sent.map Delivery.stream) :
    Step milliseconds call x { x with channel := x.channel ++ [d] }
  | expire {x : Exchange} (hrunner : x.runner.isActive = true) (htime : x.isOver = false) :
    Step milliseconds call x { x with isOver := true }
  | notice {x : Exchange} {status : ExitStatus} (hrunner : x.runner = .waiting) (htool : x.tool = .ended status) :
    Step milliseconds call x { x with runner := .receiving status 2 {} }
  | kill {x : Exchange} (hrunner : x.runner = .waiting) (htool : x.tool = .running) (htime : x.isOver = true) :
    Step milliseconds call x ({ x with tool := .killed }.close (call.timeOut milliseconds))
  /-- What is in the channel is taken even if the time is over. -/
  | take {x : Exchange} {status : ExitStatus} {missing : Nat} {received : Received} {d : Delivery}
      {rest : List Delivery} (hrunner : x.runner = .receiving status (missing + 1) received)
      (hchannel : x.channel = d :: rest) :
    Step milliseconds call x
      { x with
        runner := .receiving status missing (received.take d)
        taken := x.taken ++ [d]
        channel := rest }
  | giveUp {x : Exchange} {status : ExitStatus} {missing : Nat} {received : Received}
      (hrunner : x.runner = .receiving status (missing + 1) received) (hchannel : x.channel = [])
      (htime : x.isOver = true) :
    Step milliseconds call x (x.close (call.timeOut milliseconds))
  | answer {x : Exchange} {status : ExitStatus} {received : Received}
      (hrunner : x.runner = .receiving status 0 received) :
    Step milliseconds call x (x.close (received.closing call status))

end Exchange

end BuildVersion
