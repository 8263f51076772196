import BuildVersion.Diagnostics.Entry
import BuildVersion.Diagnostics.Recorded
import BuildVersion.Tool.Call

/-!
# Events

What a run does that can be seen from outside: messages to the user, questions to the providers of
revision data, and calls of external tools.
-/

namespace BuildVersion

/-- What a provider can be asked. -/
inductive Question where
  /-- Whether its tools are installed. -/
  | installed
  /-- Whether a directory belongs to it. -/
  | directory
  /-- The facts of a directory. -/
  | facts
deriving DecidableEq

/-- One thing that happens in a run. -/
inductive Event where
  | told (entry : Entry)
  | asked (provider : String) (question : Question)
  | called (call : ToolCall)
deriving DecidableEq

/-- The message of an event, where it is one. -/
def Event.entry? : Event → Option Entry
  | told entry => some entry
  | _ => none

/-- The messages among events, in order. -/
def entriesOf (events : List Event) : List Entry := events.filterMap Event.entry?

namespace Recorded

/-- Tells the user something. -/
def tell (level : Level) (message : String) : Recorded Event Unit :=
  note (.told ⟨level, message⟩)

/-- Warns the user. -/
def warn (w : Warning) : Recorded Event Unit := note (.told w.entry)

/-- The same computation with its messages as events. -/
def asEvents {α : Type} (x : Recorded Entry α) : Recorded Event α := x.mapRecord Event.told

end Recorded

end BuildVersion
