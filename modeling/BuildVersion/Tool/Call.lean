/-!
# Calls of external tools

A call of a tool, and everything that can come of it.
-/

namespace BuildVersion

/-- A tool to be run with arguments in a directory. -/
structure ToolCall where
  program : String
  arguments : List String
  directory : String
deriving DecidableEq

/-- The program and its arguments in one line. -/
def ToolCall.line (call : ToolCall) : String :=
  call.program ++ " " ++ " ".intercalate call.arguments

/-- How a tool ended. -/
inductive ExitStatus where
  | code (code : Nat)
  /-- The tool was killed. -/
  | signal
deriving DecidableEq

/-- What one of the two readers of a tool's output hands over when its stream has ended. -/
inductive Delivery where
  | output (bytes : List UInt8)
  | errors (bytes : List UInt8)
deriving DecidableEq

/-- Why a tool could not be started. -/
inductive StartFault where
  | missing
  | denied
  | notDirectory
  | nullCharacter
deriving DecidableEq

/-- The words of the operating system for a tool that could not be started. -/
def StartFault.text : StartFault → String
  | missing => "No such file or directory (os error 2)"
  | denied => "Permission denied (os error 13)"
  | notDirectory => "Not a directory (os error 20)"
  | nullCharacter => "nul byte found in provided data"

/-- What comes of a call. A system that cannot tell whether a tool has ended, because waiting for it fails,
is left out. -/
inductive ToolOutcome where
  | notStarted (fault : StartFault)
  /-- The tool still ran when its time was over. -/
  | overran
  /-- The tool ended in time, and so much was delivered before the time was over. -/
  | ended (status : ExitStatus) (deliveries : List Delivery)
deriving DecidableEq

/-- The tools of a machine. -/
structure Toolbox where
  /-- Whether a program is found on the search path. -/
  has : String → Bool
  /-- What comes of a call that may take so many milliseconds. -/
  outcome : Nat → ToolCall → ToolOutcome

end BuildVersion
