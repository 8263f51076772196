import BuildVersion.Error
import BuildVersion.Text.Number
import BuildVersion.Text.Split

/-!
# Short versions

The short version of a text is the dotted numbers that it opens with: two to four numbers, none of
them above the limit.
-/

namespace BuildVersion.ShortVersion

open Text

/-- The digits and dots that a text opens with, without dots at the end. -/
def opening (cs : List Char) : List Char :=
  let run := cs.takeWhile fun c => isDigit c || c == '.'
  (run.reverse.dropWhile (· == '.')).reverse

/-- Whether a number is within the limit. -/
def fits (component : List Char) : Bool :=
  match natural? component with
  | some n => n ≤ componentLimit
  | none => false

/-- The short version of a text. -/
def read (text : String) : Except Error String :=
  let short := opening text.toList
  if '.' ∈ short then
    let components := split '.' short
    if 4 < components.length ∨ [] ∈ components then
      .error (.componentCount (String.ofList short))
    else
      match components.find? fun component => !fits component with
      | some component => .error (.componentLimit (String.ofList component) (String.ofList short))
      | none => .ok (String.ofList short)
  else .error (.notDotted text)

end BuildVersion.ShortVersion
