import BuildVersion.Diagnostics.Entry

/-!
# Lines on a terminal

An entry is shown as one line with a mark for its level, in colours where the terminal has them.
`plain` drops the control sequences of a terminal from a text.
-/

namespace BuildVersion

/-- The styles in which a part of a line is shown. -/
inductive Style where
  | yellow
  | green
  | red
  | dim
deriving DecidableEq

/-- The number by which a terminal knows a style. -/
def Style.code : Style → String
  | yellow => "33"
  | green => "32"
  | red => "31"
  | dim => "2"

/-- A text in a style, where there are colours. -/
def Style.apply (style : Style) (colored : Bool) (text : String) : String :=
  if colored then "\x1b[" ++ style.code ++ "m" ++ text ++ "\x1b[0m" else text

/-- The line that shows an entry. -/
def Entry.line (colored : Bool) (e : Entry) : String :=
  match e.level with
  | .raw => Style.dim.apply colored ("  " ++ e.message)
  | .trace => Style.dim.apply colored "·" ++ " " ++ Style.dim.apply colored e.message
  | .success => Style.green.apply colored "✓" ++ " " ++ e.message
  | .info => Style.yellow.apply colored "→" ++ " " ++ e.message
  | .warning => Style.yellow.apply colored "⚠ WARNING:" ++ " " ++ e.message
  | .error => Style.red.apply colored "ERROR:" ++ " " ++ e.message

namespace ControlSequence

/-- How far a control sequence has been read. -/
inductive State where
  /-- Only the escape character. -/
  | escape
  /-- A bracket that selects a character set. -/
  | charset
  /-- A bracket that selects a character set and its name. -/
  | charsetName
  /-- Any introducers. -/
  | introducer
  /-- So many digits of a parameter. -/
  | digits (count : Nat)
  /-- A semicolon between parameters. -/
  | semicolon
  /-- The letter that ends the sequence. -/
  | final
deriving DecidableEq

/-- Whether a sequence may end here. -/
def State.isFinal : State → Bool
  | charsetName | digits _ | final => true
  | _ => false

/-- The letters and signs that end a sequence. -/
def isFinalChar (c : Char) : Bool :=
  ('A' ≤ c && c ≤ 'P') || c == 'R' || c == 'Z' || c == 'c' || ('f' ≤ c && c ≤ 'n') || c == 'q' ||
    c == 'r' || c == 'y' || c == '=' || c == '>' || c == '<' || c == '~'

/-- Reads one more character of a sequence. A parameter has up to four digits, and a fifth one ends
the sequence. -/
def State.next? (state : State) (c : Char) : Option State :=
  if c = '(' ∨ c = ')' then
    match state with
    | escape => some charset
    | charset | introducer => some introducer
    | _ => none
  else if c = ';' then
    match state with
    | escape | charset | introducer => some introducer
    | digits count => if count ≤ 4 then some semicolon else none
    | semicolon => some semicolon
    | _ => none
  else if c = '[' ∨ c = '#' ∨ c = '?' then
    match state with
    | escape | charset | introducer => some introducer
    | _ => none
  else if '0' ≤ c ∧ c ≤ '9' then
    match state with
    | escape | introducer | semicolon => some (digits 1)
    | charset => if c ≤ '2' then some charsetName else some (digits 1)
    | digits count => if count ≤ 4 then some (digits (count + 1)) else none
    | _ => none
  else if isFinalChar c then
    match state with
    | escape | charset | introducer | semicolon => some final
    | digits count => if count ≤ 4 then some final else none
    | _ => none
  else none

/-- The length of the longest sequence that goes on from a state, if there is one. -/
def restLength? (state : State) : List Char → Option Nat
  | [] => none
  | c :: cs =>
    match state.next? c with
    | none => none
    | some next =>
      match restLength? next cs with
      | some n => some (n + 1)
      | none => if next.isFinal then some 1 else none

/-- The characters outside of control sequences, of which the first `skip` belong to one. -/
def dropFrom (skip : Nat) : List Char → List Char
  | [] => []
  | c :: cs =>
    match skip with
    | n + 1 => dropFrom n cs
    | 0 =>
      if c = '\x1b' ∨ c = '\u009b' then
        match restLength? .escape cs with
        | some n => dropFrom n cs
        | none => c :: dropFrom 0 cs
      else c :: dropFrom 0 cs

end ControlSequence

/-- A text without the control sequences of a terminal. -/
def plain (s : String) : String := String.ofList (ControlSequence.dropFrom 0 s.toList)

end BuildVersion
