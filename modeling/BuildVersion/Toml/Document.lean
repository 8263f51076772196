import BuildVersion.Toml.Reading

/-!
# Documents

A document is a list of statements, each on a line of its own: an assignment, the header of a table,
or the header of one more of the tables under one name. Assignments go to the table whose header came
last, and to the document itself before the first header.
-/

namespace BuildVersion.Toml

/-- A document as far as it has been read. -/
structure Document where
  entries : Entries := []
  /-- The table that assignments go to. -/
  current : List String := []

/-- One statement. -/
inductive Statement where
  | assignment (key : Key) (value : Value)
  | header (key : Key)
  | elementHeader (key : Key)

/-- Carries out a statement. -/
def Document.run (d : Document) : Statement → Except Fault Document
  | .assignment key value => do
    let inTable (_ : Origin) (entries : Entries) := entries.assign key.path key.name value
    return { d with entries := ← d.entries.alterAt .header inTable d.current .header }
  | .header key => do
    return { entries := ← d.entries.openTable key.path key.name, current := key.path ++ [key.name] }
  | .elementHeader key => do
    return { entries := ← d.entries.openElement key.path key.name, current := key.path ++ [key.name] }

/-- Reads the statement that a line opens with, where it has one. -/
def readStatement : Reader (Option Statement)
  | '[' :: '[' :: cs => do
    let (key, cs) ← readKey cs
    return (some (.elementHeader key), ← expect ']' (← expect ']' cs))
  | '[' :: cs => do
    let (key, cs) ← readKey cs
    return (some (.header key), ← expect ']' cs)
  | [] => .ok (none, [])
  | c :: cs =>
    if c = '#' ∨ atLineEnd (c :: cs) then .ok (none, c :: cs)
    else do
      let ((key, value), rest) ← readAssignment readValue (c :: cs)
      return (some (.assignment key value), rest)

/-- Reads one line with all that its statement goes on to, and carries the statement out. -/
def Document.readLine (d : Document) : Reader Document := fun cs => do
  let (statement, cs) ← readStatement (skipSpaces cs)
  let rest ← takeRestOfLine cs
  match statement with
  | some statement => return (← d.run statement, rest)
  | none => return (d, rest)

/-- Reads so many lines at most. A fault is reported with the line that has it, given the number of
lines of the whole text. -/
def Document.readLines (lineCount : Nat) : Nat → Document → List Char → Except TomlFault Document
  | _, d, [] => .ok d
  | 0, d, _ => .ok d
  | n + 1, d, c :: cs =>
    match d.readLine (c :: cs) with
    | .ok (d, rest) => readLines lineCount n d rest
    | .error .malformed => .error (.malformed (lineCount - (c :: cs).count '\n'))
    | .error (.redefined key) => .error (.redefined key)

/-- Drops the byte order mark that a text may open with. -/
def dropByteOrderMark : List Char → List Char
  | '\ufeff' :: cs => cs
  | cs => cs

/-- The entries of the document that a text spells. -/
def readDocument (text : String) : Except TomlFault Entries := do
  let cs := dropByteOrderMark text.toList
  let d ← Document.readLines (cs.count '\n' + 1) (cs.length + 1) {} cs
  return d.entries

end BuildVersion.Toml
