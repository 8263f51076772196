import BuildVersion.Toml.Key
import BuildVersion.Toml.Scalar
import BuildVersion.Toml.Table

/-!
# Reading values

A value is a quoted text, a plain value, an array in brackets or a table in braces. Arrays may run over
several lines and end with a comma, tables in braces may do neither.
-/

namespace BuildVersion.Toml

/-- How many arrays and tables in braces may lie in each other. -/
def nestingLimit : Nat := 79

/-- Reads the elements of an array and its closing bracket. -/
def readElements (readOne : Reader Value) : Nat → Reader (List Value)
  | 0, _ => .error .malformed
  | n + 1, cs =>
    match skipGap false cs with
    | ']' :: cs => .ok ([], cs)
    | cs => do
      let (value, cs) ← readOne cs
      match skipGap false cs with
      | ',' :: cs =>
        let (values, cs) ← readElements readOne n cs
        return (value :: values, cs)
      | cs => return ([value], ← expect ']' cs)

/-- Reads a key and its value with an equals sign between them. -/
def readAssignment (readOne : Reader Value) : Reader (Key × Value) := fun cs => do
  let (key, cs) ← readKey cs
  let (value, cs) ← readOne (skipSpaces (← expect '=' cs))
  return ((key, value), cs)

/-- Reads the keys and values of a table in braces and its closing brace. -/
def readFields (readOne : Reader Value) : Nat → Reader (List (Key × Value))
  | 0, _ => .error .malformed
  | n + 1, cs => do
    let (field, cs) ← readAssignment readOne cs
    match skipSpaces cs with
    | ',' :: cs =>
      let (fields, cs) ← readFields readOne n cs
      return (field :: fields, cs)
    | cs => return ([field], ← expect '\x7d' cs)

/-- The table that assignments make. -/
def tableOf (fields : List (Key × Value)) : Except Fault Entries :=
  fields.foldlM (fun entries (key, value) => entries.assign key.path key.name value) []

/-- Reads a table in braces after its opening brace. -/
def readInlineTable (readOne : Reader Value) : Reader Value := fun cs =>
  match skipSpaces cs with
  | '\x7d' :: cs => .ok (.inlineTable [], cs)
  | cs => do
    let (fields, rest) ← readFields readOne (cs.length + 1) cs
    return (.inlineTable (← tableOf fields), rest)

/-- Reads a value in which so many arrays and tables may lie in each other. -/
def readNested (depth : Nat) : Reader Value
  | '"' :: '"' :: '"' :: cs => (readBlock '"' cs).map fun (text, cs) => (.text text, cs)
  | '\'' :: '\'' :: '\'' :: cs => (readBlock '\'' cs).map fun (text, cs) => (.text text, cs)
  | '"' :: cs => (readQuotedLine '"' cs).map fun (text, cs) => (.text text, cs)
  | '\'' :: cs => (readQuotedLine '\'' cs).map fun (text, cs) => (.text text, cs)
  | '[' :: cs =>
    match depth with
    | 0 => .error .malformed
    | depth + 1 =>
      (readElements (readNested depth) (cs.length + 1) cs).map fun (values, cs) => (.array values, cs)
  | '\x7b' :: cs =>
    match depth with
    | 0 => .error .malformed
    | depth + 1 => readInlineTable (readNested depth) cs
  | cs => readPlain cs

/-- Reads a value. -/
def readValue : Reader Value := readNested nestingLimit

end BuildVersion.Toml
