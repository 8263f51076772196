import BuildVersion.Toml.Quoted

/-!
# Keys

A key is a chain of names with dots between them. A name stands bare or is quoted on one line, and
blanks around it mean nothing.
-/

namespace BuildVersion.Toml

open Text

/-- A key: the names that lead to its table, and its own name there. -/
structure Key where
  path : List String
  name : String
deriving DecidableEq

/-- The largest number of names in a key. -/
def nameLimit : Nat := 79

/-- The characters of a bare name. -/
def isBareChar (c : Char) : Bool := isAlphanumeric c || c == '_' || c == '-'

/-- Reads one name. -/
def readName : List Char → Except Fault (String × List Char)
  | '"' :: cs => readQuotedLine '"' cs
  | '\'' :: cs => readQuotedLine '\'' cs
  | cs =>
    let bare := cs.takeWhile isBareChar
    if bare.isEmpty then .error .malformed
    else .ok (String.ofList bare, cs.drop bare.length)

/-- Reads a key of at most so many names. -/
def readKeyOf : Nat → List Char → Except Fault (Key × List Char)
  | 0, _ => .error .malformed
  | n + 1, cs => do
    let (name, cs) ← readName (skipSpaces cs)
    match skipSpaces cs with
    | '.' :: cs =>
      let (key, cs) ← readKeyOf n cs
      return ({ key with path := name :: key.path }, cs)
    | cs => return (⟨[], name⟩, cs)

/-- Reads a key with the blanks around it. -/
def readKey (cs : List Char) : Except Fault (Key × List Char) := readKeyOf nameLimit cs

end BuildVersion.Toml
