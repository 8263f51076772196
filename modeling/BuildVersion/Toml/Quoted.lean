import BuildVersion.Toml.Spacing

/-!
# Quoted texts

TOML quotes a text in four ways: in single or in double quotes, and on one line or as a block between
triple quotes. Double quotes know escapes, single quotes take every character as it is. In a block, a
line end right after the opening quotes is dropped, all others are line feeds, and a backslash at the
end of a line takes away the blanks and line ends that follow.
-/

namespace BuildVersion.Toml

open Text

/-- A way to quote a text. -/
structure Quoting where
  quote : Char
  isBlock : Bool
deriving DecidableEq

/-- Whether a backslash opens an escape. -/
def Quoting.hasEscapes (q : Quoting) : Bool := q.quote == '"'

/-- The value of a hexadecimal digit. -/
def hexValue (c : Char) : Nat :=
  if isDigit c then c.toNat - '0'.toNat
  else if 'a' ≤ c then c.toNat - 'a'.toNat + 10
  else c.toNat - 'A'.toNat + 10

/-- The character with a code in hexadecimal digits, where there is one. -/
def charOfHex? (digits : List Char) : Option Char :=
  let code := digits.foldl (fun n c => 16 * n + hexValue c) 0
  if digits.all isHexDigit ∧ code.isValidChar then some (Char.ofNat code) else none

/-- Reads what follows a backslash: the character that is meant, and the number of characters after
the first that belong to the escape. -/
def escape? : List Char → Option (Char × Nat)
  | 'b' :: _ => some ('\x08', 0)
  | 't' :: _ => some ('\t', 0)
  | 'n' :: _ => some ('\n', 0)
  | 'f' :: _ => some ('\x0c', 0)
  | 'r' :: _ => some ('\r', 0)
  | '"' :: _ => some ('"', 0)
  | '\\' :: _ => some ('\\', 0)
  | 'u' :: cs => if (cs.take 4).length = 4 then (charOfHex? (cs.take 4)).map (·, 4) else none
  | 'U' :: cs => if (cs.take 8).length = 8 then (charOfHex? (cs.take 8)).map (·, 8) else none
  | _ => none

/-- How the next characters of a quoted text are taken. -/
inductive Mode where
  /-- They belong to the text. -/
  | content
  /-- The next one and so many after it belong to an escape that has been read. -/
  | escaped (more : Nat)
  /-- Blanks and line ends are dropped. -/
  | gap
deriving DecidableEq

/-- The quotes that a text opens with, where they end a block. Up to two more than the closing three
belong to the text. -/
def closing? (q : Quoting) (cs : List Char) : Option (List Char × List Char) :=
  let count := (cs.takeWhile (· == q.quote)).length
  if 3 ≤ count ∧ count ≤ 5 then some (List.replicate (count - 3) q.quote, cs.drop count) else none

/-- Whether more quotes come together than may end a block. -/
def hasExcessQuotes (q : Quoting) (cs : List Char) : Bool :=
  5 < (cs.takeWhile (· == q.quote)).length

/-- Reads a quoted text after its opening quotes. -/
def readQuotedFrom (q : Quoting) : Mode → List Char → Except Fault (List Char × List Char)
  | _, [] => .error .malformed
  | .escaped 0, _ :: cs => readQuotedFrom q .content cs
  | .escaped (n + 1), _ :: cs => readQuotedFrom q (.escaped n) cs
  | mode, c :: cs =>
    let push (c : Char) (rest : Except Fault (List Char × List Char)) :=
      rest.map fun (text, cs) => (c :: text, cs)
    if q.isBlock ∧ c = '\r' ∧ cs.head? = some '\n' then readQuotedFrom q mode cs
    else if q.isBlock ∧ c = '\n' then
      if mode = .gap then readQuotedFrom q .gap cs else push '\n' (readQuotedFrom q .content cs)
    else if mode = .gap ∧ isSpace c then readQuotedFrom q .gap cs
    else if c = q.quote then
      if !q.isBlock then .ok ([], cs)
      else if hasExcessQuotes q (c :: cs) then .error .malformed
      else
        match closing? q (c :: cs) with
        | some last => .ok last
        | none => push c (readQuotedFrom q .content cs)
    else if q.hasEscapes ∧ c = '\\' then
      if q.isBlock ∧ atLineEnd (skipSpaces cs) then readQuotedFrom q .gap cs
      else
        match escape? cs with
        | some (meant, more) => push meant (readQuotedFrom q (.escaped more) cs)
        | none => .error .malformed
    else if isContent c then push c (readQuotedFrom q .content cs)
    else .error .malformed

/-- Drops the line end that a block may open with. -/
def dropLineEnd : List Char → List Char
  | '\n' :: cs | '\r' :: '\n' :: cs => cs
  | cs => cs

/-- Reads a text that is quoted on one line. -/
def readQuotedLine (quote : Char) (cs : List Char) : Except Fault (String × List Char) := do
  let (text, rest) ← readQuotedFrom ⟨quote, false⟩ .content cs
  return (String.ofList text, rest)

/-- Reads a block after its opening quotes. -/
def readBlock (quote : Char) (cs : List Char) : Except Fault (String × List Char) := do
  let (text, rest) ← readQuotedFrom ⟨quote, true⟩ .content (dropLineEnd cs)
  return (String.ofList text, rest)

end BuildVersion.Toml
