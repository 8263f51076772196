import BuildVersion.Toml.Value

/-!
# Blanks, comments and line ends

What stands between the parts of a TOML document. Only spaces and tabs are blanks, and a line ends
with a line feed that may have a carriage return before it.
-/

namespace BuildVersion.Toml

/-- A space or a tab. -/
def isSpace (c : Char) : Bool := c == ' ' || c == '\t'

/-- The characters that texts and comments may hold: tabs, and all that are no ASCII controls. -/
def isContent (c : Char) : Bool := c == '\t' || (' ' ≤ c && c != '\x7f')

/-- Drops spaces and tabs. -/
def skipSpaces (cs : List Char) : List Char := cs.dropWhile isSpace

/-- Whether a line ends here. -/
def atLineEnd : List Char → Bool
  | '\n' :: _ | '\r' :: '\n' :: _ => true
  | _ => false

/-- Drops one line end. The end of the text is one, too. -/
def takeLineEnd : List Char → Except Fault (List Char)
  | [] => .ok []
  | '\n' :: cs | '\r' :: '\n' :: cs => .ok cs
  | _ => .error .malformed

/-- Drops a comment up to the end of its line. -/
def skipComment : List Char → List Char
  | '#' :: cs => cs.dropWhile isContent
  | cs => cs

/-- Drops what may follow on a line: blanks, a comment and the line end. -/
def takeRestOfLine (cs : List Char) : Except Fault (List Char) :=
  takeLineEnd (skipComment (skipSpaces cs))

/-- Drops blanks, comments and line ends, from the outside or from the inside of a comment. -/
def skipGap (inComment : Bool) : List Char → List Char
  | [] => []
  | '\n' :: cs => skipGap false cs
  | '\r' :: '\n' :: cs => skipGap false cs
  | c :: cs =>
    if inComment then if isContent c then skipGap true cs else c :: cs
    else if isSpace c then skipGap false cs
    else if c = '#' then skipGap true cs
    else c :: cs

/-- The rest of a text that opens with a character. -/
def expect (c : Char) : List Char → Except Fault (List Char)
  | [] => .error .malformed
  | d :: cs => if d = c then .ok cs else .error .malformed

end BuildVersion.Toml
