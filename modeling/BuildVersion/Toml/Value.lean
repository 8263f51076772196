import BuildVersion.Error

/-!
# TOML values

The values of a TOML document. Tables keep their entries in the order in which the document gives
them, and remember how they came to be, since that decides what a document may still add to them.
-/

namespace BuildVersion.Toml

/-- How a table came to be. -/
inductive Origin where
  /-- A header names it, or it is the whole document. -/
  | header
  /-- It lies on the way to a table that a header names. -/
  | implied
  /-- It lies on the way to a key with dots. -/
  | dotted
deriving DecidableEq

/-- A value. Of numbers with a fraction and of dates only the kind is known. -/
inductive Value where
  | text (content : String)
  | integer (number : Int)
  | boolean (truth : Bool)
  | float
  | date
  | array (elements : List Value)
  /-- A table in braces, to which nothing can be added. -/
  | inlineTable (entries : List (String × Value))
  | table (origin : Origin) (entries : List (String × Value))
  /-- Tables under one name, each with a header of its own. -/
  | tables (elements : List (List (String × Value)))

/-- The keys of a table with their values. -/
abbrev Entries := List (String × Value)

/-- What keeps a text from being a document. -/
inductive Fault where
  | malformed
  | redefined (key : String)
deriving DecidableEq

/-- A reader takes what a text opens with and leaves the rest. -/
abbrev Reader (α : Type) := List Char → Except Fault (α × List Char)

namespace Value

/-- The text that a value holds. -/
def text? : Value → Option String
  | text content => some content
  | _ => none

/-- The truth value that a value holds. -/
def boolean? : Value → Option Bool
  | boolean truth => some truth
  | _ => none

/-- The integer that a value holds, where it is not negative. -/
def natural? : Value → Option Nat
  | integer (.ofNat n) => some n
  | _ => none

/-- The entries of a table. -/
def entries? : Value → Option Entries
  | inlineTable entries | table _ entries => some entries
  | _ => none

/-- Whether a value is a table or an array without anything in it. -/
def isEmpty : Value → Bool
  | array elements => elements.isEmpty
  | inlineTable entries | table _ entries => entries.isEmpty
  | tables elements => elements.isEmpty
  | _ => false

/-- The fields of a record. A table gives them by their names and an array by their places; a date
gives none of them. -/
def fields? (names : List String) : Value → Option Entries
  | inlineTable entries | table _ entries => some entries
  | array elements => some (names.zip elements)
  | tables elements => some (names.zip (elements.map (table .header)))
  | date => some []
  | _ => none

end Value

end BuildVersion.Toml
