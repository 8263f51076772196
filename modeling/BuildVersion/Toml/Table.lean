import BuildVersion.Toml.Value

/-!
# Building tables

A document adds to its tables statement by statement. Every key is defined once: a value is never
replaced, a table has one header at most, and keys with dots extend only the tables that such keys, or
the headers of inner tables, have brought about.
-/

namespace BuildVersion.Toml

/-- How a path is spelled. -/
inductive Way where
  /-- In a header. -/
  | header
  /-- By the dots of a key. -/
  | dots
deriving DecidableEq

/-- How a table comes to be that a path leads through. -/
def Way.origin : Way → Origin
  | header => .implied
  | dots => .dotted

namespace Entries

/-- Changes the value of a key, or adds it where the key is new. -/
def alter (key : String) (change : Option Value → Except Fault Value) :
    Entries → Except Fault Entries
  | [] => do return [(key, ← change none)]
  | (name, value) :: rest =>
    if name = key then do return (name, ← change (some value)) :: rest
    else do return (name, value) :: (← alter key change rest)

/-- Changes the last of the tables under one name. -/
def alterLast (key : String) (change : Entries → Except Fault Entries) :
    List Entries → Except Fault (List Entries)
  | [] => .error (.redefined key)
  | [last] => do return [← change last]
  | first :: rest => do return first :: (← alterLast key change rest)

/-- Changes the table that a path leads to. Of several tables under one name the path leads to the
last. Tables that are missing on the way are added, and dots lead into no table that has a header. -/
def alterAt (way : Way) (change : Origin → Entries → Except Fault Entries) :
    List String → Origin → Entries → Except Fault Entries
  | [], origin, entries => change origin entries
  | key :: path, _, entries =>
    entries.alter key fun
      | none => do return .table way.origin (← alterAt way change path way.origin [])
      | some (.table origin inner) =>
        if way = .dots ∧ origin = .header then .error (.redefined key)
        else do return .table origin (← alterAt way change path origin inner)
      | some (.tables elements) => do
        return .tables (← alterLast key (alterAt way change path .header) elements)
      | some _ => .error (.redefined key)

/-- Defines a key. Where dots lead to its table, that table has to come from dots only. -/
def assign (path : List String) (key : String) (value : Value) : Entries → Except Fault Entries :=
  alterAt .dots (fun origin entries =>
    if path ≠ [] ∧ origin ≠ .dotted then .error (.redefined key)
    else
      entries.alter key fun
        | none => .ok value
        | some _ => .error (.redefined key)) path .header

/-- Opens the table of a header. -/
def openTable (path : List String) (key : String) : Entries → Except Fault Entries :=
  alterAt .header (fun _ entries =>
    entries.alter key fun
      | none => .ok (.table .header [])
      | some (.table .implied inner) => .ok (.table .header inner)
      | some _ => .error (.redefined key)) path .header

/-- Opens one more of the tables under one name. -/
def openElement (path : List String) (key : String) : Entries → Except Fault Entries :=
  alterAt .header (fun _ entries =>
    entries.alter key fun
      | none => .ok (.tables [[]])
      | some (.tables elements) => .ok (.tables (elements ++ [[]]))
      | some _ => .error (.redefined key)) path .header

end Entries

end BuildVersion.Toml
