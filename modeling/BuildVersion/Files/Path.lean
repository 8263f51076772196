import BuildVersion.Text.Split

/-!
# Paths

A path is a list of names with slashes between them. Doubled slashes and single dots mean nothing,
and two dots are a name like any other until the path is looked up.
-/

namespace BuildVersion

open Text

/-- A path by its names. -/
structure Path where
  /-- The slashes that an absolute path opens with, nothing for a relative one. -/
  root : String := ""
  names : List String := []
  /-- A slash at the end asks for a directory. -/
  isClosed : Bool := false
deriving DecidableEq

namespace Path

/-- The slashes that a path opens with. Exactly two are kept as two, any more count as one. -/
def rootOf : List Char → String
  | ['/', '/'] => "//"
  | '/' :: '/' :: '/' :: _ => "/"
  | '/' :: '/' :: _ => "//"
  | '/' :: _ => "/"
  | _ => ""

/-- The path that a text spells. A single dot at the start of a relative path is kept. -/
def ofText (text : String) : Path :=
  let cs := text.toList
  let names := ((split '/' cs).filter fun name => name ≠ [] ∧ name ≠ ['.']).map String.ofList
  { root := rootOf cs
    names := if (split '/' cs).head? = some ['.'] then "." :: names else names
    isClosed := cs.getLast? = some '/' }

/-- The spelling of a path. -/
def text (p : Path) : String :=
  p.root ++ "/".intercalate p.names ++ (if p.isClosed && p.names != [] then "/" else "")

/-- Whether a path does not depend on the working directory. -/
def isAbsolute (p : Path) : Bool := p.root != ""

/-- The path that names nothing. -/
def isEmpty (p : Path) : Bool := p.root == "" && p.names == []

/-- The path without the single dot at its start. -/
def withoutDot (p : Path) : Path :=
  match p.names with
  | "." :: rest => { p with names := rest }
  | _ => p

/-- The path seen from the root. The path that names nothing stays what it is. -/
def absolute (p : Path) (workingDirectory : List String) : Path :=
  if p.isEmpty || p.isAbsolute then p
  else { p.withoutDot with root := "/", names := workingDirectory ++ p.withoutDot.names }

/-- A path below another one; an absolute path stays what it is. -/
def join (directory p : Path) : Path :=
  if p.isAbsolute then p
  else if p.isEmpty then { directory with isClosed := true }
  else { directory with names := directory.names ++ p.names, isClosed := p.isClosed }

/-- The path of the directory that a path lies in. -/
def parent? (p : Path) : Option Path :=
  if p.names = [] then none
  else
    let names := p.names.dropLast
    some { root := if names = [] ∧ p.isAbsolute then "/" else p.root, names }

/-- A path and all paths that it lies in, from the inside out. -/
def ancestors (p : Path) : List Path :=
  p :: go p p.names.length
where
  /-- The paths that a path of so many names lies in. -/
  go (p : Path) : Nat → List Path
    | 0 => []
    | n + 1 =>
      match p.parent? with
      | some parent => parent :: go parent n
      | none => []

/-- Whether a path opens with all names of another one. -/
def startsWith (p start : Path) : Bool :=
  p.isAbsolute == start.isAbsolute && start.names.isPrefixOf p.names

/-- How many names of a path, two dots apart, come after those of the path that it lies in. -/
def depthBelow (p root : Path) : Nat :=
  if p.isAbsolute = root.isAbsolute then
    match root.names.isPrefixOf? p.names with
    | some rest => (rest.filter fun name => name ≠ "..").length
    | none => 0
  else 0

/-- The absolute path without a slash at its end. -/
def full (p : Path) (workingDirectory : List String) : Path :=
  let p := p.absolute workingDirectory
  { root := if p.isAbsolute then "/" else "", names := p.names }

end Path

end BuildVersion
