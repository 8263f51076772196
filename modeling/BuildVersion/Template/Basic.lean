import BuildVersion.Template.Placeholder

/-!
# Templates

A template is text with placeholders. A placeholder is an opening brace whose next brace is a closing
one, up to that brace; all other braces are text. Main statement: cutting a template into characters
and placeholders loses nothing.
-/

namespace BuildVersion.Template

/-- A character outside of placeholders, or the text inside of one. -/
inductive Atom where
  | char (c : Char)
  | placeholder (inner : List Char)
deriving DecidableEq

/-- The atom as it stands in the template. -/
def Atom.chars : Atom → List Char
  | char c => [c]
  | placeholder inner => '{' :: (inner ++ ['}'])

/-- What an opening brace makes of the atoms after it: a placeholder, if the next brace among them is
a closing one. The answer is its inner text and the atoms after the closing brace. -/
def close? : List Atom → Option (List Char × List Atom)
  | .char c :: rest =>
    if c = '}' then some ([], rest)
    else if c = '{' then none
    else (close? rest).map fun (inner, rest) => (c :: inner, rest)
  | _ => none

/-- Cuts a text into characters and placeholders. -/
def atoms : List Char → List Atom
  | [] => []
  | c :: cs =>
    if c = '{' then
      match close? (atoms cs) with
      | some (inner, rest) => .placeholder inner :: rest
      | none => .char c :: atoms cs
    else .char c :: atoms cs

/-- Puts a character in front of segments. -/
def addChar (c : Char) : List Segment → List Segment
  | .text cs :: rest => .text (c :: cs) :: rest
  | segments => .text [c] :: segments

/-- Puts text in front of segments. -/
def addText (cs : List Char) (segments : List Segment) : List Segment :=
  cs.foldr addChar segments

/-- Reads the placeholders from left to right, up to the first bad one. Those that belong to no family
stay text. -/
def segmentsOf : List Atom → Except Error (List Segment)
  | [] => .ok []
  | .char c :: rest =>
    match segmentsOf rest with
    | .ok segments => .ok (addChar c segments)
    | .error e => .error e
  | .placeholder inner :: rest =>
    match Token.read (String.ofList (Atom.placeholder inner).chars) with
    | .error e => .error e
    | .ok none =>
      match segmentsOf rest with
      | .ok segments => .ok (addText (Atom.placeholder inner).chars segments)
      | .error e => .error e
    | .ok (some token) =>
      match segmentsOf rest with
      | .ok segments => .ok (.token token :: segments)
      | .error e => .error e

/-- Reads a template. -/
def read (text : String) : Except Error (List Segment) := segmentsOf (atoms text.toList)

/-- A closing brace gives back the atoms that it was found in. -/
theorem chars_of_close? {as rest : List Atom} {inner : List Char} (h : close? as = some (inner, rest)) :
    as.flatMap Atom.chars = inner ++ '}' :: rest.flatMap Atom.chars := by
  induction as generalizing inner with
  | nil => simp [close?] at h
  | cons a as ih =>
    cases a with
    | placeholder inner' => simp [close?] at h
    | char c =>
      rw [close?] at h
      split at h
      · next hc =>
        simp only [Option.some.injEq, Prod.mk.injEq] at h
        obtain ⟨rfl, rfl⟩ := h
        simp [Atom.chars, hc]
      · split at h
        · cases h
        · simp only [Option.map_eq_some_iff, Prod.mk.injEq, Prod.exists] at h
          obtain ⟨i, r, hc, rfl, rfl⟩ := h
          simp [Atom.chars, ih hc]

/-- The atoms of a text make up the text. -/
theorem flatMap_chars_atoms (cs : List Char) : (atoms cs).flatMap Atom.chars = cs := by
  induction cs with
  | nil => rfl
  | cons c cs ih =>
    rw [atoms]
    split
    · next hc =>
      split
      · next inner rest h =>
        have := chars_of_close? h
        rw [ih] at this
        simp [Atom.chars, this, hc]
      · simp [Atom.chars, ih]
    · simp [Atom.chars, ih]

end BuildVersion.Template
