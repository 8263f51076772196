/-!
# Splitting texts

`split` cuts a text at every separator, `cut?` at the first one, and `textLines` cuts the bytes of a
stream in UTF-8 into lines. Main statements: joining the pieces of a text again gives the text back, and
no piece holds the separator.
-/

namespace BuildVersion.Text

/-- The pieces of a text between its separators, at least one. -/
def split (separator : Char) : List Char → List (List Char)
  | [] => [[]]
  | c :: cs =>
    if c = separator then [] :: split separator cs
    else
      match split separator cs with
      | [] => [[c]]
      | piece :: pieces => (c :: piece) :: pieces

/-- The text before and after the first separator. -/
def cut? (separator : Char) : List Char → Option (List Char × List Char)
  | [] => none
  | c :: cs =>
    if c = separator then some ([], cs)
    else (cut? separator cs).map fun (before, after) => (c :: before, after)

/-- The pieces with one separator between neighbours. -/
def join (separator : Char) : List (List Char) → List Char
  | [] => []
  | [piece] => piece
  | piece :: pieces => piece ++ separator :: join separator pieces

theorem split_ne_nil (separator : Char) (cs : List Char) : split separator cs ≠ [] := by
  cases cs with
  | nil => simp [split]
  | cons c cs =>
    rw [split]
    split
    · simp
    · split <;> simp

theorem join_cons_of_ne_nil {separator : Char} {piece : List Char} {pieces : List (List Char)}
    (h : pieces ≠ []) : join separator (piece :: pieces) = piece ++ separator :: join separator pieces := by
  cases pieces with
  | nil => exact absurd rfl h
  | cons _ _ => rfl

/-- Nothing is lost by splitting. -/
theorem join_split (separator : Char) (cs : List Char) : join separator (split separator cs) = cs := by
  induction cs with
  | nil => rfl
  | cons c cs ih =>
    rw [split]
    split
    · next h => rw [join_cons_of_ne_nil (split_ne_nil separator cs), ih, h]; rfl
    · next h =>
      split
      · next hs => exact absurd hs (split_ne_nil separator cs)
      · next piece pieces hs =>
        rw [hs] at ih
        cases pieces with
        | nil => simpa [join] using ih
        | cons p ps => simpa [join] using ih

/-- The cut falls on the first separator. -/
theorem cut?_eq_some_iff {separator : Char} {cs before after : List Char} :
    cut? separator cs = some (before, after) ↔
      cs = before ++ separator :: after ∧ separator ∉ before := by
  induction cs generalizing before with
  | nil => simp [cut?]
  | cons c cs ih =>
    rw [cut?]
    split
    · next h =>
      subst h
      constructor
      · intro e
        simp only [Option.some.injEq, Prod.mk.injEq] at e
        obtain ⟨rfl, rfl⟩ := e
        simp
      · rintro ⟨e, hn⟩
        cases before with
        | nil => simpa using e
        | cons b bs => simp only [List.cons_append, List.cons.injEq] at e; simp [e.1] at hn
    · next h =>
      simp only [Option.map_eq_some_iff, Prod.mk.injEq, Prod.exists]
      constructor
      · rintro ⟨b, a, hc, rfl, rfl⟩
        obtain ⟨rfl, hn⟩ := ih.1 hc
        exact ⟨rfl, by simp [hn, Ne.symm h]⟩
      · rintro ⟨e, hn⟩
        cases before with
        | nil => simp only [List.nil_append, List.cons.injEq] at e; exact absurd e.1 h
        | cons b bs =>
          simp only [List.cons_append, List.cons.injEq] at e
          obtain ⟨rfl, e⟩ := e
          exact ⟨bs, after, ih.2 ⟨e, fun hm => hn (List.mem_cons_of_mem _ hm)⟩, rfl, rfl⟩

/-! ### Lines of bytes -/

/-- The text of bytes in UTF-8. -/
def decodeUtf8? (bytes : List UInt8) : Option String := String.fromUTF8? ⟨bytes.toArray⟩

/-- The bytes of a text in UTF-8. -/
def encodeUtf8 (s : String) : List UInt8 := s.toUTF8.data.toList

/-- Puts a byte in front of lines: a line feed ends a line, any other byte belongs to the first. -/
def addByte (byte : UInt8) (lines : List (List UInt8 × Bool)) : List (List UInt8 × Bool) :=
  if byte = 10 then ([], true) :: lines
  else
    match lines with
    | [] => [([byte], false)]
    | (line, ended) :: rest => (byte :: line, ended) :: rest

/-- The lines of a stream without their line feeds. Each line says whether a line feed ended it. -/
def byteLines (bytes : List UInt8) : List (List UInt8 × Bool) := bytes.foldr addByte []

/-- A line without the carriage return before its line feed. -/
def withoutReturn (line : List UInt8 × Bool) : List UInt8 :=
  if line.2 ∧ line.1.getLast? = some 13 then line.1.dropLast else line.1

/-- The lines of a stream as texts, up to the first that is not in UTF-8. -/
def textLines (bytes : List UInt8) : List String :=
  ((byteLines bytes).map fun line => decodeUtf8? (withoutReturn line)).takeWhile Option.isSome
    |>.filterMap id

end BuildVersion.Text
