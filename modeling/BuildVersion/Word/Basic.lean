import BuildVersion.Error
import BuildVersion.Text.Number

/-!
# Words of 64 bits

Arithmetic on words, where what has no answer stops the computation. Unsigned words are kept as natural
numbers and signed ones as integers, and every operation says whether its result still is a word. Checked
arithmetic is the same with the stop caught. Main statements: on natural numbers that stay below the limits,
each operation answers what it does on numbers.
-/

namespace BuildVersion

open Text

/-- What stops a computation. -/
inductive Trap where
  /-- A result that does not fit its word. -/
  | overflow
  /-- A division or remainder by zero. -/
  | zeroDivisor
  /-- A position behind the end. -/
  | position
  /-- A cut inside a character. -/
  | cut
  /-- A loop that comes back to where it was. -/
  | endless
  /-- A clock outside of the years that clocks cover. -/
  | clock
  /-- A date that the calendar does not know. -/
  | date
deriving DecidableEq

/-- A computation that answers a value or an error, unless something stops it. -/
abbrev Attempt (α : Type) := ExceptT Error (Except Trap) α

namespace Attempt

variable {α β : Type}

/-- A computation that nothing stops. -/
def of (x : Except Error α) : Attempt α := ExceptT.mk (.ok x)

/-- A checked computation, which answers an error where it would be stopped. -/
def checked (x : Except Trap α) (e : Error) : Attempt α :=
  match x with
  | .ok a => return a
  | .error _ => throw e

theorem checked_ok (a : α) (e : Error) : checked (.ok a) e = of (.ok a) := rfl

theorem ok_bind (a : α) (f : α → Attempt β) : of (.ok a) >>= f = f a := rfl

theorem lift_ok_bind (a : α) (f : α → Attempt β) : (liftM (Except.ok a : Except Trap α) : Attempt α) >>= f = f a := rfl

end Attempt

namespace Word

/-- The unsigned word of a number. -/
def ofInt (n : Int) : Except Trap Nat :=
  if 0 ≤ n ∧ n < wordLimit then .ok n.toNat else .error .overflow

/-- The sum of two words. -/
def add (a b : Nat) : Except Trap Nat := ofInt (a + b)

/-- The product of two words. -/
def mul (a b : Nat) : Except Trap Nat := ofInt (a * b)

/-- The quotient of two words. -/
def div (a b : Nat) : Except Trap Nat := if b = 0 then .error .zeroDivisor else .ok (a / b)

/-- The remainder of two words. -/
def mod (a b : Nat) : Except Trap Nat := if b = 0 then .error .zeroDivisor else .ok (a % b)

theorem ofInt_eq_ok {n : Nat} (h : n < wordLimit) : ofInt n = .ok n := by
  rw [ofInt, if_pos ⟨by omega, by omega⟩, Int.toNat_natCast]

theorem ofInt_eq_error {n : Nat} (h : wordLimit ≤ n) : ofInt n = .error .overflow := by
  rw [ofInt, if_neg (by omega)]

theorem add_eq_ok {a b : Nat} (h : a + b < wordLimit) : add a b = .ok (a + b) := ofInt_eq_ok h

theorem add_eq_error {a b : Nat} (h : wordLimit ≤ a + b) : add a b = .error .overflow := ofInt_eq_error h

theorem mul_eq_ok {a b : Nat} (h : a * b < wordLimit) : mul a b = .ok (a * b) := ofInt_eq_ok h

theorem mul_eq_error {a b : Nat} (h : wordLimit ≤ a * b) : mul a b = .error .overflow := ofInt_eq_error h

theorem div_eq_ok (a : Nat) {b : Nat} (h : 0 < b) : div a b = .ok (a / b) :=
  if_neg (Nat.pos_iff_ne_zero.1 h)

theorem mod_eq_ok (a : Nat) {b : Nat} (h : 0 < b) : mod a b = .ok (a % b) :=
  if_neg (Nat.pos_iff_ne_zero.1 h)

end Word

namespace SignedWord

/-- The signed word of a number. -/
def ofInt (n : Int) : Except Trap Int :=
  if -(signedLimit : Int) ≤ n ∧ n < signedLimit then .ok n else .error .overflow

/-- The sum of two words. -/
def add (a b : Int) : Except Trap Int := ofInt (a + b)

/-- The difference of two words. -/
def sub (a b : Int) : Except Trap Int := ofInt (a - b)

/-- The product of two words. -/
def mul (a b : Int) : Except Trap Int := ofInt (a * b)

/-- The quotient of two words, cut towards zero. -/
def div (a b : Int) : Except Trap Int := if b = 0 then .error .zeroDivisor else ofInt (a.tdiv b)

/-- The remainder of two words, which has no answer where the quotient has none. -/
def mod (a b : Int) : Except Trap Int := do
  let _ ← div a b
  return a.tmod b

theorem ofInt_eq_ok {n : Nat} (h : n < signedLimit) : ofInt n = .ok (n : Int) :=
  if_pos ⟨by omega, by omega⟩

theorem ofInt_eq_error {n : Nat} (h : signedLimit ≤ n) : ofInt n = .error .overflow :=
  if_neg (by omega)

theorem add_eq_ok {a b : Nat} (h : a + b < signedLimit) : add a b = .ok (a + b : Nat) := ofInt_eq_ok h

theorem sub_eq_ok {a b : Nat} (h : a < signedLimit) (hle : b ≤ a) : sub a b = .ok (a - b : Nat) := by
  rw [sub, ← Int.ofNat_sub hle]
  exact ofInt_eq_ok (by omega)

theorem mul_eq_ok {a b : Nat} (h : a * b < signedLimit) : mul a b = .ok (a * b : Nat) := ofInt_eq_ok h

theorem mul_eq_error {a b : Nat} (h : signedLimit ≤ a * b) : mul a b = .error .overflow :=
  ofInt_eq_error h

theorem div_eq_ok {a b : Nat} (ha : a < signedLimit) (hb : 0 < b) : div a b = .ok (a / b : Nat) := by
  rw [div, if_neg (by omega), ← Int.ofNat_tdiv]
  exact ofInt_eq_ok (Nat.lt_of_le_of_lt (Nat.div_le_self a b) ha)

theorem mod_eq_ok {a b : Nat} (ha : a < signedLimit) (hb : 0 < b) : mod a b = .ok (a % b : Nat) := by
  rw [mod, div_eq_ok ha hb]
  rfl

end SignedWord

/-! ### Positions -/

/-- What stands at a position. -/
def item {α : Type} (xs : List α) (i : Nat) : Except Trap α :=
  match xs[i]? with
  | some x => .ok x
  | none => .error .position

theorem item_eq_ok {α : Type} {xs : List α} {i : Nat} {x : α} (h : xs[i]? = some x) : item xs i = .ok x := by
  rw [item, h]

/-- The number of bytes of a text. -/
def byteLength : List Char → Nat
  | [] => 0
  | c :: cs => c.utf8Size + byteLength cs

/-- Cuts a text behind so many bytes. -/
def cutBytes : Nat → List Char → Except Trap (List Char × List Char)
  | 0, cs => .ok ([], cs)
  | _ + 1, [] => .error .position
  | n + 1, c :: cs =>
    if c.utf8Size ≤ n + 1 then do
      let (front, rest) ← cutBytes (n + 1 - c.utf8Size) cs
      return (c :: front, rest)
    else .error .cut

/-- The part of a text from one byte to another. -/
def slice (cs : List Char) (start stop : Nat) : Except Trap (List Char) := do
  if stop < start then throw .position
  let (_, rest) ← cutBytes start cs
  let (piece, _) ← cutBytes (stop - start) rest
  return piece

/-- A text of ASCII alone. -/
def IsAscii (cs : List Char) : Prop := ∀ c ∈ cs, c.utf8Size = 1

instance (cs : List Char) : Decidable (IsAscii cs) :=
  decidable_of_iff ((cs.all fun c => c.utf8Size == 1) = true) (by simp [IsAscii])

theorem byteLength_of_isAscii {cs : List Char} (h : IsAscii cs) : byteLength cs = cs.length := by
  induction cs with
  | nil => rfl
  | cons c cs ih =>
    have hc : c.utf8Size = 1 := h c List.mem_cons_self
    rw [byteLength, hc, ih fun d hd => h d (List.mem_cons_of_mem _ hd), List.length_cons, Nat.add_comm]

/-- In ASCII, bytes are characters. -/
theorem cutBytes_of_isAscii {cs : List Char} (h : IsAscii cs) {n : Nat} (hn : n ≤ cs.length) :
    cutBytes n cs = .ok (cs.take n, cs.drop n) := by
  induction cs generalizing n with
  | nil =>
    rw [Nat.le_zero.1 hn]
    rfl
  | cons c cs ih =>
    cases n with
    | zero => rfl
    | succ n =>
      have hc : c.utf8Size = 1 := h c List.mem_cons_self
      have hrest := ih (fun d hd => h d (List.mem_cons_of_mem _ hd)) (Nat.le_of_succ_le_succ hn)
      rw [cutBytes, if_pos (by omega), hc, Nat.add_sub_cancel, hrest]
      rfl

/-- In ASCII, every part is cut out. -/
theorem slice_of_isAscii {cs : List Char} (h : IsAscii cs) {start width : Nat}
    (hstop : start + width ≤ cs.length) :
    slice cs start (start + width) = .ok ((cs.drop start).take width) := by
  have hdrop : IsAscii (cs.drop start) := fun c hc => h c (List.mem_of_mem_drop hc)
  have hlength : width ≤ (cs.drop start).length := by
    rw [List.length_drop]
    omega
  rw [slice, if_neg (by omega), cutBytes_of_isAscii h (by omega), Nat.add_sub_cancel_left]
  simp only [bind, Except.bind, pure, Except.pure]
  rw [cutBytes_of_isAscii hdrop hlength]

end BuildVersion
