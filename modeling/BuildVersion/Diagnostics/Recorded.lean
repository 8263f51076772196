/-!
# Recorded computations

A computation that keeps a record of what happens on the way, such as messages to the user. Main
statements: the record of a sequence is the record of its first part followed by that of the rest.
-/

namespace BuildVersion

/-- A value, and what was recorded until it was there. -/
structure Recorded (ε α : Type) where
  value : α
  record : List ε
deriving DecidableEq

namespace Recorded

variable {ε ε' α β : Type}

/-- Goes on with a value and keeps both records. -/
def andThen (x : Recorded ε α) (f : α → Recorded ε β) : Recorded ε β :=
  { value := (f x.value).value, record := x.record ++ (f x.value).record }

instance : Monad (Recorded ε) where
  pure a := ⟨a, []⟩
  bind := andThen

/-- Records one event. -/
def note (e : ε) : Recorded ε Unit := ⟨(), [e]⟩

/-- Records several events. -/
def notes (es : List ε) : Recorded ε Unit := ⟨(), es⟩

/-- Records one event if a condition holds. -/
def noteIf (condition : Bool) (e : ε) : Recorded ε Unit := ⟨(), if condition then [e] else []⟩

/-- Records the same in other terms. -/
def mapRecord (f : ε → ε') (x : Recorded ε α) : Recorded ε' α := ⟨x.value, x.record.map f⟩

@[simp] theorem value_pure (a : α) : (pure a : Recorded ε α).value = a := rfl

@[simp] theorem record_pure (a : α) : (pure a : Recorded ε α).record = [] := rfl

@[simp] theorem value_bind (x : Recorded ε α) (f : α → Recorded ε β) :
    (x >>= f).value = (f x.value).value := rfl

@[simp] theorem record_bind (x : Recorded ε α) (f : α → Recorded ε β) :
    (x >>= f).record = x.record ++ (f x.value).record := rfl

@[simp] theorem record_note (e : ε) : (note e).record = [e] := rfl

@[simp] theorem record_noteIf (condition : Bool) (e : ε) :
    (noteIf condition e).record = if condition then [e] else [] := rfl

@[simp] theorem value_mapRecord (f : ε → ε') (x : Recorded ε α) :
    (x.mapRecord f).value = x.value := rfl

@[simp] theorem record_mapRecord (f : ε → ε') (x : Recorded ε α) :
    (x.mapRecord f).record = x.record.map f := rfl

end Recorded

end BuildVersion
