import Mathlib.Data.List.DropRight
import Mathlib.Tactic.Lemma

/-!
# Runs

A run is a piece of a text in which all characters are of one class. Main statements: a run at the front of
a text ends where a character of another class follows, and a text is cut before its last run in one way
only (`append_run_inj`).
-/

namespace BuildVersion.Text

variable {α : Type} {p : α → Bool} {run rest : List α}

/-- The run at the front of a text does not change with what follows one of its ends. -/
lemma takeWhile_append_of_head? {as : List α} (hrest : ∀ a ∈ rest.head?, p a = false) :
    (as ++ rest).takeWhile p = as.takeWhile p := by
  induction as with
  | nil =>
    cases rest with
    | nil => rfl
    | cons a rest => simp [hrest a rfl]
  | cons a as ih => rw [List.cons_append, List.takeWhile_cons, List.takeWhile_cons, ih]

lemma takeWhile_append_of_mem {as : List α} {a : α} (ha : a ∈ as) (hp : p a = false) :
    (as ++ rest).takeWhile p = as.takeWhile p := by
  induction as with
  | nil => cases ha
  | cons b as ih =>
    rw [List.cons_append, List.takeWhile_cons, List.takeWhile_cons]
    rcases List.mem_cons.1 ha with rfl | ha
    · rw [hp]
      rfl
    · rw [ih ha]

lemma takeWhile_run_append (hrun : ∀ a ∈ run, p a = true) (hrest : ∀ a ∈ rest.head?, p a = false) :
    (run ++ rest).takeWhile p = run := by
  rw [List.takeWhile_append_of_pos hrun, ← List.nil_append rest, takeWhile_append_of_head? hrest,
    List.takeWhile_nil, List.append_nil]

lemma dropWhile_of_head? (hrest : ∀ a ∈ rest.head?, p a = false) : rest.dropWhile p = rest := by
  cases rest with
  | nil => rfl
  | cons a rest => simp [hrest a rfl]

lemma dropWhile_run_append (hrun : ∀ a ∈ run, p a = true) (hrest : ∀ a ∈ rest.head?, p a = false) :
    (run ++ rest).dropWhile p = rest := by
  rw [List.dropWhile_append_of_pos hrun, dropWhile_of_head? hrest]

/-- What is left after a run goes on with another character. -/
lemma not_of_mem_head?_dropWhile {as : List α} {a : α} (h : a ∈ (as.dropWhile p).head?) : p a = false := by
  have hnot := List.head?_dropWhile_not p as
  rw [Option.mem_def.1 h] at hnot
  exact hnot

/-- What is left of a text without its last run. -/
lemma rdropWhile_append_run {as : List α} (hrun : ∀ a ∈ run, p a = true) (has : ∀ a ∈ as.getLast?, p a = false) :
    (as ++ run).rdropWhile p = as := by
  have hmem : ∀ a ∈ run.reverse, p a = true := fun a ha => hrun a (List.mem_reverse.1 ha)
  have hfront : ∀ a ∈ as.reverse.head?, p a = false := fun a ha => has a (by rwa [List.head?_reverse] at ha)
  rw [List.rdropWhile, List.reverse_append, dropWhile_run_append hmem hfront, List.reverse_reverse]

/-- A text is cut before its last run in one way only. -/
lemma append_run_inj {xs ys run' : List α} (hrun : ∀ a ∈ run, p a = true) (hrun' : ∀ a ∈ run', p a = true)
    (hxs : ∀ a ∈ xs.getLast?, p a = false) (hys : ∀ a ∈ ys.getLast?, p a = false)
    (h : xs ++ run = ys ++ run') : xs = ys ∧ run = run' := by
  have hrev : run.reverse ++ xs.reverse = run'.reverse ++ ys.reverse := by
    rw [← List.reverse_append, ← List.reverse_append, h]
  have hfront : ∀ {zs : List α}, (∀ a ∈ zs.getLast?, p a = false) → ∀ a ∈ zs.reverse.head?, p a = false :=
    fun hzs a ha => hzs a (by rwa [List.head?_reverse] at ha)
  have hmem : ∀ {zs : List α}, (∀ a ∈ zs, p a = true) → ∀ a ∈ zs.reverse, p a = true :=
    fun hzs a ha => hzs a (List.mem_reverse.1 ha)
  -- Seen from the end, both texts open with a run.
  have htake := congrArg (List.takeWhile p) hrev
  have hdrop := congrArg (List.dropWhile p) hrev
  rw [takeWhile_run_append (hmem hrun) (hfront hxs), takeWhile_run_append (hmem hrun') (hfront hys)] at htake
  rw [dropWhile_run_append (hmem hrun) (hfront hxs), dropWhile_run_append (hmem hrun') (hfront hys)] at hdrop
  exact ⟨List.reverse_inj.1 hdrop, List.reverse_inj.1 htake⟩

end BuildVersion.Text
