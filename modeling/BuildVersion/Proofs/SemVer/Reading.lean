import BuildVersion.Proofs.Fallible
import BuildVersion.Proofs.Text.Decimal
import BuildVersion.Proofs.Text.Run
import BuildVersion.SemVer

/-!
# Reading written versions

How a text that opens with a version core is read as a semantic version: the core is taken as it is,
and what follows decides the rest. Main statements: `read_core_append`, and what can be said of the
answer (`readMarks_eq_ok_iff`).
-/

namespace BuildVersion.SemVer

open Text

/-- Reads what follows a core: the pre-release, the build metadata and the end of the text. -/
def readMarks (core : Version) (cs : List Char) : Except Fault SemVer := do
  let (pre, last, cs) ← readMarked '-' .pre .patch cs
  let (build, last, cs) ← readMarked '+' .build last cs
  match cs with
  | [] => return { core, pre, build }
  | c :: _ => throw (.followedBy last c)

lemma hasLeadingZero_toDigits (n : Nat) : hasLeadingZero (Nat.toDigits 10 n) = false := by
  by_cases h : n = 0
  · subst h
    rfl
  · have hhead := head?_toDigits_ne h
    simp [hasLeadingZero, hhead]

/-- A number of a core is read up to the next character that is no digit. -/
lemma readNumber_append (part : Part) (n : UInt64) {rest : List Char} (h : EndsDigits rest) :
    readNumber part (Nat.toDigits 10 n.toNat ++ rest) = .ok (n, rest) := by
  have hds : ∀ c ∈ Nat.toDigits 10 n.toNat, isDigit c = true := fun c => isDigit_of_mem_toDigits
  have hlt : n.toNat < wordLimit := n.toNat_lt
  rw [readNumber.eq_def, takeWhile_run_append hds h, dropWhile_run_append hds h]
  simp [natural?_toDigits, hasLeadingZero_toDigits, hlt]

lemma readDot_cons (part : Part) (cs : List Char) : readDot part ('.' :: cs) = .ok cs := by
  rw [readDot, if_pos rfl]

/-- The characters of a core. -/
lemma toList_core_text (v : Version) :
    v.text.toList = Nat.toDigits 10 v.major.toNat ++ '.' :: (Nat.toDigits 10 v.minor.toNat ++
      '.' :: Nat.toDigits 10 v.patch.toNat) := by
  simp only [Version.text, String.toList_append, toList_toString]
  simp

/-- A text that opens with a core is read as this core and what follows. -/
lemma read_core_append (v : Version) {text : String} (h : EndsDigits text.toList) :
    read (v.text ++ text) = readMarks v text.toList := by
  have hdot : ∀ cs, EndsDigits ('.' :: cs) := fun cs => endsDigits_cons (by decide)
  have hne : (v.text ++ text).toList.isEmpty = false := by
    rw [String.toList_append, toList_core_text]
    simp
  rw [read]
  simp only [hne, Bool.false_eq_true, ↓reduceIte]
  rw [String.toList_append, toList_core_text]
  simp only [List.append_assoc, List.cons_append]
  rw [readNumber_append .major v.major (hdot _)]
  simp only [bind, Except.bind, readDot_cons]
  rw [readNumber_append .minor v.minor (hdot _)]
  simp only [readDot_cons]
  rw [readNumber_append .patch v.patch h]
  rfl

/-- What follows a core is read to the end, and its parts are those of the answer. -/
lemma readMarks_eq_ok_iff {v : Version} {cs : List Char} {w : SemVer} :
    readMarks v cs = .ok w ↔ ∃ last last' rest, w.core = v ∧
      readMarked '-' .pre .patch cs = .ok (w.pre, last, rest) ∧
      readMarked '+' .build last rest = .ok (w.build, last', []) := by
  simp only [readMarks, Fallible.bind_eq_ok_iff, Prod.exists]
  constructor
  · rintro ⟨pre, last, rest, hpre, build, last', end', hbuild, hw⟩
    cases end' with
    | nil =>
      cases hw
      exact ⟨last, last', rest, rfl, hpre, hbuild⟩
    | cons c cs => cases hw
  · obtain ⟨core, pre, build⟩ := w
    rintro ⟨last, last', rest, rfl, hpre, hbuild⟩
    exact ⟨pre, last, rest, hpre, build, last', [], hbuild, rfl⟩

end BuildVersion.SemVer
