/-!
# Version cores

A version core is `major.minor.patch`, ordered by its numbers from left to right. Main statements:
the order is decided by the first number that differs.
-/

namespace BuildVersion

/-- The numbers of a version. -/
structure Version where
  major : UInt64 := 0
  minor : UInt64 := 0
  patch : UInt64 := 0
deriving DecidableEq

namespace Version

/-- The numbers in decimal with dots between them. -/
def text (v : Version) : String :=
  toString v.major.toNat ++ "." ++ toString v.minor.toNat ++ "." ++ toString v.patch.toNat

/-- Versions compare by their first number that differs. -/
protected def compare (v w : Version) : Ordering :=
  (compare v.major.toNat w.major.toNat).then
    ((compare v.minor.toNat w.minor.toNat).then (compare v.patch.toNat w.patch.toNat))

instance : Ord Version := ⟨Version.compare⟩
instance : LT Version := ltOfOrd
instance : LE Version := leOfOrd

theorem lt_iff {v w : Version} :
    v < w ↔ v.major.toNat < w.major.toNat ∨ v.major.toNat = w.major.toNat ∧
      (v.minor.toNat < w.minor.toNat ∨ v.minor.toNat = w.minor.toNat ∧
        v.patch.toNat < w.patch.toNat) := by
  show Version.compare v w = .lt ↔ _
  simp only [Version.compare, Ordering.then_eq_lt, Nat.compare_eq_lt, Nat.compare_eq_eq]

protected theorem lt_irrefl (v : Version) : ¬ v < v := by
  rw [lt_iff]; omega

protected theorem lt_trans {u v w : Version} (huv : u < v) (hvw : v < w) : u < w := by
  rw [lt_iff] at *; omega

end Version

end BuildVersion
