import BuildVersion.Proofs.Text.Decimal

/-!
# The order of texts

Texts compare character by character, and so the first difference decides. Main statements: what follows a
difference between texts of one length does not count (`append_lt_append`), and numbers that fill their width
compare like their digits (`padded_lt`).
-/

namespace BuildVersion.Text

/-- After a difference between texts of one length, nothing else counts. -/
lemma append_lt_append {α : Type} [LT α] {cs ds : List α} (hlen : cs.length = ds.length) (h : cs < ds)
    (es fs : List α) :
    cs ++ es < ds ++ fs := by
  induction cs generalizing ds with
  | nil =>
    rw [List.eq_nil_of_length_eq_zero hlen.symm] at h
    exact absurd h (List.not_lt_nil _)
  | cons c cs ih =>
    cases ds with
    | nil => cases hlen
    | cons d ds =>
      rw [List.cons_append, List.cons_append, List.cons_lt_cons_iff]
      rcases List.cons_lt_cons_iff.1 h with hlt | ⟨heq, hlt⟩
      · exact .inl hlt
      · exact .inr ⟨heq, ih (Nat.succ.inj hlen) hlt⟩

/-- A text is not lower than another if it is higher or the same. -/
lemma le_of_eq_or_toList_lt {v w : String} (h : v = w ∨ v.toList < w.toList) : v ≤ w := by
  rcases h with rfl | h
  · exact String.le_refl v
  · exact String.not_lt.1 (String.lt_asymm h)

/-- Of two numbers that fit a width, the lower one is written lower. -/
lemma padded_lt {width m n : Nat} (hw : 0 < width) (hn : n < 10 ^ width) (h : m < n) :
    (padded width m).toList < (padded width n).toList := by
  apply lt_of_ofDigitChars_lt (fun c => isDigit_of_mem_padded) (fun c => isDigit_of_mem_padded)
  · rw [length_padded hw (Nat.lt_trans h hn), length_padded hw hn]
  · rwa [(natural?_eq_some_iff.1 (natural?_padded width m)).2.2,
      (natural?_eq_some_iff.1 (natural?_padded width n)).2.2]

end BuildVersion.Text
