import BuildVersion.Proofs.Template.Substitution
import BuildVersion.Proofs.Text.Pieces
import BuildVersion.Proofs.Text.Run
import Mathlib.Data.List.DropRight

/-!
# The numbers that a text opens with

Which texts have a short version, said without reading them: those that open with two to four numbers, dots
between them, and go on with further dots and something else. A text opens so in one way only. Main statement:
`read_opening_numbers`, with the short version of a short version as its last part.
-/

namespace BuildVersion

open Calendar Fallible Text

namespace ShortVersion

/-- The characters of numbers and of what stands between them. -/
def isNumeric (c : Char) : Bool := isDigit c || c == '.'

/-- A text that opens with two to four numbers, a dot between any two of them, and goes on with more dots
and a rest that begins with neither a digit nor a dot. -/
structure Opens (cs : List Char) (numbers : List (List Char)) (dots rest : List Char) : Prop where
  text : cs = ['.'].intercalate numbers ++ (dots ++ rest)
  digits : ∀ number ∈ numbers, number ≠ [] ∧ ∀ c ∈ number, isDigit c = true
  count : 2 ≤ numbers.length ∧ numbers.length ≤ 4
  dots : ∀ c ∈ dots, c = '.'
  rest : ∀ c ∈ rest.head?, isDigit c = false ∧ c ≠ '.'

/-- Every number is within the limit. -/
def Bounded (numbers : List (List Char)) : Prop := ∀ number ∈ numbers, Nat.ofDigitChars 10 number 0 ≤ 65534

variable {cs : List Char} {numbers : List (List Char)} {dots rest : List Char}

lemma isNumeric_eq_false_iff {c : Char} : isNumeric c = false ↔ isDigit c = false ∧ c ≠ '.' := by
  simp [isNumeric]

lemma dot_notMem_of_isDigit {number : List Char} (h : ∀ c ∈ number, isDigit c = true) : '.' ∉ number :=
  fun hdot => absurd (h '.' hdot) (by decide)

/-! ### What a text opens with -/

lemma opening_eq (cs : List Char) : opening cs = (cs.takeWhile isNumeric).rdropWhile (· == '.') := rfl

lemma isNumeric_of_mem_opening {c : Char} (h : c ∈ opening cs) : isNumeric c = true :=
  List.mem_takeWhile_imp ((List.rdropWhile_prefix _ _).subset h)

/-- Behind its opening, a text goes on with dots and something else. -/
lemma exists_opening_append (cs : List Char) :
    ∃ dots rest, cs = opening cs ++ (dots ++ rest) ∧ (∀ c ∈ dots, c = '.') ∧
      ∀ c ∈ rest.head?, isDigit c = false ∧ c ≠ '.' := by
  refine ⟨(cs.takeWhile isNumeric).rtakeWhile (· == '.'), cs.dropWhile isNumeric, ?_, ?_, ?_⟩
  · rw [opening_eq, ← List.append_assoc, List.rdropWhile_append_rtakeWhile, List.takeWhile_append_dropWhile]
  · intro c hc
    exact beq_iff_eq.1 (List.mem_rtakeWhile_imp (p := (· == '.')) hc)
  · intro c hc
    exact isNumeric_eq_false_iff.1 (not_of_mem_head?_dropWhile hc)

/-- Numbers are found again between their dots. -/
lemma Opens.split_intercalate (h : Opens cs numbers dots rest) :
    split '.' (['.'].intercalate numbers) = numbers := by
  apply Text.split_intercalate
  · intro hnil
    have hcount := h.count.1
    rw [hnil] at hcount
    cases hcount
  · intro number hnumber
    exact dot_notMem_of_isDigit (h.digits number hnumber).2

/-- The last number is not empty, so no dot stands behind it. -/
lemma Opens.not_dot_of_mem_getLast? (h : Opens cs numbers dots rest) {c : Char}
    (hc : c ∈ (['.'].intercalate numbers).getLast?) : (c == '.') = false := by
  rw [beq_eq_false_iff_ne]
  rintro rfl
  obtain ⟨front, hfront⟩ := List.getLast?_eq_some_iff.1 hc
  have hsplit := h.split_intercalate
  rw [hfront, split_append_cons] at hsplit
  have hempty : [] ∈ numbers := by
    rw [← hsplit]
    exact List.mem_append_right _ (List.mem_singleton.2 rfl)
  exact (h.digits [] hempty).1 rfl

/-- The numbers that a text opens with are its opening. -/
lemma Opens.opening (h : Opens cs numbers dots rest) : opening cs = ['.'].intercalate numbers := by
  have hnumbers : ∀ c ∈ ['.'].intercalate numbers, isNumeric c = true := by
    intro c hc
    obtain hdot | ⟨number, hnumber, hdigit⟩ := mem_intercalate hc
    · rw [List.mem_singleton.1 hdot]
      decide
    · simp [isNumeric, (h.digits number hnumber).2 c hdigit]
  have hrun : ∀ c ∈ ['.'].intercalate numbers ++ dots, isNumeric c = true := by
    intro c hc
    rcases List.mem_append.1 hc with hc | hc
    · exact hnumbers c hc
    · rw [h.dots c hc]
      decide
  have hrest : ∀ c ∈ rest.head?, isNumeric c = false := fun c hc => isNumeric_eq_false_iff.2 (h.rest c hc)
  have htake : cs.takeWhile isNumeric = ['.'].intercalate numbers ++ dots := by
    rw [h.text, ← List.append_assoc]
    exact takeWhile_run_append hrun hrest
  rw [opening_eq, htake]
  exact rdropWhile_append_run (fun c hc => beq_iff_eq.2 (h.dots c hc)) fun c hc => h.not_dot_of_mem_getLast? hc

lemma Opens.split_opening (h : Opens cs numbers dots rest) : split '.' (ShortVersion.opening cs) = numbers := by
  rw [h.opening, h.split_intercalate]

/-- A text opens with numbers if the pieces of its opening can be numbers. -/
lemma exists_opens_of_split (hdot : '.' ∈ opening cs) (hcount : (split '.' (opening cs)).length ≤ 4)
    (hempty : [] ∉ split '.' (opening cs)) : ∃ dots rest, Opens cs (split '.' (opening cs)) dots rest := by
  obtain ⟨dots, rest, htext, hdots, hrest⟩ := exists_opening_append cs
  refine ⟨dots, rest, ?_, ?_, ⟨?_, hcount⟩, hdots, hrest⟩
  · rw [intercalate_split]
    exact htext
  · intro number hnumber
    refine ⟨fun hnil => hempty (hnil ▸ hnumber), fun c hc => ?_⟩
    obtain ⟨hopening, hne⟩ := mem_piece hnumber hc
    simpa [isNumeric, hne] using isNumeric_of_mem_opening hopening
  · -- The dot stands between two pieces.
    obtain ⟨before, after, hsplit⟩ := List.append_of_mem hdot
    have hbefore := List.length_pos_iff.2 (split_ne_nil '.' before)
    have hafter := List.length_pos_iff.2 (split_ne_nil '.' after)
    rw [hsplit, split_append_cons, List.length_append]
    omega

/-- A text opens with numbers in one way only. -/
lemma Opens.unique {numbers' : List (List Char)} {dots' rest' : List Char} (h : Opens cs numbers dots rest)
    (h' : Opens cs numbers' dots' rest') : numbers = numbers' ∧ dots = dots' ∧ rest = rest' := by
  have hnumbers : numbers = numbers' := by rw [← h.split_opening, h'.split_opening]
  subst hnumbers
  have hend : dots ++ rest = dots' ++ rest' := List.append_cancel_left (h.text.symm.trans h'.text)
  have hrun : ∀ {ds : List Char}, (∀ c ∈ ds, c = '.') → ∀ c ∈ ds, (c == '.') = true :=
    fun hds c hc => beq_iff_eq.2 (hds c hc)
  have hstop : ∀ {ds : List Char}, (∀ c ∈ ds.head?, isDigit c = false ∧ c ≠ '.') →
      ∀ c ∈ ds.head?, (c == '.') = false := fun hds c hc => beq_eq_false_iff_ne.2 (hds c hc).2
  have htake := congrArg (List.takeWhile (· == '.')) hend
  have hdrop := congrArg (List.dropWhile (· == '.')) hend
  rw [takeWhile_run_append (hrun h.dots) (hstop h.rest), takeWhile_run_append (hrun h'.dots) (hstop h'.rest)]
    at htake
  rw [dropWhile_run_append (hrun h.dots) (hstop h.rest), dropWhile_run_append (hrun h'.dots) (hstop h'.rest)]
    at hdrop
  exact ⟨rfl, htake, hdrop⟩

/-- A short version opens with its own numbers. -/
lemma Opens.opens_intercalate (h : Opens cs numbers dots rest) :
    Opens (['.'].intercalate numbers) numbers [] [] where
  text := by simp
  digits := h.digits
  count := h.count
  dots c hc := by cases hc
  rest c hc := by cases hc

/-! ### Reading -/

lemma fits_iff {number : List Char} (h : number ≠ [] ∧ ∀ c ∈ number, isDigit c = true) :
    fits number = true ↔ Nat.ofDigitChars 10 number 0 ≤ 65534 := by
  rw [fits, natural?_eq_some_iff.2 ⟨h.1, h.2, rfl⟩]
  exact decide_eq_true_iff

/-- What is made of a text that opens with numbers depends on their limit alone. -/
lemma read_of_opens {text : String} (h : Opens text.toList numbers dots rest) :
    (Bounded numbers → read text = .ok (String.ofList (['.'].intercalate numbers))) ∧
      (¬ Bounded numbers → ∃ e, read text = .error e ∧ e.kind = .bounds) := by
  have hdot : '.' ∈ ['.'].intercalate numbers := by
    by_contra hnone
    have hsingle := split_eq_singleton hnone
    rw [h.split_intercalate] at hsingle
    have hcount := h.count.1
    rw [hsingle] at hcount
    simp at hcount
  have hshape : ¬ (4 < numbers.length ∨ [] ∈ numbers) := by
    rintro (hmany | hempty)
    · exact absurd h.count.2 (Nat.not_le.2 hmany)
    · exact (h.digits [] hempty).1 rfl
  rw [read]
  simp only [h.opening, if_pos hdot, h.split_intercalate, if_neg hshape]
  constructor
  · intro hbounded
    have hnone : numbers.find? (fun number => !fits number) = none := by
      rw [List.find?_eq_none]
      intro number hnumber
      rw [(fits_iff (h.digits number hnumber)).2 (hbounded number hnumber)]
      exact Bool.false_ne_true
    rw [hnone]
  · intro hlarge
    cases hfind : numbers.find? fun number => !fits number with
    | some number => exact ⟨_, rfl, rfl⟩
    | none =>
      rw [List.find?_eq_none] at hfind
      refine absurd (fun number hnumber => ?_) hlarge
      rw [← fits_iff (h.digits number hnumber)]
      simpa using hfind number hnumber

/-- A text that opens with no numbers has no short version. -/
lemma read_of_not_opens {text : String} (h : ¬ ∃ numbers dots rest, Opens text.toList numbers dots rest) :
    ∃ e, read text = .error e ∧ e.kind = .format := by
  rw [read]
  simp only
  split
  · next hdot =>
    split
    · exact ⟨_, rfl, rfl⟩
    · next hshape =>
      rw [not_or, Nat.not_lt] at hshape
      exact absurd ⟨_, exists_opens_of_split hdot hshape.1 hshape.2⟩ h
  · exact ⟨_, rfl, rfl⟩

/-- The short version is what the text opens with. -/
lemma read_eq_ok_iff {text short : String} :
    read text = .ok short ↔
      ∃ numbers dots rest, Opens text.toList numbers dots rest ∧ Bounded numbers ∧
        short.toList = ['.'].intercalate numbers := by
  constructor
  · intro h
    by_cases hopens : ∃ numbers dots rest, Opens text.toList numbers dots rest
    · obtain ⟨numbers, dots, rest, hopens⟩ := hopens
      by_cases hbounded : Bounded numbers
      · refine ⟨numbers, dots, rest, hopens, hbounded, ?_⟩
        rw [(read_of_opens hopens).1 hbounded] at h
        cases h
        rw [String.toList_ofList]
      · obtain ⟨e, he, _⟩ := (read_of_opens hopens).2 hbounded
        rw [he] at h
        cases h
    · obtain ⟨e, he, _⟩ := read_of_not_opens hopens
      rw [he] at h
      cases h
  · rintro ⟨numbers, dots, rest, hopens, hbounded, hshort⟩
    rw [(read_of_opens hopens).1 hbounded, ← hshort, String.ofList_toList]

lemma read_bounds_iff {text : String} :
    (∃ e, read text = .error e ∧ e.kind = .bounds) ↔
      ∃ numbers dots rest, Opens text.toList numbers dots rest ∧ ¬ Bounded numbers := by
  constructor
  · rintro ⟨e, he, hkind⟩
    by_cases hopens : ∃ numbers dots rest, Opens text.toList numbers dots rest
    · obtain ⟨numbers, dots, rest, hopens⟩ := hopens
      refine ⟨numbers, dots, rest, hopens, fun hbounded => ?_⟩
      rw [(read_of_opens hopens).1 hbounded] at he
      cases he
    · obtain ⟨e', he', hformat⟩ := read_of_not_opens hopens
      rw [he'] at he
      cases he
      rw [hformat] at hkind
      cases hkind
  · rintro ⟨numbers, dots, rest, hopens, hlarge⟩
    exact (read_of_opens hopens).2 hlarge

lemma read_format_iff {text : String} :
    (∃ e, read text = .error e ∧ e.kind = .format) ↔
      ¬ ∃ numbers dots rest, Opens text.toList numbers dots rest := by
  refine ⟨?_, read_of_not_opens⟩
  rintro ⟨e, he, hkind⟩ ⟨numbers, dots, rest, hopens⟩
  by_cases hbounded : Bounded numbers
  · rw [(read_of_opens hopens).1 hbounded] at he
    cases he
  · obtain ⟨e', he', hbounds⟩ := (read_of_opens hopens).2 hbounded
    rw [he'] at he
    cases he
    rw [hbounds] at hkind
    cases hkind

/-- A short version is its own short version. -/
lemma read_of_read {text short : String} (h : read text = .ok short) : read short = .ok short := by
  obtain ⟨numbers, dots, rest, hopens, hbounded, hshort⟩ := read_eq_ok_iff.1 h
  rw [read_eq_ok_iff, hshort]
  exact ⟨numbers, [], [], hopens.opens_intercalate, hbounded, rfl⟩

/-- A short version holds digits and dots. -/
lemma isNumeric_of_mem_short {text short : String} (h : read text = .ok short) :
    ∀ c ∈ short.toList, isNumeric c = true := by
  obtain ⟨numbers, dots, rest, hopens, _, hshort⟩ := read_eq_ok_iff.1 h
  rw [hshort, ← hopens.opening]
  exact fun c hc => isNumeric_of_mem_opening hc

end ShortVersion

namespace Template

variable {s : Snapshot} {context : BuildContext} {zone : Zone}

lemma yields_chars_iff {cs : List Char} {out : String} :
    Yields s context zone (cs.map .char) out ↔ out = String.ofList cs := by
  induction cs generalizing out with
  | nil => exact yields_nil_iff
  | cons c cs ih =>
    have htext : String.ofList (c :: cs) = (Atom.char c).text ++ String.ofList cs := by
      rw [Atom.text, ← String.ofList_append]
      rfl
    rw [List.map_cons, yields_cons_iff, htext]
    constructor
    · rintro ⟨piece, rest, hpiece, hrest, rfl⟩
      cases hpiece
      rw [ih.1 hrest]
    · rintro rfl
      exact ⟨_, _, .char c, ih.2 rfl, rfl⟩

/-- A text without braces is resolved to itself. -/
lemma resolve_braceless {template : String} (h : Braceless template.toList) :
    (resolve s context zone template).value = .ok template := by
  rw [resolve_eq_ok_iff, atoms_braceless h, yields_chars_iff, String.ofList_toList]

lemma value_resolveShort (s : Snapshot) (context : BuildContext) (zone : Zone) (template : String) :
    (resolveShort s context zone template).value =
      (resolve s context zone template).value >>= ShortVersion.read := by
  rw [resolveShort, Recorded.value_bind]
  cases (resolve s context zone template).value <;> rfl

end Template

namespace ShortVersion

/-- A text has a short version exactly if it opens with two to four numbers within the limit, in one way only,
and the short version is what it opens with. If a number is above the limit, this is out of bounds; all other
texts have the wrong format. Whatever a template was shortened to is shortened to itself, with any
snapshot. -/
theorem read_opening_numbers :
    (∀ text short, read text = .ok short ↔
      ∃ numbers dots rest, Opens text.toList numbers dots rest ∧ Bounded numbers ∧
        short.toList = ['.'].intercalate numbers) ∧
    (∀ cs numbers dots rest numbers' dots' rest', Opens cs numbers dots rest → Opens cs numbers' dots' rest' →
      numbers = numbers' ∧ dots = dots' ∧ rest = rest') ∧
    (∀ text, (∃ e, read text = .error e ∧ e.kind = .bounds) ↔
      ∃ numbers dots rest, Opens text.toList numbers dots rest ∧ ¬ Bounded numbers) ∧
    (∀ text, (∃ e, read text = .error e ∧ e.kind = .format) ↔
      ¬ ∃ numbers dots rest, Opens text.toList numbers dots rest) ∧
    ∀ s context zone template short, (Template.resolveShort s context zone template).value = .ok short →
      ∀ s' context' zone', (Template.resolveShort s' context' zone' short).value = .ok short := by
  refine ⟨fun _ _ => read_eq_ok_iff, ?_, fun _ => read_bounds_iff, fun _ => read_format_iff, ?_⟩
  · intro cs numbers dots rest numbers' dots' rest' h h'
    exact h.unique h'
  · intro s context zone template short h s' context' zone'
    rw [Template.value_resolveShort, bind_eq_ok_iff] at h
    obtain ⟨text, _, hread⟩ := h
    have hbraceless : Template.Braceless short.toList := by
      intro c hc
      have hnumeric := isNumeric_of_mem_short hread c hc
      rw [Template.not_isBrace_iff]
      constructor
      · rintro rfl
        cases hnumeric
      · rintro rfl
        cases hnumeric
    rw [Template.value_resolveShort, Template.resolve_braceless hbraceless]
    exact read_of_read hread

/-- Leading zeros are kept and dots at the end are not, a number of many digits is out of bounds, and the short
version of a template with a suffix is a template of its own. -/
theorem read_opening_numbers_beta :
    let s : Snapshot := { revision := 358 }
    let context : BuildContext := { time := ⟨⟨0, 0⟩, 0⟩ }
    read "1.007..-rc" = .ok "1.007" ∧ (∃ e, read "1.18446744073709551616" = .error e ∧ e.kind = .bounds) ∧
      (Template.resolveShort s context (.fixed 0) "1.\x7brevnum\x7d.0-beta").value = .ok "1.358.0" ∧
      (Template.resolveShort {} context (.fixed 0) "1.358.0").value = .ok "1.358.0" := by
  intro s context
  obtain ⟨hok, _, hbounds, _, hagain⟩ := read_opening_numbers
  have hcandidate : Opens "1.007..-rc".toList ["1".toList, "007".toList] "..".toList "-rc".toList :=
    ⟨by decide, by simp [isDigit], by decide, by simp, by simp [isDigit]⟩
  have hlarge : Opens "1.18446744073709551616".toList ["1".toList, "18446744073709551616".toList] [] [] :=
    ⟨by decide, by simp [isDigit], by decide, by simp, by simp⟩
  have hbeta : (Template.resolveShort s context (.fixed 0) "1.\x7brevnum\x7d.0-beta").value = .ok "1.358.0" :=
    eq_ok_of_toOption (by decide +kernel)
  refine ⟨(hok _ _).2 ⟨_, _, _, hcandidate, ?_, by decide⟩, (hbounds _).2 ⟨_, _, _, hlarge, ?_⟩, hbeta, ?_⟩
  · rw [Bounded]
    decide
  · rw [Bounded]
    decide
  · exact hagain _ _ _ _ _ hbeta _ _ _

end ShortVersion

end BuildVersion
