import BuildVersion.Proofs.Fallible
import BuildVersion.Proofs.Template.Occurrence
import BuildVersion.Template.Resolve
import Mathlib.Data.List.Chain
import Mathlib.Data.List.Forall2

/-!
# One pass of substitution

What a template is resolved to, said of the text as a whole: it is cut at its placeholders, each piece
is filled, and the results stand in the order of the pieces. Values are never cut again. Main statement:
`resolve_substitutes`, with the resolution of a concatenation as its last part.
-/

namespace BuildVersion

open Calendar Fallible Text

namespace Placeholder

/-- The names that open the placeholders of all families but that of times. -/
def families : List String :=
  ["chash", "CHASH", "revnum", "!", "cname", "cmail", "aname", "amail", "mname", "tz", "url", "bconf",
    "branch", "tag", "tagadd", "copyright", "semvertag"]

/-- A placeholder of a known family, whatever its arguments. -/
def Known (text : String) : Prop :=
  TimeSpec.isTimePlaceholder text = true ∨
    String.ofList (splitName (inner text.toList)).1 ∈ families

lemma map_some_ne {α ε : Type} (x : Except ε α) : some <$> x ≠ .ok none := by
  cases x <;> simp [Functor.map, Except.map]

lemma map_comp_some_ne {α β ε : Type} (f : α → β) (x : Except ε α) :
    (some ∘ f) <$> x ≠ .ok none := by
  cases x <;> simp [Functor.map, Except.map]

/-- The arguments of a family are read or refused; no other name is. -/
lemma readFamily_eq_none_iff {name : String} {cs : List Char} :
    readFamily name cs = .ok none ↔ name ∉ families := by
  unfold readFamily
  split
  case h_18 => simp_all [families]
  all_goals simp [families, map_some_ne, map_comp_some_ne]

end Placeholder

/-- A placeholder that is for no time is read by the name of its family. -/
lemma Token.read_of_not_time {text : String} (h : ¬ TimeSpec.isTimePlaceholder text = true) :
    Token.read text =
      (Placeholder.readFamily (String.ofList (Placeholder.splitName (Placeholder.inner text.toList)).1)
        (Placeholder.splitName (Placeholder.inner text.toList)).2).mapError fun fault =>
          .placeholder fault text := by
  rw [Token.read, if_neg h]
  obtain ⟨name, arguments⟩ := Placeholder.splitName (Placeholder.inner text.toList)
  cases hfamily : Placeholder.readFamily (String.ofList name) arguments <;>
    simp [hfamily, Except.mapError]

/-- Exactly the texts of no known family are read as no placeholder. -/
lemma Token.read_eq_none_iff {text : String} :
    Token.read text = .ok none ↔ ¬ Placeholder.Known text := by
  by_cases htime : TimeSpec.isTimePlaceholder text = true
  · rw [Token.read, if_pos htime]
    split <;> simp [Placeholder.Known, htime]
  · rw [Token.read_of_not_time htime, Placeholder.Known, or_iff_right htime,
      ← Placeholder.readFamily_eq_none_iff]
    cases Placeholder.readFamily
      (String.ofList (Placeholder.splitName (Placeholder.inner text.toList)).1)
      (Placeholder.splitName (Placeholder.inner text.toList)).2 <;> simp [Except.mapError]

namespace Template

variable (s : Snapshot) (context : BuildContext) (zone : Zone)

/-- The text of an atom. -/
def Atom.text (a : Atom) : String := String.ofList a.chars

lemma text_placeholder (inner : List Char) :
    (Atom.placeholder inner).text = "\x7b" ++ String.ofList inner ++ "\x7d" := by
  rw [Atom.text, ← String.toList_inj]
  simp [Atom.chars, String.toList_append]

/-- What an atom of a template becomes: a known placeholder its value, everything else itself. -/
inductive Fills : Atom → String → Prop where
  | char (c : Char) : Fills (.char c) (Atom.char c).text
  | unknown {inner : List Char} :
    ¬ Placeholder.Known (Atom.placeholder inner).text →
    Fills (.placeholder inner) (Atom.placeholder inner).text
  | known {inner : List Char} {token : Token} {value : String} :
    Token.read (Atom.placeholder inner).text = .ok (some token) →
    (token.value s context zone).value = .ok value →
    Fills (.placeholder inner) value

/-- No empty text and no two texts side by side. -/
structure Separated (segments : List Segment) : Prop where
  nonempty : .text [] ∉ segments
  apart : segments.IsChain fun a b => ∀ x y, ¬ (a = .text x ∧ b = .text y)

lemma valueOf_nil : (valueOf s context zone []).value = .ok "" := rfl

lemma valueOf_text (cs : List Char) (segments : List Segment) :
    (valueOf s context zone (.text cs :: segments)).value =
      (valueOf s context zone segments).value.map (String.ofList cs ++ ·) := by
  rw [valueOf, Recorded.value_bind]
  cases (valueOf s context zone segments).value <;> rfl

lemma valueOf_token (token : Token) (segments : List Segment) :
    (valueOf s context zone (.token token :: segments)).value =
      (token.value s context zone).value.bind fun value =>
        (valueOf s context zone segments).value.map (value ++ ·) := by
  rw [valueOf, Recorded.value_bind]
  cases (token.value s context zone).value with
  | error e => rfl
  | ok value =>
    simp only [Recorded.value_bind]
    cases (valueOf s context zone segments).value <;> rfl

lemma valueOf_addChar (c : Char) (segments : List Segment) :
    (valueOf s context zone (addChar c segments)).value =
      (valueOf s context zone segments).value.map (String.ofList [c] ++ ·) := by
  unfold addChar
  split
  · next cs rest =>
    rw [valueOf_text, valueOf_text]
    cases (valueOf s context zone rest).value with
    | error e => rfl
    | ok text =>
      simp only [Except.map, ← String.append_assoc, ← String.ofList_append]
      rfl
  · rw [valueOf_text]

lemma valueOf_addText (cs : List Char) (segments : List Segment) :
    (valueOf s context zone (addText cs segments)).value =
      (valueOf s context zone segments).value.map (String.ofList cs ++ ·) := by
  induction cs with
  | nil =>
    cases h : (valueOf s context zone segments).value <;> simp [addText, h, Except.map]
  | cons c cs ih =>
    have hcons : addText (c :: cs) segments = addChar c (addText cs segments) := rfl
    rw [hcons, valueOf_addChar, ih]
    cases (valueOf s context zone segments).value with
    | error e => rfl
    | ok text =>
      simp only [Except.map, ← String.append_assoc, ← String.ofList_append]
      rfl

/-- Atoms are read as segments that have a text. -/
def Yields (as : List Atom) (out : String) : Prop :=
  ∃ segments, segmentsOf as = .ok segments ∧ (valueOf s context zone segments).value = .ok out

variable {s context zone}

lemma yields_nil_iff {out : String} : Yields s context zone [] out ↔ out = "" := by
  simp [Yields, segmentsOf, valueOf_nil, eq_comm]

lemma segmentsOf_char (c : Char) (as : List Atom) :
    segmentsOf (.char c :: as) = (segmentsOf as).map (addText (Atom.char c).chars) := by
  rw [segmentsOf]
  cases segmentsOf as <;> rfl

lemma segmentsOf_unknown {inner : List Char} (as : List Atom)
    (hnone : Token.read (Atom.placeholder inner).text = .ok none) :
    segmentsOf (.placeholder inner :: as) =
      (segmentsOf as).map (addText (Atom.placeholder inner).chars) := by
  rw [Atom.text] at hnone
  rw [segmentsOf, hnone]
  cases segmentsOf as <;> rfl

lemma segmentsOf_known {inner : List Char} {token : Token} (as : List Atom)
    (hsome : Token.read (Atom.placeholder inner).text = .ok (some token)) :
    segmentsOf (.placeholder inner :: as) = (segmentsOf as).map (.token token :: ·) := by
  rw [Atom.text] at hsome
  rw [segmentsOf, hsome]
  cases segmentsOf as <;> rfl

lemma segmentsOf_bad {inner : List Char} {e : Error} (as : List Atom)
    (hbad : Token.read (Atom.placeholder inner).text = .error e) :
    segmentsOf (.placeholder inner :: as) = .error e := by
  rw [Atom.text] at hbad
  rw [segmentsOf, hbad]

/-- An atom that is read as text yields its own text before what the other atoms yield. -/
lemma yields_text_iff {a : Atom} {as : List Atom} {out : String}
    (h : segmentsOf (a :: as) = (segmentsOf as).map (addText a.chars)) :
    Yields s context zone (a :: as) out ↔
      ∃ rest, Yields s context zone as rest ∧ out = a.text ++ rest := by
  constructor
  · rintro ⟨segments, hread, hvalue⟩
    rw [h, map_eq_ok_iff] at hread
    obtain ⟨rest, hrest, rfl⟩ := hread
    rw [valueOf_addText, map_eq_ok_iff] at hvalue
    obtain ⟨text, htext, rfl⟩ := hvalue
    exact ⟨text, ⟨rest, hrest, htext⟩, rfl⟩
  · rintro ⟨text, ⟨rest, hrest, htext⟩, rfl⟩
    refine ⟨addText a.chars rest, by rw [h, hrest]; rfl, ?_⟩
    rw [valueOf_addText, htext]
    rfl

/-- A known placeholder yields its value before what the other atoms yield. -/
lemma yields_known_iff {inner : List Char} {token : Token} {as : List Atom} {out : String}
    (hsome : Token.read (Atom.placeholder inner).text = .ok (some token)) :
    Yields s context zone (.placeholder inner :: as) out ↔
      ∃ value rest, (token.value s context zone).value = .ok value ∧ Yields s context zone as rest ∧
        out = value ++ rest := by
  constructor
  · rintro ⟨segments, hread, hvalue⟩
    rw [segmentsOf_known as hsome, map_eq_ok_iff] at hread
    obtain ⟨rest, hrest, rfl⟩ := hread
    rw [valueOf_token] at hvalue
    cases htoken : (token.value s context zone).value with
    | error e => simp [htoken, Except.bind] at hvalue
    | ok value =>
      rw [htoken, Except.bind, map_eq_ok_iff] at hvalue
      obtain ⟨text, htext, rfl⟩ := hvalue
      exact ⟨value, text, rfl, ⟨rest, hrest, htext⟩, rfl⟩
  · rintro ⟨value, text, hvalue, ⟨rest, hrest, htext⟩, rfl⟩
    refine ⟨.token token :: rest, by rw [segmentsOf_known as hsome, hrest]; rfl, ?_⟩
    rw [valueOf_token, hvalue, htext]
    rfl

/-- Every atom yields what fills it before what the other atoms yield. -/
lemma yields_cons_iff {a : Atom} {as : List Atom} {out : String} :
    Yields s context zone (a :: as) out ↔
      ∃ piece rest, Fills s context zone a piece ∧ Yields s context zone as rest ∧
        out = piece ++ rest := by
  cases a with
  | char c =>
    rw [yields_text_iff (segmentsOf_char c as)]
    constructor
    · rintro ⟨rest, hrest, rfl⟩
      exact ⟨_, rest, .char c, hrest, rfl⟩
    · rintro ⟨piece, rest, hpiece, hrest, rfl⟩
      cases hpiece
      exact ⟨rest, hrest, rfl⟩
  | placeholder inner =>
    -- Exactly one of the ways to fill a placeholder agrees with how it is read.
    cases hread : Token.read (Atom.placeholder inner).text with
    | error e =>
      constructor
      · rintro ⟨segments, h, _⟩
        rw [segmentsOf_bad as hread] at h
        cases h
      · rintro ⟨piece, rest, hpiece, _⟩
        cases hpiece with
        | unknown hunknown => simp [Token.read_eq_none_iff.2 hunknown] at hread
        | known hsome => simp [hsome] at hread
    | ok token? =>
      cases token? with
      | none =>
        rw [yields_text_iff (segmentsOf_unknown as hread)]
        constructor
        · rintro ⟨rest, hrest, rfl⟩
          exact ⟨_, rest, .unknown (Token.read_eq_none_iff.1 hread), hrest, rfl⟩
        · rintro ⟨piece, rest, hpiece, hrest, rfl⟩
          cases hpiece with
          | unknown => exact ⟨rest, hrest, rfl⟩
          | known hsome => simp [hsome] at hread
      | some token =>
        rw [yields_known_iff hread]
        constructor
        · rintro ⟨value, rest, hvalue, hrest, rfl⟩
          exact ⟨value, rest, .known hread hvalue, hrest, rfl⟩
        · rintro ⟨piece, rest, hpiece, hrest, rfl⟩
          cases hpiece with
          | unknown hunknown => simp [Token.read_eq_none_iff.2 hunknown] at hread
          | known hsome hvalue =>
            rw [hread] at hsome
            cases hsome
            exact ⟨piece, rest, hvalue, hrest, rfl⟩

/-- Atoms yield the texts that fill them, in order. -/
lemma yields_iff {as : List Atom} {out : String} :
    Yields s context zone as out ↔
      ∃ pieces, List.Forall₂ (Fills s context zone) as pieces ∧ out = String.join pieces := by
  induction as generalizing out with
  | nil => simp [yields_nil_iff]
  | cons a as ih =>
    rw [yields_cons_iff]
    constructor
    · rintro ⟨piece, rest, hpiece, hrest, rfl⟩
      obtain ⟨pieces, hpieces, rfl⟩ := ih.1 hrest
      exact ⟨piece :: pieces, .cons hpiece hpieces, String.join_cons.symm⟩
    · rintro ⟨pieces, hpieces, rfl⟩
      cases hpieces with
      | @cons _ piece _ pieces hpiece hpieces =>
        exact ⟨piece, String.join pieces, hpiece, ih.2 ⟨pieces, hpieces, rfl⟩, String.join_cons⟩

lemma resolve_of_read_eq_error {template : String} {e : Error} (h : read template = .error e) :
    resolve s context zone template = ⟨.error e, []⟩ := by
  rw [resolve, h]
  rfl

/-- A template has the text of its segments, and what it was resolved to is recorded last. -/
lemma resolve_of_read {template : String} {segments : List Segment} (h : read template = .ok segments) :
    (resolve s context zone template).value = (valueOf s context zone segments).value ∧
      (resolve s context zone template).record = (valueOf s context zone segments).record ++
        match (valueOf s context zone segments).value with
        | .ok out => [resolvedEntry template out]
        | .error _ => [] := by
  rw [resolve, h]
  simp only [Recorded.value_bind, Recorded.record_bind]
  cases (valueOf s context zone segments).value with
  | ok out => exact ⟨rfl, rfl⟩
  | error e => exact ⟨rfl, rfl⟩

/-- A template is resolved to what its atoms yield. -/
lemma resolve_eq_ok_iff {template out : String} :
    (resolve s context zone template).value = .ok out ↔
      Yields s context zone (atoms template.toList) out := by
  rw [Yields]
  show _ ↔ ∃ segments, read template = .ok segments ∧ _
  cases h : read template with
  | error e => simp [resolve_of_read_eq_error h]
  | ok segments => simp [(resolve_of_read h).1]

/-- Placeholders are exactly the atoms that stand in the text. -/
lemma placeholder_mem_atoms_iff {cs inner : List Char} :
    .placeholder inner ∈ atoms cs ↔ ∃ before after, Occurs cs before inner after := by
  constructor
  · intro h
    obtain ⟨as₁, as₂, has⟩ := List.append_of_mem h
    refine ⟨as₁.flatMap Atom.chars, as₂.flatMap Atom.chars, ?_, braceless_of_mem_atoms h⟩
    rw [← flatMap_chars_atoms cs, has]
    simp [Atom.chars]
  · rintro ⟨before, after, h⟩
    obtain ⟨as₁, as₂, has, _⟩ := exists_atoms_of_occurs h
    rw [has]
    exact List.mem_append_right _ List.mem_cons_self

/-- Every atom can be filled but a known placeholder that is malformed or has no value. -/
lemma exists_fills_iff {inner : List Char} :
    (∃ piece, Fills s context zone (.placeholder inner) piece) ↔
      (Placeholder.Known (Atom.placeholder inner).text →
        ∃ token value, Token.read (Atom.placeholder inner).text = .ok (some token) ∧
          (token.value s context zone).value = .ok value) := by
  constructor
  · rintro ⟨piece, hpiece⟩ hknown
    cases hpiece with
    | unknown hunknown => exact absurd hknown hunknown
    | known hread hvalue => exact ⟨_, piece, hread, hvalue⟩
  · intro h
    by_cases hknown : Placeholder.Known (Atom.placeholder inner).text
    · obtain ⟨token, value, hread, hvalue⟩ := h hknown
      exact ⟨value, .known hread hvalue⟩
    · exact ⟨_, .unknown hknown⟩

lemma exists_forall₂_iff {as : List Atom} :
    (∃ pieces, List.Forall₂ (Fills s context zone) as pieces) ↔
      ∀ inner, .placeholder inner ∈ as → ∃ piece, Fills s context zone (.placeholder inner) piece := by
  induction as with
  | nil => simp
  | cons a as ih =>
    constructor
    · rintro ⟨pieces, hpieces⟩ inner hi
      cases hpieces with
      | @cons _ piece _ pieces hpiece hpieces =>
        rcases List.mem_cons.1 hi with rfl | hi
        · exact ⟨piece, hpiece⟩
        · exact ih.1 ⟨pieces, hpieces⟩ inner hi
    · intro h
      obtain ⟨pieces, hpieces⟩ := ih.2 fun inner hi => h inner (List.mem_cons_of_mem _ hi)
      cases a with
      | char c => exact ⟨_, .cons (.char c) hpieces⟩
      | placeholder inner =>
        obtain ⟨piece, hpiece⟩ := h inner List.mem_cons_self
        exact ⟨piece :: pieces, .cons hpiece hpieces⟩

/-- Characters that are put in front join the text that stands there. -/
lemma Separated.addChar {segments : List Segment} (h : Separated segments) (c : Char) :
    Separated (addChar c segments) := by
  unfold Template.addChar
  split
  · next cs rest =>
    obtain ⟨hne, hap⟩ := h
    rw [List.isChain_cons] at hap
    refine ⟨?_, List.isChain_cons.2 ⟨?_, hap.2⟩⟩
    · simpa using fun hm => hne (List.mem_cons_of_mem _ hm)
    · rintro b hb x y ⟨_, rfl⟩
      exact hap.1 _ hb cs y ⟨rfl, rfl⟩
  · next htext =>
    refine ⟨?_, List.isChain_cons.2 ⟨?_, h.apart⟩⟩
    · simpa using h.nonempty
    · rintro b hb x y ⟨_, rfl⟩
      cases segments with
      | nil => cases hb
      | cons b rest =>
        simp only [List.head?_cons, Option.mem_def, Option.some.injEq] at hb
        exact htext y rest (by rw [hb])

lemma Separated.addText {segments : List Segment} (h : Separated segments) (cs : List Char) :
    Separated (addText cs segments) := by
  induction cs with
  | nil => exact h
  | cons c cs ih => exact ih.addChar c

lemma Separated.token {segments : List Segment} (h : Separated segments) (t : Token) :
    Separated (.token t :: segments) := by
  refine ⟨?_, List.isChain_cons.2 ⟨?_, h.apart⟩⟩
  · simpa using h.nonempty
  · rintro b _ x y ⟨htoken, _⟩
    cases htoken

/-- Segments are read with all text between two placeholders in one piece. -/
lemma separated_of_segmentsOf {as : List Atom} {segments : List Segment}
    (h : segmentsOf as = .ok segments) : Separated segments := by
  induction as generalizing segments with
  | nil =>
    cases h
    exact ⟨List.not_mem_nil, .nil⟩
  | cons a as ih =>
    cases a with
    | char c =>
      rw [segmentsOf_char, map_eq_ok_iff] at h
      obtain ⟨rest, hrest, rfl⟩ := h
      exact (ih hrest).addText _
    | placeholder inner =>
      cases hread : Token.read (Atom.placeholder inner).text with
      | error e =>
        rw [segmentsOf_bad as hread] at h
        cases h
      | ok token? =>
        cases token? with
        | none =>
          rw [segmentsOf_unknown as hread, map_eq_ok_iff] at h
          obtain ⟨rest, hrest, rfl⟩ := h
          exact (ih hrest).addText _
        | some token =>
          rw [segmentsOf_known as hread, map_eq_ok_iff] at h
          obtain ⟨rest, hrest, rfl⟩ := h
          exact (ih hrest).token token

/-- Atoms side by side yield their texts side by side. -/
lemma yields_append_iff {as bs : List Atom} {out : String} :
    Yields s context zone (as ++ bs) out ↔
      ∃ x y, Yields s context zone as x ∧ Yields s context zone bs y ∧ out = x ++ y := by
  induction as generalizing out with
  | nil => simp [yields_nil_iff]
  | cons a as ih =>
    rw [List.cons_append, yields_cons_iff]
    constructor
    · rintro ⟨piece, rest, hpiece, hrest, rfl⟩
      obtain ⟨x, y, hx, hy, rfl⟩ := ih.1 hrest
      refine ⟨piece ++ x, y, yields_cons_iff.2 ⟨piece, x, hpiece, hx, rfl⟩, hy, ?_⟩
      rw [String.append_assoc]
    · rintro ⟨x, y, hx, hy, rfl⟩
      obtain ⟨piece, rest, hpiece, hrest, rfl⟩ := yields_cons_iff.1 hx
      exact ⟨piece, rest ++ y, hpiece, ih.2 ⟨rest, y, hrest, hy, rfl⟩, String.append_assoc ..⟩

/-- A template has a text exactly when every known placeholder in it is well-formed and has a value. It
is cut at its placeholders in one way only, and its text is that of the pieces, each filled for itself.
Its segments hold no text that is empty or next to another one. Two templates side by side have their
texts side by side, unless a placeholder spans the joint. -/
theorem resolve_substitutes (s : Snapshot) (context : BuildContext) (zone : Zone) :
    (∀ template : String,
      ((∃ out, (resolve s context zone template).value = .ok out) ↔
        ∀ before inner after, Occurs template.toList before inner after →
          Placeholder.Known (Atom.placeholder inner).text →
          ∃ token value, Token.read (Atom.placeholder inner).text = .ok (some token) ∧
            (token.value s context zone).value = .ok value) ∧
      ∃ as, Cutting template.toList as ∧ (∀ bs, Cutting template.toList bs → bs = as) ∧
        ∀ out, (resolve s context zone template).value = .ok out ↔
          ∃ pieces, List.Forall₂ (Fills s context zone) as pieces ∧ out = String.join pieces) ∧
    (∀ template segments, read template = .ok segments → Separated segments) ∧
    (∀ a b : String, ¬ (lastBrace? a.toList = some '{' ∧ firstBrace? b.toList = some '}') →
      ((∃ out, (resolve s context zone (a ++ b)).value = .ok out) ↔
        (∃ x, (resolve s context zone a).value = .ok x) ∧
          ∃ y, (resolve s context zone b).value = .ok y) ∧
      ∀ x y, (resolve s context zone a).value = .ok x → (resolve s context zone b).value = .ok y →
        (resolve s context zone (a ++ b)).value = .ok (x ++ y)) := by
  refine ⟨fun template => ⟨?_, ?_⟩, fun _ _ => separated_of_segmentsOf, fun a b hab => ?_⟩
  · have hpieces : (∃ out, (resolve s context zone template).value = .ok out) ↔
        ∃ pieces, List.Forall₂ (Fills s context zone) (atoms template.toList) pieces := by
      simp only [resolve_eq_ok_iff, yields_iff]
      constructor
      · rintro ⟨_, pieces, h, _⟩
        exact ⟨pieces, h⟩
      · rintro ⟨pieces, h⟩
        exact ⟨_, pieces, h, rfl⟩
    rw [hpieces, exists_forall₂_iff]
    constructor
    · intro h before inner after hoccurs
      exact exists_fills_iff.1 (h inner (placeholder_mem_atoms_iff.2 ⟨before, after, hoccurs⟩))
    · intro h inner hi
      obtain ⟨before, after, hoccurs⟩ := placeholder_mem_atoms_iff.1 hi
      exact exists_fills_iff.2 (h before inner after hoccurs)
  · refine ⟨atoms template.toList, cutting_atoms _, ?_, ?_⟩
    · intro bs hbs
      exact hbs.unique (cutting_atoms _)
    · intro out
      rw [resolve_eq_ok_iff, yields_iff]
  · -- Both parts of the last statement are the concatenation of atoms, read in the two directions.
    have happend : ∀ out, (resolve s context zone (a ++ b)).value = .ok out ↔
        ∃ x y, (resolve s context zone a).value = .ok x ∧ (resolve s context zone b).value = .ok y ∧
          out = x ++ y := by
      intro out
      simp only [resolve_eq_ok_iff]
      rw [String.toList_append, atoms_append hab, yields_append_iff]
    constructor
    · constructor
      · rintro ⟨out, h⟩
        obtain ⟨x, y, hx, hy, _⟩ := (happend out).1 h
        exact ⟨⟨x, hx⟩, y, hy⟩
      · rintro ⟨⟨x, hx⟩, y, hy⟩
        exact ⟨x ++ y, (happend _).2 ⟨x, y, hx, hy, rfl⟩⟩
    · intro x y hx hy
      exact (happend _).2 ⟨x, y, hx, hy, rfl⟩

/-- A value that looks like a placeholder stays, and so does a brace before one. -/
theorem resolve_substitutes_braces :
    let s : Snapshot := { tag := "\x7bbranch\x7d", branch := "main" }
    let context : BuildContext := { time := ⟨⟨0, 0⟩, 0⟩ }
    let a := "\x7btag\x7d\x7b"
    let b := "\x7bversion\x7d\x7d"
    ¬ (lastBrace? a.toList = some '{' ∧ firstBrace? b.toList = some '}') ∧
      (resolve s context (.fixed 0) a).value = .ok "\x7bbranch\x7d\x7b" ∧
      (resolve s context (.fixed 0) b).value = .ok b ∧
      (resolve s context (.fixed 0) (a ++ b)).value = .ok ("\x7bbranch\x7d\x7b" ++ b) := by
  intro s context a b
  have hjoint : ¬ (lastBrace? a.toList = some '{' ∧ firstBrace? b.toList = some '}') := by decide
  have ha : (resolve s context (.fixed 0) a).value = .ok "\x7bbranch\x7d\x7b" :=
    Fallible.eq_ok_of_toOption (by decide +kernel)
  have hb : (resolve s context (.fixed 0) b).value = .ok b :=
    Fallible.eq_ok_of_toOption (by decide +kernel)
  exact ⟨hjoint, ha, hb, ((resolve_substitutes s context (.fixed 0)).2.2 a b hjoint).2 _ _ ha hb⟩

end Template

end BuildVersion
