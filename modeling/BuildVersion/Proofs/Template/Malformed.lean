import BuildVersion.Proofs.Template.Written

/-!
# Malformed placeholders

Which templates cannot be read, and what is said of them. A placeholder is malformed if it opens like one of a known
family and goes on like none of them. Main statement: a template is refused exactly if it has a malformed placeholder,
and the error is that of the leftmost one, whatever stands around it (`read_fails_at_first_malformed`).
-/

namespace BuildVersion

open Calendar Fallible Text

namespace Placeholder

open Template (Atom Braceless text_placeholder)

/-- What can stand in the braces of a placeholder: the spelling of one for no time, where a sign too many is
overlooked, or that of one for a time. -/
inductive Takes (inner : List Char) : Token → Prop where
  | spelled {token : Token} :
    Token.Spells inner token →
    Takes inner token
  | signed {token : Token} :
    Token.SpellsSigned inner token →
    Takes inner token
  | time {spec : TimeSpec} :
    TimeSpec.Spells (Atom.placeholder inner).chars spec →
    Takes inner (.time spec)

/-- A text that opens like a placeholder of a known family: with the source of a time, or with the name of another
family and no letter behind it. -/
inductive OfFamily : List Char → Prop where
  | time (source : TimeSource) (utc : Bool) (rest : List Char) :
    OfFamily (TimeSpec.opening source utc rest)
  | mark (rest : List Char) :
    OfFamily ('!' :: rest)
  | named {name : String} {rest : List Char} :
    name ∈ families →
    (∀ c ∈ rest.head?, isLetter c = false) →
    OfFamily (name.toList ++ rest)

/-- A placeholder of a known family with arguments that no placeholder has. -/
def Malformed (inner : List Char) : Prop := OfFamily inner ∧ ∀ token, ¬ Takes inner token

variable {inner : List Char} {token : Token} {e : Error}

lemma toList_text_placeholder (inner : List Char) :
    (Atom.placeholder inner).text.toList = (Atom.placeholder inner).chars := String.toList_ofList

lemma takes_time_iff {spec : TimeSpec} :
    Takes inner (.time spec) ↔ TimeSpec.Spells (Atom.placeholder inner).chars spec := by
  constructor
  · intro h
    cases h with
    | spelled hspells => cases hspells.wellFormed.1
    | signed hsigned =>
      obtain ⟨harguments⟩ := hsigned
      cases harguments
    | time hspells => exact hspells
  · exact .time

lemma takes_iff_of_not_time (htoken : token.isTime = false) :
    Takes inner token ↔ Token.Spells inner token ∨ Token.SpellsSigned inner token := by
  constructor
  · intro h
    cases h with
    | spelled hspells => exact .inl hspells
    | signed hsigned => exact .inr hsigned
    | time => cases htoken
  · rintro (hspells | hsigned)
    · exact .spelled hspells
    · exact .signed hsigned

/-- In braces, a text is read as what it takes. -/
lemma takes_iff_read (hinner : Braceless inner) :
    Takes inner token ↔ Token.read (Atom.placeholder inner).text = .ok (some token) := by
  by_cases htoken : token.isTime = true
  · cases token with
    | time spec =>
      have hopen : (Atom.placeholder inner).text.toList.head? = some '{' := by
        rw [toList_text_placeholder]
        rfl
      rw [takes_time_iff, Token.read_eq_time_iff hopen, TimeSpec.read_eq_ok_iff, toList_text_placeholder]
    | _ => cases htoken
  · rw [Bool.not_eq_true] at htoken
    have hlist : Braceless (String.ofList inner).toList := by rwa [String.toList_ofList]
    rw [takes_iff_of_not_time htoken, Token.read_braced_eq_some_iff (text_placeholder inner) hlist htoken,
      String.toList_ofList]

/-- A placeholder is known by how it opens. -/
lemma known_iff_ofFamily : Known (Atom.placeholder inner).text ↔ OfFamily inner := by
  have hlist : (Atom.placeholder inner).text.toList = '{' :: (inner ++ ['}']) := toList_text_placeholder inner
  rw [Known, isTimePlaceholder_iff hlist, hlist, inner_braces]
  constructor
  · rintro (⟨source, utc, rest, rfl⟩ | hname)
    · exact .time source utc rest
    · by_cases hmark : ∃ rest, inner = '!' :: rest
      · obtain ⟨rest, rfl⟩ := hmark
        exact .mark rest
      · rw [splitName.eq_2 inner fun rest he => hmark ⟨rest, he⟩] at hname
        have hfamily : OfFamily ((String.ofList (inner.takeWhile isLetter)).toList ++ inner.dropWhile isLetter) :=
          .named hname fun c => not_of_mem_head?_dropWhile
        rwa [String.toList_ofList, List.takeWhile_append_dropWhile] at hfamily
  · intro h
    cases h with
    | time source utc rest => exact .inl ⟨source, utc, rest, rfl⟩
    | mark rest =>
      have hmark : String.ofList ['!'] ∈ families := by decide
      exact .inr hmark
    | named hname hrest =>
      rw [splitName_of_mem hname hrest, String.ofList_toList]
      exact .inr hname

/-- The malformed placeholders are those that cannot be read. -/
lemma malformed_iff_read (hinner : Braceless inner) :
    Malformed inner ↔ ∃ e, Token.read (Atom.placeholder inner).text = .error e := by
  simp only [Malformed, ← known_iff_ofFamily, takes_iff_read hinner]
  cases hread : Token.read (Atom.placeholder inner).text with
  | error e =>
    have hknown : Known (Atom.placeholder inner).text := by
      by_contra hunknown
      rw [Token.read_eq_none_iff.2 hunknown] at hread
      cases hread
    exact iff_of_true ⟨hknown, nofun⟩ ⟨e, rfl⟩
  | ok token? =>
    refine iff_of_false ?_ nofun
    rintro ⟨hknown, hnone⟩
    cases token? with
    | none => exact Token.read_eq_none_iff.1 hread hknown
    | some token => exact hnone token rfl

end Placeholder

/-- The error of a placeholder names it, in the words of its reader. -/
lemma Token.of_read_eq_error {text : String} {e : Error} (h : Token.read text = .error e) :
    (∃ fault, e = .timeScheme fault text) ∨ ∃ fault, e = .placeholder fault text := by
  by_cases htime : TimeSpec.isTimePlaceholder text = true
  · rw [Token.read_of_time htime, map_eq_error_iff] at h
    have hspells : ∀ spec, ¬ TimeSpec.Spells text.toList spec := by
      intro spec hspec
      rw [TimeSpec.read_eq_ok_iff.2 hspec] at h
      cases h
    obtain ⟨fault, hfault⟩ := TimeSpec.exists_read_eq_error hspells
    rw [hfault] at h
    cases h
    exact .inl ⟨fault, rfl⟩
  · rw [Token.read_of_not_time htime] at h
    right
    cases hfamily : Placeholder.readFamily
        (String.ofList (Placeholder.splitName (Placeholder.inner text.toList)).1)
        (Placeholder.splitName (Placeholder.inner text.toList)).2 with
    | error fault =>
      rw [hfamily] at h
      cases h
      exact ⟨fault, rfl⟩
    | ok token? =>
      rw [hfamily] at h
      cases h

/-- What is said of a placeholder ends with the placeholder in quotes. -/
lemma Token.message_of_read_eq_error {text : String} {e : Error} (h : Token.read text = .error e) :
    e.kind = .format ∧ ∃ words, e.message = "Format error: " ++ words ++ " '" ++ text ++ "'" := by
  obtain ⟨fault, rfl⟩ | ⟨fault, rfl⟩ := Token.of_read_eq_error h
  · have hmessage : (Error.timeScheme fault text).message =
        "Format error: " ++ (fault.detail ++ " in '" ++ text ++ "'") := rfl
    refine ⟨rfl, fault.detail ++ " in", ?_⟩
    rw [hmessage, show " in '" = " in" ++ " '" from rfl]
    simp only [String.append_assoc]
  · have hmessage : (Error.placeholder fault text).message =
        "Format error: " ++ (fault.detail ++ " in placeholder '" ++ text ++ "'") := rfl
    refine ⟨rfl, fault.detail ++ " in placeholder", ?_⟩
    rw [hmessage, show " in placeholder '" = " in placeholder" ++ " '" from rfl]
    simp only [String.append_assoc]

namespace Template

open Placeholder (Malformed malformed_iff_read)

/-- The malformed placeholder of a text that has no other one to its left. -/
structure FirstMalformed (text before inner after : List Char) : Prop where
  occurs : Occurs text before inner after
  malformed : Malformed inner
  leftmost : ∀ before' inner' after', Occurs text before' inner' after' → Malformed inner' →
    before.length ≤ before'.length

/-- An atom that cannot be read, and why. -/
inductive Refused : Atom → Error → Prop where
  | placeholder {inner : List Char} {e : Error} :
    Token.read (Atom.placeholder inner).text = .error e →
    Refused (.placeholder inner) e

variable {e : Error} {as : List Atom} {text : List Char}

lemma refused_placeholder_iff {inner : List Char} :
    Refused (.placeholder inner) e ↔ Token.read (Atom.placeholder inner).text = .error e := by
  constructor
  · rintro ⟨h⟩
    exact h
  · exact .placeholder

/-- An atom that is refused ends the reading, any other one leaves the reading of the rest as it is. -/
lemma segmentsOf_cons (a : Atom) (as : List Atom) :
    (∃ e, Refused a e ∧ segmentsOf (a :: as) = .error e) ∨
      (∀ e, ¬ Refused a e) ∧ ∃ f, segmentsOf (a :: as) = (segmentsOf as).map f := by
  cases a with
  | char c => exact .inr ⟨nofun, _, segmentsOf_char c as⟩
  | placeholder inner =>
    simp only [refused_placeholder_iff]
    cases hread : Token.read (Atom.placeholder inner).text with
    | error e => exact .inl ⟨e, rfl, segmentsOf_bad as hread⟩
    | ok token? =>
      cases token? with
      | none => exact .inr ⟨nofun, _, segmentsOf_unknown as hread⟩
      | some token => exact .inr ⟨nofun, _, segmentsOf_known as hread⟩

/-- Reading stops at the first atom that is refused. -/
lemma segmentsOf_eq_error_iff :
    segmentsOf as = .error e ↔
      ∃ front a rest, as = front ++ a :: rest ∧ (∀ b ∈ front, ∀ e', ¬ Refused b e') ∧ Refused a e := by
  -- By induction on the atoms: the first one is refused, or everything depends on the others.
  induction as with
  | nil => simp [segmentsOf]
  | cons a as ih =>
    obtain ⟨e', hrefused, hstop⟩ | ⟨hgood, f, hgo⟩ := segmentsOf_cons a as
    · rw [hstop]
      constructor
      · intro h
        cases h
        exact ⟨[], a, as, rfl, List.forall_mem_nil _, hrefused⟩
      · rintro ⟨front, b, rest, hcut, hfront, hb⟩
        cases front with
        | nil =>
          cases hcut
          obtain ⟨hread⟩ := hrefused
          rw [refused_placeholder_iff, hread] at hb
          cases hb
          rfl
        | cons c front =>
          cases hcut
          exact absurd hrefused (hfront a List.mem_cons_self e')
    · rw [hgo, map_eq_error_iff, ih]
      constructor
      · rintro ⟨front, b, rest, rfl, hfront, hb⟩
        exact ⟨a :: front, b, rest, rfl, List.forall_mem_cons.2 ⟨hgood, hfront⟩, hb⟩
      · rintro ⟨front, b, rest, hcut, hfront, hb⟩
        cases front with
        | nil =>
          cases hcut
          exact absurd hb (hgood e)
        | cons c front =>
          cases hcut
          exact ⟨front, b, rest, rfl, (List.forall_mem_cons.1 hfront).2, hb⟩

/-- Reading fails where any atom is refused. -/
lemma segmentsOf_fails_iff : (∃ e, segmentsOf as = .error e) ↔ ∃ a ∈ as, ∃ e, Refused a e := by
  induction as with
  | nil => simp [segmentsOf]
  | cons a as ih =>
    obtain ⟨e, hrefused, hstop⟩ | ⟨hgood, f, hgo⟩ := segmentsOf_cons a as
    · exact iff_of_true ⟨e, hstop⟩ ⟨a, List.mem_cons_self, e, hrefused⟩
    · simp [hgo, map_eq_error_iff, ih, hgood]

lemma Occurs.malformed_iff {before inner after : List Char} (h : Occurs text before inner after) :
    Malformed inner ↔ ∃ e, Refused (.placeholder inner) e := by
  simp only [malformed_iff_read h.2, refused_placeholder_iff]

/-- Where the atoms of a text are refused, its first malformed placeholder stands. -/
lemma firstMalformed_of_refused {front rest : List Atom} {inner : List Char}
    (hcut : atoms text = front ++ .placeholder inner :: rest) (hfront : ∀ b ∈ front, ∀ e', ¬ Refused b e')
    (hrefused : Refused (.placeholder inner) e) :
    FirstMalformed text (front.flatMap Atom.chars) inner (rest.flatMap Atom.chars) := by
  have hmem : .placeholder inner ∈ atoms text := hcut ▸ List.mem_append_right _ List.mem_cons_self
  have hoccurs : Occurs text (front.flatMap Atom.chars) inner (rest.flatMap Atom.chars) := by
    refine ⟨?_, braceless_of_mem_atoms hmem⟩
    rw [← flatMap_chars_atoms text, hcut]
    simp [Atom.chars]
  refine ⟨hoccurs, hoccurs.malformed_iff.2 ⟨e, hrefused⟩, ?_⟩
  intro before' inner' after' hoccurs' hmalformed'
  obtain ⟨front', rest', hcut', rfl, -⟩ := exists_atoms_of_occurs hoccurs'
  rw [hcut] at hcut'
  obtain ⟨middle, rfl, -⟩ | ⟨middle, rfl, hmiddle⟩ := List.append_eq_append_iff.1 hcut'
  · simp
  · cases middle with
    | nil => simp
    | cons b middle =>
      -- A placeholder further to the left would be among the atoms that are not refused.
      cases hmiddle
      obtain ⟨e', hrefused'⟩ := hoccurs'.malformed_iff.1 hmalformed'
      exact absurd hrefused' (hfront _ (List.mem_append_right _ List.mem_cons_self) e')

/-- The error of a template is that of its first malformed placeholder. -/
lemma exists_firstMalformed_of_read {template : String} (h : read template = .error e) :
    ∃ before inner after, FirstMalformed template.toList before inner after ∧
      Token.read (Atom.placeholder inner).text = .error e := by
  obtain ⟨front, a, rest, hcut, hfront, hrefused⟩ := segmentsOf_eq_error_iff.1 h
  obtain ⟨hread⟩ := hrefused
  exact ⟨_, _, _, firstMalformed_of_refused hcut hfront ⟨hread⟩, hread⟩

/-- A template cannot be read exactly if one of its placeholders is malformed. What is reported then is the error of
the first such placeholder, whatever stands before and after it: a format error that ends with this placeholder in
quotes. Nothing is resolved, and nothing is recorded, whatever there is to resolve it with. -/
theorem read_fails_at_first_malformed (template : String) :
    ((∃ e, read template = .error e) ↔
      ∃ before inner after, Occurs template.toList before inner after ∧ Malformed inner) ∧
    ∀ e, read template = .error e →
      (∃ before inner after, FirstMalformed template.toList before inner after ∧
        Token.read (Atom.placeholder inner).text = .error e ∧ e.kind = .format ∧
        ∃ words, e.message = "Format error: " ++ words ++ " '" ++ (Atom.placeholder inner).text ++ "'") ∧
      ∀ s context zone, resolve s context zone template = ⟨.error e, []⟩ ∧
        resolveShort s context zone template = ⟨.error e, []⟩ := by
  refine ⟨?_, fun e h => ⟨?_, fun s context zone => ?_⟩⟩
  · constructor
    · rintro ⟨e, h⟩
      obtain ⟨before, inner, after, hfirst, -⟩ := exists_firstMalformed_of_read h
      exact ⟨before, inner, after, hfirst.occurs, hfirst.malformed⟩
    · rintro ⟨before, inner, after, hoccurs, hmalformed⟩
      have hmem := placeholder_mem_atoms_iff.2 ⟨before, after, hoccurs⟩
      exact segmentsOf_fails_iff.2 ⟨_, hmem, hoccurs.malformed_iff.1 hmalformed⟩
  · obtain ⟨before, inner, after, hfirst, hread⟩ := exists_firstMalformed_of_read h
    exact ⟨before, inner, after, hfirst, hread, Token.message_of_read_eq_error hread⟩
  · have hresolve : resolve s context zone template = ⟨.error e, []⟩ := resolve_of_read_eq_error h
    refine ⟨hresolve, ?_⟩
    rw [resolveShort, hresolve]
    rfl

/-- A base that there is not, between placeholders that are unknown, right and malformed themselves. -/
theorem read_fails_at_first_malformed_base :
    let template := "{cat}-{tag}-{b:b37-1m}-{tag:}"
    ∃ e, read template = .error e ∧
      e.message = "Format error: Unsupported numeral base 37, expected 2 to 36 in '{b:b37-1m}'" ∧
      (∃ before inner after, FirstMalformed template.toList before inner after ∧
        Token.read (Atom.placeholder inner).text = .error e) ∧
      ∀ s context zone, resolve s context zone template = ⟨.error e, []⟩ := by
  intro template
  have hmessage : (read template).mapError Error.message =
      .error "Format error: Unsupported numeral base 37, expected 2 to 36 in '{b:b37-1m}'" := by
    decide +kernel
  cases hread : read template with
  | ok segments =>
    rw [hread] at hmessage
    cases hmessage
  | error e =>
    rw [hread] at hmessage
    obtain ⟨⟨before, inner, after, hfirst, htoken, -⟩, hresolve⟩ :=
      (read_fails_at_first_malformed template).2 e hread
    exact ⟨e, rfl, Except.error.inj hmessage, ⟨before, inner, after, hfirst, htoken⟩,
      fun s context zone => (hresolve s context zone).1⟩

end Template

end BuildVersion
