import BuildVersion.Proofs.Template.Families

/-!
# Written placeholders

What is read of a placeholder as it stands in a template. Main statements: everything that can be written is read
back as it was meant, alone and between other text (`Token.spelled_reads_back`), and what is read was written by the
grammar, or with a sign where the grammar has none (`Token.read_iff_spelled_or_signed`).
-/

namespace BuildVersion

open Fallible Text

namespace Placeholder

variable {inner : List Char}

/-- A placeholder that opens like one for a time shows the letter of a source where a family has its name. -/
lemma splitName_opening (source : TimeSource) (utc : Bool) (rest : List Char) :
    splitName (TimeSpec.opening source utc rest) =
      (source.letter.toList ++ (if utc then ['u'] else []), ':' :: rest) := by
  have hcolon : ∀ c ∈ (':' :: rest).head?, isLetter c = false := by
    rintro _ ⟨⟩
    rfl
  have hletters : (source.letter.toList ++ (if utc then ['u'] else [])).all isLetter = true := by
    cases source <;> cases utc <;> rfl
  rw [TimeSpec.opening, ← List.append_assoc]
  exact splitName_letters (by cases source <;> simp [TimeSource.letter]) (List.all_eq_true.1 hletters) hcolon

/-- In braces, a text opens like a placeholder for a time if it does so before the closing brace. -/
lemma isTimePlaceholder_iff {text : String} (htext : text.toList = '{' :: (inner ++ ['}'])) :
    TimeSpec.isTimePlaceholder text = true ↔ ∃ source utc rest, inner = TimeSpec.opening source utc rest := by
  rw [TimeSpec.isTimePlaceholder, htext]
  constructor
  · intro htime
    obtain ⟨⟨source, utc, rest⟩, hsource⟩ := Option.isSome_iff_exists.1 htime
    have hopening := TimeSpec.readSource?_eq_some_iff.1 hsource
    obtain rfl | ⟨front, last, rfl⟩ := List.eq_nil_or_concat rest
    · -- The closing brace would be the colon.
      have hlast := congrArg List.getLast? hopening
      cases source <;> cases utc <;> simp [TimeSpec.opening, TimeSource.letter] at hlast
    · rw [List.concat_eq_append, TimeSpec.opening_append] at hopening
      exact ⟨source, utc, front, (List.append_inj' hopening rfl).1⟩
  · rintro ⟨source, utc, rest, rfl⟩
    rw [← TimeSpec.opening_append]
    exact Option.isSome_iff_exists.2 ⟨_, TimeSpec.readSource?_eq_some_iff.2 rfl⟩

/-- No family has the name of a source. -/
lemma not_family_of_time {text : String} (htext : text.toList = '{' :: (inner ++ ['}']))
    (htime : TimeSpec.isTimePlaceholder text = true) : String.ofList (splitName inner).1 ∉ families := by
  obtain ⟨source, utc, rest, rfl⟩ := (isTimePlaceholder_iff htext).1 htime
  rw [splitName_opening]
  cases source <;> cases utc <;> simp [TimeSource.letter, families]

lemma not_length_of_sign {ds : List Char} {length : Option Nat} (h : LengthPart (':' :: '+' :: ds) length) :
    False := by
  generalize he : ':' :: '+' :: ds = cs at h
  cases h with
  | nothing => cases he
  | length hdigits =>
    cases he
    exact absurd (hdigits.digits '+' List.mem_cons_self) (by decide)

lemma not_year_of_sign {sign : Char} {ds : List Char} {startYear : Option Int} (hsign : isDigit sign = false)
    (h : StartYearPart (':' :: sign :: ds) startYear) : False := by
  generalize he : ':' :: sign :: ds = cs at h
  cases h with
  | nothing => cases he
  | @year ys year hyear =>
    cases ys with
    | nil => exact hyear.1.nonempty rfl
    | cons c ys =>
      have hdigit := hyear.1.digits c List.mem_cons_self
      rw [List.cons_append] at he
      rw [← (List.cons.inj (List.cons.inj he).2).1, hsign] at hdigit
      cases hdigit

/-- A sign stands where the grammar has a digit. -/
lemma SignedArguments.not_arguments {cs : List Char} {token : Token} (h : SignedArguments cs token) :
    ¬ Arguments cs token := by
  intro harguments
  cases h with
  | length =>
    generalize he : ':' :: '+' :: _ = cs at harguments
    cases harguments with
    | hash _ hlength => exact not_length_of_sign (he ▸ hlength)
  | yearPlus =>
    generalize he : ':' :: '+' :: _ = cs at harguments
    cases harguments with
    | copyright hyear => exact not_year_of_sign (by decide) (he ▸ hyear)
  | yearMinus =>
    generalize he : ':' :: '-' :: _ = cs at harguments
    cases harguments with
    | copyright hyear => exact not_year_of_sign (by decide) (he ▸ hyear)

end Placeholder

namespace Token

open Placeholder Template

variable {inner text : String} {token : Token}

lemma toList_braced (inner : String) : ("\x7b" ++ inner ++ "\x7d").toList = '{' :: (inner.toList ++ ['}']) := by
  simp [String.toList_append]

/-- In braces, a placeholder for no time is read by the family of its name. -/
lemma read_braced (htext : text = "\x7b" ++ inner ++ "\x7d") (htime : ¬ TimeSpec.isTimePlaceholder text = true) :
    Token.read text =
      (readFamily (String.ofList (splitName inner.toList).1) (splitName inner.toList).2).mapError fun fault =>
        .placeholder fault text := by
  rw [Token.read_of_not_time htime, htext, toList_braced, inner_braces]

variable {cs : List Char} {token' : Token}

lemma braceless_arguments (h : Braceless cs) : Braceless (splitName cs).2 :=
  fun c hc => h c (splitName_subset _ hc)

/-- A spelling is a name and arguments that its family reads. -/
lemma spells_or_signed_iff (hcs : Braceless cs) :
    Spells cs token ∨ SpellsSigned cs token ↔
      readFamily (String.ofList (splitName cs).1) (splitName cs).2 = .ok (some token) := by
  rw [readFamily_eq_ok_iff (braceless_arguments hcs)]
  constructor
  · rintro (h | h)
    · obtain ⟨arguments, hsplit, harguments⟩ := h.splitName_eq
      rw [hsplit, String.ofList_toList]
      exact ⟨rfl, .inl harguments⟩
    · obtain ⟨arguments, hsplit, hsigned⟩ := h.splitName_eq
      rw [hsplit, String.ofList_toList]
      exact ⟨rfl, .inr hsigned⟩
  · rintro ⟨hname, htaken⟩
    have happend := splitName_append cs
    rw [← String.toList_ofList (l := (splitName cs).1), hname] at happend
    rw [← happend]
    obtain harguments | hsigned := htaken
    · exact .inl (.mk harguments)
    · exact .inr (.mk hsigned)

/-- A text is a spelling of one placeholder only. -/
lemma Spells.unique (h : Spells cs token) (h' : Spells cs token' ∨ SpellsSigned cs token') : token = token' := by
  have hread := (spells_or_signed_iff h.braceless).1 (.inl h)
  rw [(spells_or_signed_iff h.braceless).1 h'] at hread
  cases hread
  rfl

/-- What is written with a sign too many is no spelling. -/
lemma SpellsSigned.not_spells (h : SpellsSigned cs token) : ¬ Spells cs token' := by
  intro h'
  obtain rfl := h'.unique (.inr h)
  obtain ⟨arguments, hsplit, hsigned⟩ := h.splitName_eq
  obtain ⟨_, hsplit', harguments⟩ := h'.splitName_eq
  rw [hsplit] at hsplit'
  cases hsplit'
  exact hsigned.not_arguments harguments

/-- In braces, exactly the placeholders that are spelled are read, if a sign too many is overlooked. -/
lemma read_braced_eq_some_iff (htext : text = "\x7b" ++ inner ++ "\x7d") (hinner : Braceless inner.toList)
    (htoken : token.isTime = false) :
    Token.read text = .ok (some token) ↔ Spells inner.toList token ∨ SpellsSigned inner.toList token := by
  rw [spells_or_signed_iff hinner]
  by_cases htime : TimeSpec.isTimePlaceholder text = true
  · -- The text is one for a time, and its name that of no family.
    have hname := not_family_of_time (htext ▸ toList_braced inner) htime
    constructor
    · intro h
      rw [Token.read_of_time htime] at h
      obtain ⟨spec, _, he⟩ := map_eq_ok_iff.1 h
      cases he
      cases htoken
    · intro h
      rw [readFamily_eq_none_iff.2 hname] at h
      cases h
  · rw [read_braced htext htime, mapError_eq_ok_iff]

lemma Spells.read_braced (h : Spells inner.toList token) (htext : text = "\x7b" ++ inner ++ "\x7d") :
    Token.read text = .ok (some token) :=
  (read_braced_eq_some_iff htext h.braceless h.wellFormed.1).2 (.inl h)

lemma Spells.not_time (h : Spells inner.toList token) (htext : text = "\x7b" ++ inner ++ "\x7d") :
    TimeSpec.isTimePlaceholder text = false := by
  rw [Bool.eq_false_iff]
  intro htime
  obtain ⟨cs, hsplit, _⟩ := h.splitName_eq
  have hname := not_family_of_time (htext ▸ toList_braced inner) htime
  rw [hsplit, String.ofList_toList] at hname
  exact hname (family_mem h.wellFormed.1)

end Token

namespace Template

/-- Text as a segment, unless it is empty. -/
def textSegments : List Char → List Segment
  | [] => []
  | c :: cs => [.text (c :: cs)]

/-- Text in front of a placeholder is a segment of its own. -/
lemma addText_eq {segments : List Segment} (h : ∀ cs rest, segments ≠ .text cs :: rest) (cs : List Char) :
    addText cs segments = textSegments cs ++ segments := by
  induction cs with
  | nil => rfl
  | cons c cs ih =>
    have hcons : addText (c :: cs) segments = addChar c (addText cs segments) := rfl
    rw [hcons, ih]
    cases cs with
    | nil =>
      cases segments with
      | nil => rfl
      | cons segment rest =>
        cases segment with
        | text ds => exact absurd rfl (h ds rest)
        | token => rfl
    | cons => rfl

/-- Characters in front of other atoms are read as text. -/
lemma segmentsOf_chars (cs : List Char) (as : List Atom) :
    segmentsOf (cs.map .char ++ as) = (segmentsOf as).map (addText cs) := by
  induction cs with
  | nil =>
    rw [List.map_nil, List.nil_append]
    cases segmentsOf as <;> rfl
  | cons c cs ih =>
    rw [List.map_cons, List.cons_append, segmentsOf_char, ih]
    cases segmentsOf as <;> rfl

/-- A placeholder between texts is read between them. -/
lemma read_between {before inner after : String} {token : Token} (hbefore : Braceless before.toList)
    (hinner : Braceless inner.toList) (hafter : Braceless after.toList)
    (hread : Token.read ("\x7b" ++ inner ++ "\x7d") = .ok (some token)) :
    read (before ++ ("\x7b" ++ inner ++ "\x7d") ++ after) =
      .ok (textSegments before.toList ++ .token token :: textSegments after.toList) := by
  have htext : (before ++ ("\x7b" ++ inner ++ "\x7d") ++ after).toList =
      before.toList ++ '{' :: (inner.toList ++ '}' :: after.toList) := by
    simp [String.toList_append]
  have hknown : Token.read (Atom.placeholder inner.toList).text = .ok (some token) := by
    rw [Atom.text, Atom.chars, ← Token.toList_braced, String.ofList_toList]
    exact hread
  have hrest : segmentsOf (atoms after.toList) = .ok (textSegments after.toList) := by
    rw [atoms_braceless hafter, ← List.append_nil (after.toList.map Atom.char), segmentsOf_chars, segmentsOf]
    rw [Except.map, addText_eq (by rintro _ _ ⟨⟩), List.append_nil]
  rw [read, htext, atoms_braceless_append hbefore, atoms_placeholder hinner, segmentsOf_chars,
    segmentsOf_known _ hknown, hrest]
  exact congrArg Except.ok (addText_eq (by rintro _ _ ⟨⟩) _)

end Template

namespace Token

open Placeholder Template

/-- Every placeholder for no time that lies within the limits can be written, what can be written lies within them,
and no text is written for two placeholders. In braces, such a text opens like no placeholder for a time, it shows the
name of its family and of no other, and it is read back as it was meant: by itself, and in a template between texts
without braces, which stay what they are. -/
theorem spelled_reads_back :
    (∀ token : Token, token.isTime = false → token.WellFormed → Spells token.spelling.toList token) ∧
      (∀ inner token, Spells inner token → token.isTime = false ∧ token.WellFormed) ∧
      (∀ inner token token', Spells inner token → Spells inner token' → token = token') ∧
      ∀ (inner text : String) (token : Token), Spells inner.toList token → text = "\x7b" ++ inner ++ "\x7d" →
        TimeSpec.isTimePlaceholder text = false ∧ (splitName inner.toList).1 = token.family.toList ∧
          Token.read text = .ok (some token) ∧
          ∀ before after : String, Braceless before.toList → Braceless after.toList →
            Template.read (before ++ text ++ after) =
              .ok (textSegments before.toList ++ .token token :: textSegments after.toList) := by
  refine ⟨fun _ => spells_spelling, fun _ _ => Spells.wellFormed, fun _ _ _ h h' => h.unique (.inl h'), ?_⟩
  rintro inner text token h htext
  have hread := h.read_braced htext
  refine ⟨h.not_time htext, ?_, hread, ?_⟩
  · obtain ⟨cs, hsplit, _⟩ := h.splitName_eq
    rw [hsplit]
  · rintro before after hbefore hafter
    rw [htext] at hread ⊢
    exact read_between hbefore h.braceless hafter hread

/-- A tag without its letter is not taken for a tag, for the commits after one, or for a time. Arguments are cut
where they were joined: those of a version at the plus sign and at both colons, those of a branch at the colon behind
the separator. -/
theorem spelled_reads_back_arguments :
    let version : Token := .release (some "main") true (some 7)
    let branch : Token := .branch (some ⟨"+", "main"⟩)
    Token.read "\x7btag:nov\x7d" = .ok (some (.tag true)) ∧
      Template.read "v\x7btag:nov\x7d-x" = .ok [.text ['v'], .token (.tag true), .text ['-', 'x']] ∧
      version.WellFormed ∧ Token.read "\x7bsemvertag:main+chash:7\x7d" = .ok (some version) ∧
      branch.WellFormed ∧
      Template.read "1.0\x7bbranch:+:main\x7d" = .ok [.text ['1', '.', '0'], .token branch] := by
  intro version branch
  obtain ⟨hspells, -, -, hread⟩ := spelled_reads_back
  obtain ⟨-, -, htag, hbetween⟩ := hread (tag true).spelling "\x7btag:nov\x7d" _ (hspells (.tag true) rfl trivial) rfl
  have hmain : WithoutBraces "main" := by simp [WithoutBraces]
  have hversion : version.WellFormed := by
    refine ⟨?_, ?_⟩
    · rintro _ ⟨⟩
      exact ⟨by decide, hmain, by decide⟩
    · rintro _ ⟨⟩
      exact ⟨rfl, by decide, by decide⟩
  have hbranch : branch.WellFormed := by
    rintro _ ⟨⟩
    exact ⟨by simp [WithoutBraces], hmain, by decide⟩
  obtain ⟨-, -, hplus, -⟩ :=
    hread version.spelling "\x7bsemvertag:main+chash:7\x7d" _ (hspells version rfl hversion) rfl
  obtain ⟨-, -, -, hbehind⟩ := hread branch.spelling "\x7bbranch:+:main\x7d" _ (hspells branch rfl hbranch) rfl
  exact ⟨htag, hbetween "v" "-x" (by decide) (by decide), hversion, hplus, hbranch,
    hbehind "1.0" "" (by decide) (by decide)⟩

/-- Of a text in braces that holds none itself, a placeholder for no time is read exactly if it is spelled that way,
or would be but for a sign before a length or before a start year of three digits, which no spelling has. Every other
text with the name of a family is refused for its format, and every text without one that is for no time is no
placeholder. -/
theorem read_iff_spelled_or_signed (inner : String) {text : String} (hinner : Braceless inner.toList)
    (htext : text = "\x7b" ++ inner ++ "\x7d") :
    (∀ token : Token, token.isTime = false →
      (Token.read text = .ok (some token) ↔ Spells inner.toList token ∨ SpellsSigned inner.toList token)) ∧
      (∀ token token', SpellsSigned inner.toList token → ¬ Spells inner.toList token') ∧
      (String.ofList (splitName inner.toList).1 ∈ families →
        (∀ token, ¬ (Spells inner.toList token ∨ SpellsSigned inner.toList token)) →
        ∃ fault, Token.read text = .error (.placeholder fault text) ∧
          (Error.placeholder fault text).kind = .format) ∧
      (String.ofList (splitName inner.toList).1 ∉ families → TimeSpec.isTimePlaceholder text = false →
        Token.read text = .ok none) := by
  refine ⟨fun token => read_braced_eq_some_iff htext hinner, fun _ _ => SpellsSigned.not_spells, ?_, ?_⟩
  · intro hname hunspelled
    have htime : ¬ TimeSpec.isTimePlaceholder text = true :=
      fun htime => not_family_of_time (htext ▸ toList_braced inner) htime hname
    rw [read_braced htext htime]
    cases hfamily : readFamily (String.ofList (splitName inner.toList).1) (splitName inner.toList).2 with
    | error fault => exact ⟨fault, rfl, rfl⟩
    | ok token =>
      cases token with
      | none => exact absurd hname (readFamily_eq_none_iff.1 hfamily)
      | some token => exact absurd ((spells_or_signed_iff hinner).2 hfamily) (hunspelled token)
  · intro hname htime
    rw [read_braced htext (Bool.eq_false_iff.1 htime), readFamily_eq_none_iff.2 hname]
    rfl

lemma spellsSigned_length : SpellsSigned "chash:+5".toList (.hash false (some 5)) := by
  have hdigits : TimeScheme.Digits ['5'] 5 := ⟨nofun, List.forall_mem_singleton.2 rfl, rfl⟩
  have harguments : SignedArguments [':', '+', '5'] (.hash false (some 5)) := .length false hdigits ⟨by decide, by decide⟩
  exact .mk harguments

/-- A signed length is read and no spelling, an argument too few is refused, and a cat is no placeholder. -/
theorem read_iff_spelled_or_signed_cat :
    Token.read "\x7bchash:+5\x7d" = .ok (some (.hash false (some 5))) ∧
      (∀ token, ¬ Spells "chash:+5".toList token) ∧
      (∃ fault, Token.read "\x7btag:\x7d" = .error (.placeholder fault "\x7btag:\x7d")) ∧
      Token.read "\x7bcat\x7d" = .ok none := by
  obtain ⟨hsigned, hnot, -, -⟩ := read_iff_spelled_or_signed "chash:+5" (by decide) rfl
  obtain ⟨-, -, hrefused, -⟩ := read_iff_spelled_or_signed "tag:" (by decide) rfl
  obtain ⟨-, -, -, hnone⟩ := read_iff_spelled_or_signed "cat" (by decide) rfl
  refine ⟨(hsigned _ rfl).2 (.inr spellsSigned_length), fun token => hnot _ token spellsSigned_length, ?_,
    hnone (by decide) (by decide)⟩
  obtain ⟨fault, hfault, -⟩ := hrefused (by decide) (by
    intro token h
    cases (spells_or_signed_iff (by decide)).1 h)
  exact ⟨fault, hfault⟩

/-- A sign before a length is overlooked: what is read need not be spelled. -/
theorem read_accepts_signed_length :
    ¬ ∀ (inner : String) (token : Token), Braceless inner.toList → token.isTime = false →
      Token.read ("\x7b" ++ inner ++ "\x7d") = .ok (some token) → Spells inner.toList token := by
  intro h
  have hread := (read_braced_eq_some_iff rfl (by decide) rfl).2 (.inr spellsSigned_length)
  exact spellsSigned_length.not_spells (h _ _ (by decide) rfl hread)

end Token

end BuildVersion
