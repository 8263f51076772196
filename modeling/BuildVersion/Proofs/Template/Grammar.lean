import BuildVersion.Proofs.Template.TimePlaceholder
import BuildVersion.Template.Spelling

/-!
# The grammar of placeholders

How the placeholders for facts and for releases are written, said without reading them: the name of a family, and
behind it the arguments of that family. Main statements: the placeholders that can be written are those within the
limits (`Token.Spells.wellFormed`, `Token.spells_spelling`), and a spelling shows the name of its family and nothing
that a placeholder for a time opens with.
-/

namespace BuildVersion

open Text
open TimeScheme (Digits IsYear)

namespace Placeholder

open Token (SpellableLength SpellableSuppression WithoutBraces)

/-- The length of a hash behind a colon, or nothing. -/
inductive LengthPart : List Char → Option Nat → Prop where
  | nothing : LengthPart [] none
  | length {ds : List Char} {n : Nat} :
    Digits ds n →
    SpellableLength n →
    LengthPart (':' :: ds) (some n)

/-- An offset behind its sign, or nothing. -/
inductive OffsetPart : List Char → Int → Prop where
  | nothing : OffsetPart [] 0
  | plus {ds : List Char} {n : Nat} :
    Digits ds n →
    n < signedLimit →
    OffsetPart ('+' :: ds) n
  | minus {ds : List Char} {n : Nat} :
    Digits ds n →
    n ≤ signedLimit →
    OffsetPart ('-' :: ds) (-n)

/-- A text behind a colon, or nothing. -/
inductive TextPart : List Char → Option String → Prop where
  | nothing : TextPart [] none
  | text {text : String} :
    WithoutBraces text →
    TextPart (':' :: text.toList) (some text)

/-- A separator and a reference, each behind a colon, or nothing. -/
inductive SuppressionPart : List Char → Option Suppression → Prop where
  | nothing : SuppressionPart [] none
  | suppression {s : Suppression} :
    SpellableSuppression s →
    SuppressionPart (':' :: (s.separator.toList ++ ':' :: s.reference.toList)) (some s)

/-- A start year behind a colon and with a hyphen at its end, or nothing. -/
inductive StartYearPart : List Char → Option Int → Prop where
  | nothing : StartYearPart [] none
  | year {ys : List Char} {year : Nat} :
    IsYear ys year →
    StartYearPart (':' :: (ys ++ ['-'])) (some year)

/-- The commit hash behind a plus sign, perhaps cut to a length, or nothing. -/
inductive HashPart : List Char → Bool → Option Nat → Prop where
  | nothing : HashPart [] false none
  | hash {ls : List Char} {length : Option Nat} :
    LengthPart ls length →
    HashPart ("+chash".toList ++ ls) true length

/-- The arguments of the placeholders that are for no time. -/
inductive Arguments : List Char → Token → Prop where
  | hash {ls : List Char} {length : Option Nat} (upper : Bool) :
    LengthPart ls length →
    Arguments ls (.hash upper length)
  | revision {os : List Char} {offset : Int} :
    OffsetPart os offset →
    Arguments os (.revision offset)
  | mark : Arguments [] (.modified "!")
  | marker {marker : String} :
    WithoutBraces marker →
    Arguments (':' :: marker.toList) (.modified marker)
  | field (field : Field) : Arguments [] (.field field)
  | config {ss : List Char} {suppression : Option Suppression} :
    SuppressionPart ss suppression →
    Arguments ss (.config suppression)
  | branch {ss : List Char} {suppression : Option Suppression} :
    SuppressionPart ss suppression →
    Arguments ss (.branch suppression)
  | tag : Arguments [] (.tag false)
  | tagWithoutV : Arguments ":nov".toList (.tag true)
  | commitsAfterTag {ss : List Char} {separator : Option String} :
    TextPart ss separator →
    Arguments ss (.commitsAfterTag separator)
  | copyright {ys : List Char} {startYear : Option Int} :
    StartYearPart ys startYear →
    Arguments ys (.copyright startYear)
  | release {bs hs : List Char} {defaultBranch : Option String} {withHash : Bool} {length : Option Nat} :
    TextPart bs defaultBranch →
    (∀ name ∈ defaultBranch, name ≠ "" ∧ '+' ∉ name.toList) →
    HashPart hs withHash length →
    Arguments (bs ++ hs) (.release defaultBranch withHash length)

/-- Arguments with a sign where none belongs: before a length, or in place of the first digit of a start year. -/
inductive SignedArguments : List Char → Token → Prop where
  | length {ds : List Char} {n : Nat} (upper : Bool) :
    Digits ds n →
    SpellableLength n →
    SignedArguments (':' :: '+' :: ds) (.hash upper (some n))
  | yearPlus {ds : List Char} {n : Nat} :
    Digits ds n →
    ds.length = 3 →
    SignedArguments (':' :: '+' :: (ds ++ ['-'])) (.copyright (some n))
  | yearMinus {ds : List Char} {n : Nat} :
    Digits ds n →
    ds.length = 3 →
    SignedArguments (':' :: '-' :: (ds ++ ['-'])) (.copyright (some (-n)))

end Placeholder

namespace Token

open Placeholder

/-- The name of the family that a placeholder belongs to. A placeholder for a time opens with its source. -/
def family : Token → String
  | hash upper _ => if upper then "CHASH" else "chash"
  | revision _ => "revnum"
  | modified _ => "!"
  | field f => f.spelling
  | config _ => "bconf"
  | branch _ => "branch"
  | tag _ => "tag"
  | commitsAfterTag _ => "tagadd"
  | copyright _ => "copyright"
  | time spec => spec.source.letter
  | release _ _ _ => "semvertag"

/-- How a placeholder for no time is written between its braces. -/
inductive Spells : List Char → Token → Prop where
  | mk {arguments : List Char} {token : Token} :
    Arguments arguments token →
    Spells (token.family.toList ++ arguments) token

/-- A placeholder that is written with a sign where none belongs. -/
inductive SpellsSigned : List Char → Token → Prop where
  | mk {arguments : List Char} {token : Token} :
    SignedArguments arguments token →
    SpellsSigned (token.family.toList ++ arguments) token

end Token

namespace Placeholder

open Template (Braceless isBrace braceless_append_iff braceless_cons_iff)
open Token (SpellableLength SpellableSuppression WithoutBraces)

variable {cs : List Char} {token : Token}

lemma withoutBraces_iff {text : String} : WithoutBraces text ↔ Braceless text.toList :=
  forall₂_congr fun _ _ => Template.not_isBrace_iff.symm

/-! ### Limits -/

lemma LengthPart.limits {length : Option Nat} (h : LengthPart cs length) : ∀ n ∈ length, SpellableLength n := by
  cases h with
  | nothing => exact nofun
  | length _ hlimits =>
    rintro _ ⟨⟩
    exact hlimits

lemma OffsetPart.limits {offset : Int} (h : OffsetPart cs offset) :
    -(signedLimit : Int) ≤ offset ∧ offset < signedLimit := by
  have hpos : 0 < signedLimit := by decide
  cases h <;> omega

lemma TextPart.limits {text : Option String} (h : TextPart cs text) : ∀ t ∈ text, WithoutBraces t := by
  cases h with
  | nothing => exact nofun
  | text hbraces =>
    rintro _ ⟨⟩
    exact hbraces

lemma SuppressionPart.limits {suppression : Option Suppression} (h : SuppressionPart cs suppression) :
    ∀ s ∈ suppression, SpellableSuppression s := by
  cases h with
  | nothing => exact nofun
  | suppression hlimits =>
    rintro _ ⟨⟩
    exact hlimits

lemma StartYearPart.limits {startYear : Option Int} (h : StartYearPart cs startYear) :
    ∀ year ∈ startYear, 0 ≤ year ∧ year ≤ 9999 := by
  cases h with
  | nothing => exact nofun
  | year hyear =>
    have hle := hyear.le
    rintro _ ⟨⟩
    omega

lemma HashPart.limits {withHash : Bool} {length : Option Nat} (h : HashPart cs withHash length) :
    ∀ n ∈ length, withHash = true ∧ SpellableLength n := by
  cases h with
  | nothing => exact nofun
  | hash hlength => exact fun n hn => ⟨rfl, hlength.limits n hn⟩

/-- What has arguments is a placeholder for no time within the limits. -/
lemma Arguments.wellFormed (h : Arguments cs token) : token.isTime = false ∧ token.WellFormed := by
  refine ⟨by cases h <;> rfl, ?_⟩
  cases h with
  | hash _ hlength => exact hlength.limits
  | revision hoffset => exact hoffset.limits
  | mark => exact withoutBraces_iff.2 (by decide)
  | marker hmarker => exact hmarker
  | config hsuppression => exact hsuppression.limits
  | branch hsuppression => exact hsuppression.limits
  | commitsAfterTag hseparator => exact hseparator.limits
  | copyright hyear => exact hyear.limits
  | release hbranch hname hhash =>
    exact ⟨fun name hmem => ⟨(hname name hmem).1, hbranch.limits name hmem, (hname name hmem).2⟩, hhash.limits⟩
  | field | tag | tagWithoutV => trivial

/-! ### Characters -/

lemma LengthPart.braceless {length : Option Nat} (h : LengthPart cs length) : Braceless cs := by
  cases h with
  | nothing => decide
  | length hdigits => exact braceless_cons_iff.2 ⟨rfl, hdigits.braceless⟩

/-- Arguments hold no braces, so that a placeholder ends where it is closed. -/
lemma Arguments.braceless (h : Arguments cs token) : Braceless cs := by
  cases h with
  | hash _ hlength => exact hlength.braceless
  | revision hoffset =>
    cases hoffset with
    | nothing => decide
    | plus hdigits => exact braceless_cons_iff.2 ⟨rfl, hdigits.braceless⟩
    | minus hdigits => exact braceless_cons_iff.2 ⟨rfl, hdigits.braceless⟩
  | marker hmarker => exact braceless_cons_iff.2 ⟨rfl, withoutBraces_iff.1 hmarker⟩
  | config hsuppression | branch hsuppression =>
    cases hsuppression with
    | nothing => decide
    | suppression hlimits =>
      refine braceless_cons_iff.2 ⟨rfl, braceless_append_iff.2 ⟨withoutBraces_iff.1 hlimits.1, ?_⟩⟩
      exact braceless_cons_iff.2 ⟨rfl, withoutBraces_iff.1 hlimits.2.1⟩
  | commitsAfterTag hseparator =>
    cases hseparator with
    | nothing => decide
    | text hbraces => exact braceless_cons_iff.2 ⟨rfl, withoutBraces_iff.1 hbraces⟩
  | copyright hyear =>
    cases hyear with
    | nothing => decide
    | year hyear => exact braceless_cons_iff.2 ⟨rfl, braceless_append_iff.2 ⟨hyear.1.braceless, by decide⟩⟩
  | release hbranch _ hhash =>
    refine braceless_append_iff.2 ⟨?_, ?_⟩
    · cases hbranch with
      | nothing => decide
      | text hbraces => exact braceless_cons_iff.2 ⟨rfl, withoutBraces_iff.1 hbraces⟩
    · cases hhash with
      | nothing => decide
      | hash hlength => exact braceless_append_iff.2 ⟨by decide, hlength.braceless⟩
  | mark | field | tag | tagWithoutV => decide

/-- Arguments do not go on with the letters of the name before them. -/
lemma Arguments.endsName (h : Arguments cs token) : ∀ c ∈ cs.head?, isLetter c = false := by
  cases h with
  | hash _ hlength =>
    cases hlength with
    | nothing => exact nofun
    | length => rintro _ ⟨⟩; rfl
  | revision hoffset =>
    cases hoffset with
    | nothing => exact nofun
    | plus => rintro _ ⟨⟩; rfl
    | minus => rintro _ ⟨⟩; rfl
  | config hsuppression | branch hsuppression =>
    cases hsuppression with
    | nothing => exact nofun
    | suppression => rintro _ ⟨⟩; rfl
  | commitsAfterTag hseparator =>
    cases hseparator with
    | nothing => exact nofun
    | text => rintro _ ⟨⟩; rfl
  | copyright hyear =>
    cases hyear with
    | nothing => exact nofun
    | year => rintro _ ⟨⟩; rfl
  | release hbranch _ hhash =>
    cases hbranch with
    | nothing =>
      cases hhash with
      | nothing => exact nofun
      | hash => rintro _ ⟨⟩; rfl
    | text => rintro _ ⟨⟩; rfl
  | mark | field | tag => exact nofun
  | marker | tagWithoutV => rintro _ ⟨⟩; rfl

lemma SignedArguments.endsName (h : SignedArguments cs token) : ∀ c ∈ cs.head?, isLetter c = false := by
  cases h <;> (rintro _ ⟨⟩; rfl)

/-! ### Names -/

/-- A name of letters ends where the arguments begin. -/
lemma splitName_letters {name : List Char} (hne : name ≠ []) (hname : ∀ c ∈ name, isLetter c = true)
    (hcs : ∀ c ∈ cs.head?, isLetter c = false) : splitName (name ++ cs) = (name, cs) := by
  cases name with
  | nil => exact absurd rfl hne
  | cons c name =>
    have hmark : ∀ rest, c :: (name ++ cs) ≠ '!' :: rest := by
      rintro rest he
      have hc := hname c List.mem_cons_self
      rw [(List.cons.inj he).1] at hc
      exact absurd hc (by decide)
    rw [List.cons_append, splitName.eq_2 _ hmark, ← List.cons_append, takeWhile_run_append hname hcs,
      dropWhile_run_append hname hcs]

/-- Nothing is lost by splitting off the name. -/
lemma splitName_append (inner : List Char) : (splitName inner).1 ++ (splitName inner).2 = inner := by
  unfold splitName
  split
  · rfl
  · exact List.takeWhile_append_dropWhile

/-- The name of a family is found in front of arguments. -/
lemma splitName_of_mem {name : String} (hname : name ∈ families) (hcs : ∀ c ∈ cs.head?, isLetter c = false) :
    splitName (name.toList ++ cs) = (name.toList, cs) := by
  have hnames : ∀ name ∈ families, name = "!" ∨ name.toList ≠ [] ∧ name.toList.all isLetter = true := by decide
  obtain rfl | ⟨hne, hletters⟩ := hnames name hname
  · rfl
  · exact splitName_letters hne (List.all_eq_true.1 hletters) hcs

lemma inner_braces (inner : List Char) : Placeholder.inner ('{' :: (inner ++ ['}'])) = inner := by
  simp [Placeholder.inner]

end Placeholder

namespace Token

open Placeholder Template

variable {inner : List Char} {token : Token}

lemma family_mem (h : token.isTime = false) : token.family ∈ families := by
  cases token with
  | time => cases h
  | hash upper => cases upper <;> simp [family, families]
  | field f => cases f <;> simp [family, Field.spelling, families]
  | _ => simp [family, families]

/-- A text that is spelled belongs to the family of its placeholder. -/
lemma Spells.splitName_eq (h : Spells inner token) :
    ∃ cs, splitName inner = (token.family.toList, cs) ∧ Arguments cs token := by
  obtain ⟨harguments⟩ := h
  exact ⟨_, splitName_of_mem (family_mem harguments.wellFormed.1) harguments.endsName, harguments⟩

lemma SpellsSigned.splitName_eq (h : SpellsSigned inner token) :
    ∃ cs, splitName inner = (token.family.toList, cs) ∧ SignedArguments cs token := by
  obtain ⟨harguments⟩ := h
  exact ⟨_, splitName_of_mem (family_mem (by cases harguments <;> rfl)) harguments.endsName, harguments⟩

lemma Spells.wellFormed (h : Spells inner token) : token.isTime = false ∧ token.WellFormed := by
  obtain ⟨harguments⟩ := h
  exact harguments.wellFormed

lemma Spells.braceless (h : Spells inner token) : Braceless inner := by
  have htime := h.wellFormed.1
  obtain ⟨harguments⟩ := h
  refine braceless_append_iff.2 ⟨?_, harguments.braceless⟩
  have hnames : ∀ name ∈ families, Braceless name.toList := by decide
  exact hnames _ (family_mem htime)

/-! ### Writing placeholders -/

lemma toList_argument (text : String) : (argument (some text)).toList = ':' :: text.toList := by
  simp [argument, String.toList_append]

lemma lengthPart_argument {length : Option Nat} (h : ∀ n ∈ length, SpellableLength n) :
    LengthPart (argument (length.map toString)).toList length := by
  cases length with
  | none => exact .nothing
  | some n =>
    rw [Option.map_some, toList_argument, toList_toString]
    exact .length (TimeScheme.natural?_eq_some_iff_digits.1 (natural?_toDigits n)) (h n rfl)

lemma textPart_argument {text : Option String} (h : ∀ t ∈ text, WithoutBraces t) :
    TextPart (argument text).toList text := by
  cases text with
  | none => exact .nothing
  | some t =>
    rw [toList_argument]
    exact .text (h t rfl)

lemma suppressionPart_argument {suppression : Option Suppression} (h : ∀ s ∈ suppression, SpellableSuppression s) :
    SuppressionPart (argument (suppression.map suppressionText)).toList suppression := by
  cases suppression with
  | none => exact .nothing
  | some s =>
    have htext : (suppressionText s).toList = s.separator.toList ++ ':' :: s.reference.toList := by
      simp [suppressionText, String.toList_append]
    rw [Option.map_some, toList_argument, htext]
    exact .suppression (h s rfl)

lemma offsetPart_signedText {offset : Int} (h : -(signedLimit : Int) ≤ offset ∧ offset < signedLimit) :
    OffsetPart (signedText offset).toList offset := by
  have hdigits := TimeScheme.natural?_eq_some_iff_digits.1 (natural?_toDigits offset.natAbs)
  unfold signedText
  split
  · next hzero =>
    rw [hzero]
    exact .nothing
  · rw [String.toList_append, toList_toString]
    split
    · have hvalue : offset = -(offset.natAbs : Int) := by omega
      generalize offset.natAbs = n at *
      subst hvalue
      exact .minus hdigits (by omega)
    · have hvalue : offset = (offset.natAbs : Int) := by omega
      generalize offset.natAbs = n at *
      subst hvalue
      exact .plus hdigits (by omega)

lemma startYearPart_argument {startYear : Option Int} (h : ∀ year ∈ startYear, 0 ≤ year ∧ year ≤ 9999) :
    StartYearPart (argument (startYear.map fun year => padded 4 year.natAbs ++ "-")).toList startYear := by
  cases startYear with
  | none => exact .nothing
  | some year =>
    have hlimits := h year rfl
    obtain ⟨n, rfl⟩ := Int.eq_ofNat_of_zero_le hlimits.1
    have hdigits := TimeScheme.natural?_eq_some_iff_digits.1 (natural?_padded 4 n)
    have hlength : (padded 4 n).toList.length = 4 := length_padded (by decide) (by omega)
    have hhyphen : "-".toList = ['-'] := rfl
    rw [Option.map_some, toList_argument, String.toList_append, hhyphen]
    exact .year ⟨hdigits, hlength⟩

lemma spells_of_spelling_eq {arguments : String} (h : Arguments arguments.toList token)
    (hspelling : token.spelling = token.family ++ arguments) : Spells token.spelling.toList token := by
  rw [hspelling, String.toList_append]
  exact .mk h

/-- Every placeholder within the limits can be written. -/
lemma spells_spelling (htime : token.isTime = false) (h : token.WellFormed) : Spells token.spelling.toList token := by
  cases token with
  | time => cases htime
  | hash upper length => exact spells_of_spelling_eq (.hash upper (lengthPart_argument h)) rfl
  | revision offset => exact spells_of_spelling_eq (.revision (offsetPart_signedText h)) rfl
  | modified marker =>
    have harguments : Arguments (argument (some marker)).toList (.modified marker) := by
      rw [toList_argument]
      exact .marker h
    exact spells_of_spelling_eq harguments rfl
  | field f =>
    have harguments : Arguments "".toList (.field f) := .field f
    exact spells_of_spelling_eq harguments String.append_empty.symm
  | config suppression => exact spells_of_spelling_eq (.config (suppressionPart_argument h)) rfl
  | branch suppression => exact spells_of_spelling_eq (.branch (suppressionPart_argument h)) rfl
  | tag withoutV =>
    cases withoutV with
    | false =>
      have harguments : Arguments (argument none).toList (.tag false) := .tag
      exact spells_of_spelling_eq harguments rfl
    | true =>
      have harguments : Arguments (argument (some "nov")).toList (.tag true) := .tagWithoutV
      exact spells_of_spelling_eq harguments rfl
  | commitsAfterTag separator => exact spells_of_spelling_eq (.commitsAfterTag (textPart_argument h)) rfl
  | copyright startYear => exact spells_of_spelling_eq (.copyright (startYearPart_argument h)) rfl
  | release defaultBranch withHash length =>
    obtain ⟨hbranch, hlength⟩ := h
    have hhash : HashPart (if withHash then "+chash" ++ argument (length.map toString) else "").toList withHash
        length := by
      cases withHash with
      | true =>
        rw [if_pos rfl, String.toList_append]
        exact .hash (lengthPart_argument fun n hn => (hlength n hn).2)
      | false =>
        cases length with
        | none => exact .nothing
        | some n => cases (hlength n rfl).1
    have harguments := Arguments.release (textPart_argument fun name hname => (hbranch name hname).2.1)
      (fun name hname => ⟨(hbranch name hname).1, (hbranch name hname).2.2⟩) hhash
    rw [← String.toList_append] at harguments
    exact spells_of_spelling_eq harguments (String.append_assoc ..)

end Token

end BuildVersion
