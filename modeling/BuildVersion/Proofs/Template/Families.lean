import BuildVersion.Proofs.Template.Grammar

/-!
# Reading placeholders by their families

Each family reads the arguments of its own placeholders, and besides them a length or a start year with a sign
that the grammar does not have. Main statement: `Placeholder.readFamily_eq_ok_iff`.
-/

namespace BuildVersion

open Fallible Text
open TimeScheme (Digits IsYear natural?_eq_some_iff_digits)

namespace Placeholder

open Template (Braceless braceless_append_iff braceless_cons_iff)
open Token (SpellableLength SpellableSuppression WithoutBraces)

variable {cs : List Char} {token : Token}

/-- The arguments that are read: those of the grammar, and those with a sign where none belongs. -/
def Taken (cs : List Char) (token : Token) : Prop := Arguments cs token ∨ SignedArguments cs token

/-! ### Texts and numbers -/

lemma withoutBraces_ofList_iff : WithoutBraces (String.ofList cs) ↔ Braceless cs := by
  rw [withoutBraces_iff, String.toList_ofList]

lemma textPart_ofList (h : Braceless cs) : TextPart (':' :: cs) (some (String.ofList cs)) := by
  have hpart := TextPart.text (withoutBraces_ofList_iff.2 h)
  rwa [String.toList_ofList] at hpart

lemma digits_dropPlus_iff {n : Nat} :
    Digits (dropPlus cs) n ↔ Digits cs n ∨ ∃ ds, cs = '+' :: ds ∧ Digits ds n := by
  unfold dropPlus
  split
  · next ds =>
    constructor
    · exact fun h => .inr ⟨ds, rfl, h⟩
    · rintro (h | ⟨_, he, h⟩)
      · cases h.digits '+' List.mem_cons_self
      · cases he
        exact h
  · next hplus =>
    constructor
    · exact .inl
    · rintro (h | ⟨ds, he, _⟩)
      · exact h
      · exact absurd he (hplus ds)

lemma word?_eq_some_iff {w : UInt64} : word? cs = some w ↔ Digits (dropPlus cs) w.toNat := by
  rw [← natural?_eq_some_iff_digits]
  have hlt : w.toNat < wordLimit := w.toNat_lt
  unfold word?
  cases natural? (dropPlus cs) with
  | none => exact iff_of_false nofun nofun
  | some n =>
    simp only [Option.ite_none_right_eq_some, Option.some.injEq]
    constructor
    · rintro ⟨hn, rfl⟩
      exact (UInt64.toNat_ofNat_of_lt' hn).symm
    · rintro rfl
      exact ⟨hlt, UInt64.ofNat_toNat⟩

lemma map_natural?_eq_some_iff {f : Nat → Int} {n : Int} :
    (natural? cs).map f = some n ↔ ∃ m : Nat, Digits cs m ∧ n = f m := by
  rw [Option.map_eq_some_iff]
  exact exists_congr fun m => and_congr natural?_eq_some_iff_digits eq_comm

/-- An integer is digits, perhaps behind one sign. -/
lemma integer?_eq_some_iff {n : Int} :
    integer? cs = some n ↔ (∃ m : Nat, Digits (dropPlus cs) m ∧ n = m) ∨
      ∃ ds, ∃ m : Nat, cs = '-' :: ds ∧ Digits ds m ∧ n = -m := by
  by_cases hminus : ∃ ds, cs = '-' :: ds
  · obtain ⟨ds, rfl⟩ := hminus
    have hread : integer? ('-' :: ds) = (natural? ds).map fun m : Nat => -(m : Int) := by
      rw [integer?]
      cases natural? ds <;> rfl
    rw [hread, map_natural?_eq_some_iff]
    constructor
    · rintro ⟨m, h, rfl⟩
      exact .inr ⟨ds, m, rfl, h, rfl⟩
    · rintro (⟨m, h, rfl⟩ | ⟨_, m, he, h, rfl⟩)
      · cases h.digits '-' List.mem_cons_self
      · cases he
        exact ⟨m, h, rfl⟩
  · have hread : integer? cs = (natural? (dropPlus cs)).map fun m : Nat => (m : Int) := by
      rw [integer?.eq_2 _ fun ds he => hminus ⟨ds, he⟩]
      cases natural? (dropPlus cs) <;> rfl
    rw [hread, map_natural?_eq_some_iff]
    constructor
    · exact .inl
    · rintro (h | ⟨ds, _, he, _⟩)
      · exact h
      · exact absurd ⟨ds, he⟩ hminus

/-! ### Arguments of one family -/

lemma readLength_eq_ok_iff {n : Nat} :
    readLength cs = .ok n ↔ ∃ ds, cs = ':' :: ds ∧ Digits (dropPlus ds) n ∧ SpellableLength n := by
  unfold readLength
  split
  · next ds =>
    constructor
    · intro h
      split at h
      · next w hw =>
        split at h
        · next hpos =>
          cases h
          exact ⟨ds, rfl, word?_eq_some_iff.1 hw, hpos, w.toNat_lt⟩
        · cases h
      · cases h
    · rintro ⟨_, he, hdigits, hpos, hlt⟩
      cases he
      have hvalue : (UInt64.ofNat n).toNat = n := UInt64.toNat_ofNat_of_lt' hlt
      have hword : word? ds = some (UInt64.ofNat n) := word?_eq_some_iff.2 (hvalue.symm ▸ hdigits)
      rw [hword]
      simp only [hvalue]
      rw [if_pos hpos]
  · next hcolon =>
    constructor
    · intro h
      cases h
    · rintro ⟨ds, rfl, _⟩
      exact absurd rfl (hcolon ds)

lemma readHash_eq_ok_iff {upper : Bool} :
    readHash upper cs = .ok token ↔ (∃ length, token = .hash upper length) ∧ Taken cs token := by
  constructor
  · intro h
    unfold readHash at h
    split at h
    · next hempty =>
      cases h
      rw [List.isEmpty_iff.1 hempty]
      exact ⟨⟨_, rfl⟩, .inl (.hash upper .nothing)⟩
    · split at h
      · next n hn =>
        cases h
        obtain ⟨ds, rfl, hdigits, hlimits⟩ := readLength_eq_ok_iff.1 hn
        refine ⟨⟨_, rfl⟩, ?_⟩
        obtain hds | ⟨ds, rfl, hds⟩ := digits_dropPlus_iff.1 hdigits
        · exact .inl (.hash upper (.length hds hlimits))
        · exact .inr (.length upper hds hlimits)
      · cases h
  · rintro ⟨⟨length, rfl⟩, htaken⟩
    have hread : ∀ {ds : List Char} {n : Nat}, Digits (dropPlus ds) n → SpellableLength n →
        readHash upper (':' :: ds) = .ok (.hash upper (some n)) := by
      intro ds n hds hlimits
      rw [readHash, if_neg (by simp), readLength_eq_ok_iff.2 ⟨ds, rfl, hds, hlimits⟩]
    obtain harguments | hsigned := htaken
    · cases harguments with
      | hash _ hlength =>
        cases hlength with
        | nothing => rfl
        | length hds hlimits => exact hread (digits_dropPlus_iff.2 (.inl hds)) hlimits
    · cases hsigned with
      | length _ hds hlimits => exact hread (digits_dropPlus_iff.2 (.inr ⟨_, rfl, hds⟩)) hlimits

lemma readRevision_eq_ok_iff :
    readRevision cs = .ok token ↔ (∃ offset, token = .revision offset) ∧ Taken cs token := by
  constructor
  · intro h
    unfold readRevision at h
    split at h
    · cases h
      exact ⟨⟨_, rfl⟩, .inl (.revision .nothing)⟩
    · next sign digits =>
      split at h
      · next hsign =>
        split at h
        · cases h
        · split at h
          · next offset hoffset =>
            cases h
            obtain ⟨hinteger, hlimits⟩ := signedWord?_eq_some_iff.1 hoffset
            refine ⟨⟨_, rfl⟩, .inl (.revision ?_)⟩
            obtain ⟨m, hdigits, rfl⟩ | ⟨ds, m, he, hdigits, rfl⟩ := integer?_eq_some_iff.1 hinteger
            · obtain hds | ⟨ds, he, hds⟩ := digits_dropPlus_iff.1 hdigits
              · -- The sign would be a digit.
                have hdigit := hds.digits sign List.mem_cons_self
                obtain rfl | rfl := hsign <;> cases hdigit
              · rw [he]
                exact .plus hds (by omega)
            · rw [he]
              exact .minus hdigits (by omega)
          · cases h
      · cases h
  · rintro ⟨⟨offset, rfl⟩, harguments | hsigned⟩
    · cases harguments with
      | revision hoffset =>
        have hlimits := hoffset.limits
        have hread : ∀ {sign : Char} {ds : List Char} {n : Nat}, sign = '+' ∨ sign = '-' → Digits ds n →
            integer? (sign :: ds) = some offset → readRevision (sign :: ds) = .ok (.revision offset) := by
          intro sign ds n hsign hds hinteger
          have hdigits : ¬ (ds.isEmpty = true ∨ (!ds.all isDigit) = true) := by
            simpa using ⟨hds.nonempty, hds.digits⟩
          rw [readRevision, if_pos hsign, if_neg hdigits, signedWord?_eq_some_iff.2 ⟨hinteger, hlimits⟩]
        cases hoffset with
        | nothing => rfl
        | plus hds => exact hread (.inl rfl) hds (integer?_eq_some_iff.2 (.inl ⟨_, hds, rfl⟩))
        | minus hds => exact hread (.inr rfl) hds (integer?_eq_some_iff.2 (.inr ⟨_, _, rfl, hds, rfl⟩))
    · cases hsigned

lemma readModified_eq_ok_iff (hcs : Braceless cs) :
    readModified cs = .ok token ↔ (∃ marker, token = .modified marker) ∧ Taken cs token := by
  constructor
  · intro h
    unfold readModified at h
    split at h
    · cases h
      exact ⟨⟨_, rfl⟩, .inl .mark⟩
    · next marker =>
      cases h
      have harguments := Arguments.marker (withoutBraces_ofList_iff.2 hcs.tail)
      rw [String.toList_ofList] at harguments
      exact ⟨⟨_, rfl⟩, .inl harguments⟩
    · cases h
  · rintro ⟨⟨marker, rfl⟩, harguments | hsigned⟩
    · cases harguments with
      | mark => rfl
      | marker => rw [readModified, String.ofList_toList]
    · cases hsigned

lemma readSuppression_eq_ok_iff (hcs : Braceless cs) {suppression : Option Suppression} :
    readSuppression cs = .ok suppression ↔ SuppressionPart cs suppression := by
  constructor
  · intro h
    unfold readSuppression at h
    split at h
    · cases h
      exact .nothing
    · next rest =>
      split at h
      · next separator reference hcut =>
        cases h
        obtain ⟨rfl, hcolon⟩ := cut?_eq_some_iff.1 hcut
        obtain ⟨hseparator, hreference⟩ := braceless_append_iff.1 hcs.tail
        have hlimits : SpellableSuppression ⟨String.ofList separator, String.ofList reference⟩ := by
          refine ⟨withoutBraces_ofList_iff.2 hseparator, withoutBraces_ofList_iff.2 hreference.tail, ?_⟩
          rwa [String.toList_ofList]
        have hpart := SuppressionPart.suppression hlimits
        rwa [String.toList_ofList, String.toList_ofList] at hpart
      · cases h
    · cases h
  · intro h
    cases h with
    | nothing => rfl
    | @suppression s hlimits =>
      have hcut : cut? ':' (s.separator.toList ++ ':' :: s.reference.toList) =
          some (s.separator.toList, s.reference.toList) := cut?_eq_some_iff.2 ⟨rfl, hlimits.2.2⟩
      rw [readSuppression, hcut]
      simp only [String.ofList_toList]

lemma readField_eq_ok_iff {field : Field} :
    readField field cs = .ok token ↔ token = .field field ∧ Taken cs token := by
  unfold readField
  constructor
  · intro h
    split at h
    · next hempty =>
      cases h
      rw [List.isEmpty_iff.1 hempty]
      exact ⟨rfl, .inl (.field field)⟩
    · cases h
  · rintro ⟨rfl, harguments | hsigned⟩
    · cases harguments
      rfl
    · cases hsigned

lemma readTag_eq_ok_iff : readTag cs = .ok token ↔ (∃ withoutV, token = .tag withoutV) ∧ Taken cs token := by
  constructor
  · intro h
    unfold readTag at h
    split at h
    · cases h
      exact ⟨⟨_, rfl⟩, .inl .tag⟩
    · cases h
      exact ⟨⟨_, rfl⟩, .inl .tagWithoutV⟩
    · cases h
  · rintro ⟨⟨withoutV, rfl⟩, harguments | hsigned⟩
    · cases harguments with
      | tag => rfl
      | tagWithoutV => rfl
    · cases hsigned

lemma readCommitsAfterTag_eq_ok_iff (hcs : Braceless cs) :
    readCommitsAfterTag cs = .ok token ↔ (∃ separator, token = .commitsAfterTag separator) ∧ Taken cs token := by
  constructor
  · intro h
    unfold readCommitsAfterTag at h
    split at h
    · cases h
      exact ⟨⟨_, rfl⟩, .inl (.commitsAfterTag .nothing)⟩
    · next separator =>
      cases h
      exact ⟨⟨_, rfl⟩, .inl (.commitsAfterTag (textPart_ofList hcs.tail))⟩
    · cases h
  · rintro ⟨⟨separator, rfl⟩, harguments | hsigned⟩
    · cases harguments with
      | commitsAfterTag hpart =>
        cases hpart with
        | nothing => rfl
        | text => rw [readCommitsAfterTag, String.ofList_toList]
    · cases hsigned

lemma readCopyright_eq_ok_iff :
    readCopyright cs = .ok token ↔ (∃ startYear, token = .copyright startYear) ∧ Taken cs token := by
  constructor
  · intro h
    unfold readCopyright at h
    split at h
    · cases h
      exact ⟨⟨_, rfl⟩, .inl (.copyright .nothing)⟩
    · next a b c d =>
      split at h
      · next year hyear =>
        cases h
        refine ⟨⟨_, rfl⟩, ?_⟩
        obtain ⟨m, hdigits, rfl⟩ | ⟨ds, m, he, hds, rfl⟩ := integer?_eq_some_iff.1 hyear
        · obtain hds | ⟨ds, he, hds⟩ := digits_dropPlus_iff.1 hdigits
          · have hpart : StartYearPart (':' :: ([a, b, c, d] ++ ['-'])) (some m) := .year ⟨hds, rfl⟩
            exact .inl (.copyright hpart)
          · cases he
            exact .inr (.yearPlus hds rfl)
        · cases he
          exact .inr (.yearMinus hds rfl)
      · cases h
    · cases h
  · rintro ⟨⟨startYear, rfl⟩, htaken⟩
    have hread : ∀ (ys : List Char) {year : Int}, ys.length = 4 → integer? ys = some year →
        readCopyright (':' :: (ys ++ ['-'])) = .ok (.copyright (some year)) := by
      intro ys year hlength hyear
      match ys, hlength with
      | [a, b, c, d], _ => simp [readCopyright, hyear]
    obtain harguments | hsigned := htaken
    · cases harguments with
      | copyright hpart =>
        cases hpart with
        | nothing => rfl
        | year hyear =>
          exact hread _ hyear.2 (integer?_eq_some_iff.2 (.inl ⟨_, digits_dropPlus_iff.2 (.inl hyear.1), rfl⟩))
    · cases hsigned with
      | yearPlus hds hlength =>
        exact hread ('+' :: _) (congrArg (· + 1) hlength) (integer?_eq_some_iff.2 (.inl ⟨_, hds, rfl⟩))
      | yearMinus hds hlength =>
        exact hread ('-' :: _) (congrArg (· + 1) hlength)
          (integer?_eq_some_iff.2 (.inr ⟨_, _, rfl, hds, rfl⟩))

/-! ### Arguments of a release -/

lemma readDefaultBranch_eq_ok_iff (hcs : Braceless cs) {defaultBranch : Option String} :
    readDefaultBranch cs = .ok defaultBranch ↔ TextPart cs defaultBranch ∧ ∀ name ∈ defaultBranch, name ≠ "" := by
  constructor
  · intro h
    unfold readDefaultBranch at h
    split at h
    · cases h
      exact ⟨.nothing, nofun⟩
    · next name =>
      split at h
      · cases h
      · next hname =>
        cases h
        refine ⟨textPart_ofList hcs.tail, ?_⟩
        rintro _ ⟨⟩ hempty
        rw [String.ofList_eq_empty_iff.1 hempty] at hname
        exact hname rfl
    · cases h
  · rintro ⟨hpart, hname⟩
    cases hpart with
    | nothing => rfl
    | @text name _ =>
      have hne : name.toList.isEmpty = false :=
        List.isEmpty_eq_false_iff.2 fun he => hname name rfl (String.toList_eq_nil_iff.1 he)
      rw [readDefaultBranch, hne]
      simp only [String.ofList_toList]
      rfl

lemma readHashLength_eq_ok_iff {length : Option Nat} : readHashLength cs = .ok length ↔ LengthPart cs length := by
  constructor
  · intro h
    unfold readHashLength at h
    split at h
    · cases h
      exact .nothing
    · split at h
      · next n hn =>
        split at h
        · next hlimits =>
          cases h
          exact .length (natural?_eq_some_iff_digits.1 hn) hlimits
        · cases h
      · cases h
    · cases h
  · intro h
    cases h with
    | nothing => rfl
    | length hds hlimits =>
      rw [readHashLength, natural?_eq_some_iff_digits.2 hds]
      exact if_pos hlimits

lemma TextPart.subset {text : Option String} (h : TextPart cs text) : ∀ t ∈ text, t.toList ⊆ cs := by
  cases h with
  | nothing => exact nofun
  | text =>
    rintro _ ⟨⟩
    exact List.subset_cons_self _ _

/-- A default branch ends where the plus sign of the hash stands. -/
lemma TextPart.plus_notMem {defaultBranch : Option String} (h : TextPart cs defaultBranch)
    (hname : ∀ name ∈ defaultBranch, '+' ∉ name.toList) : '+' ∉ cs := by
  cases h with
  | nothing => exact List.not_mem_nil
  | text => exact List.not_mem_cons_of_ne_of_not_mem (by decide) (hname _ rfl)

lemma readRelease_eq_ok_iff (hcs : Braceless cs) :
    readRelease cs = .ok token ↔
      (∃ defaultBranch withHash length, token = .release defaultBranch withHash length) ∧ Taken cs token := by
  constructor
  · intro h
    unfold readRelease at h
    split at h
    · next hcut =>
      obtain ⟨defaultBranch, hbranch, rfl⟩ := map_eq_ok_iff.1 h
      obtain ⟨hpart, hname⟩ := (readDefaultBranch_eq_ok_iff hcs).1 hbranch
      have hplus : ∀ name ∈ defaultBranch, name ≠ "" ∧ '+' ∉ name.toList := fun name hmem =>
        ⟨hname name hmem, fun hc => cut?_eq_none_iff.1 hcut (hpart.subset name hmem hc)⟩
      have harguments := Arguments.release hpart hplus .nothing
      rw [List.append_nil] at harguments
      exact ⟨⟨_, _, _, rfl⟩, .inl harguments⟩
    · next branch hash hcut =>
      obtain ⟨rfl, hplus⟩ := cut?_eq_some_iff.1 hcut
      split at h
      · cases h
      · next rest hrest =>
        obtain ⟨defaultBranch, hbranch, h⟩ := bind_eq_ok_iff.1 h
        obtain ⟨length, hlength, h⟩ := bind_eq_ok_iff.1 h
        cases h
        obtain ⟨hpart, hname⟩ := (readDefaultBranch_eq_ok_iff (braceless_append_iff.1 hcs).1).1 hbranch
        have hnames : ∀ name ∈ defaultBranch, name ≠ "" ∧ '+' ∉ name.toList := fun name hmem =>
          ⟨hname name hmem, fun hc => hplus (hpart.subset name hmem hc)⟩
        rw [← List.isPrefixOf?_eq_some_iff_append_eq.1 hrest]
        exact ⟨⟨_, _, _, rfl⟩, .inl (.release hpart hnames (.hash (readHashLength_eq_ok_iff.1 hlength)))⟩
  · rintro ⟨⟨defaultBranch, withHash, length, rfl⟩, harguments | hsigned⟩
    · cases harguments with
      | @release bs hs _ _ _ hpart hname hhash =>
        have hplus := hpart.plus_notMem fun name hmem => (hname name hmem).2
        have hread : readDefaultBranch bs = .ok defaultBranch :=
          (readDefaultBranch_eq_ok_iff (braceless_append_iff.1 hcs).1).2
            ⟨hpart, fun name hmem => (hname name hmem).1⟩
        cases hhash with
        | nothing =>
          rw [List.append_nil, readRelease, cut?_eq_none_iff.2 hplus]
          exact map_eq_ok_iff.2 ⟨_, hread, rfl⟩
        | @hash ls _ hlength =>
          have hcut : cut? '+' (bs ++ ("+chash".toList ++ ls)) = some (bs, "chash".toList ++ ls) :=
            cut?_eq_some_iff.2 ⟨rfl, hplus⟩
          have hrest : "chash".toList.isPrefixOf? ("chash".toList ++ ls) = some ls :=
            List.isPrefixOf?_eq_some_iff_append_eq.2 rfl
          rw [readRelease, hcut]
          simp only [hrest]
          exact bind_eq_ok_iff.2 ⟨_, hread, bind_eq_ok_iff.2 ⟨_, readHashLength_eq_ok_iff.2 hlength, rfl⟩⟩
    · cases hsigned

/-! ### All families -/

lemma Taken.not_time (h : Taken cs token) : token.isTime = false := by
  obtain harguments | hsigned := h
  · exact harguments.wellFormed.1
  · cases hsigned <;> rfl

/-- A family reads the arguments of its own placeholders, and no others. -/
lemma readFamily_eq_ok_iff (hcs : Braceless cs) {name : String} :
    readFamily name cs = .ok (some token) ↔ name = token.family ∧ Taken cs token := by
  constructor
  · intro h
    unfold readFamily at h
    split at h
    case h_1 | h_2 =>
      obtain ⟨⟨_, rfl⟩, htaken⟩ := readHash_eq_ok_iff.1 (map_some_eq_ok_iff.1 h)
      exact ⟨rfl, htaken⟩
    case h_3 =>
      obtain ⟨⟨_, rfl⟩, htaken⟩ := readRevision_eq_ok_iff.1 (map_some_eq_ok_iff.1 h)
      exact ⟨rfl, htaken⟩
    case h_4 =>
      obtain ⟨⟨_, rfl⟩, htaken⟩ := (readModified_eq_ok_iff hcs).1 (map_some_eq_ok_iff.1 h)
      exact ⟨rfl, htaken⟩
    case h_12 =>
      obtain ⟨suppression, hread, rfl⟩ := map_comp_some_eq_ok_iff.1 h
      exact ⟨rfl, .inl (.config ((readSuppression_eq_ok_iff hcs).1 hread))⟩
    case h_13 =>
      obtain ⟨suppression, hread, rfl⟩ := map_comp_some_eq_ok_iff.1 h
      exact ⟨rfl, .inl (.branch ((readSuppression_eq_ok_iff hcs).1 hread))⟩
    case h_14 =>
      obtain ⟨⟨_, rfl⟩, htaken⟩ := readTag_eq_ok_iff.1 (map_some_eq_ok_iff.1 h)
      exact ⟨rfl, htaken⟩
    case h_15 =>
      obtain ⟨⟨_, rfl⟩, htaken⟩ := (readCommitsAfterTag_eq_ok_iff hcs).1 (map_some_eq_ok_iff.1 h)
      exact ⟨rfl, htaken⟩
    case h_16 =>
      obtain ⟨⟨_, rfl⟩, htaken⟩ := readCopyright_eq_ok_iff.1 (map_some_eq_ok_iff.1 h)
      exact ⟨rfl, htaken⟩
    case h_17 =>
      obtain ⟨⟨_, _, _, rfl⟩, htaken⟩ := (readRelease_eq_ok_iff hcs).1 (map_some_eq_ok_iff.1 h)
      exact ⟨rfl, htaken⟩
    case h_18 => cases h
    all_goals
      obtain ⟨rfl, htaken⟩ := readField_eq_ok_iff.1 (map_some_eq_ok_iff.1 h)
      exact ⟨rfl, htaken⟩
  · rintro ⟨rfl, htaken⟩
    cases token with
    | time => cases htaken.not_time
    | hash upper =>
      have hread := map_some_eq_ok_iff.2 (readHash_eq_ok_iff.2 ⟨⟨_, rfl⟩, htaken⟩)
      cases upper <;> exact hread
    | revision => exact map_some_eq_ok_iff.2 (readRevision_eq_ok_iff.2 ⟨⟨_, rfl⟩, htaken⟩)
    | modified => exact map_some_eq_ok_iff.2 ((readModified_eq_ok_iff hcs).2 ⟨⟨_, rfl⟩, htaken⟩)
    | field f =>
      have hread := map_some_eq_ok_iff.2 (readField_eq_ok_iff.2 ⟨rfl, htaken⟩)
      cases f <;> exact hread
    | config =>
      obtain harguments | hsigned := htaken
      · cases harguments with
        | config hpart =>
          exact map_comp_some_eq_ok_iff.2 ⟨_, (readSuppression_eq_ok_iff hcs).2 hpart, rfl⟩
      · cases hsigned
    | branch =>
      obtain harguments | hsigned := htaken
      · cases harguments with
        | branch hpart =>
          exact map_comp_some_eq_ok_iff.2 ⟨_, (readSuppression_eq_ok_iff hcs).2 hpart, rfl⟩
      · cases hsigned
    | tag => exact map_some_eq_ok_iff.2 (readTag_eq_ok_iff.2 ⟨⟨_, rfl⟩, htaken⟩)
    | commitsAfterTag =>
      exact map_some_eq_ok_iff.2 ((readCommitsAfterTag_eq_ok_iff hcs).2 ⟨⟨_, rfl⟩, htaken⟩)
    | copyright => exact map_some_eq_ok_iff.2 (readCopyright_eq_ok_iff.2 ⟨⟨_, rfl⟩, htaken⟩)
    | release => exact map_some_eq_ok_iff.2 ((readRelease_eq_ok_iff hcs).2 ⟨⟨_, _, _, rfl⟩, htaken⟩)

end Placeholder

end BuildVersion
