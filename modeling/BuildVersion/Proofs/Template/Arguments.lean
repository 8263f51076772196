import BuildVersion.Proofs.Fallible
import BuildVersion.Proofs.Template.Substitution

/-!
# Arguments of placeholders

What a placeholder takes over from the text that it is read of: a family gives a placeholder for no time, and
the texts of it stand among its arguments. Main statement: `Token.takenFrom_of_read`.
-/

namespace BuildVersion

open Fallible Text

namespace Token

/-- Whether a placeholder is for a time. -/
def isTime : Token → Bool
  | time _ => true
  | _ => false

/-- The texts that a placeholder takes over from its template. -/
def texts : Token → List String
  | modified marker => [marker]
  | config suppression | branch suppression => suppression.toList.flatMap fun s => [s.separator, s.reference]
  | commitsAfterTag separator => separator.toList
  | release defaultBranch _ _ => defaultBranch.toList
  | hash _ _ | revision _ | field _ | tag _ | copyright _ | time _ => []

/-- A placeholder for no time whose texts are made of the characters of its arguments. The marker that goes
without saying is an exclamation mark. -/
structure TakenFrom (token : Token) (cs : List Char) : Prop where
  notTime : token.isTime = false
  chars : ∀ text ∈ token.texts, ∀ c ∈ text.toList, c ∈ cs ∨ c = '!'

lemma TakenFrom.mono {token : Token} {cs ds : List Char} (h : token.TakenFrom cs) (hsub : cs ⊆ ds) :
    token.TakenFrom ds :=
  ⟨h.notTime, fun text htext c hc => (h.chars text htext c hc).imp_left fun hmem => hsub hmem⟩

end Token

namespace Placeholder

variable {cs : List Char} {token : Token}

lemma readHash_takenFrom {upper : Bool} (h : readHash upper cs = .ok token) : token.TakenFrom cs := by
  unfold readHash at h
  split at h
  · cases h
    exact ⟨rfl, nofun⟩
  · split at h
    · cases h
      exact ⟨rfl, nofun⟩
    · cases h

lemma readRevision_takenFrom (h : readRevision cs = .ok token) : token.TakenFrom cs := by
  unfold readRevision at h
  split at h
  · cases h
    exact ⟨rfl, nofun⟩
  · split at h
    · split at h
      · cases h
      · split at h
        · cases h
          exact ⟨rfl, nofun⟩
        · cases h
    · cases h

lemma readModified_takenFrom (h : readModified cs = .ok token) : token.TakenFrom cs := by
  unfold readModified at h
  split at h
  · cases h
    refine ⟨rfl, fun text htext c hc => ?_⟩
    rw [List.mem_singleton.1 htext] at hc
    exact .inr (List.mem_singleton.1 hc)
  · next marker =>
    cases h
    refine ⟨rfl, fun text htext c hc => ?_⟩
    rw [List.mem_singleton.1 htext, String.toList_ofList] at hc
    exact .inl (List.mem_cons_of_mem _ hc)
  · cases h

/-- Both texts of a suppression stand between the colons. -/
lemma readSuppression_chars {suppression : Option Suppression} (h : readSuppression cs = .ok suppression) :
    ∀ text ∈ suppression.toList.flatMap fun s => [s.separator, s.reference], ∀ c ∈ text.toList, c ∈ cs := by
  unfold readSuppression at h
  split at h
  · cases h
    exact nofun
  · next rest =>
    split at h
    · next separator reference hcut =>
      cases h
      obtain ⟨rfl, _⟩ := cut?_eq_some_iff.1 hcut
      intro text htext c hc
      apply List.mem_cons_of_mem
      simp only [Option.toList_some, List.flatMap_singleton, List.mem_cons, List.not_mem_nil, or_false] at htext
      rcases htext with rfl | rfl
      · rw [String.toList_ofList] at hc
        exact List.mem_append_left _ hc
      · rw [String.toList_ofList] at hc
        exact List.mem_append_right _ (List.mem_cons_of_mem _ hc)
    · cases h
  · cases h

lemma readTag_takenFrom (h : readTag cs = .ok token) : token.TakenFrom cs := by
  unfold readTag at h
  split at h
  · cases h
    exact ⟨rfl, nofun⟩
  · cases h
    exact ⟨rfl, nofun⟩
  · cases h

lemma readCommitsAfterTag_takenFrom (h : readCommitsAfterTag cs = .ok token) : token.TakenFrom cs := by
  unfold readCommitsAfterTag at h
  split at h
  · cases h
    exact ⟨rfl, nofun⟩
  · cases h
    refine ⟨rfl, fun text htext c hc => ?_⟩
    rw [List.mem_singleton.1 htext, String.toList_ofList] at hc
    exact .inl (List.mem_cons_of_mem _ hc)
  · cases h

lemma readCopyright_takenFrom (h : readCopyright cs = .ok token) : token.TakenFrom cs := by
  unfold readCopyright at h
  split at h
  · cases h
    exact ⟨rfl, nofun⟩
  · split at h
    · cases h
      exact ⟨rfl, nofun⟩
    · cases h
  · cases h

lemma readDefaultBranch_chars {defaultBranch : Option String} (h : readDefaultBranch cs = .ok defaultBranch) :
    ∀ name ∈ defaultBranch.toList, ∀ c ∈ name.toList, c ∈ cs := by
  unfold readDefaultBranch at h
  split at h
  · cases h
    exact nofun
  · split at h
    · cases h
    · cases h
      intro name hname c hc
      rw [List.mem_singleton.1 hname, String.toList_ofList] at hc
      exact List.mem_cons_of_mem _ hc
  · cases h

lemma readRelease_takenFrom (h : readRelease cs = .ok token) : token.TakenFrom cs := by
  unfold readRelease at h
  split at h
  · obtain ⟨defaultBranch, hbranch, rfl⟩ := map_eq_ok_iff.1 h
    exact ⟨rfl, fun name hname c hc => .inl (readDefaultBranch_chars hbranch name hname c hc)⟩
  · next branch hash hcut =>
    split at h
    · cases h
    · obtain ⟨defaultBranch, hbranch, h⟩ := bind_eq_ok_iff.1 h
      obtain ⟨length, _, h⟩ := bind_eq_ok_iff.1 h
      cases h
      obtain ⟨rfl, _⟩ := cut?_eq_some_iff.1 hcut
      exact ⟨rfl, fun name hname c hc =>
        .inl (List.mem_append_left _ (readDefaultBranch_chars hbranch name hname c hc))⟩

lemma readField_takenFrom {field : Field} (h : readField field cs = .ok token) : token.TakenFrom cs := by
  unfold readField at h
  split at h
  · cases h
    exact ⟨rfl, nofun⟩
  · cases h

lemma map_some_eq_ok_iff {α ε : Type} {x : Except ε α} {a : α} : some <$> x = .ok (some a) ↔ x = .ok a := by
  cases x <;> simp [Functor.map, Except.map]

lemma map_comp_some_eq_ok_iff {α β ε : Type} {f : α → β} {x : Except ε α} {b : β} :
    (some ∘ f) <$> x = .ok (some b) ↔ ∃ a, x = .ok a ∧ f a = b := by
  cases x <;> simp [Functor.map, Except.map]

/-- Every family takes its texts from its arguments. -/
lemma readFamily_takenFrom {name : String} (h : readFamily name cs = .ok (some token)) : token.TakenFrom cs := by
  unfold readFamily at h
  split at h
  case h_1 | h_2 => exact readHash_takenFrom (map_some_eq_ok_iff.1 h)
  case h_3 => exact readRevision_takenFrom (map_some_eq_ok_iff.1 h)
  case h_4 => exact readModified_takenFrom (map_some_eq_ok_iff.1 h)
  case h_12 | h_13 =>
    obtain ⟨suppression, hread, rfl⟩ := map_comp_some_eq_ok_iff.1 h
    exact ⟨rfl, fun text htext c hc => .inl (readSuppression_chars hread text htext c hc)⟩
  case h_14 => exact readTag_takenFrom (map_some_eq_ok_iff.1 h)
  case h_15 => exact readCommitsAfterTag_takenFrom (map_some_eq_ok_iff.1 h)
  case h_16 => exact readCopyright_takenFrom (map_some_eq_ok_iff.1 h)
  case h_17 => exact readRelease_takenFrom (map_some_eq_ok_iff.1 h)
  case h_18 => cases h
  all_goals exact readField_takenFrom (map_some_eq_ok_iff.1 h)

lemma inner_subset (text : List Char) : inner text ⊆ text := by
  unfold inner
  split
  · split
    · exact fun c hc => List.mem_cons_of_mem _ ((List.dropLast_sublist _).subset hc)
    · exact List.Subset.refl _
  · exact List.Subset.refl _

lemma splitName_subset (cs : List Char) : (splitName cs).2 ⊆ cs := by
  unfold splitName
  split
  · exact List.subset_cons_self _ _
  · exact (List.dropWhile_sublist _).subset

end Placeholder

/-- A placeholder that opens like one for a time is read as one, and as nothing else. -/
lemma Token.read_of_time {text : String} (h : TimeSpec.isTimePlaceholder text = true) :
    Token.read text = (TimeSpec.read text).map fun spec => some (.time spec) := by
  rw [Token.read, if_pos h]
  cases TimeSpec.read text <;> rfl

/-- A placeholder that does not open like one for a time takes its texts from where it is read. -/
lemma Token.takenFrom_of_read {text : String} {token : Token} (h : Token.read text = .ok (some token))
    (htime : ¬ TimeSpec.isTimePlaceholder text = true) : token.TakenFrom text.toList := by
  rw [Token.read_of_not_time htime, mapError_eq_ok_iff] at h
  exact (Placeholder.readFamily_takenFrom h).mono
    (List.Subset.trans (Placeholder.splitName_subset _) (Placeholder.inner_subset _))

end BuildVersion
