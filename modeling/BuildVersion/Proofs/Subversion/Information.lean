import BuildVersion.Proofs.Calendar.CommitDate
import BuildVersion.Provider.Subversion
import Mathlib.Data.List.Forall2
import Mathlib.Logic.Function.Basic

/-!
# Information on a revision

The lines that tell of a revision give values for keys. Main statement: only the last value of each key counts,
wherever its line stands and whatever other lines there are (`information_of_lines`).
-/

namespace BuildVersion.Subversion

open Calendar Text

/-- The keys that are read. -/
inductive Key where
  | repositoryRoot
  | relativeUrl
  | url
  | author
  | date
deriving DecidableEq

/-- How a key is written. -/
def Key.text : Key → String
  | repositoryRoot => "Repository Root"
  | relativeUrl => "Relative URL"
  | url => "URL"
  | author => "Last Changed Author"
  | date => "Last Changed Date"

/-- A line gives a value for a key: they stand before and after its first colon, with any blanks around them. -/
def Gives (line : String) (key : Key) (value : String) : Prop :=
  ∃ before after, line.toList = before ++ ':' :: after ∧ ':' ∉ before ∧
    trim before = key.text.toList ∧ trim after = value.toList

/-- A line gives no value for any of the keys. -/
def Foreign (line : String) : Prop := ∀ key value, ¬ Gives line key value

/-- No two lines give values for one key. -/
def AtMostOnce (lines : List String) : Prop :=
  lines.Pairwise fun line line' => ∀ key value value', Gives line key value → ¬ Gives line' key value'

/-- A text opens with a well-formed date of this time. -/
def OpensWith (cs : List Char) (t : Timestamp) : Prop :=
  ∃ (d : CommitDate) (date rest : List Char), cs = date ++ rest ∧ d.Spells date ∧ d.Names t

/-- The key that is written so. -/
def Key.ofText? : String → Option Key
  | "Repository Root" => some repositoryRoot
  | "Relative URL" => some relativeUrl
  | "URL" => some url
  | "Last Changed Author" => some author
  | "Last Changed Date" => some date
  | _ => none

/-- The key and the value of a line. -/
def keyValue? (line : String) : Option (Key × String) :=
  (cut? ':' line.toList).bind fun (before, after) =>
    (Key.ofText? (String.ofList (trim before))).map (·, String.ofList (trim after))

/-- The value that a line gives for a key. -/
def valueOf? (key : Key) (line : String) : Option String :=
  (keyValue? line).bind fun entry => if entry.1 = key then some entry.2 else none

/-- The values that lines give for a key, in order. -/
def values (key : Key) (lines : List String) : List String := lines.filterMap (valueOf? key)

/-- The value that a key has after all lines, nothing without any value. -/
def lastValue (key : Key) (lines : List String) : String := ((values key lines).getLast?).getD ""

variable {line value : String} {lines lines' front back : List String} {key : Key} {cs places rest : List Char}
  {mark : Char} {width : Nat} {t : Timestamp} {info : Info}

/-! ### Dates -/

/-- The characters of a text may stand at the places of a date. -/
abbrev Fits : List Char → List Char → Prop := List.Forall₂ fun place c => fitsDate place c = true

lemma fits_replicate_append (h : Fits places rest) (hcs : ∀ c ∈ cs, isDigit c = true) :
    Fits (List.replicate cs.length '0' ++ places) (cs ++ rest) := by
  induction cs with
  | nil => exact h
  | cons c cs ih => exact .cons (hcs c List.mem_cons_self) (ih fun d hd => hcs d (List.mem_cons_of_mem _ hd))

lemma exists_of_fits_replicate (h : Fits (List.replicate width '0' ++ places) cs) :
    ∃ digits rest, cs = digits ++ rest ∧ digits.length = width ∧ (∀ c ∈ digits, isDigit c = true) ∧ Fits places rest := by
  induction width generalizing cs with
  | zero => exact ⟨[], cs, rfl, rfl, nofun, h⟩
  | succ width ih =>
    obtain ⟨c, cs', hc, hcs', rfl⟩ := List.forall₂_cons_left_iff.1 h
    obtain ⟨digits, rest, rfl, hlength, hdigits, hrest⟩ := ih hcs'
    exact ⟨c :: digits, rest, rfl, congrArg (· + 1) hlength, List.forall_mem_cons.2 ⟨hc, hdigits⟩, hrest⟩

/-- The places of a number are filled by a field. -/
lemma fits_field_iff (hpos : 0 < width) :
    Fits (List.replicate width '0' ++ places) cs ↔
      ∃ field n rest, cs = field ++ rest ∧ IsField width field n ∧ Fits places rest := by
  constructor
  · intro h
    obtain ⟨digits, rest, rfl, rfl, hdigits, hrest⟩ := exists_of_fits_replicate h
    exact ⟨digits, _, rest, rfl, ⟨⟨List.length_pos_iff.1 hpos, hdigits, rfl⟩, rfl⟩, hrest⟩
  · rintro ⟨field, n, rest, rfl, ⟨hdigits, rfl⟩, hrest⟩
    exact fits_replicate_append hrest hdigits.digits

/-- The place of a mark takes no other character. -/
lemma fits_field_mark_iff (hpos : 0 < width) (hmark : mark ≠ '0' ∧ mark ≠ '+') :
    Fits (List.replicate width '0' ++ mark :: places) cs ↔
      ∃ field n rest, cs = field ++ mark :: rest ∧ IsField width field n ∧ Fits places rest := by
  have hfits : ∀ c, fitsDate mark c = true ↔ c = mark := by
    intro c
    rw [fitsDate, if_neg hmark.1, if_neg hmark.2, beq_iff_eq]
  rw [fits_field_iff hpos]
  constructor
  · rintro ⟨field, n, _, rfl, hfield, h⟩
    obtain ⟨c, rest, hc, hrest, rfl⟩ := List.forall₂_cons_left_iff.1 h
    exact ⟨field, n, rest, by rw [(hfits c).1 hc], hfield, hrest⟩
  · rintro ⟨field, n, rest, rfl, hfield, hrest⟩
    exact ⟨field, n, mark :: rest, rfl, hfield, .cons ((hfits mark).2 rfl) hrest⟩

lemma fits_sign_iff :
    Fits ('+' :: places) cs ↔
      ∃ (isWest : Bool) (rest : List Char), cs = (if isWest then '-' else '+') :: rest ∧ Fits places rest := by
  rw [Fits, List.forall₂_cons_left_iff]
  constructor
  · rintro ⟨c, rest, hc, hrest, rfl⟩
    obtain hc | hc := Bool.or_eq_true_iff.1 hc
    · exact ⟨false, rest, by rw [beq_iff_eq.1 hc]; rfl, hrest⟩
    · exact ⟨true, rest, by rw [beq_iff_eq.1 hc]; rfl, hrest⟩
  · rintro ⟨isWest, rest, rfl, hrest⟩
    exact ⟨_, rest, by cases isWest <;> rfl, hrest, rfl⟩

/-- The pattern is that of well-formed dates. -/
lemma fits_datePattern_iff : Fits datePattern cs ↔ ∃ d : CommitDate, d.Spells cs := by
  have hpattern : datePattern =
      List.replicate 4 '0' ++ '-' :: (List.replicate 2 '0' ++ '-' :: (List.replicate 2 '0' ++
        ' ' :: (List.replicate 2 '0' ++ ':' :: (List.replicate 2 '0' ++ ':' :: (List.replicate 2 '0' ++
          ' ' :: '+' :: (List.replicate 2 '0' ++ (List.replicate 2 '0' ++ []))))))) := by decide
  have hfour : 0 < 4 := by decide
  have htwo : 0 < 2 := by decide
  have hhyphen : '-' ≠ '0' ∧ '-' ≠ '+' := by decide
  have hblank : ' ' ≠ '0' ∧ ' ' ≠ '+' := by decide
  have hcolon : ':' ≠ '0' ∧ ':' ≠ '+' := by decide
  rw [hpattern]
  constructor
  · intro h
    obtain ⟨year, y, _, rfl, hyear, h⟩ := (fits_field_mark_iff hfour hhyphen).1 h
    obtain ⟨month, m, _, rfl, hmonth, h⟩ := (fits_field_mark_iff htwo hhyphen).1 h
    obtain ⟨day, d, _, rfl, hday, h⟩ := (fits_field_mark_iff htwo hblank).1 h
    obtain ⟨hour, hh, _, rfl, hhour, h⟩ := (fits_field_mark_iff htwo hcolon).1 h
    obtain ⟨minute, mm, _, rfl, hminute, h⟩ := (fits_field_mark_iff htwo hcolon).1 h
    obtain ⟨second, ss, _, rfl, hsecond, h⟩ := (fits_field_mark_iff htwo hblank).1 h
    obtain ⟨isWest, _, rfl, hoffset⟩ := fits_sign_iff.1 h
    obtain ⟨offsetHour, oh, _, rfl, hoffsetHour, hend⟩ := (fits_field_iff htwo).1 hoffset
    obtain ⟨offsetMinute, om, _, rfl, hoffsetMinute, hend⟩ := (fits_field_iff htwo).1 hend
    rw [List.forall₂_nil_left_iff.1 hend, List.append_nil]
    exact ⟨⟨y, m, d, hh, mm, ss, isWest, oh, om⟩,
      .mk hyear hmonth hday hhour hminute hsecond hoffsetHour hoffsetMinute⟩
  · rintro ⟨d, hyear, hmonth, hday, hhour, hminute, hsecond, hoffsetHour, hoffsetMinute⟩
    refine (fits_field_mark_iff hfour hhyphen).2 ⟨_, _, _, rfl, hyear, ?_⟩
    refine (fits_field_mark_iff htwo hhyphen).2 ⟨_, _, _, rfl, hmonth, ?_⟩
    refine (fits_field_mark_iff htwo hblank).2 ⟨_, _, _, rfl, hday, ?_⟩
    refine (fits_field_mark_iff htwo hcolon).2 ⟨_, _, _, rfl, hhour, ?_⟩
    refine (fits_field_mark_iff htwo hcolon).2 ⟨_, _, _, rfl, hminute, ?_⟩
    refine (fits_field_mark_iff htwo hblank).2 ⟨_, _, _, rfl, hsecond, ?_⟩
    refine fits_sign_iff.2 ⟨d.isWest, _, rfl, ?_⟩
    refine (fits_field_iff htwo).2 ⟨_, _, _, rfl, hoffsetHour, ?_⟩
    exact (fits_field_iff htwo).2 ⟨_, _, [], (List.append_nil _).symm, hoffsetMinute, .nil⟩

/-- The date that a text opens with is read if it is well-formed, and nothing else is. -/
lemma readDate?_eq_some_iff : readDate? cs = some t ↔ OpensWith cs t := by
  have hfits : ∀ date, Fits datePattern date ↔
      date.length = datePattern.length ∧ ((datePattern.zip date).all fun p => fitsDate p.1 p.2) = true := by
    intro date
    rw [Fits, List.forall₂_iff_zip, List.all_eq_true, eq_comm]
    exact and_congr_right fun _ => ⟨fun h p hp => h hp, fun h a b hp => h (a, b) hp⟩
  have hread : readDate? cs = some t ↔
      ((cs.take datePattern.length).length = datePattern.length ∧
        ((datePattern.zip (cs.take datePattern.length)).all fun p => fitsDate p.1 p.2) = true) ∧
      Timestamp.ofCommitDate? (String.ofList (cs.take datePattern.length)) = some t :=
    Option.ite_none_right_eq_some
  rw [hread, ← hfits]
  constructor
  · rintro ⟨hdate, ht⟩
    obtain ⟨d, hd⟩ := fits_datePattern_iff.1 hdate
    exact ⟨d, _, _, (List.take_append_drop _ cs).symm, hd, (CommitDate.ofCommitDate?_eq_some_iff hd).1 ht⟩
  · rintro ⟨d, date, rest, rfl, hd, ht⟩
    have hdate : Fits datePattern date := fits_datePattern_iff.2 ⟨d, hd⟩
    rw [List.take_left' hdate.length_eq.symm]
    exact ⟨hdate, (CommitDate.ofCommitDate?_eq_some_iff hd).2 ht⟩

/-! ### Lines -/

lemma Key.ofText?_eq_some_iff {text : String} : Key.ofText? text = some key ↔ text = key.text := by
  constructor
  · intro h
    unfold ofText? at h
    split at h <;> cases h <;> rfl
  · rintro rfl
    cases key <;> rfl

lemma keyValue?_eq_some_iff : keyValue? line = some (key, value) ↔ Gives line key value := by
  simp only [keyValue?, Option.bind_eq_some_iff, Prod.exists, cut?_eq_some_iff, Option.map_eq_some_iff,
    Key.ofText?_eq_some_iff, Prod.mk.injEq, Gives]
  constructor
  · rintro ⟨before, after, ⟨hline, hbefore⟩, k, hkey, rfl, rfl⟩
    exact ⟨before, after, hline, hbefore, by rw [← hkey, String.toList_ofList], by rw [String.toList_ofList]⟩
  · rintro ⟨before, after, hline, hbefore, hkey, hvalue⟩
    exact ⟨before, after, ⟨hline, hbefore⟩, key, by rw [hkey, String.ofList_toList], rfl,
      by rw [hvalue, String.ofList_toList]⟩

lemma keyValue?_eq_none_iff : keyValue? line = none ↔ Foreign line := by
  simp only [Option.eq_none_iff_forall_ne_some, Prod.forall, ne_eq, keyValue?_eq_some_iff, Foreign]

lemma valueOf?_eq_some_iff : valueOf? key line = some value ↔ Gives line key value := by
  simp only [valueOf?, Option.bind_eq_some_iff, Prod.exists, Option.ite_none_right_eq_some, Option.some.injEq,
    keyValue?_eq_some_iff]
  constructor
  · rintro ⟨_, _, h, rfl, rfl⟩
    exact h
  · intro h
    exact ⟨key, value, h, rfl, rfl⟩

/-- A line gives one value for one key. -/
lemma Gives.key_unique {key' : Key} {value' : String} (h : Gives line key value) (h' : Gives line key' value') :
    key = key' := by
  have hentry := (keyValue?_eq_some_iff.2 h).symm.trans (keyValue?_eq_some_iff.2 h')
  exact congrArg Prod.fst (Option.some.inj hentry)

lemma values_append (key : Key) (front back : List String) :
    values key (front ++ back) = values key front ++ values key back := List.filterMap_append

lemma values_eq_nil_iff : values key lines = [] ↔ ∀ line ∈ lines, ∀ value, ¬ Gives line key value := by
  simp only [values, List.filterMap_eq_nil_iff, Option.eq_none_iff_forall_ne_some, ne_eq, valueOf?_eq_some_iff]

lemma values_cons_of_gives (h : Gives line key value) (lines : List String) :
    values key (line :: lines) = value :: values key lines :=
  List.filterMap_cons_some (valueOf?_eq_some_iff.2 h)

lemma length_le_one_iff {texts : List String} : texts.length ≤ 1 ↔ texts.Pairwise fun _ _ => False := by
  match texts with
  | [] => exact iff_of_true (Nat.zero_le 1) .nil
  | [text] => exact iff_of_true (Nat.le_refl 1) (List.pairwise_singleton _ text)
  | text :: text' :: rest =>
    refine iff_of_false (Nat.not_le.2 (Nat.succ_lt_succ (Nat.succ_pos _))) fun h => ?_
    exact (List.pairwise_cons.1 h).1 text' List.mem_cons_self

/-- Two lines for one key are two values of it. -/
lemma atMostOnce_iff : AtMostOnce lines ↔ ∀ key, (values key lines).length ≤ 1 := by
  simp only [length_le_one_iff, values, List.pairwise_filterMap, valueOf?_eq_some_iff]
  simp only [AtMostOnce, List.pairwise_iff_getElem]
  constructor
  · intro h key i j hi hj hij value hv value'
    exact h i j hi hj hij key value value' hv
  · intro h i j hi hj hij key value value' hv
    exact h key i j hi hj hij value hv value'

/-- A line does not count for a key that it does not give or that is given again later. -/
lemma lastValue_append_cons (h : values key [line] = [] ∨ values key back ≠ []) :
    lastValue key (front ++ line :: back) = lastValue key (front ++ back) := by
  have hline : front ++ line :: back = front ++ ([line] ++ back) := rfl
  rw [hline, lastValue, lastValue, values_append, values_append, values_append]
  obtain hnil | hback := h
  · rw [hnil, List.nil_append]
  · rw [List.getLast?_append_of_ne_nil _ (List.append_ne_nil_of_right_ne_nil _ hback),
      List.getLast?_append_of_ne_nil _ hback, List.getLast?_append_of_ne_nil _ hback]

/-- A line decides on a key that it gives and that is not given later. -/
lemma lastValue_of_gives (h : Gives line key value) (hback : values key back = []) :
    lastValue key (front ++ line :: back) = value := by
  rw [lastValue, values_append, values_cons_of_gives h, hback, List.getLast?_concat]
  rfl

/-! ### What is read -/

/-- The information of the values of keys, before the relative address is made up for. -/
def Info.ofValues (f : Key → String) : Info where
  repositoryRoot := f .repositoryRoot
  relativeUrl := f .relativeUrl
  url := f .url
  author := f .author
  date := readDate? (f .date).toList

/-- Takes a value for a key. -/
def Info.set (info : Info) (key : Key) (value : String) : Info :=
  match key with
  | .repositoryRoot => { info with repositoryRoot := value }
  | .relativeUrl => { info with relativeUrl := value }
  | .url => { info with url := value }
  | .author => { info with author := value }
  | .date => { info with date := readDate? value.toList }

lemma set_ofValues (f : Key → String) (key : Key) (value : String) :
    (Info.ofValues f).set key value = Info.ofValues (Function.update f key value) := by
  cases key <;> rfl

lemma take_of_foreign (h : Foreign line) : info.take line = info := by
  rw [Info.take]
  split
  · rfl
  · next before after hcut =>
    obtain ⟨hline, hbefore⟩ := cut?_eq_some_iff.1 hcut
    have hkey : ∀ key : Key, String.ofList (trim before) ≠ key.text := by
      intro key hkey
      exact h key (String.ofList (trim after)) ⟨before, after, hline, hbefore, by rw [← hkey, String.toList_ofList],
        by rw [String.toList_ofList]⟩
    dsimp only
    split
    · next htext => exact absurd htext (hkey .repositoryRoot)
    · next htext => exact absurd htext (hkey .relativeUrl)
    · next htext => exact absurd htext (hkey .url)
    · next htext => exact absurd htext (hkey .author)
    · next htext => exact absurd htext (hkey .date)
    · rfl

lemma take_of_gives (h : Gives line key value) : info.take line = info.set key value := by
  obtain ⟨before, after, hline, hbefore, hkey, hvalue⟩ := h
  rw [Info.take, cut?_eq_some_iff.2 ⟨hline, hbefore⟩]
  dsimp only
  rw [hkey, hvalue, String.ofList_toList, String.ofList_toList]
  cases key <;> rfl

/-- All lines together give the last value of each key. -/
lemma foldl_take (lines : List String) : lines.foldl Info.take {} = Info.ofValues (lastValue · lines) := by
  induction lines using List.reverseRecOn with
  | nil => rfl
  | append_singleton lines line ih =>
    rw [List.foldl_append, ih, List.foldl_cons, List.foldl_nil]
    cases hentry : keyValue? line with
    | none =>
      have hforeign := keyValue?_eq_none_iff.1 hentry
      have hvalues : ∀ key, lastValue key (lines ++ [line]) = lastValue key lines := by
        intro key
        rw [lastValue_append_cons (Or.inl (values_eq_nil_iff.2 (List.forall_mem_singleton.2 (hforeign key)))),
          List.append_nil]
      rw [take_of_foreign hforeign, funext hvalues]
    | some entry =>
      obtain ⟨key, value⟩ := entry
      have hgives := keyValue?_eq_some_iff.1 hentry
      rw [take_of_gives hgives, set_ofValues]
      congr 1
      funext key'
      by_cases hkey : key' = key
      · subst hkey
        rw [Function.update_self, lastValue_of_gives hgives rfl]
      · have hother : ∀ value', ¬ Gives line key' value' := fun value' h => hkey (h.key_unique hgives)
        rw [Function.update_of_ne hkey,
          lastValue_append_cons (Or.inl (values_eq_nil_iff.2 (List.forall_mem_singleton.2 hother))), List.append_nil]

lemma read_eq (lines : List String) : Info.read lines = (Info.ofValues (lastValue · lines)).complete := by
  rw [Info.read, foldl_take]

lemma read_congr (h : ∀ key, lastValue key lines = lastValue key lines') : Info.read lines = Info.read lines' := by
  rw [read_eq, read_eq, funext h]

/-! ### The relative address -/

/-- Only the relative address is made up for. -/
lemma exists_complete (info : Info) : ∃ relativeUrl, info.complete = { info with relativeUrl := relativeUrl } := by
  rw [Info.complete]
  split
  · split
    · exact ⟨_, rfl⟩
    · exact ⟨info.relativeUrl, rfl⟩
  · exact ⟨info.relativeUrl, rfl⟩

/-- The relative address is the rest of an address in the repository. -/
lemma relativeUrl_complete {rest : String} (hmissing : info.relativeUrl = "") (hroot : info.repositoryRoot ≠ "")
    (hurl : info.url = info.repositoryRoot ++ rest) : info.complete.relativeUrl = "^" ++ rest := by
  have hprefix : info.repositoryRoot.toList.isPrefixOf? info.url.toList = some rest.toList := by
    rw [List.isPrefixOf?_eq_some_iff_append_eq, hurl, String.toList_append]
  rw [Info.complete, if_pos ⟨hmissing, hroot⟩, hprefix]
  apply String.toList_injective
  rw [String.toList_ofList, String.toList_append]
  rfl

lemma complete_eq_self (h : info.relativeUrl ≠ "" ∨ info.repositoryRoot = "" ∨
    ∀ rest, info.url ≠ info.repositoryRoot ++ rest) : info.complete = info := by
  rw [Info.complete]
  split
  · next hmissing =>
    split
    · next rest hprefix =>
      have hurl : info.url = info.repositoryRoot ++ String.ofList rest := by
        apply String.toList_injective
        rw [String.toList_append, String.toList_ofList, List.isPrefixOf?_eq_some_iff_append_eq.1 hprefix]
      obtain h | h | h := h
      · exact absurd hmissing.1 h
      · exact absurd h hmissing.2
      · exact absurd hurl (h _)
    · rfl
  · rfl

lemma complete_setDate (info : Info) (date : Option Timestamp) :
    Info.complete { info with date := date } = { info.complete with date := date } := by
  simp only [Info.complete]
  split
  · split <;> rfl
  · rfl

/-- The order of lines does not count where no key has several values. -/
lemma lastValue_of_perm (honce : (values key lines).length ≤ 1) (hperm : lines'.Perm lines) :
    lastValue key lines' = lastValue key lines := by
  have hvalues : (values key lines').Perm (values key lines) := hperm.filterMap _
  have hsame : values key lines' = values key lines := by
    cases hlist : values key lines with
    | nil => exact (hlist ▸ hvalues).eq_nil
    | cons value rest =>
      rw [hlist] at honce hvalues
      rw [List.eq_nil_of_length_eq_zero (Nat.le_zero.1 (Nat.le_of_succ_le_succ honce))] at hvalues ⊢
      exact List.perm_singleton.1 hvalues
  rw [lastValue, hsame, lastValue]

/-- The value of each key is that of its last line, wherever it stands and whatever lines for other keys or for none
are in between. The relative address is made up for where it is missing. A date that is not well-formed is left out,
and nothing else. -/
theorem information_of_lines :
    (∀ lines lines' foreign, AtMostOnce lines → (∀ line ∈ foreign, Foreign line) →
      lines'.Perm (lines ++ foreign) → Info.read lines' = Info.read lines) ∧
    (∀ front line back, Foreign line → Info.read (front ++ line :: back) = Info.read (front ++ back)) ∧
    (∀ front line mid line' back key value value', Gives line key value → Gives line' key value' →
      Info.read (front ++ line :: (mid ++ line' :: back)) = Info.read (front ++ (mid ++ line' :: back))) ∧
    (∀ front line back key value, Gives line key value → (∀ line' ∈ back, ∀ value', ¬ Gives line' key value') →
      lastValue key (front ++ line :: back) = value) ∧
    (∀ lines key, (∀ line ∈ lines, ∀ value, ¬ Gives line key value) → lastValue key lines = "") ∧
    (∀ lines,
      let info := Info.read lines
      let given (key : Key) : String := lastValue key lines
      info.repositoryRoot = given .repositoryRoot ∧ info.url = given .url ∧ info.author = given .author ∧
        (∀ t, info.date = some t ↔ OpensWith (given .date).toList t) ∧
        (∀ rest, given .relativeUrl = "" → given .repositoryRoot ≠ "" → given .url = given .repositoryRoot ++ rest →
          info.relativeUrl = "^" ++ rest) ∧
        (given .relativeUrl ≠ "" ∨ given .repositoryRoot = "" ∨ (∀ rest, given .url ≠ given .repositoryRoot ++ rest) →
          info.relativeUrl = given .relativeUrl)) ∧
    ∀ front line back value, Gives line .date value → (∀ line' ∈ back, ∀ value', ¬ Gives line' .date value') →
      (∀ t, ¬ OpensWith value.toList t) →
      Info.read (front ++ line :: back) = { Info.read (front ++ back) with date := none } := by
  refine ⟨?_, ?_, ?_, ?_, ?_, ?_, ?_⟩
  · intro lines lines' foreign honce hforeign hperm
    refine read_congr fun key => ?_
    have hnil : values key foreign = [] := values_eq_nil_iff.2 fun line hline => hforeign line hline key
    have hvalues : values key (lines ++ foreign) = values key lines := by rw [values_append, hnil, List.append_nil]
    rw [lastValue_of_perm (hvalues ▸ atMostOnce_iff.1 honce key) hperm, lastValue, hvalues, lastValue]
  · intro front line back hline
    exact read_congr fun key =>
      lastValue_append_cons (Or.inl (values_eq_nil_iff.2 (List.forall_mem_singleton.2 (hline key))))
  · intro front line mid line' back key value value' hline hline'
    refine read_congr fun key' => lastValue_append_cons ?_
    by_cases hkey : key' = key
    · right
      rw [hkey, values_append, values_cons_of_gives hline']
      exact List.append_ne_nil_of_right_ne_nil _ (List.cons_ne_nil _ _)
    · left
      exact values_eq_nil_iff.2 (List.forall_mem_singleton.2 fun _ h => hkey (h.key_unique hline))
  · intro front line back key value hline hback
    exact lastValue_of_gives hline (values_eq_nil_iff.2 hback)
  · intro lines key hnone
    rw [lastValue, values_eq_nil_iff.2 hnone]
    rfl
  · intro lines info given
    have hread : info = (Info.ofValues given).complete := read_eq lines
    obtain ⟨relativeUrl, hcomplete⟩ := exists_complete (Info.ofValues given)
    refine ⟨?_, ?_, ?_, ?_, ?_, ?_⟩
    · rw [hread, hcomplete, Info.ofValues]
    · rw [hread, hcomplete, Info.ofValues]
    · rw [hread, hcomplete, Info.ofValues]
    · intro t
      rw [hread, hcomplete, Info.ofValues]
      exact readDate?_eq_some_iff
    · intro rest hmissing hroot hurl
      rw [hread]
      exact relativeUrl_complete hmissing hroot hurl
    · intro h
      rw [hread, complete_eq_self h, Info.ofValues]
  · intro front line back value hline hback hdate
    have hmissing : readDate? value.toList = none :=
      Option.eq_none_iff_forall_ne_some.2 fun t ht => hdate t (readDate?_eq_some_iff.1 ht)
    have hvalues : Info.ofValues (lastValue · (front ++ line :: back)) =
        { Info.ofValues (lastValue · (front ++ back)) with date := none } := by
      have hother : ∀ key, key ≠ .date → lastValue key (front ++ line :: back) = lastValue key (front ++ back) := by
        intro key hkey
        refine lastValue_append_cons (Or.inl (values_eq_nil_iff.2 (List.forall_mem_singleton.2 ?_)))
        exact fun _ h => hkey (h.key_unique hline)
      rw [Info.ofValues, hother .repositoryRoot nofun, hother .relativeUrl nofun, hother .url nofun,
        hother .author nofun, lastValue_of_gives hline (values_eq_nil_iff.2 hback), hmissing, Info.ofValues]
    rw [read_eq, hvalues, complete_setDate, read_eq]

/-- Lines of a client that prints no relative address, in disorder and with other lines in between. -/
theorem information_of_lines_in_disorder :
    let url := "URL: svn://h/r/trunk/src"
    let root := " Repository Root : svn://h/r"
    let date := "Last Changed Date: 2024-06-01 12:00:60 -0230 (Sat)"
    let noon := "Last Changed Date: 2024-06-01 noon"
    AtMostOnce [url, root, date] ∧ Foreign "Path: ." ∧ Foreign "" ∧
      Gives "URL: svn://h" .url "svn://h" ∧ Gives url .url "svn://h/r/trunk/src" ∧
      Gives noon .date "2024-06-01 noon" ∧ (∀ line ∈ [root], ∀ value, ¬ Gives line .date value) ∧
      (∀ t, ¬ OpensWith "2024-06-01 noon".toList t) ∧
      Info.read ["Path: .", date, root, "", url] = Info.read [url, root, date] ∧
      Info.read [url, "Path: .", root] = Info.read [url, root] ∧
      Info.read ["URL: svn://h", root, url, date] = Info.read [root, url, date] ∧
      lastValue .url ["URL: svn://h", root, url, date] = "svn://h/r/trunk/src" ∧ lastValue .url [date] = "" ∧
      (Info.read [url, root]).relativeUrl = "^/trunk/src" ∧
      OpensWith (lastValue .date [date]).toList ⟨⟨1717252259, nanosPerSecond⟩, -9000⟩ ∧
      Info.read [url, date, noon, root] = { Info.read [url, date, root] with date := none } := by
  intro url root date noon
  obtain ⟨hperm, hforeign, hrepeated, hlast, hnever, hread, hmalformed⟩ := information_of_lines
  have hentries : keyValue? url = some (.url, "svn://h/r/trunk/src") ∧ keyValue? root = some (.repositoryRoot, "svn://h/r") ∧
      keyValue? date = some (.date, "2024-06-01 12:00:60 -0230 (Sat)") := by decide +kernel
  have honce : AtMostOnce [url, root, date] := by
    refine atMostOnce_iff.2 fun key => ?_
    cases key <;> simp [values, valueOf?, hentries]
  have hpath : Foreign "Path: ." := keyValue?_eq_none_iff.1 (by decide +kernel)
  have hempty : Foreign "" := keyValue?_eq_none_iff.1 (by decide +kernel)
  have hhost : Gives "URL: svn://h" .url "svn://h" := keyValue?_eq_some_iff.1 (by decide +kernel)
  have hurl : Gives url .url "svn://h/r/trunk/src" := keyValue?_eq_some_iff.1 hentries.1
  have hnoon : Gives noon .date "2024-06-01 noon" := keyValue?_eq_some_iff.1 (by decide +kernel)
  have hlater : ∀ line ∈ [root], ∀ value, ¬ Gives line .date value := values_eq_nil_iff.1 (by decide +kernel)
  have hnourl : ∀ line ∈ [date], ∀ value, ¬ Gives line .url value := values_eq_nil_iff.1 (by decide +kernel)
  have hmissing : readDate? "2024-06-01 noon".toList = none := by decide +kernel
  have hnone : ∀ t, ¬ OpensWith "2024-06-01 noon".toList t := by
    intro t ht
    rw [← readDate?_eq_some_iff, hmissing] at ht
    cases ht
  obtain ⟨_, _, _, hdate, _⟩ := hread [date]
  obtain ⟨_, _, _, _, hrelative, _⟩ := hread [url, root]
  refine ⟨honce, hpath, hempty, hhost, hurl, hnoon, hlater, hnone, ?_, ?_, ?_, ?_, hnever [date] .url hnourl, ?_, ?_, ?_⟩
  · apply hperm [url, root, date] _ ["Path: .", ""] honce
    · simp only [List.forall_mem_cons]
      exact ⟨hpath, hempty, nofun⟩
    · decide
  · exact hforeign [url] "Path: ." [root] hpath
  · exact hrepeated [] "URL: svn://h" [root] url [date] .url _ _ hhost hurl
  · exact hlast ["URL: svn://h", root] url [date] .url _ hurl hnourl
  · exact hrelative "/trunk/src" (by decide +kernel) (by decide +kernel) (by decide +kernel)
  · exact (hdate _).1 (by decide +kernel)
  · exact hmalformed [url, date] noon [root] _ hnoon hlater hnone

end BuildVersion.Subversion
