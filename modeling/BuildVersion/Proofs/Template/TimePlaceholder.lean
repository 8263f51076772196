import BuildVersion.Proofs.Template.Arguments
import BuildVersion.Proofs.TimeScheme.Limits

/-!
# The grammar of time placeholders

How time placeholders are written: a source, an optional `u`, a colon and a scheme, perhaps in braces. Main
statement: `TimeSpec.read_grammar`.
-/

namespace BuildVersion

open Text

namespace TimeScheme

open Template (Braceless isBrace braceless_append_iff braceless_cons_iff)

lemma Digits.braceless {cs : List Char} {n : Nat} (h : Digits cs n) : Braceless cs := by
  intro c hc
  rw [Template.not_isBrace_iff]
  constructor
  · rintro rfl
    exact h.notMem (by decide) hc
  · rintro rfl
    exact h.notMem (by decide) hc

lemma IsUnit.not_isBrace {unit : Char} {seconds : Nat} (h : IsUnit unit seconds) : isBrace unit = false := by
  cases h <;> decide

lemma IsInterval.braceless {is : List Char} {seconds : Nat} (h : IsInterval is seconds) : Braceless is := by
  obtain ⟨hdigits, hunit⟩ := h
  exact braceless_append_iff.2 ⟨hdigits.braceless, braceless_cons_iff.2 ⟨hunit.not_isBrace, by decide⟩⟩

lemma IsYearPart.braceless {ys : List Char} {year : Nat} (h : IsYearPart ys year) : Braceless ys := by
  cases h with
  | default => decide
  | year hyear => exact braceless_cons_iff.2 ⟨rfl, hyear.1.braceless⟩

lemma IsNumeralPart.braceless {ps : List Char} {year length : Nat} (h : IsNumeralPart ps year length) :
    Braceless ps := by
  cases h with
  | year hyear => exact hyear.braceless
  | length hyear hlength =>
    refine braceless_cons_iff.2 ⟨rfl, braceless_append_iff.2 ⟨hyear.1.braceless, ?_⟩⟩
    exact braceless_cons_iff.2 ⟨rfl, hlength.1.braceless⟩

lemma HoursBody.braceless {body : List Char} {year month : Nat} (h : HoursBody body year month) :
    Braceless body := by
  cases h with
  | year hyear => exact braceless_cons_iff.2 ⟨rfl, hyear.braceless⟩
  | month hyear hmonth =>
    refine braceless_cons_iff.2 ⟨rfl, braceless_cons_iff.2 ⟨rfl, ?_⟩⟩
    exact braceless_append_iff.2 ⟨hyear.1.braceless, braceless_cons_iff.2 ⟨rfl, hmonth.1.braceless⟩⟩

lemma DottedBody.braceless {body : List Char} {interval year : Nat} (h : DottedBody body interval year) :
    Braceless body := by
  obtain ⟨his, hyear⟩ := h
  exact braceless_cons_iff.2 ⟨rfl, braceless_append_iff.2 ⟨his.braceless, hyear.braceless⟩⟩

lemma NumeralBody.braceless {body : List Char} {base interval year length : Nat} {upper : Bool}
    (h : NumeralBody body base interval year length upper) : Braceless body := by
  obtain ⟨upper, hbase, his, hpart⟩ := h
  refine braceless_cons_iff.2 ⟨by cases upper <;> rfl, braceless_append_iff.2 ⟨hbase.1.braceless, ?_⟩⟩
  exact braceless_cons_iff.2 ⟨rfl, braceless_append_iff.2 ⟨his.braceless, hpart.braceless⟩⟩

lemma ReadableBody.braceless {body : List Char} {date : Bool} {clock : ClockFields} {separator : Option Char}
    (h : ReadableBody body date clock separator) : Braceless body := by
  obtain ⟨_, hclass⟩ := h
  refine braceless_append_iff.2 ⟨?_, braceless_append_iff.2 ⟨?_, ?_⟩⟩
  · cases date <;> decide
  · cases clock <;> decide
  · obtain rfl | rfl | rfl | rfl := separator_cases hclass <;> decide

lemma Spells.fits {utc : Bool} {body : List Char} {scheme : TimeScheme} (h : Spells utc body scheme) :
    ∃ p : Pattern, p.Fits body := by
  cases h with
  | hours hbody => exact ⟨.hours, _, _, hbody⟩
  | dotted hbody => exact ⟨.dotted, _, _, hbody⟩
  | numeral hbody => exact ⟨.numeral, _, _, _, _, _, hbody⟩
  | readable hbody => exact ⟨.readable, _, _, _, hbody⟩

lemma Pattern.Fits.braceless {p : Pattern} {body : List Char} (h : p.Fits body) : Braceless body := by
  cases p with
  | hours =>
    obtain ⟨_, _, hbody⟩ := h
    exact hbody.braceless
  | dotted =>
    obtain ⟨_, _, hbody⟩ := h
    exact hbody.braceless
  | numeral =>
    obtain ⟨_, _, _, _, _, hbody⟩ := h
    exact hbody.braceless
  | readable =>
    obtain ⟨_, _, _, hbody⟩ := h
    exact hbody.braceless

lemma Pattern.Fits.ne_nil {p : Pattern} {body : List Char} (h : p.Fits body) : body ≠ [] := by
  rintro rfl
  cases h.ofLetters?_eq

end TimeScheme

namespace TimeSpec

/-- Whether a text is one character or nothing. -/
def Optional (c : Char) (cs : List Char) : Prop := cs = [] ∨ cs = [c]

/-- How a source, an optional `u` and a scheme are written. -/
def opening (source : TimeSource) (utc : Bool) (rest : List Char) : List Char :=
  source.letter.toList ++ ((if utc then ['u'] else []) ++ ':' :: rest)

/-- How a time placeholder is written, in braces or not. -/
inductive Spells : List Char → TimeSpec → Prop where
  | mk {front body back : List Char} {source : TimeSource} {utc : Bool} {scheme : TimeScheme} :
    Optional '{' front →
    TimeScheme.Spells utc body scheme →
    Optional '}' back →
    Spells (front ++ opening source utc (body ++ back)) ⟨source, scheme⟩

variable {text : String} {cs rest body : List Char} {source : TimeSource} {utc : Bool}

lemma ofLetter?_eq_some_iff {c : Char} : TimeSource.ofLetter? c = some source ↔ source.letter.toList = [c] := by
  constructor
  · intro h
    unfold TimeSource.ofLetter? at h
    split at h <;> cases h <;> rfl
  · cases source <;> (intro h; cases h; rfl)

lemma readSource?_eq_some_iff : readSource? cs = some (source, utc, rest) ↔ cs = opening source utc rest := by
  constructor
  · intro h
    unfold readSource? at h
    split at h
    · obtain ⟨_, hletter, he⟩ := Option.map_eq_some_iff.1 h
      cases he
      rw [opening, ofLetter?_eq_some_iff.1 hletter]
      rfl
    · obtain ⟨_, hletter, he⟩ := Option.map_eq_some_iff.1 h
      cases he
      rw [opening, ofLetter?_eq_some_iff.1 hletter]
      rfl
    · cases h
  · rintro rfl
    cases source <;> cases utc <;> rfl

lemma head?_opening_ne : (opening source utc rest).head? ≠ some '{' := by
  cases source <;> simp [opening, TimeSource.letter]

lemma exists_front (cs : List Char) : ∃ front, Optional '{' front ∧ cs = front ++ dropOpening cs := by
  unfold dropOpening
  split
  · exact ⟨['{'], .inr rfl, rfl⟩
  · exact ⟨[], .inl rfl, rfl⟩

lemma dropOpening_front {front : List Char} (h : Optional '{' front) :
    dropOpening (front ++ opening source utc rest) = opening source utc rest := by
  obtain rfl | rfl := h
  · cases source <;> rfl
  · rfl

lemma exists_back (cs : List Char) : ∃ back, Optional '}' back ∧ cs = dropClosing cs ++ back := by
  unfold dropClosing
  split
  · next hlast => exact ⟨['}'], .inr rfl, (List.dropLast_append_getLast? '}' hlast).symm⟩
  · exact ⟨[], .inl rfl, (List.append_nil cs).symm⟩

lemma dropClosing_back {back : List Char} (hbody : Template.Braceless body) (h : Optional '}' back) :
    dropClosing (body ++ back) = body := by
  obtain rfl | rfl := h
  · rw [List.append_nil, dropClosing, if_neg]
    intro hlast
    cases hbody _ (List.mem_of_getLast? hlast)
  · rw [dropClosing, if_pos List.getLast?_concat, List.dropLast_concat]

lemma not_refused_iff :
    ¬ (body.isEmpty = true ∨ (body.any fun c => c == '{' || c == '}') = true) ↔
      body ≠ [] ∧ Template.Braceless body := by
  rw [not_or, List.isEmpty_iff, Bool.not_eq_true, List.any_eq_false]
  simp only [Bool.not_eq_true]
  rfl

/-- What is read between the source and the closing brace. -/
lemma parts?_eq_some_iff :
    parts? cs = some (source, utc, body) ↔
      ∃ front back, Optional '{' front ∧ Optional '}' back ∧ (body ≠ [] ∧ Template.Braceless body) ∧
        cs = front ++ opening source utc (body ++ back) := by
  constructor
  · intro h
    unfold parts? at h
    split at h
    · next source' utc' rest hsource =>
      simp only at h
      split at h
      · cases h
      · next hbody =>
        cases h
        obtain ⟨front, hfront, hcs⟩ := exists_front cs
        obtain ⟨back, hback, hrest⟩ := exists_back rest
        rw [readSource?_eq_some_iff.1 hsource] at hcs
        exact ⟨front, back, hfront, hback, not_refused_iff.1 hbody, hrest ▸ hcs⟩
    · cases h
  · rintro ⟨front, back, hfront, hback, ⟨hne, hbody⟩, rfl⟩
    rw [parts?, dropOpening_front hfront, readSource?_eq_some_iff.2 rfl]
    simp only [dropClosing_back hbody hback]
    exact if_neg (not_refused_iff.2 ⟨hne, hbody⟩)

/-- The texts that are read are those that are spelled. -/
lemma read_eq_ok_iff {spec : TimeSpec} : read text = .ok spec ↔ Spells text.toList spec := by
  constructor
  · intro h
    unfold read at h
    split at h
    · cases h
    · next source utc body hparts =>
      split at h
      · next scheme hscheme =>
        cases h
        obtain ⟨front, back, hfront, hback, _, htext⟩ := parts?_eq_some_iff.1 hparts
        rw [htext]
        exact .mk hfront (TimeScheme.read_eq_ok_iff.1 hscheme) hback
      · cases h
  · intro h
    generalize htext : text.toList = cs at h
    obtain ⟨hfront, hscheme, hback⟩ := h
    obtain ⟨p, hfits⟩ := hscheme.fits
    have hparts := parts?_eq_some_iff.2
      ⟨_, _, hfront, hback, ⟨hfits.ne_nil, hfits.braceless⟩, htext⟩
    simp only [read, hparts, TimeScheme.read_eq_ok_iff.2 hscheme]

lemma opening_braceless (h : Template.Braceless rest) : Template.Braceless (opening source utc rest) := by
  refine Template.braceless_append_iff.2 ⟨by cases source <;> decide, Template.braceless_append_iff.2 ⟨?_, ?_⟩⟩
  · cases utc <;> decide
  · exact Template.braceless_cons_iff.2 ⟨rfl, h⟩

lemma opening_append (cs ds : List Char) : opening source utc (cs ++ ds) = opening source utc cs ++ ds := by
  simp [opening]

/-- What is read in braces holds no others. -/
lemma braceless_of_read {spec : TimeSpec} {inner : String} (h : read ("\x7b" ++ inner ++ "\x7d") = .ok spec) :
    Template.Braceless inner.toList := by
  have hspells := read_eq_ok_iff.1 h
  have htext : ("\x7b" ++ inner ++ "\x7d").toList = '{' :: (inner.toList ++ ['}']) := by
    simp [String.toList_append]
  generalize ("\x7b" ++ inner ++ "\x7d").toList = cs at hspells htext
  obtain @⟨front, body, back, source, utc, scheme, hfront, hscheme, hback⟩ := hspells
  obtain ⟨p, hfits⟩ := hscheme.fits
  obtain rfl | rfl := hfront
  · exact absurd (congrArg List.head? htext) head?_opening_ne
  · have hopening := List.tail_eq_of_cons_eq htext
    obtain rfl | rfl := hback
    · -- The closing brace would be one of the scheme.
      have hbraceless : Template.Braceless (inner.toList ++ ['}']) := by
        rw [← hopening]
        exact opening_braceless (Template.braceless_append_iff.2 ⟨hfits.braceless, by decide⟩)
      cases hbraceless '}' List.mem_concat_self
    · rw [opening_append] at hopening
      have hinner : opening source utc body = inner.toList := List.append_cancel_right hopening
      rw [← hinner]
      exact opening_braceless hfits.braceless

/-- A text that cannot be read is named as it is. -/
lemma exists_read_eq_error (h : ∀ spec, ¬ Spells text.toList spec) :
    ∃ fault, read text = .error (.timeScheme fault text) := by
  cases hread : read text with
  | ok spec => exact absurd (read_eq_ok_iff.1 hread) (h spec)
  | error e =>
    unfold read at hread
    split at hread
    · cases hread
      exact ⟨_, rfl⟩
    · split at hread
      · cases hread
      · cases hread
        exact ⟨_, rfl⟩

/-- What is read behind an opening brace opens like a time placeholder. -/
lemma isTimePlaceholder_of_read {spec : TimeSpec} (h : read text = .ok spec)
    (hopen : text.toList.head? = some '{') : isTimePlaceholder text = true := by
  have hspells := read_eq_ok_iff.1 h
  unfold isTimePlaceholder
  generalize text.toList = cs at hspells hopen
  obtain ⟨hfront, _, _⟩ := hspells
  obtain rfl | rfl := hfront
  · exact absurd hopen head?_opening_ne
  · exact congrArg Option.isSome (readSource?_eq_some_iff.2 rfl)

end TimeSpec

/-- Behind an opening brace, a placeholder for a time is read as one. -/
lemma Token.read_eq_time_iff {text : String} {spec : TimeSpec} (hopen : text.toList.head? = some '{') :
    Token.read text = .ok (some (.time spec)) ↔ TimeSpec.read text = .ok spec := by
  by_cases htime : TimeSpec.isTimePlaceholder text = true
  · rw [Token.read_of_time htime, Fallible.map_eq_ok_iff]
    constructor
    · rintro ⟨spec', hread, he⟩
      cases he
      exact hread
    · exact fun hread => ⟨spec, hread, rfl⟩
  · constructor
    · intro hread
      cases (Token.takenFrom_of_read hread htime).notTime
    · exact fun hread => absurd (TimeSpec.isTimePlaceholder_of_read hread hopen) htime

/-- The value of a time placeholder is the time of its source, or that of the build. -/
lemma Token.value_timeValue (s : Snapshot) (context : BuildContext) (zone : Calendar.Zone) (spec : TimeSpec) :
    (Token.timeValue s context zone spec).value =
      spec.scheme.encode zone ((Token.sourceTime s context spec.source).getD context.time) := by
  rw [Token.timeValue]
  cases Token.sourceTime s context spec.source <;> rfl

/-- Exactly the spelled texts are read, with the values that they spell. A scheme is written by one pattern
only, so that the patterns can be tried in any order. In braces, placeholders for times are the same whether they
are read as such or among all placeholders; one that only opens like a placeholder for a time is refused either
way. -/
theorem TimeSpec.read_grammar :
    (∀ text spec, TimeSpec.read text = .ok spec ↔ TimeSpec.Spells text.toList spec) ∧
    (∀ (p : TimeScheme.Pattern) utc body, (p.read? utc body).isSome = true ↔ p.Fits body) ∧
    (∀ (p q : TimeScheme.Pattern) body, p.Fits body → q.Fits body → p = q) ∧
    (∀ (order : List TimeScheme.Pattern), (∀ p, p ∈ order) → ∀ body utc,
      TimeScheme.read body utc =
        (order.findSome? (TimeScheme.Pattern.read? utc body)).getD (.error .unknown)) ∧
    ∀ inner text, text = "\x7b" ++ inner ++ "\x7d" →
      (∀ spec, Token.read text = .ok (some (.time spec)) ↔ TimeSpec.read text = .ok spec) ∧
      (TimeSpec.isTimePlaceholder text = true → (∀ spec, ¬ TimeSpec.Spells text.toList spec) →
        ∃ fault, TimeSpec.read text = .error (.timeScheme fault text) ∧
          Token.read text = .error (.timeScheme fault text) ∧
            (Error.timeScheme fault text).kind = .format) := by
  refine ⟨fun text spec => TimeSpec.read_eq_ok_iff, fun p utc body => TimeScheme.Pattern.isSome_read?_iff,
    fun p q body hp hq => hp.unique hq, fun order horder body utc => TimeScheme.read_eq_findSome? horder, ?_⟩
  rintro inner text rfl
  refine ⟨fun spec => Token.read_eq_time_iff (by simp [String.toList_append]), fun htime hspells => ?_⟩
  obtain ⟨fault, hread⟩ := TimeSpec.exists_read_eq_error hspells
  refine ⟨fault, hread, ?_, rfl⟩
  rw [Token.read_of_time htime, hread]
  rfl

/-- A readable scheme in UTC, a numeral scheme whose pattern is tried before or after the others, and an interval
of more than a day. -/
theorem TimeSpec.read_grammar_spellings :
    TimeSpec.Spells "\x7bcu:ymdhm-\x7d".toList ⟨.commit, .readable true .minutes (some '-') true⟩ ∧
      TimeScheme.read "B28-20m:2020:4".toList false =
        (([.readable, .hours, .numeral, .dotted] : List TimeScheme.Pattern).findSome?
          (TimeScheme.Pattern.read? false "B28-20m:2020:4".toList)).getD (.error .unknown) ∧
      Token.read ("\x7b" ++ "b:B28-20m:2020:4" ++ "\x7d") =
        .ok (some (.time ⟨.build, .numeral 28 1200 2020 4 true⟩)) ∧
      ∃ fault, TimeSpec.read ("\x7b" ++ "c:d25h" ++ "\x7d") =
          .error (.timeScheme fault ("\x7b" ++ "c:d25h" ++ "\x7d")) ∧
        Token.read ("\x7b" ++ "c:d25h" ++ "\x7d") =
          .error (.timeScheme fault ("\x7b" ++ "c:d25h" ++ "\x7d")) ∧
            (Error.timeScheme fault ("\x7b" ++ "c:d25h" ++ "\x7d")).kind = .format := by
  obtain ⟨hspells, _, _, horder, hbraces⟩ := TimeSpec.read_grammar
  have hreadable : TimeSpec.read "\x7bcu:ymdhm-\x7d" = .ok ⟨.commit, .readable true .minutes (some '-') true⟩ :=
    Fallible.eq_ok_of_toOption (by decide +kernel)
  have hnumeral : TimeSpec.read ("\x7b" ++ "b:B28-20m:2020:4" ++ "\x7d") =
      .ok ⟨.build, .numeral 28 1200 2020 4 true⟩ := Fallible.eq_ok_of_toOption (by decide +kernel)
  have hlong : (TimeSpec.read ("\x7b" ++ "c:d25h" ++ "\x7d")).toOption = none := by decide +kernel
  refine ⟨(hspells _ _).1 hreadable, horder _ (fun p => by cases p <;> simp) _ _,
    ((hbraces _ _ rfl).1 _).2 hnumeral, (hbraces _ _ rfl).2 (by decide +kernel) fun spec h => ?_⟩
  rw [(hspells _ _).2 h] at hlong
  cases hlong

end BuildVersion
