import BuildVersion.Proofs.Template.ShortVersion
import BuildVersion.Proofs.Template.TimePlaceholder
import BuildVersion.Proofs.TimeScheme.Counted

/-!
# Dotted times in short versions

A dotted time is made of two numbers, so that it can end a short version. Its days are always within the limit
of a short version, its intervals are unless they are seconds and the day is old. Main statement:
`TimeSpec.dotted_short`.
-/

namespace BuildVersion

open Calendar Fallible Text

namespace ShortVersion

/-- A short version is all of a text under a condition, and otherwise there is none as a number is above the limit. -/
structure WholeIf (p : Prop) (text : String) (short : Except Error String) : Prop where
  whole : p → short = .ok text
  bounds : ¬ p → ∃ e, short = .error e ∧ e.kind = .bounds

/-- Numbers with a dot between any two of them. -/
def dotted (ns : List Nat) : String := ".".intercalate (ns.map toString)

lemma toList_dotted (ns : List Nat) : (dotted ns).toList = ['.'].intercalate (ns.map (Nat.toDigits 10)) := by
  rw [dotted, String.toList_intercalate, List.map_map]
  congr 1
  exact List.map_congr_left fun n _ => toList_toString n

variable {ns : List Nat}

/-- Numbers are opened with where something else follows them than a digit or a dot. -/
lemma opens_dotted (hcount : 2 ≤ ns.length ∧ ns.length ≤ 4) {rest : List Char}
    (hrest : ∀ c ∈ rest.head?, isDigit c = false ∧ c ≠ '.') :
    Opens ((dotted ns).toList ++ rest) (ns.map (Nat.toDigits 10)) [] rest where
  text := by rw [toList_dotted, List.nil_append]
  digits := by
    intro number hnumber
    obtain ⟨n, _, rfl⟩ := List.mem_map.1 hnumber
    exact ⟨Nat.toDigits_ne_nil, fun c hc => isDigit_of_mem_toDigits hc⟩
  count := by rwa [List.length_map]
  dots := nofun
  rest := hrest

lemma bounded_toDigits_iff : Bounded (ns.map (Nat.toDigits 10)) ↔ ∀ n ∈ ns, n ≤ 65534 := by
  simp [Bounded, Nat.ofDigitChars_ten_toDigits]

/-- Two to four numbers are the short version of a text that opens with them if none is above the limit. -/
lemma read_dotted (ns : List Nat) (hcount : 2 ≤ ns.length ∧ ns.length ≤ 4) {text rest : String}
    (htext : text = dotted ns ++ rest) (hrest : ∀ c ∈ rest.toList.head?, isDigit c = false ∧ c ≠ '.') :
    WholeIf (∀ n ∈ ns, n ≤ 65534) (dotted ns) (read text) := by
  have hopens := opens_dotted hcount hrest
  rw [← String.toList_append, ← htext] at hopens
  have hread := read_of_opens hopens
  rw [bounded_toDigits_iff, ← toList_dotted, String.ofList_toList] at hread
  exact ⟨hread.1, hread.2⟩

end ShortVersion

namespace TimeScheme

variable {interval baseYear : Nat} {zone : Zone} {t : Timestamp} {value : String}

/-- A dotted time that is written has a number of days within the limit of short versions. -/
lemma encode_dotted_eq_ok (h : encode (dotted interval baseYear) zone t = .ok value) :
    ∃ n, secondsSince t (base baseYear 1) = .ok n ∧ n / daySeconds ≤ 65534 ∧
      value = ShortVersion.dotted [n / daySeconds, n % daySeconds / interval] := by
  cases hn : secondsSince t (base baseYear 1) with
  | error e =>
    rw [encode, hn] at h
    cases h
  | ok n =>
    rw [encode_dotted hn] at h
    split at h
    · next hdays =>
      cases h
      exact ⟨n, rfl, Nat.le_of_lt_succ hdays, rfl⟩
    · cases h

/-- Half of the seconds of a day are within the limit of short versions, all of them are not. -/
lemma index_le_iff {second : Nat} (hinterval : 1 ≤ interval) (hsecond : second < daySeconds) :
    second / interval ≤ 65534 ↔ 2 ≤ interval ∨ second ≤ 65534 := by
  obtain rfl | htwo := Nat.eq_or_lt_of_le hinterval
  · simp
  · have hhalf : second / interval ≤ second / 2 := Nat.div_le_div_left htwo (by decide)
    rw [daySeconds] at hsecond
    omega

end TimeScheme

namespace Template

variable {s : Snapshot} {context : BuildContext} {zone : Zone}

lemma fills_time_iff {inner : List Char} {spec : TimeSpec} {value : String}
    (h : Token.read (Atom.placeholder inner).text = .ok (some (.time spec))) :
    Fills s context zone (.placeholder inner) value ↔
      spec.scheme.encode zone ((Token.sourceTime s context spec.source).getD context.time) = .ok value := by
  rw [← Token.value_timeValue]
  constructor
  · intro hfills
    cases hfills with
    | unknown hunknown => simp [Token.read_eq_none_iff.2 hunknown] at h
    | known hread hvalue =>
      rw [h] at hread
      cases hread
      exact hvalue
  · exact fun hvalue => .known h hvalue

/-- A template that ends with its only placeholder. -/
lemma resolve_placeholder_iff {front inner out : String} (hfront : Braceless front.toList)
    (hinner : Braceless inner.toList) :
    (resolve s context zone (front ++ ("\x7b" ++ inner ++ "\x7d"))).value = .ok out ↔
      ∃ value, Fills s context zone (.placeholder inner.toList) value ∧ out = front ++ value := by
  have htext : (front ++ ("\x7b" ++ inner ++ "\x7d")).toList = front.toList ++ '{' :: (inner.toList ++ '}' :: []) := by
    simp [String.toList_append]
  rw [resolve_eq_ok_iff, htext, atoms_braceless_append hfront, atoms_placeholder hinner, yields_append_iff]
  constructor
  · rintro ⟨x, y, hx, hy, rfl⟩
    obtain ⟨value, rest, hvalue, hrest, rfl⟩ := yields_cons_iff.1 hy
    rw [yields_chars_iff, String.ofList_toList] at hx
    rw [hx, yields_nil_iff.1 hrest, String.append_empty]
    exact ⟨value, hvalue, rfl⟩
  · rintro ⟨value, hvalue, rfl⟩
    refine ⟨front, value, yields_chars_iff.2 String.ofList_toList.symm, ?_, rfl⟩
    exact yields_cons_iff.2 ⟨value, "", hvalue, yields_nil_iff.2 rfl, String.append_empty.symm⟩

end Template

namespace ShortVersion

lemma braceless_dotted_append (major minor : Nat) :
    Template.Braceless (toString major ++ "." ++ toString minor ++ ".").toList := by
  have hdigits : ∀ n : Nat, Template.Braceless (toString n).toList := by
    intro n
    rw [toList_toString]
    exact (TimeScheme.natural?_eq_some_iff_digits.1 (natural?_toDigits n)).braceless
  have hdot : Template.Braceless ".".toList := by decide
  simp only [String.toList_append, Template.braceless_append_iff]
  exact ⟨⟨⟨hdigits major, hdot⟩, hdigits minor⟩, hdot⟩

/-- Behind up to two numbers within the limit, a dotted time is within it unless its intervals are too many. -/
lemma read_dotted_time (front : List Nat) (hcount : front.length ≤ 2) (hfront : ∀ m ∈ front, m ≤ 65534)
    {interval n : Nat} (hinterval : 1 ≤ interval) (hdays : n / TimeScheme.daySeconds ≤ 65534) {text : String}
    (htext : text = dotted (front ++ [n / TimeScheme.daySeconds, n % TimeScheme.daySeconds / interval])) :
    WholeIf (2 ≤ interval ∨ n % TimeScheme.daySeconds ≤ 65534) text (read text) := by
  have hsecond : n % TimeScheme.daySeconds < TimeScheme.daySeconds := Nat.mod_lt _ (by decide)
  have hbounded : (∀ m ∈ front ++ [n / TimeScheme.daySeconds, n % TimeScheme.daySeconds / interval], m ≤ 65534) ↔
      2 ≤ interval ∨ n % TimeScheme.daySeconds ≤ 65534 := by
    rw [← TimeScheme.index_le_iff hinterval hsecond]
    constructor
    · exact fun h => h _ (List.mem_append_right _ (List.mem_cons_of_mem _ List.mem_cons_self))
    · intro hindex
      exact List.forall_mem_append.2
        ⟨hfront, List.forall_mem_cons.2 ⟨hdays, List.forall_mem_singleton.2 hindex⟩⟩
  have hread := read_dotted (front ++ [n / TimeScheme.daySeconds, n % TimeScheme.daySeconds / interval])
    (by simp only [List.length_append, List.length_cons, List.length_nil]; omega) String.append_empty.symm nofun
  rw [hbounded, ← htext] at hread
  exact hread

end ShortVersion

/-- A dotted time that is written is its own short version, alone and as the end of one, unless its intervals are
seconds and more than 65534 of them have passed since the day began: then a number is above the limit. -/
theorem TimeSpec.dotted_short {text : String} {spec : TimeSpec} {interval baseYear : Nat}
    (hread : TimeSpec.read text = .ok spec) (hscheme : spec.scheme = .dotted interval baseYear) :
    (∀ zone t value, spec.scheme.encode zone t = .ok value →
      ∃ n, TimeScheme.secondsSince t (TimeScheme.base baseYear 1) = .ok n ∧ n / TimeScheme.daySeconds ≤ 65534 ∧
        ShortVersion.WholeIf (2 ≤ interval ∨ n % TimeScheme.daySeconds ≤ 65534) value (ShortVersion.read value)) ∧
    ∀ inner, text = "\x7b" ++ inner ++ "\x7d" → ∀ major minor : Nat, major ≤ 65534 → minor ≤ 65534 →
      ∀ s context zone out template, template = toString major ++ "." ++ toString minor ++ "." ++ text →
        (Template.resolve s context zone template).value = .ok out →
        ∃ n, TimeScheme.secondsSince ((Token.sourceTime s context spec.source).getD context.time)
            (TimeScheme.base baseYear 1) = .ok n ∧
          ShortVersion.WholeIf (2 ≤ interval ∨ n % TimeScheme.daySeconds ≤ 65534) out
            (Template.resolveShort s context zone template).value := by
  have hwell := wellFormed_of_read hread
  rw [hscheme] at hwell ⊢
  refine ⟨fun zone t value hvalue => ?_, ?_⟩
  · obtain ⟨n, hn, hdays, htext⟩ := TimeScheme.encode_dotted_eq_ok hvalue
    exact ⟨n, hn, hdays, ShortVersion.read_dotted_time [] (by decide) nofun hwell.1 hdays htext⟩
  · rintro inner rfl major minor hmajor hminor s context zone out template rfl hresolve
    have htime : Token.read (Template.Atom.placeholder inner.toList).text = .ok (some (.time spec)) := by
      rw [Template.text_placeholder, String.ofList_toList]
      exact (Token.read_eq_time_iff (by simp [String.toList_append])).2 hread
    rw [Template.value_resolveShort, hresolve, Fallible.ok_bind]
    obtain ⟨value, hvalue, rfl⟩ := (Template.resolve_placeholder_iff (ShortVersion.braceless_dotted_append _ _)
      (braceless_of_read hread)).1 hresolve
    rw [Template.fills_time_iff htime, hscheme] at hvalue
    obtain ⟨n, hn, hdays, rfl⟩ := TimeScheme.encode_dotted_eq_ok hvalue
    refine ⟨n, hn, ShortVersion.read_dotted_time [major, minor] (Nat.le_refl 2) ?_ hwell.1 hdays ?_⟩
    · exact List.forall_mem_cons.2 ⟨hmajor, List.forall_mem_singleton.2 hminor⟩
    · simp [ShortVersion.dotted, String.append_assoc]

/-- Seventy-two intervals of twenty minutes a day, and the last second that is within the limit. -/
theorem TimeSpec.dotted_short_minutes :
    let spec : TimeSpec := ⟨.commit, .dotted 1200 2020⟩
    let seconds : TimeSpec := ⟨.commit, .dotted 1 2020⟩
    let context : BuildContext := { time := ⟨⟨1577988734, 0⟩, 0⟩ }
    TimeSpec.read "\x7bc:d20m:2020\x7d" = .ok spec ∧
      spec.scheme.encode (.fixed 0) ⟨⟨1578009599, 0⟩, 0⟩ = .ok "1.71" ∧ ShortVersion.read "1.71" = .ok "1.71" ∧
      TimeSpec.read ("\x7b" ++ "c:d1s:2020" ++ "\x7d") = .ok seconds ∧
      (Template.resolveShort {} context (.fixed 0) "1.0.\x7bc:d1s:2020\x7d").value = .ok "1.0.1.65534" := by
  intro spec seconds context
  have hspec : TimeSpec.read "\x7bc:d20m:2020\x7d" = .ok spec := eq_ok_of_toOption (by decide +kernel)
  have hseconds : TimeSpec.read ("\x7b" ++ "c:d1s:2020" ++ "\x7d") = .ok seconds :=
    eq_ok_of_toOption (by decide +kernel)
  have hvalue : spec.scheme.encode (.fixed 0) ⟨⟨1578009599, 0⟩, 0⟩ = .ok "1.71" :=
    eq_ok_of_toOption (by decide +kernel)
  have hout : (Template.resolve {} context (.fixed 0) "1.0.\x7bc:d1s:2020\x7d").value = .ok "1.0.1.65534" :=
    eq_ok_of_toOption (by decide +kernel)
  have hlast : TimeScheme.secondsSince ⟨⟨1577988734, 0⟩, 0⟩ (TimeScheme.base 2020 1) = .ok 151934 :=
    eq_ok_of_toOption (by decide +kernel)
  obtain ⟨_, _, _, hshort⟩ := (TimeSpec.dotted_short hspec rfl).1 _ _ _ hvalue
  obtain ⟨n, hn, hwithin⟩ := (TimeSpec.dotted_short hseconds rfl).2 "c:d1s:2020" rfl 1 0 (by decide) (by decide)
    {} context (.fixed 0) _ "1.0.\x7bc:d1s:2020\x7d" (by decide +kernel) hout
  have hsecond : n = 151934 := Except.ok.inj (hn.symm.trans hlast)
  exact ⟨hspec, hvalue, hshort.whole (.inl (by decide)), hseconds, hwithin.whole (.inr (by rw [hsecond]; decide))⟩

/-- Late on a day, a time in seconds has no short version. -/
theorem TimeSpec.dotted_second_not_short :
    let spec : TimeSpec := ⟨.commit, .dotted 1 2020⟩
    let context : BuildContext := { time := ⟨⟨1578006000, 0⟩, 0⟩ }
    TimeSpec.read "\x7bc:d1s:2020\x7d" = .ok spec ∧
      spec.scheme.encode (.fixed 0) context.time = .ok "1.82800" ∧
      ShortVersion.read "1.82800" ≠ .ok "1.82800" ∧
      (Template.resolve {} context (.fixed 0) "1.0.\x7bc:d1s:2020\x7d").value = .ok "1.0.1.82800" ∧
      (Template.resolveShort {} context (.fixed 0) "1.0.\x7bc:d1s:2020\x7d").value ≠ .ok "1.0.1.82800" := by
  intro spec context
  have hvalue : (ShortVersion.read "1.82800").toOption = none := by decide +kernel
  have hout : (Template.resolveShort {} context (.fixed 0) "1.0.\x7bc:d1s:2020\x7d").value.toOption = none := by
    decide +kernel
  refine ⟨eq_ok_of_toOption (by decide +kernel), eq_ok_of_toOption (by decide +kernel), ?_,
    eq_ok_of_toOption (by decide +kernel), ?_⟩
  · intro h
    rw [h] at hvalue
    cases hvalue
  · intro h
    rw [h] at hout
    cases hout

end BuildVersion
