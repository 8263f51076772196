import BuildVersion.Proofs.Subversion.Spelling
import BuildVersion.Proofs.Text.Run

/-!
# Branches of working copies

The branch is named by the address of the root of a working copy, and the address of a directory below it goes on with
as many names as there are levels between the two. Main statement: all directories of a working copy have the branch of
its root (`branch_at_any_depth`).
-/

namespace BuildVersion.Subversion

open Text
open BuildVersion.FileTree BuildVersion.Path

/-- A name in an address. -/
structure IsSegment (name : String) : Prop where
  ne_empty : name ≠ ""
  no_slash : '/' ∉ name.toList

/-- Names in order, with slashes in front of each of them and any number of slashes at the end. -/
inductive Slashed : List String → List Char → Prop where
  | slashes (n : Nat) : Slashed [] (List.replicate n '/')
  | name {name : String} {names : List String} {cs : List Char} (n : Nat) :
    IsSegment name →
    Slashed names cs →
    Slashed (name :: names) ('/' :: (List.replicate n '/' ++ (name.toList ++ cs)))

/-- An address in a repository, by its names: a `^` that stands for the repository and slashes come before the first
name, or both are left out. -/
inductive Addresses : List String → List Char → Prop where
  | slashed {names : List String} {cs : List Char} (n : Nat) :
    Slashed names cs →
    Addresses names (List.replicate n '^' ++ cs)
  | plain {name : String} {names : List String} {cs : List Char} :
    IsSegment name →
    Slashed names cs →
    Addresses (name :: names) (name.toList ++ cs)

/-- No `^` opens the first name, where it could be taken for the repository. -/
def NoCaret (names : List String) : Prop := ∀ name ∈ names.head?, name.toList.head? ≠ some '^'

/-- How a branch is named by the names of its address. The directory that holds the branches is left out. -/
def branchName : List String → String
  | "branches" :: name :: names => "/".intercalate (name :: names)
  | names => "/".intercalate names

/-- The names between the slashes of a text. -/
def segments (cs : List Char) : List (List Char) := (split '/' cs).filter (· ≠ [])

/-- The names that are read from an address. -/
def namesOf (cs : List Char) : List String := (segments (cs.dropWhile (· == '^'))).map String.ofList

variable {name : String} {names rs ss : List String} {cs ds : List Char} {url : String} {levels : Nat}

/-! ### Addresses -/

lemma segments_append_slash (cs ds : List Char) : segments (cs ++ '/' :: ds) = segments cs ++ segments ds := by
  rw [segments, split_append_cons, List.filter_append]
  rfl

lemma segments_slash_cons (cs : List Char) : segments ('/' :: cs) = segments cs := segments_append_slash [] cs

lemma segments_slashes_append (n : Nat) (cs : List Char) :
    segments (List.replicate n '/' ++ cs) = segments cs := by
  induction n with
  | zero => rfl
  | succ n ih => rw [List.replicate_succ, List.cons_append, segments_slash_cons, ih]

lemma IsSegment.toList_ne_nil (h : IsSegment name) : name.toList ≠ [] :=
  fun hnil => h.ne_empty (String.toList_eq_nil_iff.1 hnil)

lemma IsSegment.segments_eq (h : IsSegment name) : segments name.toList = [name.toList] := by
  rw [segments, split_eq_singleton h.no_slash, List.filter_cons_of_pos (by simpa using h.ne_empty)]
  rfl

lemma Slashed.head (h : Slashed names cs) : cs = [] ∨ ∃ ds, cs = '/' :: ds := by
  cases h with
  | slashes n =>
    cases n with
    | zero => exact Or.inl rfl
    | succ n => exact Or.inr ⟨_, rfl⟩
  | name n hname hrest => exact Or.inr ⟨_, rfl⟩

/-- A name ends where the slashes after it begin. -/
lemma segments_name_append (h : IsSegment name) (hcs : Slashed names cs) :
    segments (name.toList ++ cs) = name.toList :: segments cs := by
  obtain rfl | ⟨ds, rfl⟩ := hcs.head
  · rw [List.append_nil, h.segments_eq]
    rfl
  · rw [segments_append_slash, h.segments_eq, segments_slash_cons]
    rfl

lemma Slashed.segments_eq (h : Slashed names cs) : segments cs = names.map String.toList := by
  induction h with
  | slashes n =>
    rw [← List.append_nil (List.replicate n '/'), segments_slashes_append]
    rfl
  | name n hname hrest ih =>
    rw [segments_slash_cons, segments_slashes_append, segments_name_append hname hrest, ih]
    rfl

/-- A character other than a slash that is put in front of a text takes no name away. -/
lemma length_segments_le_cons {c : Char} (hc : c ≠ '/') (cs : List Char) :
    (segments cs).length ≤ (segments (c :: cs)).length := by
  rw [segments, segments, split, if_neg hc]
  cases split '/' cs with
  | nil => exact Nat.zero_le _
  | cons piece pieces =>
    dsimp only
    rw [List.filter_cons_of_pos (a := c :: piece) rfl, List.filter_cons]
    split
    · exact Nat.le_refl _
    · exact Nat.le_succ _

lemma isSegment_of_mem_namesOf (h : name ∈ namesOf cs) : IsSegment name := by
  obtain ⟨piece, hpiece, rfl⟩ := List.mem_map.1 h
  obtain ⟨hsplit, hne⟩ := List.mem_filter.1 hpiece
  refine ⟨fun hempty => of_decide_eq_true hne (String.ofList_eq_empty_iff.1 hempty), ?_⟩
  rw [String.toList_ofList]
  exact fun hslash => (mem_piece hsplit hslash).2 rfl

lemma Slashed.namesOf_eq (h : Slashed names cs) (n : Nat) : namesOf (List.replicate n '^' ++ cs) = names := by
  have hdrop : (List.replicate n '^' ++ cs).dropWhile (· == '^') = cs := by
    apply dropWhile_run_append fun c hc => beq_iff_eq.2 (List.eq_of_mem_replicate hc)
    obtain rfl | ⟨ds, rfl⟩ := h.head
    · exact nofun
    · rintro _ ⟨⟩
      rfl
  rw [namesOf, hdrop, h.segments_eq, List.map_map]
  simp

namespace Addresses

/-- The names of an address are read from it. -/
lemma namesOf_eq (h : Addresses names cs) (hcaret : NoCaret names) : namesOf cs = names := by
  cases h with
  | slashed n hrest => exact hrest.namesOf_eq n
  | @plain name names cs hname hrest =>
    have hdrop : (name.toList ++ cs).dropWhile (· == '^') = name.toList ++ cs := by
      apply dropWhile_of_head?
      intro c hc
      rw [List.head?_append_of_ne_nil name.toList hname.toList_ne_nil] at hc
      exact beq_eq_false_iff_ne.2 fun heq => hcaret name rfl (heq ▸ hc)
    rw [namesOf, hdrop, segments_name_append hname hrest, hrest.segments_eq, ← List.map_cons, List.map_map]
    simp

/-- No more names are read from an address than it has. -/
lemma length_namesOf_le (h : Addresses names cs) : (namesOf cs).length ≤ names.length := by
  cases h with
  | slashed n hrest => rw [hrest.namesOf_eq n]
  | @plain name names cs hname hrest =>
    have hle : ∀ ds : List Char, (segments (ds.dropWhile (· == '^'))).length ≤ (segments ds).length := by
      intro ds
      induction ds with
      | nil => exact Nat.le_refl _
      | cons c ds ih =>
        rw [List.dropWhile_cons]
        split
        · next hc => exact ih.trans (length_segments_le_cons (by rw [beq_iff_eq.1 hc]; decide) ds)
        · exact Nat.le_refl _
    have hlength := hle (name.toList ++ cs)
    rw [segments_name_append hname hrest, hrest.segments_eq, ← List.map_cons, List.length_map] at hlength
    rwa [namesOf, List.length_map]

end Addresses

/-! ### Names of branches -/

lemma ofList_join (names : List String) :
    String.ofList (join '/' (names.map String.toList)) = "/".intercalate names := by
  apply String.toList_injective
  rw [String.toList_ofList, join_eq_intercalate, String.toList_intercalate]
  rfl

/-- Joined names open with the directory of the branches and a slash only if that is the first of several names. -/
lemma branches_append_eq_iff (h : ∀ name ∈ names, IsSegment name) :
    "branches/".toList ++ cs = join '/' (names.map String.toList) ↔
      ∃ name rest, names = "branches" :: name :: rest ∧ cs = join '/' ((name :: rest).map String.toList) := by
  have hslash : "branches/".toList ++ cs = "branches".toList ++ '/' :: cs := rfl
  rw [hslash]
  constructor
  · intro happend
    match names, h with
    | [], _ => cases happend
    | [name], h =>
      have hmem : '/' ∈ name.toList := by
        have hjoin : join '/' ([name].map String.toList) = name.toList := rfl
        rw [← hjoin, ← happend]
        exact List.mem_append_right _ List.mem_cons_self
      exact absurd hmem (h name List.mem_cons_self).no_slash
    | first :: name :: rest, h =>
      have hcut : cut? '/' ("branches".toList ++ '/' :: cs) = some ("branches".toList, cs) :=
        cut?_eq_some_iff.2 ⟨rfl, by decide⟩
      have hjoin : cut? '/' (join '/' ((first :: name :: rest).map String.toList)) =
          some (first.toList, join '/' ((name :: rest).map String.toList)) :=
        cut?_eq_some_iff.2 ⟨join_cons_of_ne_nil (List.cons_ne_nil _ _), (h first List.mem_cons_self).no_slash⟩
      rw [happend, hjoin, Option.some.injEq, Prod.mk.injEq] at hcut
      exact ⟨name, rest, congrArg (· :: name :: rest) (String.toList_injective hcut.1), hcut.2.symm⟩
  · rintro ⟨name, rest, rfl, rfl⟩
    exact (join_cons_of_ne_nil (List.cons_ne_nil _ _)).symm

lemma branchName_of_ne (h : ∀ name rest, names ≠ "branches" :: name :: rest) :
    branchName names = "/".intercalate names := by
  unfold branchName
  split
  · next name rest => exact absurd rfl (h name rest)
  · rfl

/-- A branch has the names that are read from its address, but for the last ones. -/
lemma branchOf_eq (url : String) (levels : Nat) :
    branchOf url levels =
      branchName ((namesOf url.toList).take ((namesOf url.toList).length - levels)) := by
  have hsegments : (split '/' (url.toList.dropWhile (· == '^'))).filter (· ≠ []) =
      (namesOf url.toList).map String.toList := by
    rw [namesOf, List.map_map]
    simp [segments]
  have hnames : ∀ name ∈ (namesOf url.toList).take ((namesOf url.toList).length - levels), IsSegment name :=
    fun name hname => isSegment_of_mem_namesOf (List.mem_of_mem_take hname)
  rw [branchOf, hsegments, List.length_map, ← List.map_take]
  generalize (namesOf url.toList).take ((namesOf url.toList).length - levels) = left at hnames
  split
  · next branch hbranch =>
    obtain ⟨name, rest, rfl, rfl⟩ :=
      (branches_append_eq_iff hnames).1 (List.isPrefixOf?_eq_some_iff_append_eq.1 hbranch)
    exact ofList_join (name :: rest)
  · next hnone =>
    rw [ofList_join, branchName_of_ne]
    rintro name rest rfl
    have hsome := List.isPrefixOf?_eq_some_iff_append_eq.2 ((branches_append_eq_iff hnames).2 ⟨name, rest, rfl, rfl⟩)
    rw [hnone] at hsome
    cases hsome

/-- Nothing is left of an address where all of its names lie below the root. -/
lemma branchOf_eq_empty (h : Addresses names url.toList) (hlevels : names.length ≤ levels) :
    branchOf url levels = "" := by
  rw [branchOf_eq, Nat.sub_eq_zero_of_le (h.length_namesOf_le.trans hlevels), List.take_zero]
  rfl

/-- Names below the root of a working copy do not count. -/
lemma branchOf_append (h : Addresses (rs ++ ss) url.toList) (hcaret : NoCaret rs) :
    branchOf url ss.length = branchName rs := by
  cases rs with
  | nil => exact branchOf_eq_empty h (Nat.le_refl _)
  | cons name rs =>
    rw [branchOf_eq, h.namesOf_eq hcaret, List.length_append, Nat.add_sub_cancel, List.take_left]

/-! ### Directories of a working copy -/

variable {tools : Toolbox} {t : FileTree} {w top below : List String} {path root : String} {milliseconds : Nat}

/-- The revision that Subversion knows of in a directory. -/
def revisionOf (tools : Toolbox) (w : List String) (milliseconds : Nat) (path : String) : UInt64 :=
  (rangeOf (tools.outcome milliseconds ⟨"svnversion", [], ((Path.ofText path).full w).text⟩).lines?).revision

/-- In a directory, Subversion knows of a revision and reports an address with these names. -/
structure Reports (tools : Toolbox) (w : List String) (milliseconds : Nat) (path : String) (names : List String) :
    Prop where
  revision : revisionOf tools w milliseconds path ≠ 0
  address : ∃ lines,
    (tools.outcome milliseconds (infoCall w path (revisionOf tools w milliseconds path))).lines? = some lines ∧
      Addresses names (Info.read lines).relativeUrl.toList

/-- Where the names of an address after the first ones are those of the levels below the root, the first ones name the
branch. -/
lemma Reports.branch_collect {tagMatch : String} (h : Reports tools w milliseconds path (rs ++ ss))
    (hcaret : NoCaret rs) (hlevels : depth w path root = ss.length) :
    (collect tools w milliseconds ⟨path, root, tagMatch⟩).value.branch = branchName rs := by
  obtain ⟨lines, hlines, haddress⟩ := h.address
  have hrevision : (collect tools w milliseconds ⟨path, root, tagMatch⟩).value.revision =
      revisionOf tools w milliseconds path := by
    rw [revision_collect, Toolbox.value_run, revisionOf]
  rw [Subversion.branch_collect (hrevision ▸ h.revision) (hrevision ▸ hlines), hlevels,
    branchOf_append haddress hcaret]

/-- A path that does not go up leads where its names say. -/
lemma way_of_denotes (hw : t.IsWorkingDirectory w) (hpath : t.Denotes w path (top ++ below))
    (hdots : ".." ∉ parts path) : way w path = top ++ below ∧ ".." ∉ way w path := by
  obtain ⟨hne, _, _, hreach, _⟩ := (denotes_iff hw).1 hpath
  have hup : ".." ∉ way w path := by
    cases habsolute : (Path.ofText path).isAbsolute with
    | true => rwa [way_of_isAbsolute habsolute]
    | false =>
      rw [way_of_not_isAbsolute hne habsolute, List.mem_append, not_or]
      exact ⟨fun hmem => (hw.names _ hmem).ne_dots rfl, hdots⟩
  rw [reach_eq_append (dot_not_mem_way hw.names hne) hup, List.nil_append] at hreach
  exact ⟨hreach, hup⟩

/-- A working copy whose only mark is at its root is found from every directory in it, with all levels counted. -/
lemma exists_root (hw : t.IsWorkingDirectory w) (hpath : t.Denotes w path (top ++ below))
    (hdots : ".." ∉ parts path) (hmarked : t.Marked ".svn" top)
    (honly : ∀ names, names ≠ [] → ¬ t.Marked ".svn" (top ++ names)) :
    (∃ root, (t.markedRoot? w path ".svn").map Path.text = some root) ∧
      ∀ root, (t.markedRoot? w path ".svn").map Path.text = some root →
        t.Denotes w root top ∧ depth w path root = below.length := by
  obtain ⟨hway, hup⟩ := way_of_denotes hw hpath hdots
  have hdot := dot_not_mem_way hw.names ((denotes_iff hw).1 hpath).1
  rw [hway] at hup hdot
  have hreach : reach [] top = top :=
    reach_eq_append (fun hmem => hdot (List.mem_append_left _ hmem)) fun hmem => hup (List.mem_append_left _ hmem)
  have hstraight : t.Straight w ".svn" path :=
    Or.inr ⟨top, below, hway, by rwa [hreach], fun hmem => hup (List.mem_append_right _ hmem)⟩
  have hnearest : t.Nearest ".svn" (top ++ below) top := by
    refine ⟨List.prefix_append top below, hmarked, ?_⟩
    intro above habove hmarked'
    obtain h | ⟨names, rfl⟩ := List.prefix_or_prefix_of_prefix habove (List.prefix_append top below)
    · exact h
    · by_cases hnil : names = []
      · rw [hnil, List.append_nil]
      · exact absurd hmarked' (honly names hnil)
  refine ⟨?_, ?_⟩
  · cases hroot : (t.markedRoot? w path ".svn").map Path.text with
    | none => exact absurd hmarked ((not_marked_of_root_eq_none hw isName_svn hpath hroot).2 top hnearest.above)
    | some root => exact ⟨root, rfl⟩
  · intro root hroot
    obtain ⟨top', htop', hnearest', hlevels⟩ := nearest_of_straight hw isName_svn hpath hstraight hroot
    rw [← hnearest.unique hnearest'] at htop' hlevels
    rw [List.length_append] at hlevels
    exact ⟨htop', by omega⟩

/-- The branch is named by the names of an address but for those that lie below the root of the working copy, and
however many slashes stand between them. So every directory of a working copy that has its only mark at its root is
collected with the branch of the root, if its path does not go up and its address goes on from that of the root with
one name for each level between them. -/
theorem branch_at_any_depth :
    (∀ rs ss (url url' : String), NoCaret rs → Addresses (rs ++ ss) url.toList → Addresses rs url'.toList →
      branchOf url ss.length = branchOf url' 0 ∧ branchOf url' 0 = branchName rs) ∧
    (∀ names (url : String) levels, Addresses names url.toList → names.length ≤ levels →
      branchOf url levels = "") ∧
    ∀ (t : FileTree) w (tools : Toolbox) milliseconds path top below rs ss tagMatch,
      t.IsWorkingDirectory w → t.Denotes w path (top ++ below) → ".." ∉ parts path →
      t.Marked ".svn" top → (∀ names, names ≠ [] → ¬ t.Marked ".svn" (top ++ names)) →
      NoCaret rs → ss.length = below.length → Reports tools w milliseconds path (rs ++ ss) →
      let svn := provider tools t w milliseconds
      ∃ root, svn.root? path = some root ∧ t.Denotes w root top ∧
        (svn.collect ⟨path, root, tagMatch⟩).value.branch = branchName rs ∧
        ∀ path' root' tagMatch', t.Denotes w path' top → ".." ∉ parts path' → svn.root? path' = some root' →
          Reports tools w milliseconds path' rs →
          (svn.collect ⟨path', root', tagMatch'⟩).value.branch = branchName rs := by
  refine ⟨?_, fun _ _ _ => branchOf_eq_empty, ?_⟩
  · intro rs ss url url' hcaret h h'
    rw [← List.append_nil rs] at h'
    have hroot : branchOf url' 0 = branchName rs := branchOf_append h' hcaret
    rw [branchOf_append h hcaret, hroot]
    exact ⟨rfl, rfl⟩
  · intro t w tools milliseconds path top below rs ss tagMatch hw hpath hdots hmarked honly hcaret hlength hreports svn
    obtain ⟨⟨root, hroot⟩, hfound⟩ := exists_root hw hpath hdots hmarked honly
    obtain ⟨htop, hlevels⟩ := hfound root hroot
    refine ⟨root, hroot, htop, hreports.branch_collect hcaret (hlevels.trans hlength.symm), ?_⟩
    intro path' root' tagMatch' hpath' hdots' hroot' hreports'
    rw [← List.append_nil top] at hpath'
    rw [← List.append_nil rs] at hreports'
    exact hreports'.branch_collect hcaret ((exists_root hw hpath' hdots' hmarked honly).2 root' hroot').2

lemma exists_mem_of_isSome_node?_ofList {nodes : List (List String × Node)} {place : List String} (hne : place ≠ [])
    (h : ((FileTree.ofList nodes).node? place).isSome) : ∃ entry ∈ nodes, place <+: entry.1 := by
  change (nodeOf? nodes place).isSome at h
  rw [nodeOf?] at h
  split at h
  · next hneeds =>
    simp only [needsDirectory, Bool.or_eq_true, List.any_eq_true, Bool.and_eq_true, beq_iff_eq] at hneeds
    obtain hnil | ⟨entry, hmem, hprefix, _⟩ := hneeds
    · exact absurd hnil hne
    · exact ⟨entry, hmem, List.isPrefixOf_iff_prefix.1 hprefix⟩
  · obtain ⟨node, hnode⟩ := Option.isSome_iff_exists.1 h
    exact ⟨(place, node), mem_of_lookup hnode, List.prefix_refl place⟩

/-- No directory below the root of the working copy in the tree is marked. -/
lemma not_marked_exampleTree (hne : names ≠ []) : ¬ exampleTree.Marked ".svn" (["wc"] ++ names) := by
  intro hmarked
  obtain ⟨entry, hentry, hprefix⟩ := exists_mem_of_isSome_node?_ofList (by simp) hmarked
  have hmark : ".svn" ∈ entry.1 := hprefix.subset (by simp)
  have hopens : ["wc"] <+: entry.1 := (List.prefix_append _ _).trans ((List.prefix_append _ _).trans hprefix)
  have hlevels : 3 ≤ entry.1.length := by
    have hlength := hprefix.length_le
    have hpos := List.length_pos_iff.2 hne
    simp only [List.length_append, List.length_singleton] at hlength
    omega
  simp only [List.mem_cons, List.not_mem_nil, or_false] at hentry
  obtain rfl | rfl | rfl | rfl | rfl := hentry <;> revert hmark hopens hlevels <;> decide

/-- Tools that know the working copy of the tree and one directory in it, two levels below its root. -/
def branchTools : Toolbox where
  has _ := true
  outcome _ call :=
    let answer (address : String) : ToolOutcome :=
      .ended (.code 0)
        [.output (encodeUtf8 (if call.program = "svn" then "Relative URL: " ++ address ++ "\n" else "12\n")), .errors []]
    match exampleTree.find [] (Path.ofText call.directory) with
    | .ok (["wc", "x", "z"], .directory) => answer "^/branches//topic/x/z/"
    | .ok (["wc"], .directory) => answer "^/branches/topic"
    | _ => .notStarted .missing

/-- Two levels below the root, with a path and an address that have more slashes than they need. -/
theorem branch_at_any_depth_two_below :
    let t := exampleTree
    let svn := provider branchTools t [] 1000
    t.IsWorkingDirectory [] ∧ t.Denotes [] "wc//x/./z" (["wc"] ++ ["x", "z"]) ∧ ".." ∉ parts "wc//x/./z" ∧
      t.Marked ".svn" ["wc"] ∧ (∀ names, names ≠ [] → ¬ t.Marked ".svn" (["wc"] ++ names)) ∧
      Reports branchTools [] 1000 "wc//x/./z" (["branches", "topic"] ++ ["x", "z"]) ∧
      Reports branchTools [] 1000 "wc" ["branches", "topic"] ∧
      svn.root? "wc//x/./z" = some "/wc" ∧ svn.root? "wc" = some "/wc" ∧
      (svn.collect ⟨"wc//x/./z", "/wc", ""⟩).value.branch = "topic" ∧
      (svn.collect ⟨"wc", "/wc", ""⟩).value.branch = "topic" ∧
      branchOf "^/branches//topic/x/z/" 2 = branchOf "branches/topic" 0 ∧
      branchOf "branches/topic" 0 = "topic" ∧ branchOf "branches/topic" 3 = "" := by
  intro t svn
  have hbranches : IsSegment "branches" := ⟨by decide, by decide⟩
  have htopic : IsSegment "topic" := ⟨by decide, by decide⟩
  have hx : IsSegment "x" := ⟨by decide, by decide⟩
  have hz : IsSegment "z" := ⟨by decide, by decide⟩
  have hbelow : Addresses (["branches", "topic"] ++ ["x", "z"]) "^/branches//topic/x/z/".toList :=
    .slashed 1 (.name 0 hbranches (.name 1 htopic (.name 0 hx (.name 0 hz (.slashes 1)))))
  have habove : Addresses ["branches", "topic"] "^/branches/topic".toList :=
    .slashed 1 (.name 0 hbranches (.name 0 htopic (.slashes 0)))
  have hplain : Addresses ["branches", "topic"] "branches/topic".toList :=
    .plain hbranches (.name 0 htopic (.slashes 0))
  have hcaret : NoCaret ["branches", "topic"] := by
    rintro _ ⟨⟩
    decide
  have hw : t.IsWorkingDirectory [] := ⟨rfl, by decide⟩
  have hpath : t.Denotes [] "wc//x/./z" (["wc"] ++ ["x", "z"]) := Fallible.eq_ok_of_toOption (by decide +kernel)
  have hpath' : t.Denotes [] "wc" ["wc"] := Fallible.eq_ok_of_toOption (by decide +kernel)
  have hdots : ".." ∉ parts "wc//x/./z" := by decide +kernel
  have hdots' : ".." ∉ parts "wc" := by decide +kernel
  have hmarked : t.Marked ".svn" ["wc"] := rfl
  have honly : ∀ names, names ≠ [] → ¬ t.Marked ".svn" (["wc"] ++ names) := fun names => not_marked_exampleTree
  have hreports : Reports branchTools [] 1000 "wc//x/./z" (["branches", "topic"] ++ ["x", "z"]) :=
    ⟨by decide +kernel, ["Relative URL: ^/branches//topic/x/z/"], by decide +kernel, hbelow⟩
  have hreports' : Reports branchTools [] 1000 "wc" ["branches", "topic"] :=
    ⟨by decide +kernel, ["Relative URL: ^/branches/topic"], by decide +kernel, habove⟩
  have hroot : svn.root? "wc//x/./z" = some "/wc" := by decide +kernel
  have hroot' : svn.root? "wc" = some "/wc" := by decide +kernel
  obtain ⟨root, hroot_eq, _, hbranch, hbranch'⟩ := branch_at_any_depth.2.2 t [] branchTools 1000 "wc//x/./z" ["wc"]
    ["x", "z"] ["branches", "topic"] ["x", "z"] "" hw hpath hdots hmarked honly hcaret rfl hreports
  cases hroot_eq.symm.trans hroot
  obtain ⟨hdepth, hname⟩ := branch_at_any_depth.1 ["branches", "topic"] ["x", "z"] "^/branches//topic/x/z/"
    "branches/topic" hcaret hbelow hplain
  exact ⟨hw, hpath, hdots, hmarked, honly, hreports, hreports', hroot, hroot', hbranch,
    hbranch' "wc" "/wc" "" hpath' hdots' hroot' hreports', hdepth, hname,
    branch_at_any_depth.2.1 ["branches", "topic"] "branches/topic" 3 hplain (by decide)⟩

end BuildVersion.Subversion
