import BuildVersion.Proofs.Files.Spelling

/-!
# Roots of working copies

The root that is found for a path is the last marked place on the way that the path takes, which need not lie
above the directory that it leads to. Main statements: what is found is that place
(`FileTree.lastMarked_of_markedRoot?_eq_some`), and it is the nearest marked directory with all levels counted
right exactly if the path does not go back up after it (`FileTree.LastMarked.dots_iff`).
-/

namespace BuildVersion

open Text

namespace Path

variable {p : Path} {names : List String} {name : String}

lemma ancestors_of_nil (h : p.names = []) : p.ancestors = [p] := by
  rw [ancestors, h]
  rfl

/-- The paths that a path lies in are its parent and those that the parent lies in. -/
lemma ancestors_of_concat (h : p.names = names ++ [name]) :
    ∃ parent : Path, p.ancestors = p :: parent.ancestors ∧ parent.names = names ∧
      (p.Rooted → parent.Rooted) := by
  have hne : p.names ≠ [] := by
    rw [h]
    exact List.concat_ne_nil name names
  have hlength : p.names.length = names.length + 1 := by rw [h, List.length_append, List.length_singleton]
  have hlast : p.names.dropLast = names := by rw [h, List.dropLast_concat]
  refine ⟨{ root := if names = [] ∧ p.isAbsolute then "/" else p.root, names }, ?_, rfl, ?_⟩
  · rw [ancestors, ancestors, hlength, ancestors.go, parent?, if_neg hne, hlast]
  · intro hp
    refine ⟨?_, fun part hpart => hp.parts part (h ▸ List.mem_append_left [name] hpart)⟩
    split
    · exact Or.inl rfl
    · exact hp.root

/-- The longest front of a list of names at which something is found. -/
structure LastFound (Found : List String → Prop) (names before : List String) : Prop where
  front : before <+: names
  found : Found before
  last : ∀ names', names' <+: names → Found names' → names' <+: before

lemma LastFound.self {Found : List String → Prop} (h : Found names) : LastFound Found names names :=
  ⟨List.prefix_refl names, h, fun _ hfront _ => hfront⟩

lemma front_of_found {Found : List String → Prop} {names' : List String} (h : ¬ Found (names ++ [name]))
    (hfront : names' <+: names ++ [name]) (hfound : Found names') : names' <+: names :=
  (List.prefix_concat_iff.1 hfront).resolve_left fun e => h (e ▸ hfound)

/-- Of a path and those that it lies in, the first one that is found from the inside out has the most
names. -/
lemma find?_ancestors {found : Path → Bool} {Found : List String → Prop} (hp : p.Rooted)
    (h : ∀ r : Path, r.Rooted → r.names <+: p.names → (found r = true ↔ Found r.names)) :
    (∀ r, p.ancestors.find? found = some r → r.Rooted ∧ LastFound Found p.names r.names) ∧
    (p.ancestors.find? found = none → ∀ names, names <+: p.names → ¬ Found names) := by
  -- a path lies in what its parent lies in, so names are taken off at the end
  induction hnames : p.names using List.reverseRecOn generalizing p with
  | nil =>
    have hself := h p hp (List.prefix_refl p.names)
    rw [hnames] at hself
    rw [ancestors_of_nil hnames]
    cases hfound : found p with
    | true =>
      rw [List.find?_cons_of_pos hfound]
      refine ⟨?_, nofun⟩
      intro r hr
      cases hr
      refine ⟨hp, ?_⟩
      rw [hnames]
      exact .self (hself.1 hfound)
    | false =>
      rw [List.find?_cons_of_neg (Bool.eq_false_iff.1 hfound)]
      refine ⟨nofun, ?_⟩
      intro _ names hfront hnames'
      rw [List.prefix_nil.1 hfront, ← hself, hfound] at hnames'
      cases hnames'
  | append_singleton names name ih =>
    have hself := h p hp (List.prefix_refl p.names)
    rw [hnames] at hself
    obtain ⟨parent, hancestors, hparent, hrooted⟩ := ancestors_of_concat hnames
    have habove : parent.names <+: p.names := by
      rw [hparent, hnames]
      exact List.prefix_append names [name]
    obtain ⟨hsome, hnone⟩ := ih (hrooted hp) (fun r hr hfront => h r hr (hfront.trans habove)) hparent
    rw [hancestors]
    cases hfound : found p with
    | true =>
      rw [List.find?_cons_of_pos hfound]
      refine ⟨?_, nofun⟩
      intro r hr
      cases hr
      refine ⟨hp, ?_⟩
      rw [hnames]
      exact .self (hself.1 hfound)
    | false =>
      rw [hfound] at hself
      have hlast : ¬ Found (names ++ [name]) := fun hnames' => Bool.false_ne_true (hself.2 hnames')
      rw [List.find?_cons_of_neg (Bool.eq_false_iff.1 hfound)]
      refine ⟨?_, ?_⟩
      · intro r hr
        obtain ⟨hr', hr''⟩ := hsome r hr
        exact ⟨hr', hr''.front.trans (List.prefix_append names [name]), hr''.found,
          fun names' hfront hnames' => hr''.last names' (front_of_found hlast hfront hnames') hnames'⟩
      · intro hr names' hfront hnames'
        exact hnone hr names' (front_of_found hlast hfront hnames') hnames'

end Path

namespace FileTree

open BuildVersion.Path

variable {t : FileTree} {w place top names : List String} {path marker root : String}

/-- A marker stands in the directory at a place. -/
def Marked (t : FileTree) (marker : String) (place : List String) : Prop :=
  (t.node? (place ++ [marker])).isSome = true

/-- The innermost marked directory of a place and all that it lies in. -/
structure Nearest (t : FileTree) (marker : String) (place top : List String) : Prop where
  above : top <+: place
  marked : t.Marked marker top
  nearest : ∀ above, above <+: place → t.Marked marker above → above <+: top

/-- The names up to the last marked place that they lead to. -/
abbrev LastMarked (t : FileTree) (marker : String) : List String → List String → Prop :=
  LastFound fun names => t.Marked marker (reach [] names)

lemma Marked.directory (h : t.Marked marker place) : t.node? place = some .directory :=
  t.parent_directory place marker h

lemma ofText_of_isName (h : IsName marker) :
    Path.ofText marker = { root := "", names := [marker], isClosed := false } := by
  have hsplit : split '/' marker.toList = [marker.toList] := split_eq_singleton h.no_slash
  have hroot : rootOf marker.toList = "" := by
    by_contra hne
    obtain ⟨cs, hcs⟩ := isAbsolute_ofText_iff.1 (bne_iff_ne.2 hne)
    exact h.no_slash (hcs ▸ List.mem_cons_self)
  have hempty : marker.toList ≠ [] := fun e => h.ne_empty (String.toList_eq_nil_iff.1 e)
  have hdot : marker.toList ≠ ['.'] := fun e => h.ne_dot (String.toList_injective e)
  have hclosed : marker.toList.getLast? ≠ some '/' := fun e => h.no_slash (List.mem_of_getLast? e)
  simp [ofText, hsplit, hroot, hempty, hdot, hclosed]

lemma exists?_eq_true_iff {p : Path} :
    t.exists? w p = true ↔ ∃ found node, t.find w p = .ok (found, node) := by
  rw [exists?]
  cases t.find w p with
  | ok found => exact iff_of_true rfl ⟨found.1, found.2, rfl⟩
  | error fault => exact iff_of_false nofun nofun

/-- A marker is there exactly if the directory that it is looked for in is marked. -/
lemma exists?_join_iff {r : Path} (hr : r.Rooted) (hmarker : IsName marker)
    (hnull : ∀ name ∈ r.names, '\x00' ∉ name.toList) (hleads : t.Leads [] r.names) :
    t.exists? w (r.join (Path.ofText marker)) = true ↔ t.Marked marker (reach [] r.names) := by
  have hjoin : r.join (Path.ofText marker) = { r with names := r.names ++ [marker], isClosed := false } := by
    rw [ofText_of_isName hmarker]
    rfl
  have hnull' : ∀ name ∈ r.names ++ [marker], '\x00' ∉ name.toList := by
    rw [List.forall_mem_append]
    exact ⟨hnull, List.forall_mem_singleton.2 hmarker.no_null⟩
  have habsolute : (r.join (Path.ofText marker)).isAbsolute = true := by
    rw [hjoin]
    exact hr.isAbsolute
  have hfind : ∀ found node, t.find w (r.join (Path.ofText marker)) = .ok (found, node) ↔
      t.walk [] (r.names ++ [marker]) = .ok (found, node) := by
    intro found node
    rw [find_eq_ok_iff (isEmpty_of_isAbsolute habsolute) (by rwa [hjoin]) (by rw [hjoin]; exact nofun),
      habsolute, if_pos rfl, hjoin]
  have hreach : reach [] (r.names ++ [marker]) = reach [] r.names ++ [marker] := by
    rw [reach_append]
    exact step_name hmarker.ne_dot hmarker.ne_dots
  rw [exists?_eq_true_iff]
  constructor
  · intro h
    obtain ⟨found, node, h⟩ := h
    obtain ⟨_, rfl, hnode⟩ := walk_eq_ok_iff.1 ((hfind found node).1 h)
    rw [Marked, ← hreach, hnode, Option.isSome_some]
  · intro h
    obtain ⟨node, hnode⟩ := Option.isSome_iff_exists.1 h
    refine ⟨reach [] r.names ++ [marker], node, (hfind _ _).2 (walk_eq_ok_iff.2 ⟨?_, hreach, hnode⟩)⟩
    exact leads_append.2 ⟨hleads, h.directory, trivial⟩

lemma leads_of_front (h : t.Leads place names) {front : List String} (hfront : front <+: names) :
    t.Leads place front := by
  obtain ⟨rest, rfl⟩ := hfront
  exact (leads_append.1 h).1

/-- A root is found among the places on the way, and it is the last marked one. -/
lemma find?_markedRoot (hw : t.IsWorkingDirectory w) (hmarker : IsName marker)
    (hpath : t.Denotes w path place) :
    (∀ r, t.markedRoot? w path marker = some r → r.Rooted ∧ t.LastMarked marker (way w path) r.names) ∧
    (t.markedRoot? w path marker = none →
      ∀ names, names <+: way w path → ¬ t.Marked marker (reach [] names)) := by
  obtain ⟨hne, hnull, hleads, _, _⟩ := (denotes_iff hw).1 hpath
  apply find?_ancestors (rooted_absolute hw.names hne)
  intro r hr hfront
  exact exists?_join_iff hr hmarker (fun name hname => hnull name (hfront.subset hname))
    (leads_of_front hleads hfront)

/-- The root that is found is spelled with the names on the way up to it. -/
lemma lastMarked_of_markedRoot?_eq_some (hw : t.IsWorkingDirectory w) (hmarker : IsName marker)
    (hpath : t.Denotes w path place) {r : Path} (h : t.markedRoot? w path marker = some r) :
    t.Denotes w r.text (reach [] (way w r.text)) ∧ t.LastMarked marker (way w path) (way w r.text) := by
  obtain ⟨_, hnull, hleads, _, _⟩ := (denotes_iff hw).1 hpath
  obtain ⟨hr, hlast⟩ := (find?_markedRoot hw hmarker hpath).1 r h
  have hfound : t.Marked marker (reach [] r.names) := hlast.found
  rw [denotes_iff hw, way_text hr]
  refine ⟨⟨?_, ?_, leads_of_front hleads hlast.front, rfl, hfound.directory⟩, hlast⟩
  · exact isEmpty_of_isAbsolute (isAbsolute_ofText_text hr)
  · intro name hname
    exact hnull name (hlast.front.subset hname)

/-! ### Roots above the directory -/

namespace LastMarked

variable {before after : List String}

/-- After the last marked place, none is marked. -/
lemma not_marked (h : t.LastMarked marker (before ++ after) before) {front : List String}
    (hfront : front <+: after) (hne : front ≠ []) : ¬ t.Marked marker (reach (reach [] before) front) := by
  intro hmarked
  rw [← reach_append] at hmarked
  have hlength := (h.last (before ++ front) ((List.prefix_append_right_inj before).2 hfront) hmarked).length_le
  rw [List.length_append] at hlength
  have hpos := List.length_pos_iff.2 hne
  omega

/-- If the last marked place lies above the end of the way, no marked one is nearer. -/
lemma nearest (h : t.LastMarked marker (before ++ after) before)
    (habove : reach [] before <+: reach (reach [] before) after) :
    t.Nearest marker (reach (reach [] before) after) (reach [] before) := by
  refine ⟨habove, h.found, ?_⟩
  intro above hplace hmarked
  by_contra hnot
  obtain ⟨front, rest, hnames, hne, hfront⟩ := exists_reach_eq hnot hplace
  exact h.not_marked ⟨rest, hnames.symm⟩ hne (hfront ▸ hmarked)

/-- The last marked place is the nearest one and all levels below it are counted right exactly if the way does
not go back up after it. -/
lemma dots_iff (h : t.LastMarked marker (before ++ after) before) (hdot : "." ∉ after) :
    ".." ∉ after ↔ t.Nearest marker (reach (reach [] before) after) (reach [] before) ∧
      (after.filter fun name => name ≠ "..").length + (reach [] before).length =
        (reach (reach [] before) after).length := by
  constructor
  · intro hdots
    have hreach : reach (reach [] before) after = reach [] before ++ after := reach_eq_append hdot hdots
    have habove : reach [] before <+: reach (reach [] before) after := by
      rw [hreach]
      exact List.prefix_append _ after
    refine ⟨h.nearest habove, ?_⟩
    rw [List.filter_eq_self.2, hreach, List.length_append, Nat.add_comm]
    intro name hname
    apply decide_eq_true
    intro e
    exact hdots (e ▸ hname)
  · intro hnearest
    obtain ⟨hnearest, hlength⟩ := hnearest
    -- each step up has a step down more than the levels that are left, so there can be none
    have hcount := length_reach_add_count hdot (List.prefix_refl _) hnearest.above <| by
      intro front rest hnames hne e
      have hmarked := h.not_marked ⟨rest, hnames.symm⟩ hne
      rw [e] at hmarked
      exact hmarked h.found
    apply List.count_eq_zero.1
    omega

end LastMarked

/-- On its way, a path does not go back up after some marked place, if there is any. -/
def Straight (t : FileTree) (w : List String) (marker path : String) : Prop :=
  (∀ names, names <+: way w path → ¬ t.Marked marker (reach [] names)) ∨
    ∃ before after, way w path = before ++ after ∧ t.Marked marker (reach [] before) ∧ ".." ∉ after

/-- What matters is what comes after the last marked place. -/
lemma straight_iff {before after : List String} (hway : way w path = before ++ after)
    (h : t.LastMarked marker (way w path) before) : t.Straight w marker path ↔ ".." ∉ after := by
  constructor
  · intro hstraight
    cases hstraight with
    | inl hnone => exact absurd h.found (hnone before h.front)
    | inr hsome =>
      obtain ⟨before', after', hway', hmarked, hdots⟩ := hsome
      obtain ⟨rest, rfl⟩ := h.last before' ⟨after', hway'.symm⟩ hmarked
      rw [hway, List.append_assoc] at hway'
      rw [← List.append_cancel_left hway'] at hdots
      exact fun hmem => hdots (List.mem_append_right rest hmem)
  · intro hdots
    exact Or.inr ⟨before, after, hway, h.found, hdots⟩

lemma Nearest.unique {top' : List String} (h : t.Nearest marker place top)
    (h' : t.Nearest marker place top') : top = top' := by
  have hfront := h'.nearest top h.above h.marked
  exact hfront.eq_of_length_le (h.nearest top' h'.above h'.marked).length_le

/-- Where no root is found, no directory above is marked. -/
lemma not_marked_of_root_eq_none (hw : t.IsWorkingDirectory w) (hmarker : IsName marker)
    (hpath : t.Denotes w path place) (h : (t.markedRoot? w path marker).map Path.text = none) :
    t.Straight w marker path ∧ ∀ top, top <+: place → ¬ t.Marked marker top := by
  have hnone := (find?_markedRoot hw hmarker hpath).2 (Option.map_eq_none_iff.1 h)
  refine ⟨Or.inl hnone, ?_⟩
  intro top htop hmarked
  obtain ⟨_, _, _, hreach, _⟩ := (denotes_iff hw).1 hpath
  rw [← hreach] at htop
  obtain ⟨before, after, hway, hbefore⟩ := exists_reach_eq_of_root htop
  exact hnone before ⟨after, hway.symm⟩ (hbefore ▸ hmarked)

/-- The root that is found is a marked directory. It is the nearest one and all levels below it are counted
right exactly if the path does not go back up after a marked place. -/
lemma straight_iff_nearest (hw : t.IsWorkingDirectory w) (hmarker : IsName marker)
    (hpath : t.Denotes w path place) (h : (t.markedRoot? w path marker).map Path.text = some root) :
    ∃ top, t.Denotes w root top ∧ t.Marked marker top ∧
      (t.Straight w marker path ↔
        t.Nearest marker place top ∧ depth w path root + top.length = place.length) := by
  obtain ⟨r, hr, rfl⟩ := Option.map_eq_some_iff.1 h
  obtain ⟨hroot, hlast⟩ := lastMarked_of_markedRoot?_eq_some hw hmarker hpath hr
  obtain ⟨hne, _, _, hreach, _⟩ := (denotes_iff hw).1 hpath
  obtain ⟨hne', _⟩ := (denotes_iff hw).1 hroot
  obtain ⟨after, hway⟩ := hlast.front
  have hdot : "." ∉ after := by
    intro hmem
    apply dot_not_mem_way hw.names hne
    rw [← hway]
    exact List.mem_append_right _ hmem
  refine ⟨reach [] (way w r.text), hroot, hlast.found, ?_⟩
  rw [straight_iff hway.symm hlast, depth_eq hw.names hne hne' hway.symm]
  rw [← hway] at hlast hreach
  rw [hlast.dots_iff hdot, ← hreach, reach_append]

/-- A path that does not go back up finds the nearest marked directory. -/
lemma nearest_of_straight (hw : t.IsWorkingDirectory w) (hmarker : IsName marker)
    (hpath : t.Denotes w path place) (hstraight : t.Straight w marker path)
    (h : (t.markedRoot? w path marker).map Path.text = some root) :
    ∃ top, t.Denotes w root top ∧ t.Nearest marker place top ∧
      depth w path root + top.length = place.length := by
  obtain ⟨top, htop, _, hnearest⟩ := straight_iff_nearest hw hmarker hpath h
  exact ⟨top, htop, hnearest.1 hstraight⟩

/-- Two paths to one directory that do not go back up find roots that are one directory, or none. -/
lemma roots_of_straight {path' : String} (hw : t.IsWorkingDirectory w) (hmarker : IsName marker)
    (hpath : t.Denotes w path place) (hpath' : t.Denotes w path' place)
    (hstraight : t.Straight w marker path) (hstraight' : t.Straight w marker path') :
    ((t.markedRoot? w path marker).map Path.text = none ∧
        (t.markedRoot? w path' marker).map Path.text = none) ∨
      ∃ root root' top, (t.markedRoot? w path marker).map Path.text = some root ∧
        (t.markedRoot? w path' marker).map Path.text = some root' ∧
        t.Denotes w root top ∧ t.Denotes w root' top ∧ t.Nearest marker place top := by
  cases hroot : (t.markedRoot? w path marker).map Path.text with
  | none =>
    cases hroot' : (t.markedRoot? w path' marker).map Path.text with
    | none => exact Or.inl ⟨rfl, rfl⟩
    | some root' =>
      obtain ⟨top, _, hnearest, _⟩ := nearest_of_straight hw hmarker hpath' hstraight' hroot'
      have hnone := (not_marked_of_root_eq_none hw hmarker hpath hroot).2 top hnearest.above
      exact absurd hnearest.marked hnone
  | some root =>
    obtain ⟨top, htop, hnearest, _⟩ := nearest_of_straight hw hmarker hpath hstraight hroot
    cases hroot' : (t.markedRoot? w path' marker).map Path.text with
    | none =>
      have hnone := (not_marked_of_root_eq_none hw hmarker hpath' hroot').2 top hnearest.above
      exact absurd hnearest.marked hnone
    | some root' =>
      obtain ⟨top', htop', hnearest', _⟩ := nearest_of_straight hw hmarker hpath' hstraight' hroot'
      rw [← hnearest.unique hnearest'] at htop'
      exact Or.inr ⟨root, root', top, rfl, rfl, htop, htop', hnearest⟩

end FileTree

end BuildVersion
