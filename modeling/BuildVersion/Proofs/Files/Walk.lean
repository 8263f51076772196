import BuildVersion.Files.Tree
import Mathlib.Data.List.Infix
import Mathlib.Tactic.Lemma

/-!
# Walks through file trees

Names are followed one after another, and two dots go back up. Main statements: a walk arrives where its
names lead if all places on the way are directories (`walk_eq_ok_iff`), a walk that ends below a place it did
not start below has been at that place (`exists_reach_eq`), and a walk that never comes back to a place goes
down once for each step up and for each level that it ends below that place (`length_reach_add_count`).
-/

namespace BuildVersion.FileTree

variable {t : FileTree} {place above root : List String} {name : String} {names names' : List String}

/-- Where one name leads. -/
def step (place : List String) (name : String) : List String :=
  if name = "." then place else if name = ".." then place.dropLast else place ++ [name]

/-- Where names lead, whatever stands there. -/
def reach (place names : List String) : List String := names.foldl step place

lemma step_dots : step place ".." = place.dropLast := rfl

lemma step_name (hdot : name ≠ ".") (hdots : name ≠ "..") : step place name = place ++ [name] := by
  rw [step, if_neg hdot, if_neg hdots]

lemma reach_cons : reach place (name :: names) = reach (step place name) names := rfl

lemma reach_append : reach place (names ++ names') = reach (reach place names) names' := List.foldl_append

/-- Names without dots are added to a place. -/
lemma reach_eq_append (hdot : "." ∉ names) (hdots : ".." ∉ names) : reach place names = place ++ names := by
  induction names generalizing place with
  | nil => exact (List.append_nil place).symm
  | cons name rest ih =>
    obtain ⟨hne, hrest⟩ := List.ne_and_not_mem_of_not_mem_cons hdot
    obtain ⟨hne', hrest'⟩ := List.ne_and_not_mem_of_not_mem_cons hdots
    rw [reach_cons, step_name hne.symm hne'.symm, ih hrest hrest', List.append_assoc, List.singleton_append]

/-! ### Directories on the way -/

/-- Every place on the way is a directory, but for the one that the last name leads to. -/
def Leads (t : FileTree) : List String → List String → Prop
  | _, [] => True
  | place, name :: rest => t.node? place = some .directory ∧ t.Leads (step place name) rest

lemma leads_append :
    t.Leads place (names ++ names') ↔ t.Leads place names ∧ t.Leads (reach place names) names' := by
  induction names generalizing place with
  | nil => exact ⟨fun h => ⟨trivial, h⟩, And.right⟩
  | cons name rest ih =>
    rw [List.cons_append, Leads, Leads, ih, and_assoc]
    rfl

lemma walk_cons (h : t.node? place = some .directory) :
    t.walk place (name :: names) = t.walk (step place name) names := by
  rw [walk, h]
  rfl

lemma walk_append (h : t.Leads place names) :
    t.walk place (names ++ names') = t.walk (reach place names) names' := by
  induction names generalizing place with
  | nil => rfl
  | cons name rest ih =>
    rw [List.cons_append, walk_cons h.1, ih h.2]
    rfl

lemma walk_eq_ok_iff {found : List String} {node : Node} :
    t.walk place names = .ok (found, node) ↔
      t.Leads place names ∧ reach place names = found ∧ t.node? found = some node := by
  induction names generalizing place with
  | nil =>
    rw [walk]
    cases hnode : t.node? place with
    | none =>
      refine iff_of_false nofun ?_
      intro h
      obtain ⟨_, rfl, hfound⟩ := h
      rw [reach, List.foldl_nil, hnode] at hfound
      cases hfound
    | some node' =>
      constructor
      · intro h
        cases h
        exact ⟨trivial, rfl, hnode⟩
      · intro h
        obtain ⟨_, rfl, hfound⟩ := h
        rw [reach, List.foldl_nil, hnode] at hfound
        cases hfound
        rfl
  | cons name rest ih =>
    by_cases hdirectory : t.node? place = some .directory
    · rw [walk_cons hdirectory, ih, Leads]
      exact ⟨fun h => ⟨⟨hdirectory, h.1⟩, h.2⟩, fun h => ⟨h.1.2, h.2⟩⟩
    · refine iff_of_false ?_ (fun h => hdirectory h.1.1)
      rw [walk]
      split
      · next h => exact absurd h hdirectory
      · exact nofun
      · exact nofun

/-- Whatever stands somewhere stands below directories. -/
lemma directory_above (h : (t.node? (above ++ names)).isSome = true) (hne : names ≠ []) :
    t.node? above = some .directory := by
  induction names generalizing above with
  | nil => exact absurd rfl hne
  | cons name rest ih =>
    cases rest with
    | nil => exact t.parent_directory above name h
    | cons name' rest =>
      have hbelow : t.node? (above ++ [name]) = some .directory :=
        ih (by rwa [List.append_assoc, List.singleton_append]) (List.cons_ne_nil name' rest)
      exact t.parent_directory above name (by rw [hbelow, Option.isSome_some])

/-- Names without dots lead to whatever stands there. -/
lemma leads_of_isSome (h : (t.node? (place ++ names)).isSome = true) (hdot : "." ∉ names)
    (hdots : ".." ∉ names) : t.Leads place names := by
  induction names generalizing place with
  | nil => trivial
  | cons name rest ih =>
    obtain ⟨hne, hrest⟩ := List.ne_and_not_mem_of_not_mem_cons hdot
    obtain ⟨hne', hrest'⟩ := List.ne_and_not_mem_of_not_mem_cons hdots
    rw [Leads, step_name hne.symm hne'.symm]
    refine ⟨directory_above h (List.cons_ne_nil name rest), ih ?_ hrest hrest'⟩
    rwa [List.append_assoc, List.singleton_append]

/-! ### Places on the way -/

/-- A step leads below a place only from below it, or to the place itself. -/
lemma eq_of_prefix_step (h : ¬ above <+: place) (hstep : above <+: step place name) :
    step place name = above := by
  rw [step] at hstep ⊢
  split at hstep
  · exact absurd hstep h
  · next hdot =>
    rw [if_neg hdot]
    split at hstep
    · exact absurd (hstep.trans (List.dropLast_prefix place)) h
    · next hdots =>
      rw [if_neg hdots]
      exact ((List.prefix_concat_iff.1 hstep).resolve_right h).symm

/-- A walk that ends below a place and did not start there has been at that place. -/
lemma exists_reach_eq (h : ¬ above <+: place) (hreach : above <+: reach place names) :
    ∃ before after, names = before ++ after ∧ before ≠ [] ∧ reach place before = above := by
  induction names generalizing place with
  | nil => exact absurd hreach h
  | cons name rest ih =>
    by_cases hstep : above <+: step place name
    · exact ⟨[name], rest, rfl, List.cons_ne_nil name [], eq_of_prefix_step h hstep⟩
    · obtain ⟨before, after, rfl, _, hbefore⟩ := ih hstep hreach
      exact ⟨name :: before, after, rfl, List.cons_ne_nil name before, hbefore⟩

/-- From the root, a walk has been at all places above its end. -/
lemma exists_reach_eq_of_root (hreach : above <+: reach [] names) :
    ∃ before after, names = before ++ after ∧ reach [] before = above := by
  by_cases h : above <+: []
  · exact ⟨[], names, rfl, (List.prefix_nil.1 h).symm⟩
  · obtain ⟨before, after, hnames, _, hbefore⟩ := exists_reach_eq h hreach
    exact ⟨before, after, hnames, hbefore⟩

/-- Below a place that a walk does not come back to, each step up takes back one step down. -/
lemma length_reach_add_count (hdot : "." ∉ names) (hplace : root <+: place)
    (hreach : root <+: reach place names)
    (hleft : ∀ before after, names = before ++ after → before ≠ [] → reach place before ≠ root) :
    (reach place names).length + names.count ".." =
      place.length + (names.filter fun name => name ≠ "..").length := by
  induction names generalizing place with
  | nil => rfl
  | cons name rest ih =>
    obtain ⟨hne, hrest⟩ := List.ne_and_not_mem_of_not_mem_cons hdot
    have hleft' : ∀ before after, rest = before ++ after →
        reach (step place name) before ≠ root := by
      intro before after hnames
      exact hleft (name :: before) after (congrArg (List.cons name) hnames) (List.cons_ne_nil name before)
    -- where it leaves the place for good, it cannot end below it
    have hstep : root <+: step place name := by
      by_contra h
      obtain ⟨before, after, hnames, _, hbefore⟩ := exists_reach_eq h hreach
      exact hleft' before after hnames hbefore
    have hlength := ih hrest hstep hreach fun before after hnames _ => hleft' before after hnames
    rw [reach_cons]
    by_cases hdots : name = ".."
    · subst hdots
      have hne_nil : place ≠ [] := by
        intro hnil
        subst hnil
        exact hleft' [] rest rfl (List.prefix_nil.1 hplace).symm
      have hpos := List.length_pos_iff.2 hne_nil
      rw [step_dots, List.length_dropLast] at hlength
      rw [List.count_cons_self, List.filter_cons_of_neg (by simp), step_dots]
      omega
    · rw [step_name hne.symm hdots, List.length_append, List.length_singleton] at hlength
      rw [List.count_cons_of_ne hdots, List.filter_cons_of_pos (by simpa using hdots), List.length_cons,
        step_name hne.symm hdots]
      omega

end BuildVersion.FileTree
