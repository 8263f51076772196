import BuildVersion.Proofs.Files.Walk
import BuildVersion.Proofs.Text.Pieces

/-!
# Spellings of paths

Paths that are spelled differently can lead to the same directory. Main statements: where a path leads is
told by its names from the root (`FileTree.denotes_iff`), and the spelling of a path from the root has its
names (`Path.way_text`).
-/

namespace BuildVersion

open Text

namespace Path

variable {w names : List String} {text name : String}

/-- A name that can stand between the slashes of a path; two dots can, too. -/
structure IsPart (name : String) : Prop where
  ne_empty : name ≠ ""
  ne_dot : name ≠ "."
  no_slash : '/' ∉ name.toList

/-- A name that a file or directory can have. -/
structure IsName (name : String) : Prop extends IsPart name where
  ne_dots : name ≠ ".."
  no_null : '\x00' ∉ name.toList

instance : DecidablePred IsName := fun name =>
  decidable_of_iff
    ((name ≠ "" ∧ name ≠ "." ∧ '/' ∉ name.toList) ∧ name ≠ ".." ∧ '\x00' ∉ name.toList)
    ⟨fun h => ⟨⟨h.1.1, h.1.2.1, h.1.2.2⟩, h.2.1, h.2.2⟩,
      fun h => ⟨⟨h.ne_empty, h.ne_dot, h.no_slash⟩, h.ne_dots, h.no_null⟩⟩

/-- What stands between slashes, but for nothing at all and single dots. -/
def pieces (cs : List Char) : List (List Char) := (split '/' cs).filter fun name => name ≠ [] ∧ name ≠ ['.']

/-- The names between the slashes of a text. -/
def parts (text : String) : List String := (pieces text.toList).map String.ofList

/-- The names that lead from the root along a path. -/
def way (w : List String) (text : String) : List String := ((ofText text).absolute w).names

lemma isPart_of_mem_parts (h : name ∈ parts text) : IsPart name := by
  obtain ⟨piece, hpiece, rfl⟩ := List.mem_map.1 h
  obtain ⟨hsplit, hne⟩ := List.mem_filter.1 hpiece
  obtain ⟨hempty, hdot⟩ := of_decide_eq_true hne
  refine ⟨?_, ?_, ?_⟩
  · intro e
    exact hempty (String.ofList_injective e)
  · intro e
    exact hdot (String.ofList_injective e)
  · rw [String.toList_ofList]
    intro hslash
    exact (mem_piece hsplit hslash).2 rfl

lemma dot_not_mem_parts : "." ∉ parts text := fun h => (isPart_of_mem_parts h).ne_dot rfl

lemma rootOf_slash (cs : List Char) : rootOf ('/' :: cs) = "/" ∨ rootOf ('/' :: cs) = "//" := by
  unfold rootOf
  split
  · exact Or.inr rfl
  · exact Or.inl rfl
  · exact Or.inr rfl
  · exact Or.inl rfl
  · next h => exact absurd rfl (h cs)

/-- A path from the root is one that opens with a slash. -/
lemma isAbsolute_ofText_iff : (ofText text).isAbsolute = true ↔ ∃ cs, text.toList = '/' :: cs := by
  have habsolute : (ofText text).isAbsolute = (rootOf text.toList != "") := rfl
  rw [habsolute, bne_iff_ne]
  constructor
  · intro h
    unfold rootOf at h
    split at h
    · next hcs => exact ⟨_, hcs⟩
    · next hcs => exact ⟨_, hcs⟩
    · next hcs => exact ⟨_, hcs⟩
    · next hcs => exact ⟨_, hcs⟩
    · exact absurd rfl h
  · intro h
    obtain ⟨cs, hcs⟩ := h
    rw [hcs]
    cases rootOf_slash cs with
    | inl h => rw [h]; decide
    | inr h => rw [h]; decide

/-- A path that opens with a slash does not open with a dot. -/
lemma names_ofText_of_isAbsolute (h : (ofText text).isAbsolute = true) : (ofText text).names = parts text := by
  obtain ⟨cs, hcs⟩ := isAbsolute_ofText_iff.1 h
  have hhead : (split '/' text.toList).head? ≠ some ['.'] := by
    rw [hcs, split, if_pos rfl, List.head?_cons]
    intro e
    cases e
  exact if_neg hhead

/-- What a relative path opens with besides its parts is a dot. -/
lemma names_ofText : (ofText text).names = parts text ∨ (ofText text).names = "." :: parts text :=
  (ite_eq_or_eq _ _ _).symm

lemma names_withoutDot_ofText : (ofText text).withoutDot.names = parts text := by
  rw [withoutDot]
  cases @names_ofText text with
  | inl h =>
    split
    · next hdot =>
      exact absurd (h ▸ hdot ▸ List.mem_cons_self) dot_not_mem_parts
    · exact h
  | inr h => simp [h]

lemma isEmpty_of_isAbsolute {p : Path} (h : p.isAbsolute = true) : p.isEmpty = false := by
  rw [isEmpty, beq_eq_false_iff_ne.2 (bne_iff_ne.1 h), Bool.false_and]

lemma way_of_isAbsolute (h : (ofText text).isAbsolute = true) : way w text = parts text := by
  rw [way, absolute, h, Bool.or_true, if_pos rfl]
  exact names_ofText_of_isAbsolute h

lemma way_of_not_isAbsolute (hne : (ofText text).isEmpty = false) (h : (ofText text).isAbsolute = false) :
    way w text = w ++ parts text := by
  rw [way, absolute, hne, h, Bool.or_false, if_neg Bool.false_ne_true, names_withoutDot_ofText]

/-! ### The spelling of a path from the root -/

/-- A path from the root that can be spelled. -/
structure Rooted (p : Path) : Prop where
  root : p.root = "/" ∨ p.root = "//"
  parts : ∀ name ∈ p.names, IsPart name

lemma Rooted.isAbsolute {p : Path} (h : p.Rooted) : p.isAbsolute = true := by
  rw [Path.isAbsolute]
  cases h.root with
  | inl h => rw [h]; rfl
  | inr h => rw [h]; rfl

lemma pieces_slash_cons (cs : List Char) : pieces ('/' :: cs) = pieces cs := by
  rw [pieces, split, if_pos rfl]
  rfl

lemma pieces_append_slash (cs : List Char) : pieces (cs ++ ['/']) = pieces cs := by
  rw [pieces, split_append_cons, List.filter_append]
  exact List.append_nil _

/-- The pieces of names with slashes between them. -/
lemma pieces_intercalate (h : ∀ name ∈ names, IsPart name) :
    pieces (['/'].intercalate (names.map String.toList)) = names.map String.toList := by
  cases names with
  | nil => rfl
  | cons name rest =>
    have hne : (name :: rest).map String.toList ≠ [] := List.cons_ne_nil _ _
    rw [pieces, split_intercalate hne]
    · apply List.filter_eq_self.2
      intro piece hpiece
      obtain ⟨part, hpart, rfl⟩ := List.mem_map.1 hpiece
      apply decide_eq_true
      refine ⟨?_, ?_⟩
      · intro e
        exact (h part hpart).ne_empty (String.toList_eq_nil_iff.1 e)
      · intro e
        exact (h part hpart).ne_dot (String.toList_injective e)
    · intro piece hpiece
      obtain ⟨part, hpart, rfl⟩ := List.mem_map.1 hpiece
      exact (h part hpart).no_slash

lemma toList_text (p : Path) :
    p.text.toList = p.root.toList ++ ['/'].intercalate (p.names.map String.toList) ++
      (if p.isClosed && p.names != [] then "/" else "").toList := by
  rw [text, String.toList_append, String.toList_append, String.toList_intercalate]
  rfl

/-- The slashes around the names of a path make no parts. -/
lemma parts_text {p : Path} (h : p.Rooted) : parts p.text = p.names := by
  have hroot : ∀ cs, pieces (p.root.toList ++ cs) = pieces cs := by
    intro cs
    cases h.root with
    | inl h =>
      rw [h]
      exact pieces_slash_cons cs
    | inr h =>
      rw [h]
      exact (pieces_slash_cons ('/' :: cs)).trans (pieces_slash_cons cs)
  have hclosed : ∀ cs, pieces (cs ++ (if p.isClosed && p.names != [] then "/" else "").toList) = pieces cs := by
    intro cs
    split
    · exact pieces_append_slash cs
    · exact congrArg pieces (List.append_nil cs)
  rw [parts, toList_text, hclosed, hroot, pieces_intercalate h.parts, List.map_map]
  simp

/-- The text of a path from the root spells a path from the root. -/
lemma isAbsolute_ofText_text {p : Path} (h : p.Rooted) : (ofText p.text).isAbsolute = true := by
  rw [isAbsolute_ofText_iff, toList_text]
  cases h.root with
  | inl h =>
    rw [h]
    exact ⟨_, rfl⟩
  | inr h =>
    rw [h]
    exact ⟨_, rfl⟩

/-- The spelling of a path from the root has its names. -/
lemma way_text {p : Path} (h : p.Rooted) : way w p.text = p.names := by
  rw [way_of_isAbsolute (isAbsolute_ofText_text h), parts_text h]

lemma rooted_absolute (hw : ∀ name ∈ w, IsName name) (hne : (ofText text).isEmpty = false) :
    ((ofText text).absolute w).Rooted := by
  cases habsolute : (ofText text).isAbsolute with
  | true =>
    rw [absolute, habsolute, Bool.or_true, if_pos rfl]
    obtain ⟨cs, hcs⟩ := isAbsolute_ofText_iff.1 habsolute
    refine ⟨?_, ?_⟩
    · have hroot := rootOf_slash cs
      rwa [← hcs] at hroot
    · intro name hname
      rw [names_ofText_of_isAbsolute habsolute] at hname
      exact isPart_of_mem_parts hname
  | false =>
    rw [absolute, hne, habsolute, Bool.or_false, if_neg Bool.false_ne_true, names_withoutDot_ofText]
    refine ⟨Or.inl rfl, ?_⟩
    intro name hname
    cases List.mem_append.1 hname with
    | inl h => exact (hw name h).toIsPart
    | inr h => exact isPart_of_mem_parts h

lemma dot_not_mem_way (hw : ∀ name ∈ w, IsName name) (hne : (ofText text).isEmpty = false) :
    "." ∉ way w text := fun h => ((rooted_absolute hw hne).parts _ h).ne_dot rfl

lemma full_eq (hw : ∀ name ∈ w, IsName name) (hne : (ofText text).isEmpty = false) :
    (ofText text).full w = { root := "/", names := way w text, isClosed := false } := by
  rw [full, (rooted_absolute hw hne).isAbsolute]
  rfl

/-- The number of levels that a path is taken to lie below a root. -/
def depth (w : List String) (text root : String) : Nat :=
  ((ofText text).full w).depthBelow ((ofText root).full w)

/-- What is counted are the names after those of the root, two dots apart. -/
lemma depth_eq {root : String} (hw : ∀ name ∈ w, IsName name) (hne : (ofText text).isEmpty = false)
    (hne' : (ofText root).isEmpty = false) {after : List String} (hway : way w text = way w root ++ after) :
    depth w text root = (after.filter fun name => name ≠ "..").length := by
  have hrest : (way w root).isPrefixOf? (way w root ++ after) = some after :=
    List.isPrefixOf?_eq_some_iff_append_eq.2 rfl
  have habsolute : ({ root := "/", names := way w text } : Path).isAbsolute =
      ({ root := "/", names := way w root } : Path).isAbsolute := rfl
  rw [depth, full_eq hw hne, full_eq hw hne', depthBelow, if_pos habsolute]
  dsimp only
  rw [hway, hrest]

end Path

namespace FileTree

variable {t : FileTree} {w place : List String} {path : String}

/-- A directory in which paths can start. -/
structure IsWorkingDirectory (t : FileTree) (w : List String) : Prop where
  directory : t.node? w = some .directory
  names : ∀ name ∈ w, Path.IsName name

/-- A path leads to a directory. -/
def Denotes (t : FileTree) (w : List String) (path : String) (place : List String) : Prop :=
  t.find w (Path.ofText path) = .ok (place, .directory)

lemma IsWorkingDirectory.leads (hw : t.IsWorkingDirectory w) : t.Leads [] w ∧ reach [] w = w := by
  have hdot : "." ∉ w := fun h => (hw.names _ h).ne_dot rfl
  have hdots : ".." ∉ w := fun h => (hw.names _ h).ne_dots rfl
  have hplace : t.node? ([] ++ w) = some .directory := hw.directory
  refine ⟨leads_of_isSome ?_ hdot hdots, reach_eq_append hdot hdots⟩
  rw [hplace, Option.isSome_some]

/-- A path leads wherever its names lead from the root. -/
lemma walk_way (hw : t.IsWorkingDirectory w) (hne : (Path.ofText path).isEmpty = false) :
    t.walk (if (Path.ofText path).isAbsolute then [] else w) (Path.ofText path).names =
      t.walk [] (Path.way w path) := by
  cases habsolute : (Path.ofText path).isAbsolute with
  | true =>
    rw [Path.way_of_isAbsolute habsolute, Path.names_ofText_of_isAbsolute habsolute]
    rfl
  | false =>
    obtain ⟨hleads, hreach⟩ := hw.leads
    rw [Path.way_of_not_isAbsolute hne habsolute, walk_append hleads, hreach, if_neg Bool.false_ne_true]
    cases @Path.names_ofText path with
    | inl h => rw [h]
    | inr h =>
      rw [h, walk_cons hw.directory]
      rfl

/-- The names that a path is spelled with hold no other characters than those on its way, the names of the
working directory and a dot apart. -/
lemma no_null_way_iff (hw : t.IsWorkingDirectory w) (hne : (Path.ofText path).isEmpty = false) :
    (∀ name ∈ (Path.ofText path).names, '\x00' ∉ name.toList) ↔
      ∀ name ∈ Path.way w path, '\x00' ∉ name.toList := by
  have hparts : (∀ name ∈ (Path.ofText path).names, '\x00' ∉ name.toList) ↔
      ∀ name ∈ Path.parts path, '\x00' ∉ name.toList := by
    cases @Path.names_ofText path with
    | inl h => rw [h]
    | inr h =>
      rw [h, List.forall_mem_cons]
      exact and_iff_right (by decide)
  rw [hparts]
  cases habsolute : (Path.ofText path).isAbsolute with
  | true => rw [Path.way_of_isAbsolute habsolute]
  | false =>
    rw [Path.way_of_not_isAbsolute hne habsolute, List.forall_mem_append]
    exact (and_iff_right fun name hname => (hw.names name hname).no_null).symm

/-- Only a file makes it matter whether a path asks for a directory. -/
lemma find_eq_ok_iff {p : Path} {found : List String} {node : Node} (hne : p.isEmpty = false)
    (hnull : ∀ name ∈ p.names, '\x00' ∉ name.toList) (hnode : p.isClosed = true → node = .directory) :
    t.find w p = .ok (found, node) ↔
      t.walk (if p.isAbsolute then [] else w) p.names = .ok (found, node) := by
  rw [find, hne, if_neg Bool.false_ne_true, if_neg (by simpa using hnull)]
  split
  · next place' bytes hwalk =>
    rw [hwalk]
    split
    · next hclosed =>
      refine iff_of_false nofun ?_
      intro h
      cases h
      cases hnode hclosed
    · exact Iff.rfl
  · exact Iff.rfl

/-- Where a path leads is told by its names from the root. -/
lemma denotes_iff (hw : t.IsWorkingDirectory w) :
    t.Denotes w path place ↔
      (Path.ofText path).isEmpty = false ∧ (∀ name ∈ Path.way w path, '\x00' ∉ name.toList) ∧
        t.Leads [] (Path.way w path) ∧ reach [] (Path.way w path) = place ∧
        t.node? place = some .directory := by
  rw [Denotes]
  cases hne : (Path.ofText path).isEmpty with
  | true =>
    refine iff_of_false ?_ fun h => absurd h.1 (by decide)
    rw [find, if_pos hne]
    exact nofun
  | false =>
    rw [← no_null_way_iff hw hne, ← walk_eq_ok_iff, ← walk_way hw hne]
    by_cases hnull : ∀ name ∈ (Path.ofText path).names, '\x00' ∉ name.toList
    · rw [find_eq_ok_iff hne hnull fun _ => rfl]
      exact ⟨fun h => ⟨rfl, hnull, h⟩, fun h => h.2.2⟩
    · refine iff_of_false ?_ fun h => hnull h.2.1
      rw [find, hne, if_neg Bool.false_ne_true, if_pos (by simpa using hnull)]
      exact nofun

end FileTree

end BuildVersion
