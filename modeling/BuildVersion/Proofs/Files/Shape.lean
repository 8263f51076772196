import BuildVersion.Proofs.Files.Walk

/-!
# File trees of one shape

Trees that differ only in what their files hold. Main statements: paths lead to the same places in both
(`SameShape.find`), and a path reads the same in both if the file that it leads to holds the same
(`SameShape.read_eq`).
-/

namespace BuildVersion.FileTree

/-- At a place, two trees have nothing, a directory, or a file each. -/
inductive SameKind : Option Node → Option Node → Prop where
  | nothing : SameKind none none
  | directory : SameKind (some .directory) (some .directory)
  | file (bytes bytes' : List UInt8) : SameKind (some (.file bytes)) (some (.file bytes'))

/-- Two trees have the same directories, and files at the same places. -/
def SameShape (t t' : FileTree) : Prop := ∀ place, SameKind (t.node? place) (t'.node? place)

/-- A path leads nowhere for the same reason in two trees, to one directory, or to a file at one place. -/
inductive SameFound : Except FileFault (List String × Node) → Except FileFault (List String × Node) → Prop where
  | nowhere (fault : FileFault) : SameFound (.error fault) (.error fault)
  | directory (place : List String) : SameFound (.ok (place, .directory)) (.ok (place, .directory))
  | file (place : List String) (bytes bytes' : List UInt8) :
    SameFound (.ok (place, .file bytes)) (.ok (place, .file bytes'))

namespace SameShape

variable {t t' : FileTree} {place names : List String} {p : Path}

lemma walk (h : SameShape t t') : SameFound (t.walk place names) (t'.walk place names) := by
  -- Both walks have come to the same place, and only there is anything looked up.
  induction names generalizing place with
  | nil =>
    have hkind := h place
    rw [FileTree.walk, FileTree.walk]
    generalize t.node? place = node, t'.node? place = node' at hkind
    cases hkind with
    | nothing => exact .nowhere _
    | directory => exact .directory _
    | file => exact .file ..
  | cons name rest ih =>
    have hkind := h place
    rw [FileTree.walk, FileTree.walk]
    generalize t.node? place = node, t'.node? place = node' at hkind
    cases hkind with
    | nothing => exact .nowhere _
    | directory => exact ih
    | file => exact .nowhere _

/-- What the files hold does not decide where a path leads. -/
lemma find (h : SameShape t t') (w : List String) (p : Path) : SameFound (t.find w p) (t'.find w p) := by
  rw [FileTree.find, FileTree.find]
  split
  · exact .nowhere _
  · split
    · exact .nowhere _
    · have hwalk : SameFound (t.walk (if p.isAbsolute then [] else w) p.names) _ := h.walk
      generalize t.walk _ _ = found, t'.walk _ _ = found' at hwalk
      cases hwalk with
      | nowhere => exact .nowhere _
      | directory => exact .directory _
      | file =>
        dsimp only
        split
        · exact .nowhere _
        · exact .file ..

lemma exists?_eq (h : SameShape t t') (w : List String) (p : Path) : t.exists? w p = t'.exists? w p := by
  have hfind := h.find w p
  rw [exists?, exists?]
  generalize t.find w p = found, t'.find w p = found' at hfind
  cases hfind <;> rfl

end SameShape

/-- What a path leads to stands where it leads. -/
lemma node?_of_find {t : FileTree} {w place : List String} {p : Path} {node : Node}
    (h : t.find w p = .ok (place, node)) : t.node? place = some node := by
  rw [find] at h
  split at h
  · cases h
  · split at h
    · cases h
    · split at h
      · next hwalk =>
        split at h
        · cases h
        · cases h
          exact (walk_eq_ok_iff.1 hwalk).2.2
      · exact (walk_eq_ok_iff.1 h).2.2

/-- A path reads the same if what it leads to is the same. -/
lemma SameShape.read_eq {t t' : FileTree} {w : List String} {p : Path} (h : SameShape t t')
    (hfound : ∀ place node, t.find w p = .ok (place, node) → t'.node? place = some node) :
    t'.read w p = t.read w p := by
  have hfind := h.find w p
  have hfound' : ∀ place node, t'.find w p = .ok (place, node) → t'.node? place = some node :=
    fun _ _ => node?_of_find
  rw [read, read]
  generalize t.find w p = found, t'.find w p = found' at hfind hfound hfound'
  cases hfind with
  | nowhere => rfl
  | directory => rfl
  | file place bytes bytes' =>
    -- The second tree holds both what was found in it and what was found in the first one.
    have hbytes := hfound place _ rfl
    rw [hfound' place _ rfl] at hbytes
    cases hbytes
    rfl

/-! ### Trees of lists -/

/-- Two lists give nodes of one kind to the same places. -/
abbrev SameEntries : List (List String × Node) → List (List String × Node) → Prop :=
  List.Forall₂ fun entry entry' => entry.1 = entry'.1 ∧ SameKind (some entry.2) (some entry'.2)

variable {nodes nodes' : List (List String × Node)}

lemma SameEntries.any_eq (h : SameEntries nodes nodes') (place : List String) :
    (nodes.any fun (p, node) => place.isPrefixOf p && (p != place || node == .directory)) =
      nodes'.any fun (p, node) => place.isPrefixOf p && (p != place || node == .directory) := by
  induction h with
  | nil => rfl
  | @cons entry entry' _ _ hentry _ ih =>
    obtain ⟨p, node⟩ := entry
    obtain ⟨p', node'⟩ := entry'
    obtain ⟨rfl, hkind⟩ := hentry
    rw [List.any_cons, List.any_cons, ih]
    cases hkind <;> rfl

lemma SameEntries.lookup (h : SameEntries nodes nodes') (place : List String) :
    SameKind (nodes.lookup place) (nodes'.lookup place) := by
  induction h with
  | nil => exact .nothing
  | @cons entry entry' _ _ hentry _ ih =>
    obtain ⟨p, node⟩ := entry
    obtain ⟨p', node'⟩ := entry'
    obtain ⟨rfl, hkind⟩ := hentry
    rw [List.lookup_cons, List.lookup_cons]
    cases place == p with
    | true => exact hkind
    | false => exact ih

/-- Lists that differ only in what files hold make trees of one shape. -/
lemma SameEntries.ofList (h : SameEntries nodes nodes') : (ofList nodes).SameShape (ofList nodes') := by
  intro place
  have hneeds : needsDirectory nodes place = needsDirectory nodes' place := by
    rw [needsDirectory, needsDirectory, h.any_eq]
  rw [FileTree.ofList, FileTree.ofList]
  dsimp only
  rw [nodeOf?, nodeOf?, hneeds]
  split
  · exact .directory
  · exact h.lookup place

end BuildVersion.FileTree
