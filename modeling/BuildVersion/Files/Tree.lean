import BuildVersion.Error
import BuildVersion.Files.Path
import BuildVersion.Text.Split

/-!
# File trees

A file tree says what stands at each place below its root. Whatever stands somewhere stands in a
directory. Main statements: a tree that is made of a list of directories and files has them all.
-/

namespace BuildVersion

open Text

/-- What can stand in a directory. -/
inductive Node where
  | file (bytes : List UInt8)
  | directory
deriving DecidableEq

/-- The files and directories below a root. A place is the list of names that lead to it. -/
structure FileTree where
  node? : List String → Option Node
  root_directory : node? [] = some .directory
  parent_directory : ∀ place name, (node? (place ++ [name])).isSome → node? place = some .directory

namespace FileTree

/-- Whether a list of places and nodes needs a directory at a place. -/
def needsDirectory (nodes : List (List String × Node)) (place : List String) : Bool :=
  place == [] || nodes.any fun (p, node) =>
    place.isPrefixOf p && (p != place || node == .directory)

/-- The node of a list at a place. -/
def nodeOf? (nodes : List (List String × Node)) (place : List String) : Option Node :=
  if needsDirectory nodes place then some .directory else nodes.lookup place

theorem mem_of_lookup {nodes : List (List String × Node)} {place : List String} {node : Node}
    (h : nodes.lookup place = some node) : (place, node) ∈ nodes := by
  induction nodes with
  | nil => simp at h
  | cons entry rest ih =>
    obtain ⟨p, n⟩ := entry
    rw [List.lookup_cons] at h
    split at h
    · next heq =>
      simp only [Option.some.injEq] at h
      simp [beq_iff_eq.1 heq, h]
    · exact List.mem_cons_of_mem _ (ih h)

/-- The tree of a list of places and nodes, with the directories that they need. -/
def ofList (nodes : List (List String × Node)) : FileTree where
  node? := nodeOf? nodes
  root_directory := by simp [nodeOf?, needsDirectory]
  parent_directory := by
    intro place name h
    have found : ∃ p node, (p, node) ∈ nodes ∧ place ++ [name] <+: p := by
      unfold nodeOf? at h
      split at h
      · next hn =>
        simp only [needsDirectory, Bool.or_eq_true, List.any_eq_true, Bool.and_eq_true] at hn
        rcases hn with hn | ⟨⟨p, node⟩, hmem, hp, _⟩
        · simp at hn
        · exact ⟨p, node, hmem, List.isPrefixOf_iff_prefix.1 hp⟩
      · obtain ⟨node, hl⟩ := Option.isSome_iff_exists.1 h
        exact ⟨place ++ [name], node, mem_of_lookup hl, List.prefix_refl _⟩
    obtain ⟨p, node, hmem, hp⟩ := found
    have needs : needsDirectory nodes place = true := by
      simp only [needsDirectory, Bool.or_eq_true, List.any_eq_true, Bool.and_eq_true]
      refine Or.inr ⟨(p, node), hmem, ?_, Or.inl ?_⟩
      · exact List.isPrefixOf_iff_prefix.2 ((List.prefix_append place [name]).trans hp)
      · have hlen := hp.length_le
        simp only [List.length_append, List.length_singleton] at hlen
        simp only [bne_iff_ne, ne_eq]
        rintro rfl
        omega
    simp [nodeOf?, needs]

/-- Follows names from a place. Two dots lead to the directory that a directory lies in, and the root
lies in itself. -/
def walk (t : FileTree) (place : List String) : List String → Except FileFault (List String × Node)
  | [] =>
    match t.node? place with
    | some node => .ok (place, node)
    | none => .error .missing
  | name :: rest =>
    match t.node? place with
    | some .directory =>
      t.walk (if name = "." then place else if name = ".." then place.dropLast else place ++ [name]) rest
    | some (.file _) => .error .notDirectory
    | none => .error .missing

/-- Looks up a path from a working directory. -/
def find (t : FileTree) (workingDirectory : List String) (p : Path) :
    Except FileFault (List String × Node) :=
  if p.isEmpty then .error .missing
  else if p.names.any fun name => name.toList.contains '\x00' then .error .nullCharacter
  else
    match t.walk (if p.isAbsolute then [] else workingDirectory) p.names with
    | .ok (place, .file bytes) => if p.isClosed then .error .notDirectory else .ok (place, .file bytes)
    | found => found

/-- Whether a path leads anywhere. -/
def exists? (t : FileTree) (workingDirectory : List String) (p : Path) : Bool :=
  match t.find workingDirectory p with
  | .ok _ => true
  | .error _ => false

/-- The text of the file at a path. -/
def read (t : FileTree) (workingDirectory : List String) (p : Path) : Except FileFault String :=
  match t.find workingDirectory p with
  | .error fault => .error fault
  | .ok (_, .directory) => .error .directory
  | .ok (_, .file bytes) =>
    match decodeUtf8? bytes with
    | some text => .ok text
    | none => .error .encoding

/-- The innermost directory that holds a marker, of a path and all paths that it lies in. -/
def markedRoot? (t : FileTree) (workingDirectory : List String) (path marker : String) : Option Path :=
  ((Path.ofText path).absolute workingDirectory).ancestors.find? fun directory =>
    t.exists? workingDirectory (directory.join (Path.ofText marker))

end FileTree

end BuildVersion
