import BuildVersion.Proofs.Fallible
import BuildVersion.Proofs.Files.MarkedRoot
import BuildVersion.Proofs.Tool.Answer
import BuildVersion.Provider.Subversion

/-!
# Working copies by any path

The root of a working copy and the facts of Subversion should depend on a directory and not on how its path is
spelled. Main statement: they do for all paths that do not go back up after a marked place on their way, and
for no others (`facts_of_directory`). Going back up leads to other roots and branches
(`facts_depend_on_spelling`).
-/

namespace BuildVersion

open Text

/-- Tools see the directory that they are run in and not how its path is spelled. -/
def Toolbox.SeesDirectories (tools : Toolbox) (t : FileTree) (w : List String) : Prop :=
  ∀ milliseconds program arguments path path' place, t.Denotes w path place → t.Denotes w path' place →
    tools.outcome milliseconds ⟨program, arguments, path⟩ =
      tools.outcome milliseconds ⟨program, arguments, path'⟩

namespace Subversion

open BuildVersion.FileTree BuildVersion.Path

variable {tools : Toolbox} {t : FileTree} {w place : List String} {path path' root root' : String}
  {milliseconds : Nat}

lemma isName_svn : IsName ".svn" := by decide

/-- The path that tools are given leads to the same directory. -/
lemma denotes_full (hw : t.IsWorkingDirectory w) (h : t.Denotes w path place) :
    t.Denotes w ((Path.ofText path).full w).text place := by
  obtain ⟨hne, hnull, hleads, hreach, hplace⟩ := (denotes_iff hw).1 h
  have hrooted : ((Path.ofText path).full w).Rooted := by
    rw [full_eq hw.names hne]
    exact ⟨Or.inl rfl, (rooted_absolute hw.names hne).parts⟩
  have hnames : way w ((Path.ofText path).full w).text = way w path := by
    rw [way_text hrooted, full_eq hw.names hne]
  rw [denotes_iff hw, hnames]
  exact ⟨isEmpty_of_isAbsolute (isAbsolute_ofText_text hrooted), hnull, hleads, hreach, hplace⟩

/-- The facts are decided by what the tools answer and by the levels below the root. -/
lemma value_collect_congr {request request' : Request}
    (htools : ∀ program arguments,
      tools.outcome milliseconds ⟨program, arguments, ((Path.ofText request.path).full w).text⟩ =
        tools.outcome milliseconds ⟨program, arguments, ((Path.ofText request'.path).full w).text⟩)
    (hdepth : depth w request.path request.root = depth w request'.path request'.root) :
    (collect tools w milliseconds request).value = (collect tools w milliseconds request').value := by
  have hrun : ∀ program arguments,
      (tools.run milliseconds ⟨program, arguments, ((Path.ofText request.path).full w).text⟩).value =
        (tools.run milliseconds ⟨program, arguments, ((Path.ofText request'.path).full w).text⟩).value := by
    intro program arguments
    rw [Toolbox.value_run, Toolbox.value_run, htools]
  rw [depth, depth] at hdepth
  simp only [collect, Recorded.value_bind, hrun, hdepth]
  split
  · rfl
  · rw [Recorded.value_bind, Recorded.value_bind, hrun]

/-- The call that asks for the information on a revision. -/
def infoCall (w : List String) (path : String) (revision : UInt64) : ToolCall :=
  ⟨"svn", ["info", "--revision", toString revision.toNat], ((Path.ofText path).full w).text⟩

lemma revision_collect {request : Request} :
    (collect tools w milliseconds request).value.revision =
      (rangeOf (tools.run milliseconds
        ⟨"svnversion", [], ((Path.ofText request.path).full w).text⟩).value).revision := by
  rw [collect, Recorded.value_bind]
  dsimp only
  split
  · rfl
  · rw [Recorded.value_bind]
    split
    · rfl
    · rfl

/-- The branch is read from the relative address of the revision and the levels below the root. -/
lemma branch_collect {request : Request} {lines : List String}
    (hrevision : (collect tools w milliseconds request).value.revision ≠ 0)
    (hlines : (tools.outcome milliseconds (infoCall w request.path
      (collect tools w milliseconds request).value.revision)).lines? = some lines) :
    (collect tools w milliseconds request).value.branch =
      branchOf (Info.read lines).relativeUrl (depth w request.path request.root) := by
  rw [revision_collect] at hrevision hlines
  rw [← Toolbox.value_run, infoCall] at hlines
  rw [collect, Recorded.value_bind]
  dsimp only
  rw [if_neg hrevision, Recorded.value_bind, hlines]
  dsimp only
  rw [Recorded.value_pure, depth]

/-- The root that is found for a path lies above the directory that the path leads to, with no other marked
directory between them and with the levels between them counted right, exactly if the path does not go back up
after a marked place; where none is found, no directory above is marked. So two paths to one directory that do
not go back up find roots that are the same directory or none, and the facts of a Subversion working copy are
the same for both. -/
theorem facts_of_directory (t : FileTree) (w : List String) (hw : t.IsWorkingDirectory w) :
    let root? (marker path : String) : Option String := (t.markedRoot? w path marker).map Path.text
    (∀ marker path place, IsName marker → t.Denotes w path place →
      (root? marker path = none → t.Straight w marker path ∧ ∀ top, top <+: place → ¬ t.Marked marker top) ∧
      ∀ root, root? marker path = some root → ∃ top, t.Denotes w root top ∧ t.Marked marker top ∧
        (t.Straight w marker path ↔
          t.Nearest marker place top ∧ depth w path root + top.length = place.length)) ∧
    (∀ marker path path' place, IsName marker → t.Denotes w path place → t.Denotes w path' place →
      t.Straight w marker path → t.Straight w marker path' →
      (root? marker path = none ∧ root? marker path' = none) ∨
        ∃ root root' top, root? marker path = some root ∧ root? marker path' = some root' ∧
          t.Denotes w root top ∧ t.Denotes w root' top ∧ t.Nearest marker place top) ∧
    (∀ (tools : Toolbox) milliseconds path path' place tagMatch root root',
      tools.SeesDirectories t w → t.Denotes w path place → t.Denotes w path' place →
      t.Straight w ".svn" path → t.Straight w ".svn" path' →
      let svn := provider tools t w milliseconds
      svn.root? path = some root → svn.root? path' = some root' →
      let s := (svn.collect ⟨path, root, tagMatch⟩).value
      s = (svn.collect ⟨path', root', tagMatch⟩).value ∧
        ∃ top, t.Denotes w root top ∧ t.Denotes w root' top ∧ t.Nearest ".svn" place top ∧
          ∀ lines, s.revision ≠ 0 → (tools.outcome milliseconds (infoCall w path s.revision)).lines? = some lines →
            s.branch = branchOf (Info.read lines).relativeUrl (place.length - top.length)) := by
  intro root?
  refine ⟨?_, ?_, ?_⟩
  · intro marker path place hmarker hpath
    exact ⟨not_marked_of_root_eq_none hw hmarker hpath, fun root => straight_iff_nearest hw hmarker hpath⟩
  · intro marker path path' place hmarker hpath hpath' hstraight hstraight'
    exact roots_of_straight hw hmarker hpath hpath' hstraight hstraight'
  · intro tools milliseconds path path' place tagMatch root root' htools hpath hpath' hstraight hstraight' svn
      hroot hroot' s
    obtain ⟨top, htop, hnearest, hdepth⟩ := nearest_of_straight hw isName_svn hpath hstraight hroot
    obtain ⟨top', htop', hnearest', hdepth'⟩ := nearest_of_straight hw isName_svn hpath' hstraight' hroot'
    rw [← hnearest.unique hnearest'] at htop' hdepth'
    refine ⟨?_, top, htop, htop', hnearest, ?_⟩
    · apply value_collect_congr
      · intro program arguments
        exact htools milliseconds program arguments _ _ place (denotes_full hw hpath) (denotes_full hw hpath')
      · exact Nat.add_right_cancel (hdepth.trans hdepth'.symm)
    · intro lines hrevision hlines
      rw [← Nat.eq_sub_of_add_eq hdepth]
      exact branch_collect hrevision hlines

/-- A tree with a Git working copy below a directory that is none, and with a Subversion working copy. -/
def exampleTree : FileTree := .ofList
  [(["a", "b", ".git"], .directory), (["a", "c"], .directory), (["wc", ".svn"], .directory),
    (["wc", "x", "y"], .directory), (["wc", "x", "z"], .directory)]

/-- Tools that know one directory, whose address is two levels below that of the branch. -/
def exampleTools (w : List String) : Toolbox where
  has _ := true
  outcome _ call :=
    match exampleTree.find w (Path.ofText call.directory) with
    | .ok (["wc", "x", "z"], .directory) =>
      .ended (.code 0)
        [.output (encodeUtf8 (if call.program = "svn" then "Relative URL: ^/trunk/x/z\n" else "12\n")), .errors []]
    | _ => .notStarted .missing

lemma seesDirectories_exampleTools : (exampleTools w).SeesDirectories exampleTree w := by
  intro milliseconds program arguments path path' place hpath hpath'
  rw [Denotes] at hpath hpath'
  simp only [exampleTools]
  rw [hpath, hpath']

/-- The way from another working directory goes up before the working copy, the other path has dots and double
slashes in it. -/
theorem facts_of_directory_up_and_down :
    let t := exampleTree
    let w := ["a", "c"]
    let svn := provider (exampleTools w) t w 1000
    let s := (svn.collect ⟨"../../wc/x/z/", "/a/c/../../wc", ""⟩).value
    t.IsWorkingDirectory w ∧ (exampleTools w).SeesDirectories t w ∧
      t.Denotes w "../../wc/x/z/" ["wc", "x", "z"] ∧ t.Denotes w "/wc//x/./z" ["wc", "x", "z"] ∧
      t.Straight w ".svn" "../../wc/x/z/" ∧ t.Straight w ".svn" "/wc//x/./z" ∧
      svn.root? "../../wc/x/z/" = some "/a/c/../../wc" ∧ svn.root? "/wc//x/./z" = some "/wc" ∧
      t.Nearest ".svn" ["wc", "x", "z"] ["wc"] ∧
      s = (svn.collect ⟨"/wc//x/./z", "/wc", ""⟩).value ∧ s.branch = "trunk" := by
  intro t w svn s
  have hw : t.IsWorkingDirectory w := ⟨rfl, by decide⟩
  have hpath : t.Denotes w "../../wc/x/z/" ["wc", "x", "z"] :=
    Fallible.eq_ok_of_toOption (by decide +kernel)
  have hpath' : t.Denotes w "/wc//x/./z" ["wc", "x", "z"] :=
    Fallible.eq_ok_of_toOption (by decide +kernel)
  have hwc : t.Denotes w "/a/c/../../wc" ["wc"] := Fallible.eq_ok_of_toOption (by decide +kernel)
  have hmarked : t.Marked ".svn" ["wc"] := rfl
  have hstraight : t.Straight w ".svn" "../../wc/x/z/" :=
    Or.inr ⟨["a", "c", "..", "..", "wc"], ["x", "z"], by decide +kernel, hmarked, by decide⟩
  have hstraight' : t.Straight w ".svn" "/wc//x/./z" :=
    Or.inr ⟨["wc"], ["x", "z"], by decide +kernel, hmarked, by decide⟩
  have hroot : svn.root? "../../wc/x/z/" = some "/a/c/../../wc" := by decide +kernel
  have hroot' : svn.root? "/wc//x/./z" = some "/wc" := by decide +kernel
  have htools : (exampleTools w).SeesDirectories t w := seesDirectories_exampleTools
  obtain ⟨hvalue, top, htop, _, hnearest, hbranch⟩ :=
    (facts_of_directory t w hw).2.2 (exampleTools w) 1000 "../../wc/x/z/" "/wc//x/./z" ["wc", "x", "z"] ""
      "/a/c/../../wc" "/wc" htools hpath hpath' hstraight hstraight' hroot hroot'
  have htop_eq : top = ["wc"] := by
    have h := htop.symm.trans hwc
    cases h
    rfl
  subst htop_eq
  refine ⟨hw, htools, hpath, hpath', hstraight, hstraight', hroot, hroot', hnearest, hvalue, ?_⟩
  exact (hbranch ["Relative URL: ^/trunk/x/z"] (by decide +kernel) (by decide +kernel)).trans (by decide +kernel)

/-- Going back up inside of a working copy leads to a root that is not above the directory, or counts too many
levels and loses the branch. -/
theorem facts_depend_on_spelling :
    let t := exampleTree
    let svn := provider (exampleTools []) t [] 1000
    (t.Denotes [] "a/c" ["a", "c"] ∧ t.Denotes [] "a/b/../c" ["a", "c"] ∧
      (t.markedRoot? [] "a/c" ".git").map Path.text = none ∧
      (t.markedRoot? [] "a/b/../c" ".git").map Path.text = some "/a/b" ∧
      t.Denotes [] "/a/b" ["a", "b"] ∧ ¬ ["a", "b"] <+: ["a", "c"]) ∧
    ((exampleTools []).SeesDirectories t [] ∧
      t.Denotes [] "wc/x/z" ["wc", "x", "z"] ∧ t.Denotes [] "wc/x/y/../z" ["wc", "x", "z"] ∧
      svn.root? "wc/x/z" = some "/wc" ∧ svn.root? "wc/x/y/../z" = some "/wc" ∧
      (svn.collect ⟨"wc/x/z", "/wc", ""⟩).value.branch = "trunk" ∧
      (svn.collect ⟨"wc/x/y/../z", "/wc", ""⟩).value.branch = "") := by
  intro t svn
  refine ⟨⟨?_, ?_, ?_, ?_, ?_, ?_⟩, seesDirectories_exampleTools, ?_, ?_, ?_, ?_, ?_, ?_⟩
  · exact Fallible.eq_ok_of_toOption (by decide +kernel)
  · exact Fallible.eq_ok_of_toOption (by decide +kernel)
  · decide +kernel
  · decide +kernel
  · exact Fallible.eq_ok_of_toOption (by decide +kernel)
  · decide
  · exact Fallible.eq_ok_of_toOption (by decide +kernel)
  · exact Fallible.eq_ok_of_toOption (by decide +kernel)
  · decide +kernel
  · decide +kernel
  · decide +kernel
  · decide +kernel

end Subversion

end BuildVersion
