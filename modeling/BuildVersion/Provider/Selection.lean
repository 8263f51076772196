import BuildVersion.Error
import BuildVersion.Provider.Basic

/-!
# Selecting a provider

The first provider in order that is installed and knows the directory collects its facts. Where one
is required by name, only those of that name are asked.
-/

namespace BuildVersion

open Calendar Text

namespace Provider

/-- A text cut to so many bytes, if a character ends there. -/
def cutBytes? (count : Nat) : List Char → Option (List Char)
  | [] => if count = 0 then some [] else none
  | c :: cs =>
    if count = 0 then some []
    else if c.utf8Size ≤ count then (cutBytes? (count - c.utf8Size) cs).map (c :: ·)
    else none

/-- The first seven bytes of a commit hash, or all of it where they do not end a character. -/
def shortHash (hash : String) : String :=
  match cutBytes? 7 hash.toList with
  | some cs => String.ofList cs
  | none => hash

/-- The name that is required, where it is not blank. -/
def requiredName? (required : Option String) : Option String :=
  (required.map trimmed).filter (· != "")

/-- Whether a provider may be asked. -/
def mayBeAsked (required : Option String) (p : Provider) : Bool :=
  match required with
  | some name => sameIgnoringCase p.name name
  | none => true

/-- The facts that a provider collects, cleaned. -/
def collected (p : Provider) (request : Request) : Recorded Event Snapshot := do
  Recorded.note (.asked p.name .facts)
  let s := (← p.collect request).normalize
  Recorded.tell .success
    s!"Collected {p.name} revision {s.revision} ({shortHash s.commitHash})"
  return s

/-- The facts of a directory from the first provider that is installed and knows it. -/
def firstOf (path tagMatch : String) : List Provider → Recorded Event (Option Snapshot)
  | [] => return none
  | p :: rest => do
    Recorded.note (.asked p.name .installed)
    if p.isInstalled then
      Recorded.note (.asked p.name .directory)
      match p.root? path with
      | some root =>
        Recorded.tell .trace s!"Found {p.name} working directory at {root}"
        return some (← p.collected { path, root, tagMatch })
      | none =>
        Recorded.tell .trace s!"{path} is not a {p.name} working directory"
        firstOf path tagMatch rest
    else
      Recorded.tell .trace s!"{p.name} is not installed, skipping"
      firstOf path tagMatch rest

/-- The facts of a directory. Without a required provider, a directory that none knows has those of
the placeholder. -/
def select (providers : List Provider) (path : String) (required : Option String)
    (tagMatch : String) (now : Timestamp) : Recorded Event (Except Error Snapshot) := do
  let required := requiredName? required
  let candidates := providers.filter (mayBeAsked required)
  match required with
  | some name =>
    if candidates.isEmpty then
      return .error (.unknownProvider name (providers.map Provider.name))
    else
      match ← firstOf path tagMatch candidates with
      | some s => return .ok s
      | none => return .error (.missingProvider name path)
  | none =>
    match ← firstOf path tagMatch candidates with
    | some s => return .ok s
    | none =>
      Recorded.warn (.noVcs path)
      return .ok (Snapshot.placeholder now)

end Provider

end BuildVersion
