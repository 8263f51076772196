import BuildVersion.Diagnostics.Event
import BuildVersion.Files.Path
import BuildVersion.Snapshot

/-!
# Providers

A provider collects the facts of directories that are under its version control system. `fixed` is
the provider that knows them beforehand.
-/

namespace BuildVersion

/-- What a provider is to collect. -/
structure Request where
  /-- The directory, as it was spelled. -/
  path : String
  /-- The directory that the provider found to be the root of the working copy. -/
  root : String
  /-- The pattern of the tags that count. -/
  tagMatch : String

/-- A source of facts. Collecting never fails: facts that are not to be had stay unknown. -/
structure Provider where
  name : String
  /-- Whether the tools of the provider are there. -/
  isInstalled : Bool
  /-- The root of the working copy that a path lies in. -/
  root? : String → Option String
  collect : Request → Recorded Event Snapshot

/-- A provider that gives the same facts for all paths below a root. -/
def Provider.fixed (name : String) (isInstalled : Bool) (root : Option String) (s : Snapshot) :
    Provider where
  name := name
  isInstalled := isInstalled
  root? path := root.filter fun root => (Path.ofText path).startsWith (Path.ofText root)
  collect _ := pure { s with vcs := name }

end BuildVersion
