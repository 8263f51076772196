/-!
# Invocations

What the command line can ask for: a product that is made of the facts of a working copy, or the time
that an encoded value stands for.
-/

namespace BuildVersion

/-- What can be made of the facts of a working copy. A template that is given stands in for the one of
the settings. -/
inductive Product where
  | version (template : Option String)
  | shortVersion (template : Option String)
  | copyright (template : Option String)
  /-- The facts themselves. -/
  | facts
deriving DecidableEq

/-- What a run is to do. -/
inductive Command where
  | produce (product : Product)
  | decode (placeholder value : String)
deriving DecidableEq

/-- The options that every command takes. -/
structure Options where
  /-- The directory that is inspected. -/
  directory : String := "."
  /-- The configuration file. -/
  configuration : Option String := none
  vcs : Option String := none
  tagMatch : Option String := none
  buildConfiguration : Option String := none
  buildTime : Option String := none
  removeTagV : Bool := false
  isVerbose : Bool := false
deriving DecidableEq

/-- A command with its options. -/
structure Invocation where
  options : Options := {}
  command : Command := .produce (.version none)
deriving DecidableEq

end BuildVersion
