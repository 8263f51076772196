import BuildVersion.Settings.Basic
import BuildVersion.Toml.Document

/-!
# Settings in TOML

A configuration file gives its settings by name in the tables `revision` and `format`. What it leaves
out keeps its default, and keys that mean nothing are passed over.
-/

namespace BuildVersion

open Toml

/-- The value of a key, or the default where the key is missing. -/
def decodeField {α : Type} (entries : Entries) (key : String) (default : α) (read : Value → Option α) :
    Except TomlFault α :=
  match entries.lookup key with
  | none => .ok default
  | some value =>
    match read value with
    | some a => .ok a
    | none => .error (.value key)

/-- The fields of the record under a key. -/
def decodeRecord (entries : Entries) (key : String) (names : List String) : Except TomlFault Entries :=
  decodeField entries key [] (Value.fields? names)

namespace CiBranch

/-- The strategy of a name. -/
def ofName? : String → Option CiBranch
  | "gitlab" => some gitlab
  | "none" => some none
  | _ => Option.none

/-- The strategy that a value names: a text, or a table with the name as its only key and nothing
under it. -/
def ofValue? (value : Value) : Option CiBranch :=
  match value.text?, value.entries? with
  | some name, _ => ofName? name
  | _, some [(name, inner)] => if inner.isEmpty then ofName? name else Option.none
  | _, _ => Option.none

end CiBranch

/-- Decodes how facts are collected. -/
def CollectionSettings.decode (entries : Entries) : Except TomlFault CollectionSettings := do
  let default : CollectionSettings := {}
  return {
    vcs := ← decodeField entries "vcs" default.vcs fun value => value.text?.map some
    tagMatch := ← decodeField entries "tag_match" default.tagMatch Value.text?
    timeout := ← decodeField entries "timeout_ms" default.timeout Value.natural?
    ciBranch := ← decodeField entries "ci_branch" default.ciBranch CiBranch.ofValue? }

/-- Decodes the templates and what they are resolved with. -/
def FormatSettings.decode (entries : Entries) : Except TomlFault FormatSettings := do
  let default : FormatSettings := {}
  return {
    version := ← decodeField entries "version" default.version Value.text?
    short := ← decodeField entries "short" default.short Value.text?
    copyright := ← decodeField entries "copyright" default.copyright Value.text?
    removeTagV := ← decodeField entries "remove_tag_v" default.removeTagV Value.boolean?
    defaultBranch := ← decodeField entries "default_branch" default.defaultBranch Value.text?
    buildConfiguration := ← decodeField entries "build_config" default.buildConfiguration Value.text? }

/-- Decodes the entries of a configuration file. -/
def Settings.decode (entries : Entries) : Except TomlFault Settings := do
  let collection ← decodeRecord entries "revision" ["vcs", "tag_match", "timeout_ms", "ci_branch"]
  let format ← decodeRecord entries "format"
    ["version", "short", "copyright", "remove_tag_v", "default_branch", "build_config"]
  return {
    collection := ← CollectionSettings.decode collection
    format := ← FormatSettings.decode format }

/-- The valid settings that the text of a configuration file gives. -/
def Settings.read (text : String) : Except Error Settings := do
  let settings ← (readDocument text >>= Settings.decode).mapError Error.toml
  settings.validate
  return settings

end BuildVersion
