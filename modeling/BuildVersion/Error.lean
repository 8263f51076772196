import BuildVersion.Calendar.Rfc3339
import BuildVersion.Version.Basic

/-!
# Errors

Everything that can keep a version from being computed, by cause. `Error.kind` sorts the causes,
`Error.detail` words each of them, and `Error.message` is what a user reads.
-/

namespace BuildVersion

open Calendar

/-- The largest number that a short version may hold. -/
def componentLimit : Nat := 65534

/-- The first number of days that the dotted time scheme no longer counts. -/
def dayLimit : Nat := 65535

/-- What is wrong with the text of a time scheme. -/
inductive SchemeFault where
  | notTime
  | unknown
  | baseMonth (month : Nat)
  | interval (text : String)
  | emptyInterval (text : String)
  | longInterval
  | base (base : Nat)

/-- What is wrong with the arguments of a placeholder. -/
inductive PlaceholderFault where
  | length
  | offsetDigits
  | offsetRange
  | offsetSign
  | marker
  | arguments
  | suppression
  | tag
  | separator
  | startYear
  | semver

/-- Why a file cannot be read. -/
inductive FileFault where
  | missing
  | notDirectory
  | directory
  | encoding
  | nullCharacter

/-- What a configuration file does wrong. -/
inductive TomlFault where
  /-- The text breaks the rules of the format in this line. -/
  | malformed (line : Nat)
  /-- A key or table is defined twice. -/
  | redefined (key : String)
  /-- A setting has a value of the wrong type or out of its range. -/
  | value (key : String)

/-- Why a version cannot be computed. -/
inductive Error where
  | unknownProvider (name : String) (supported : List String)
  | missingProvider (name path : String)
  | versionShape (core : String)
  | versionComponent (part core : String)
  | patchLimit (version : Version)
  | notDotted (text : String)
  | componentCount (text : String)
  | componentLimit (component text : String)
  | placeholder (fault : PlaceholderFault) (text : String)
  | negativeRevision (revision : UInt64) (offset : Int)
  | timeScheme (fault : SchemeFault) (text : String)
  | beforeBase (time : Timestamp) (base : Date)
  | dayLimit (time : Timestamp) (days : Int) (baseYear : Nat)
  | timeValue (text : String)
  | timeWithoutDate (text : String)
  | outsideDays (text : String) (perDay : Nat)
  | tooLarge (text : String)
  | timeRange (seconds : Int) (base : Date)
  | numeralBase (base : Nat)
  | emptyNumeral
  | foreignDigit (digit : Char) (text : String) (base : Nat)
  | numeralLimit (text : String)
  | zeroTimeout
  | blankTemplate
  | file (fault : FileFault)
  | toml (fault : TomlFault)
  /-- Local clocks do not cover the time. Nobody catches this one: the program stops at it. -/
  | localTime (time : Timestamp)

/-- The sorts of errors. -/
inductive ErrorKind where
  | environment
  | format
  | bounds
  | config
  | io
  | toml
deriving DecidableEq

/-- The words that open every error of a kind. -/
def ErrorKind.heading : ErrorKind → String
  | environment => "Environment error: "
  | format => "Format error: "
  | bounds => "Value out of range: "
  | config => "Configuration error: "
  | io => "I/O error: "
  | toml => "Invalid configuration file: "

/-- What is wrong, without the text that it is wrong in. -/
def SchemeFault.detail : SchemeFault → String
  | notTime => "Not a time placeholder"
  | unknown => "Unknown time scheme"
  | baseMonth month => s!"Invalid base month {month}"
  | interval text => s!"Invalid interval '{text}'"
  | emptyInterval text => s!"Interval '{text}' must be positive"
  | longInterval => "Interval longer than one day"
  | base b => s!"Unsupported numeral base {b}, expected 2 to 36"

/-- What is wrong, without the placeholder that it is wrong in. -/
def PlaceholderFault.detail : PlaceholderFault → String
  | length => "Expected a positive length"
  | offsetDigits => "Invalid revision offset"
  | offsetRange => "Revision offset out of range"
  | offsetSign => "Expected +N or -N"
  | marker => "Expected ':' before the marker text"
  | arguments => "Unexpected arguments"
  | suppression => "Expected ':<separator>:<reference>'"
  | tag => "Expected \x7btag\x7d or \x7btag:nov\x7d"
  | separator => "Expected ':' before the separator"
  | startYear => "Expected ':YYYY-'"
  | semver => "Invalid semvertag arguments"

/-- The words of the operating system for a file that cannot be read. -/
def FileFault.detail : FileFault → String
  | missing => "No such file or directory (os error 2)"
  | notDirectory => "Not a directory (os error 20)"
  | directory => "Is a directory (os error 21)"
  | encoding => "stream did not contain valid UTF-8"
  | nullCharacter => "file name contained an unexpected NUL byte"

/-- What is wrong with a configuration file. -/
def TomlFault.detail : TomlFault → String
  | malformed line => s!"line {line} is not valid TOML"
  | redefined key => s!"'{key}' is defined twice"
  | value key => s!"'{key}' has no valid value"

namespace Error

/-- Whether the program stops at an error, where it would report any other. -/
def stops : Error → Bool
  | localTime _ => true
  | _ => false

/-- The sort of an error. One at which the program stops is never reported as of any sort; here it counts
among those of the configuration, to which the time zone belongs. -/
def kind : Error → ErrorKind
  | unknownProvider .. | missingProvider .. => .environment
  | versionShape .. | versionComponent .. | notDotted .. | componentCount .. | placeholder ..
  | timeScheme .. | timeValue .. | timeWithoutDate .. | numeralBase .. | emptyNumeral
  | foreignDigit .. => .format
  | patchLimit .. | componentLimit .. | negativeRevision .. | beforeBase .. | dayLimit ..
  | outsideDays .. | tooLarge .. | timeRange .. | numeralLimit .. => .bounds
  | zeroTimeout | blankTemplate | localTime .. => .config
  | file .. => .io
  | toml .. => .toml

/-- What happened, without the words that open it. -/
def detail : Error → String
  | unknownProvider name supported =>
    s!"Unknown version control system '{name}', supported: " ++ ", ".intercalate supported
  | missingProvider name path =>
    s!"Required version control system '{name}' is not available for '{path}'"
  | versionShape core => s!"Invalid version core: '{core}' - expected X[.Y[.Z]]"
  | versionComponent part core => s!"Invalid version component '{part}' in '{core}'"
  | patchLimit version => s!"Patch component of {version.text} cannot be incremented"
  | notDotted text => s!"'{text}' does not start with a dotted numeric version"
  | componentCount text => s!"'{text}' is not a version of two to four numeric components"
  | componentLimit component text =>
    s!"component {component} of '{text}' exceeds {BuildVersion.componentLimit}"
  | placeholder fault text => s!"{fault.detail} in placeholder '{text}'"
  | negativeRevision revision offset => s!"revision {revision} with offset {offset} is negative"
  | timeScheme fault text => s!"{fault.detail} in '{text}'"
  | beforeBase time base => s!"{time.rfc3339} is before the base date {base.text}"
  | dayLimit time days baseYear =>
    s!"{time.spacedText} is {days} days after {baseYear}, the limit is {BuildVersion.dayLimit - 1}"
  | timeValue text => s!"'{text}' is not a valid value for this scheme"
  | timeWithoutDate text => s!"'{text}' has no date part and cannot be decoded"
  | outsideDays text perDay =>
    s!"'{text}' is outside 0.0 to {BuildVersion.dayLimit - 1}.{perDay - 1}"
  | tooLarge text => s!"'{text}' is too large"
  | timeRange seconds base => s!"{seconds} seconds after {base.text} 00:00:00 UTC is out of range"
  | numeralBase b => (SchemeFault.base b).detail
  | emptyNumeral => "Cannot decode an empty value"
  | foreignDigit digit text base => s!"Character '{digit}' in '{text}' is not a base-{base} digit"
  | numeralLimit text => s!"Value '{text}' is too large"
  | zeroTimeout => "revision.timeout_ms must be greater than 0"
  | blankTemplate => "format.version must not be empty"
  | file fault => fault.detail
  | toml fault => fault.detail
  | localTime _ => "Local time out of range for `NaiveDateTime`"

/-- The error as a user reads it. -/
def message (e : Error) : String := e.kind.heading ++ e.detail

end Error

end BuildVersion
