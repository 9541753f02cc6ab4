import ShaderBuild.Files
import ShaderBuild.Settings
import ShaderBuild.Text.Quoted
import ShaderBuild.Toml.Document

/-! Settings read from documents, whose sections are tables or arrays. -/

namespace ShaderBuild

open Toml (Value Members Step Extent)

/-- Why a value cannot stand where it does. -/
inductive TypeFault where
  | wrongKind (found expected : String)
  | outOfRange (number : Int) (expected : String)
  deriving DecidableEq, Repr

/-- The fault as a user reads it. -/
def TypeFault.message : TypeFault → String
  | wrongKind found expected => "invalid type: " ++ found ++ ", expected " ++ expected
  | outOfRange number expected =>
    "invalid value: integer `" ++ toString number ++ "`, expected " ++ expected

/-- The kind of a value and, for a small value, the value itself. -/
def describeValue : Value → String
  | .string text => "string " ++ Text.quoted text
  | .integer number => "integer `" ++ toString number ++ "`"
  | .float bits => "floating point `" ++ Number.describePositional Number.double bits ++ "`"
  | .boolean truth => "boolean `" ++ (if truth then "true" else "false") ++ "`"
  | .moment _ => "map"
  | .array _ => "sequence"
  | .table _ => "map"

/-- A value that cannot stand where it does: the steps that lead to it, and why. -/
structure Mistyped where
  steps : List Step := []
  fault : TypeFault
  deriving DecidableEq, Repr

/-- What is wrong with a value, told from the one that holds it. -/
def within (step : Step) (read : Except Mistyped α) : Except Mistyped α :=
  read.mapError fun mistyped => { mistyped with steps := step :: mistyped.steps }

/-- Refuses a value where something else is expected. -/
def refuse (value : Value) (expected : String) : Except Mistyped α :=
  .error ⟨[], .wrongKind (describeValue value) expected⟩

/-- A truth value. -/
def boolOfValue : Value → Except Mistyped Bool
  | .boolean truth => .ok truth
  | value => refuse value "a boolean"

/-- A text. -/
def textOfValue : Value → Except Mistyped String
  | .string text => .ok text
  | value => refuse value "a string"

/-- A path. -/
def pathOfValue : Value → Except Mistyped Path
  | .string text => .ok ⟨text⟩
  | value => refuse value "path string"

/-- A number that counts something. -/
def countOfValue : Value → Except Mistyped Nat
  | .integer number =>
    if 0 ≤ number then .ok number.toNat else .error ⟨[], .outOfRange number "usize"⟩
  | value => refuse value "usize"

/-- The key under which a moment stands where a table is expected. -/
def momentKey : String := "$__toml_private_datetime"

/-- Definitions: a table of texts. A moment counts as a table with its text as only member. -/
def definesOfValue : Value → Except Mistyped Defines
  | .table members =>
    members.foldlM (fun defines member =>
      within (.member member.1)
        ((textOfValue member.2).map fun text => defines.insert member.1 text)) Defines.empty
  | .moment moment => .ok (Defines.empty.insert momentKey moment.render)
  | value => refuse value "a map"

/-- A setting: its name, and what a value does to the section. -/
abbrev Field (σ : Type) := String × (σ → Value → Except Mistyped σ)

/-- Reads a section from its fields. -/
def sectionOfValue (title : String) (fields : List (Field σ)) (start : σ) :
    Value → Except Mistyped σ
  | .table members =>
    members.foldlM (fun state member =>
      match fields.lookup member.1 with
      | some apply => within (.member member.1) (apply state member.2)
      | none => .ok state) start
  | .array items =>
    (fields.zip items.zipIdx).foldlM (fun state entry =>
      within (.item entry.2.2) (entry.1.2 state entry.2.1)) start
  | .moment _ => .ok start
  | value => refuse value ("struct " ++ title)

/-- The settings of compiles, in order. -/
def compilerFields : List (Field CompilerSettings) :=
  [("spirv_version", fun s v => (textOfValue v).map fun text => { s with spirvVersion := text }),
    ("debug_info", fun s v => (boolOfValue v).map fun truth => { s with debugInfo := truth }),
    ("flip_vertex_y", fun s v => (boolOfValue v).map fun truth => { s with flipVertexY := truth }),
    ("defines", fun s v => (definesOfValue v).map fun defines => { s with defines := defines })]

/-- The settings of the cache, in order. -/
def cacheFields : List (Field CacheSettings) :=
  [("enabled", fun s v => (boolOfValue v).map fun truth => { s with enabled := truth }),
    ("memory_limit_mb", fun s v =>
      (countOfValue v).map fun count => { s with memoryLimitMb := count }),
    ("disk_dir", fun s v => (pathOfValue v).map fun path => { s with diskDirectory := some path })]

/-- The settings of notes, in order. -/
def loggingFields : List (Field LoggingSettings) :=
  [("level", fun s v => (textOfValue v).map fun text => { s with level := text }),
    ("log_to_file", fun s v => (boolOfValue v).map fun truth => { s with logToFile := truth }),
    ("log_file", fun s v => (textOfValue v).map fun text => { s with logFile := text })]

/-- The sections, in order. -/
def sectionFields : List (Field Settings) :=
  [("compiler", fun s v =>
      (sectionOfValue "CompilerConfig" compilerFields {} v).map fun c => { s with compiler := c }),
    ("cache", fun s v =>
      (sectionOfValue "CacheConfig" cacheFields {} v).map fun c => { s with cache := c }),
    ("logging", fun s v =>
      (sectionOfValue "LoggingConfig" loggingFields {} v).map fun l => { s with logging := l })]

/-- Reads settings from a document's table. -/
def settingsOfMembers (members : Members) : Except Mistyped Settings :=
  sectionOfValue "Config" sectionFields {} (.table members)

/-- Why a text gives no settings. -/
inductive SettingsFault where
  /-- The text is no document. -/
  | malformed
  /-- A value is of the wrong kind; where it stands is known. -/
  | mistyped (fault : TypeFault) (place : Extent)
  /-- The settings cannot be used together. -/
  | unusable (failure : Failure)

/-- Reads settings and checks the version among them. -/
def Settings.parse (text : String) : Except SettingsFault Settings :=
  match Toml.parse? text with
  | none => .error .malformed
  | some nodes =>
    match settingsOfMembers nodes.members with
    | .error mistyped =>
      .error (.mistyped mistyped.fault ((nodes.placeOf? mistyped.steps).getD ⟨0, 0⟩))
    | .ok settings =>
      match settings.compiler.options with
      | .error failure => .error (.unusable failure)
      | .ok _ => .ok settings

/-- Why a file gives no settings. -/
inductive LoadFault where
  | unreadable (path : Path) (fault : FileFault)
  | unusable (path : Path) (text : String) (fault : SettingsFault)

/-- The outermost message. -/
def LoadFault.message : LoadFault → String
  | unreadable path _ => "Failed to read config file: " ++ Text.quoted path.text
  | unusable path _ _ => "Failed to parse config file: " ++ Text.quoted path.text

/-- The message of the cause. A value of the wrong kind is pointed at. -/
def LoadFault.cause : LoadFault → String
  | unreadable _ fault => fault.message
  | unusable _ _ .malformed => "TOML parse error"
  | unusable _ text (.mistyped fault place) => place.render text.toList ++ fault.message ++ "\n"
  | unusable _ _ (.unusable failure) => failure.message

/-- Reads settings from a file; a file that is not there leaves all defaults. -/
def Settings.load (files : Files) (path : Path) : Except LoadFault Settings :=
  if files.isThere path then
    match files.readText path with
    | .error fault => .error (.unreadable path fault)
    | .ok text =>
      match Settings.parse text with
      | .error fault => .error (.unusable path text fault)
      | .ok settings => .ok settings
  else .ok {}

end ShaderBuild
