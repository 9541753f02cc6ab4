import ShaderBuild.Compiler
import ShaderBuild.Path

/-! The program's settings, their defaults, and what follows from them. -/

namespace ShaderBuild

/-- Settings of compiles. -/
structure CompilerSettings where
  /-- A version as `major.minor`. -/
  spirvVersion : String := "1.0"
  debugInfo : Bool := false
  flipVertexY : Bool := false
  defines : Defines := .empty
  deriving DecidableEq

/-- Settings of the cache. -/
structure CacheSettings where
  enabled : Bool := true
  /-- Zero sets no limit. -/
  memoryLimitMb : Nat := 0
  diskDirectory : Option Path := none
  deriving DecidableEq

/-- Settings of notes. -/
structure LoggingSettings where
  level : String := "info"
  logToFile : Bool := false
  logFile : String := "avd_shader.log"
  deriving DecidableEq

/-- All settings. -/
structure Settings where
  compiler : CompilerSettings := {}
  cache : CacheSettings := {}
  logging : LoggingSettings := {}
  deriving DecidableEq

/-- Where settings are looked for when no other file is named. -/
def defaultSettingsFile : String := "avd_shader.toml"

/-- A numeral of decimal digits after an optional plus sign, below 256. -/
def byteOfNumeral? (text : List Char) : Option UInt8 :=
  let digits :=
    match text with
    | '+' :: rest => rest
    | _ => text
  if digits.isEmpty || !digits.all Char.isDigit then none
  else
    let value := digits.foldl (fun value c => 10 * value + (c.toNat - 48)) 0
    if value < 256 then some (UInt8.ofNat value) else none

/-- The text before the first dot and the text after it. -/
def cutAtFirstDot (text : List Char) : Option (List Char × List Char) :=
  match text.dropWhile (· ≠ '.') with
  | [] => none
  | _ :: after => some (text.takeWhile (· ≠ '.'), after)

/-- The version that a text names, from 1.0 up to 1.6. The compiler has a check of its own. -/
def versionOfText? (text : String) : Option (UInt8 × UInt8) := do
  let (before, after) ← cutAtFirstDot (Text.trim text.toList)
  let major ← byteOfNumeral? before
  let minor ← byteOfNumeral? after
  if major ≠ 1 ∨ 6 < minor then none else some (major, minor)

/-- Reads a version. -/
def parseVersion (text : String) : Except Failure (UInt8 × UInt8) :=
  match versionOfText? text with
  | some version => .ok version
  | none => .error (.contractViolation (.versionText text))

/-- The options of a compile under some settings; no stage is fixed. -/
def CompilerSettings.options (settings : CompilerSettings) : Except Failure Options :=
  (parseVersion settings.spirvVersion).map fun version =>
    { stage := none
      spirvVersion := version
      debugInfo := settings.debugInfo
      flipVertexY := settings.flipVertexY
      defines := settings.defines }

/-- The largest size that can be given. -/
def largestSize : Nat := 0xFFFFFFFFFFFFFFFF

/-- The limit in bytes; sizes that are too large become the largest one. -/
def CacheSettings.memoryLimit (settings : CacheSettings) : Option Nat :=
  if settings.memoryLimitMb = 0 then none
  else some (min (settings.memoryLimitMb * 0x100000) largestSize)

namespace Log

/-- Which notes are shown: none, or those up to a level. -/
abbrev Threshold := Option Level

/-- The name of a threshold. -/
def thresholdName : Threshold → String
  | none => "OFF"
  | some .error => "ERROR"
  | some .warn => "WARN"
  | some .info => "INFO"
  | some .debug => "DEBUG"
  | some .trace => "TRACE"

/-- Every threshold, from the one that shows nothing. -/
def thresholds : List Threshold :=
  [none, some .error, some .warn, some .info, some .debug, some .trace]

/-- The threshold with a name; the case of ASCII letters does not matter. -/
def threshold? (text : List Char) : Option Threshold :=
  thresholds.find? fun threshold => Text.eqIgnoringCase text (thresholdName threshold).toList

end Log

/-- The threshold of notes; an unknown name stands for informative notes. -/
def LoggingSettings.threshold (settings : LoggingSettings) : Log.Threshold :=
  (Log.threshold? settings.level.toList).getD (some .info)

end ShaderBuild
