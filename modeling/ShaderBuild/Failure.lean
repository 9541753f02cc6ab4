import ShaderBuild.Diagnostic
import ShaderBuild.Vulkan.Result
import ShaderBuild.Text.Hex

/-! Why a request for a shader fails, and how the failure reads. -/

namespace ShaderBuild

/-- The ways in which a caller breaks the contract of the library. -/
inductive ContractFault where
  | emptyBytecode
  | byteLength (length : Nat)
  | missingMagic (found : UInt32)
  | nulInSource (name : String)
  | spirvVersion (major minor : UInt8)
  | versionText (text : String)
  | stated (message : String)
  deriving DecidableEq, Repr

/-- The sentence that names the broken rule. -/
def ContractFault.message : ContractFault → String
  | .emptyBytecode => "bytecode must contain at least one word"
  | .byteLength length =>
    s!"SPIR-V byte stream length {length} is not a non-zero multiple of 4"
  | .missingMagic found =>
    "byte stream does not start with the SPIR-V magic number (found 0x" ++
      String.ofList (Text.hexFixed 8 found.toNat) ++ ")"
  | .nulInSource name => "shader source `" ++ name ++ "` contains a NUL byte"
  | .spirvVersion major minor =>
    s!"unsupported SPIR-V version {major.toNat}.{minor.toNat} (expected 1.0 to 1.6)"
  | .versionText text => "invalid spirv_version `" ++ text ++ "` (expected 1.0 to 1.6)"
  | .stated message => message

/-- Why no bytecode was produced. -/
inductive Failure where
  /-- The shader's text is at fault. -/
  | compile (name : String) (diagnostics : List Diagnostic)
  /-- The compiler could not handle a valid text. -/
  | toolchain (name message : String)
  /-- The module is larger than the cache may hold. -/
  | cacheExhausted (required capacity : Nat)
  /-- The caller broke a rule. -/
  | contractViolation (fault : ContractFault)
  /-- A file could not be used. -/
  | file (path message : String)
  /-- The graphics driver refused. -/
  | vulkan (result : Vulkan.Result)
  deriving DecidableEq, Repr

namespace Failure

/-- The text shown to a user. -/
def message : Failure → String
  | compile name diagnostics =>
    "failed to compile `" ++ name ++ "`: " ++ Diagnostic.join diagnostics
  | toolchain name message =>
    "shader toolchain failure while compiling `" ++ name ++ "`: " ++ message
  | cacheExhausted required capacity =>
    s!"shader cache exhausted: entry needs {required} bytes, capacity is {capacity} bytes"
  | contractViolation fault => "caller contract violation: " ++ fault.message
  | file path message => "failed to read `" ++ path ++ "`: " ++ message
  | vulkan result => "vulkan error: " ++ result.description

/-- Failures that a better shader text mends. -/
def isCompileError : Failure → Bool
  | compile .. => true
  | _ => false

/-- Failures of the compiler or of the cache itself. -/
def isToolchainLevel : Failure → Bool
  | toolchain .. | cacheExhausted .. => true
  | _ => false

/-- The diagnostics of a compile error; every other failure has none. -/
def diagnostics : Failure → List Diagnostic
  | compile _ diagnostics => diagnostics
  | _ => []

end Failure

end ShaderBuild
