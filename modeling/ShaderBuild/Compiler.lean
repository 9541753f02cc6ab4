import ShaderBuild.Bytecode
import ShaderBuild.Fingerprint
import ShaderBuild.Log
import ShaderBuild.StageChoice

/-! A compile checks a request in a fixed order and sorts what goes wrong into kinds of failures. -/

namespace ShaderBuild

/-- How a run of a compiler ends. -/
inductive CompileOutcome where
  | finished (result : Except Failure Bytecode)
  | panicked (message : String)

/-- A compiler: its name, which is part of every cache key, and what it does. -/
structure Compiler where
  identifier : String
  compile : Request → Options → CompileOutcome
  /-- What a run notes about its work. -/
  notes : Request → Options → List Log.Note

/-- A message about a place in a text: line, column and text. -/
structure BackendFault where
  line : UInt32
  column : UInt32
  message : String
  deriving DecidableEq, Repr

/-- How a backend answers. -/
inductive BackendAnswer where
  /-- The text is not a program. -/
  | rejected (faults : List BackendFault)
  /-- The program breaks a rule; the place may be unknown. -/
  | invalid (place : Option (UInt32 × UInt32)) (message : String)
  /-- The program cannot be written. -/
  | unwritable (message : String)
  /-- The backend broke down; the message may be unreadable. -/
  | panicked (message : Option String)
  | written (words : List UInt32)

/-- A backend compiles a text without a stage pragma. -/
abbrev Backend := String → Stage → Options → BackendAnswer

/-- The diagnostics of a rejected text; there is always one. -/
def rejectionDiagnostics (faults : List BackendFault) : List Diagnostic :=
  match faults with
  | [] => [.unlocated "GLSL frontend rejected the shader"]
  | faults => faults.map fun fault => .located fault.line fault.column fault.message

/-- What a request gets from the answer of a backend. -/
def resultOfAnswer (name : String) : BackendAnswer → Except Failure Bytecode
  | .rejected faults => .error (.compile name (rejectionDiagnostics faults))
  | .invalid (some (line, column)) message =>
    .error (.compile name [.located line column message])
  | .invalid none message => .error (.compile name [.unlocated message])
  | .unwritable message => .error (.toolchain name ("SPIR-V writer: " ++ message))
  | .panicked message =>
    .error (.toolchain name ("backend panicked: " ++ message.getD "unknown panic"))
  | .written words =>
    if words.head? = some spirvMagic then Bytecode.ofWords words
    else .error (.toolchain name "backend produced output without a SPIR-V header")

/-- Whether a module can be written for a version. -/
def isSupportedVersion (version : UInt8 × UInt8) : Bool :=
  version.1 = 1 && version.2 ≤ 6

/-- Checks a request before its stage is looked for. -/
def checkRequest (request : Request) (options : Options) : Except Failure Unit := do
  if request.source.toList.all Text.isBlank then
    throw (.compile request.name [.unlocated "shader source is empty"])
  if request.source.toList.contains '\x00' then
    throw (.contractViolation (.nulInSource request.name))
  if !isSupportedVersion options.spirvVersion then
    throw (.contractViolation (.spirvVersion options.spirvVersion.1 options.spirvVersion.2))

/-- Compiles a request with a backend. -/
def compileWith (backend : Backend) (request : Request) (options : Options) :
    Except Failure Bytecode := do
  checkRequest request options
  let (stage, _) ← resolveStage request.name request.source options
  resultOfAnswer request.name (backend (stripStagePragma request.source) stage options)

/-- What a compile notes: where the stage was found, and the size of the module. -/
def compileNotes (request : Request) (options : Options) (result : Except Failure Bytecode) :
    List Log.Note :=
  match checkRequest request options, resolveStage request.name request.source options with
  | .ok (), .ok (stage, origin) =>
    let found := fun (where_ : String) =>
      [(⟨.debug, "avd_shader::compiler",
        request.name ++ ": stage " ++ stage.name ++ " from " ++ where_⟩ : Log.Note)]
    (match origin with
      | .option => []
      | .pragma => found "#pragma"
      | .fileName => found "file name") ++
      match result with
      | .ok bytecode =>
        [⟨.info, "avd_shader::compiler::glsl",
          "Compiled " ++ request.name ++ " (" ++ stage.name ++ " shader, " ++
            toString bytecode.wordCount ++ " words)"⟩]
      | .error _ => []
  | _, _ => []

/-- A compiler from a name and a backend. -/
def Compiler.ofBackend (identifier : String) (backend : Backend) : Compiler where
  identifier := identifier
  compile := fun request options => .finished (compileWith backend request options)
  notes := fun request options =>
    compileNotes request options (compileWith backend request options)

end ShaderBuild
