import ShaderBuild.Compiler
import ShaderBuild.Glsl.Source
import ShaderBuild.Spirv.Image
import ShaderBuild.Text.Position

/-! The compiler from shader texts to modules: reading, checking and writing. -/

namespace ShaderBuild.Glsl

open ShaderBuild.Program

/-- The line and column at which a span begins. -/
def placeOfSpan (text : List Char) (span : Span) : UInt32 × UInt32 :=
  let (line, column) := Text.positionOf text span.start
  (UInt32.ofNat line, UInt32.ofNat column)

/-- A mistake in the text with its place. -/
def backendFault (text : List Char) (fault : SourceFault × Span) : BackendFault :=
  let (line, column) := placeOfSpan text fault.2
  ⟨line, column, fault.1.message⟩

/-- What is said of a macro from outside that is no macro. -/
def badMacroMessage (bad : BadMacro) : String :=
  "called `Result::unwrap()` on an `Err` value: (" ++ bad.fault.describe ++
    ", Location \x7b start: " ++ toString bad.span.start ++ ", end: " ++
    toString bad.span.stop ++ ", line: " ++ toString bad.line ++ " \x7d)"

/-- Reads, checks and writes a program. -/
def backend : Backend := fun source stage options =>
  let text := source.toList
  match macrosOf options.defines with
  | .error bad => .panicked (some (badMacroMessage bad))
  | .ok macros =>
    match parse stage macros source with
    | .error faults => .rejected (faults.map (backendFault text))
    | .ok module =>
      match check module with
      | .error (fault, span) =>
        .invalid (if span.isDefined then some (placeOfSpan text span) else none) fault.message
      | .ok checked =>
        match module.entryPoint, checked.entry with
        | some entry, some use =>
          let format : Spirv.Format :=
            ⟨options.spirvVersion, options.debugInfo, options.flipVertexY⟩
          .written (Spirv.image module checked format entry use)
        | _, _ => .unwritable "entry point is missing"

/-- The compiler. -/
def compiler : Compiler := .ofBackend "naga-24/glsl-in/spv-out" backend

end ShaderBuild.Glsl
