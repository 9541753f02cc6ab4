import ShaderBuild.Failure
import ShaderBuild.Options
import ShaderBuild.Text.Blank
import ShaderBuild.Text.Lines

/-! The stage of a shader is told by an option, a pragma in its text, or its name. -/

namespace ShaderBuild

/-- The name between the brackets of a stage pragma line, up to the bracket or the line's end. -/
def stagePragma? (line : List Char) : Option (List Char) := do
  let rest ← Text.dropLeading? ['#'] (Text.trimLeft line)
  let rest ← Text.dropLeading? "pragma".toList (Text.trimLeft rest)
  let rest ← Text.dropLeading? "shader_stage".toList (Text.trimLeft rest)
  let rest ← Text.dropLeading? ['('] (Text.trimLeft rest)
  return Text.trim (rest.takeWhile (· ≠ ')'))

/-- The first stage pragma among some lines, with the number of lines before it. -/
def findPragmaIn : List Text.Line → Option (Nat × List Char)
  | [] => none
  | line :: lines =>
    match stagePragma? line.body with
    | some name => some (0, name)
    | none => (findPragmaIn lines).map fun found => (found.1 + 1, found.2)

/-- The first stage pragma of a text, with its zero-based line. -/
def findStagePragma (source : String) : Option (Nat × List Char) :=
  findPragmaIn (Text.lines source.toList)

/-- Blanks the first stage pragma line and keeps its line end. -/
def blankPragmaIn : List Text.Line → List Text.Line
  | [] => []
  | line :: lines =>
    match stagePragma? line.body with
    | some _ => line.blanked :: lines
    | none => line :: blankPragmaIn lines

/-- The text with its first stage pragma line blanked. -/
def stripStagePragma (source : String) : String :=
  String.ofList (Text.unlines (blankPragmaIn (Text.lines source.toList)))

/-- The parts of a name between its dots, last part first. -/
def dottedParts (name : List Char) : List (List Char) :=
  (Text.splitAtChar '.' name).reverse

/-- What a dotted name says: its last part, or the part before a last part "glsl". -/
def stageOfName (name : String) : StageName :=
  match dottedParts name.toList with
  | last :: before :: _ =>
    match StageName.parse last with
    | .unknown =>
      if Text.eqIgnoringCase last "glsl".toList then StageName.parse before else .unknown
    | found => found
  | _ => .unknown

/-- Where a stage was found. -/
inductive StageOrigin where
  | option
  | pragma
  | fileName
  deriving DecidableEq, Repr

/-- What is said of a text and a name that tell no stage. -/
def unknownStageMessage : String :=
  "cannot infer the shader stage; use a .vert/.frag/.comp name " ++
    "or add `#pragma shader_stage(<stage>)`"

/-- The stage of a shader and where it was found. -/
def resolveStage (name source : String) (options : Options) :
    Except Failure (Stage × StageOrigin) :=
  match options.stage with
  -- An explicit choice is not questioned, whatever text and name say.
  | some stage => .ok (stage, .option)
  | none =>
    match findStagePragma source with
    | some (line, word) =>
      -- A pragma that is there but wrong is an error; the name is not asked any more.
      let place := fun message =>
        Failure.compile name [.located (UInt32.ofNat (min (line + 1) 0xFFFFFFFF)) 1 message]
      match StageName.parse word with
      | .supported stage => .ok (stage, .pragma)
      | .unsupported what => .error (place (unsupportedStageMessage what))
      | .unknown =>
        .error (place ("unknown shader stage `" ++ String.ofList word ++ "` in #pragma"))
    | none =>
      match stageOfName name with
      | .supported stage => .ok (stage, .fileName)
      | .unsupported what =>
        .error (.compile name [.unlocated (unsupportedStageMessage what)])
      | .unknown => .error (.compile name [.unlocated unknownStageMessage])

end ShaderBuild
