import ShaderBuild.Text.Blank

/-! Pipeline stages and the words that name them. -/

namespace ShaderBuild

/-- The stage of the pipeline that a shader is compiled for. -/
inductive Stage where
  | vertex
  | fragment
  | compute
  deriving DecidableEq, Repr

namespace Stage

/-- The stage's full name. -/
def name : Stage → String
  | vertex => "vertex"
  | fragment => "fragment"
  | compute => "compute"

/-- The stage's number in a cache key; zero stands for no stage. -/
def tag : Stage → UInt8
  | vertex => 1
  | fragment => 2
  | compute => 3

/-- Distinct stages have distinct numbers, and none has the number zero. -/
theorem tag_injective {left right : Stage} (same : left.tag = right.tag) : left = right := by
  -- Nine pairs.
  cases left <;> cases right <;> first | rfl | exact absurd same (by decide)

end Stage

/-- What a word says about the stage. -/
inductive StageName where
  | supported (stage : Stage)
  /-- A stage of the pipeline that has no compiler here. -/
  | unsupported (what : String)
  | unknown
  deriving DecidableEq, Repr

namespace StageName

/-- Reads a word that is already trimmed and in small letters. -/
def ofWord (word : String) : StageName :=
  match word with
  | "vert" | "vertex" => .supported .vertex
  | "frag" | "fragment" => .supported .fragment
  | "comp" | "compute" => .supported .compute
  | "tesc" | "tesscontrol" => .unsupported "tessellation control"
  | "tese" | "tesseval" => .unsupported "tessellation evaluation"
  | "geom" | "geometry" => .unsupported "geometry"
  | "mesh" => .unsupported "mesh"
  | "task" => .unsupported "task"
  | _ => .unknown

/-- Reads a word; blanks around it and the case of ASCII letters do not matter. -/
def parse (text : List Char) : StageName :=
  ofWord (String.ofList ((Text.trim text).map Text.lowerAscii))

end StageName

/-- What is said about a stage that has no compiler here. -/
def unsupportedStageMessage (what : String) : String :=
  what ++ " shaders are not supported"

/-- The stage that a word names, or why it names none. -/
def Stage.parse? (text : String) : Except String Stage :=
  match StageName.parse text.toList with
  | .supported stage => .ok stage
  | .unsupported what => .error (unsupportedStageMessage what)
  | .unknown => .error ("unknown shader stage `" ++ text ++ "`")

end ShaderBuild
