import ShaderBuild.Glsl.Directive

/-! The words of a program by their meaning: keywords, names of types, literals and names. -/

namespace ShaderBuild.Glsl

open ShaderBuild.Program

/-- Words with a fixed meaning. -/
inductive Keyword where
  | layoutKey
  | inKey
  | outKey
  | inOutKey
  | uniformKey
  | bufferKey
  | constKey
  | sharedKey
  | restrictKey
  | invariantKey
  | precisionKey
  | continueKey
  | breakKey
  | returnKey
  | discardKey
  | ifKey
  | elseKey
  | switchKey
  | caseKey
  | defaultKey
  | whileKey
  | doKey
  | forKey
  | voidKey
  | structKey
  deriving DecidableEq, Repr

/-- How the keywords are written, and their names in messages. -/
def Keyword.table : List (String × Keyword × String) :=
  [("layout", .layoutKey, "Layout"), ("in", .inKey, "In"), ("out", .outKey, "Out"),
    ("inout", .inOutKey, "InOut"), ("uniform", .uniformKey, "Uniform"),
    ("buffer", .bufferKey, "Buffer"), ("const", .constKey, "Const"),
    ("shared", .sharedKey, "Shared"), ("restrict", .restrictKey, "Restrict"),
    ("invariant", .invariantKey, "Invariant"), ("precision", .precisionKey, "Precision"),
    ("continue", .continueKey, "Continue"), ("break", .breakKey, "Break"),
    ("return", .returnKey, "Return"), ("discard", .discardKey, "Discard"),
    ("if", .ifKey, "If"), ("else", .elseKey, "Else"), ("switch", .switchKey, "Switch"),
    ("case", .caseKey, "Case"), ("default", .defaultKey, "Default"),
    ("while", .whileKey, "While"), ("do", .doKey, "Do"), ("for", .forKey, "For"),
    ("void", .voidKey, "Void"), ("struct", .structKey, "Struct")]

/-- The keyword's name in messages. -/
def Keyword.describe (keyword : Keyword) : String :=
  ((table.find? fun entry => entry.2.1 = keyword).map fun entry => entry.2.2).getD ""

/-- A demand on how exactly numbers are computed. -/
inductive Precision where
  | high
  | medium
  | low
  deriving DecidableEq, Repr

/-- The precision's name in messages. -/
def Precision.name : Precision → String
  | high => "High"
  | medium => "Medium"
  | low => "Low"

/-- A word of a program. -/
inductive Token where
  | name (text : String)
  | integer (number : IntegerText)
  | float (number : FloatText)
  | bool (value : Bool)
  | typeName (shape : Shape)
  | interpolation (value : Interpolation)
  | sampling (value : Sampling)
  | precision (value : Precision)
  | memory (load store : Bool)
  | key (keyword : Keyword)
  | punct (mark : Mark)
  deriving DecidableEq, Repr

/-- A truth value as messages show it. -/
def describeBool (value : Bool) : String := if value then "true" else "false"

/-- The word as messages show it. -/
def Token.describe : Token → String
  | name text => "Identifier(\"" ++ text ++ "\")"
  | integer number => "IntConstant(" ++ number.describe ++ ")"
  | float number => "FloatConstant(" ++ number.describe ++ ")"
  | bool value => "BoolConstant(" ++ describeBool value ++ ")"
  | typeName shape => "TypeName(Type \x7b name: None, inner: " ++ shape.describe ++ " \x7d)"
  | interpolation .perspective => "Interpolation(Perspective)"
  | interpolation .linear => "Interpolation(Linear)"
  | interpolation .flat => "Interpolation(Flat)"
  | sampling .centroid => "Sampling(Centroid)"
  | sampling .sample => "Sampling(Sample)"
  | precision value => "PrecisionQualifier(" ++ value.name ++ ")"
  | memory load store => "MemoryQualifier(" ++ describeAccess load store ++ ")"
  | key word => word.describe
  | punct mark => mark.name

/-- The types that have a name of their own: the scalars, and vectors of them. -/
def builtInTypes : List (String × Shape) :=
  let scalars : List (String × String × Scalar) :=
    [("bool", "b", .boolean), ("int", "i", .i32), ("uint", "u", .u32), ("float", "", .f32),
      ("double", "d", .f64)]
  scalars.flatMap fun entry =>
    (entry.1, Shape.scalar entry.2.2) ::
      VectorSize.all.map fun size =>
        (entry.2.1 ++ "vec" ++ toString size.toNat, .vector size entry.2.2)

/-- Names that stand for a qualifier or a value. -/
def reservedNames : List (String × Token) :=
  [("flat", .interpolation .flat), ("noperspective", .interpolation .linear),
    ("smooth", .interpolation .perspective), ("centroid", .sampling .centroid),
    ("sample", .sampling .sample), ("highp", .precision .high),
    ("mediump", .precision .medium), ("lowp", .precision .low),
    ("readonly", .memory true false), ("writeonly", .memory false true),
    ("true", .bool true), ("false", .bool false)]

/-- The meaning of a name. -/
def tokenOfName (text : String) : Token :=
  match Keyword.table.find? fun entry => entry.1 = text with
  | some entry => .key entry.2.1
  | none =>
    match reservedNames.lookup text with
    | some token => token
    | none =>
      match builtInTypes.lookup text with
      | some shape => .typeName shape
      | none => .name text

/-- The meaning of a word; line ends and hashes have none. -/
def tokenOfLexeme? : Lexeme → Option Token
  | .newline | .hash => none
  | .name text => some (tokenOfName text)
  | .integer number => some (.integer number)
  | .float number => some (.float number)
  | .punct mark => some (.punct mark)

end ShaderBuild.Glsl
