import ShaderBuild.Program.Shape
import ShaderBuild.Stage

/-! Shader programs as typed tables of expressions and trees of statements. -/

namespace ShaderBuild.Program

/-- A constant value; numbers with a fraction are kept as their bits. -/
inductive Literal where
  | f64 (bits : UInt64)
  | f32 (bits : UInt32)
  | u32 (value : UInt32)
  | i32 (value : Int32)
  | bool (value : Bool)
  deriving DecidableEq, Repr

namespace Literal

/-- The type of a constant value. -/
def scalar : Literal → Scalar
  | f64 _ => .f64
  | f32 _ => .f32
  | u32 _ => .u32
  | i32 _ => .i32
  | bool _ => .boolean

/-- The zero of a type; false among the truth values. -/
def zero (scalar : Scalar) : Literal :=
  match scalar.kind with
  | .sint => .i32 0
  | .uint => .u32 0
  | .float => if scalar.width = 4 then .f32 0 else .f64 0
  | .bool => .bool false

/-- The one of a type; true among the truth values. -/
def one (scalar : Scalar) : Literal :=
  match scalar.kind with
  | .sint => .i32 1
  | .uint => .u32 1
  | .float => if scalar.width = 4 then .f32 0x3f800000 else .f64 0x3ff0000000000000
  | .bool => .bool true

end Literal

/-- Operators with one operand. -/
inductive UnaryOp where
  | negate
  | logicalNot
  | bitwiseNot
  deriving DecidableEq, Repr

/-- The operator's name in messages. -/
def UnaryOp.name : UnaryOp → String
  | negate => "Negate"
  | logicalNot => "LogicalNot"
  | bitwiseNot => "BitwiseNot"

/-- Operators with two operands. -/
inductive BinaryOp where
  | add
  | subtract
  | multiply
  | divide
  | modulo
  | equal
  | notEqual
  | less
  | lessEqual
  | greater
  | greaterEqual
  | bitAnd
  | bitXor
  | bitOr
  | logicalAnd
  | logicalOr
  | shiftLeft
  | shiftRight
  deriving DecidableEq, Repr

namespace BinaryOp

/-- The operator's name in messages. -/
def name : BinaryOp → String
  | add => "Add"
  | subtract => "Subtract"
  | multiply => "Multiply"
  | divide => "Divide"
  | modulo => "Modulo"
  | equal => "Equal"
  | notEqual => "NotEqual"
  | less => "Less"
  | lessEqual => "LessEqual"
  | greater => "Greater"
  | greaterEqual => "GreaterEqual"
  | bitAnd => "And"
  | bitXor => "ExclusiveOr"
  | bitOr => "InclusiveOr"
  | logicalAnd => "LogicalAnd"
  | logicalOr => "LogicalOr"
  | shiftLeft => "ShiftLeft"
  | shiftRight => "ShiftRight"

/-- Operators whose result is a truth value for each component. -/
def isComparison : BinaryOp → Bool
  | equal | notEqual | less | lessEqual | greater | greaterEqual => true
  | _ => false

end BinaryOp

/-- Functions from truth vectors to one truth value. -/
inductive RelationalFunction where
  | all
  | any
  deriving DecidableEq, Repr

/-- Mathematical functions that a processor provides. -/
inductive MathFunction where
  | floor
  | ceil
  | fract
  | trunc
  | sqrt
  | inverseSqrt
  | sin
  | cos
  | tan
  | exp
  | exp2
  | log
  | log2
  | radians
  | degrees
  | normalize
  | length
  | distance
  | dot
  | cross
  | reflect
  | mix
  deriving DecidableEq, Repr

/-- The function's name in messages. -/
def MathFunction.name : MathFunction → String
  | floor => "Floor"
  | ceil => "Ceil"
  | fract => "Fract"
  | trunc => "Trunc"
  | sqrt => "Sqrt"
  | inverseSqrt => "InverseSqrt"
  | sin => "Sin"
  | cos => "Cos"
  | tan => "Tan"
  | exp => "Exp"
  | exp2 => "Exp2"
  | log => "Log"
  | log2 => "Log2"
  | radians => "Radians"
  | degrees => "Degrees"
  | normalize => "Normalize"
  | length => "Length"
  | distance => "Distance"
  | dot => "Dot"
  | cross => "Cross"
  | reflect => "Reflect"
  | mix => "Mix"

/-- The place of an expression in its table. -/
abbrev ExprId := Nat

/-- An expression, whose operands stand earlier in the same table. -/
inductive Expression where
  | literal (value : Literal)
  | constant (id : Nat)
  | zeroValue (type : TypeId)
  | compose (type : TypeId) (components : List ExprId)
  | access (base index : ExprId)
  | accessIndex (base : ExprId) (index : Nat)
  | splat (size : VectorSize) (value : ExprId)
  /-- Components of a vector in a new order; four are named and as many as the size counts. -/
  | swizzle (size : VectorSize) (vector : ExprId) (pattern : List Nat)
  | functionArgument (index : Nat)
  | globalVariable (id : Nat)
  | localVariable (id : Nat)
  | load (pointer : ExprId)
  | unary (op : UnaryOp) (operand : ExprId)
  | binary (op : BinaryOp) (left right : ExprId)
  | select (condition accept reject : ExprId)
  | relational (function : RelationalFunction) (argument : ExprId)
  | math (function : MathFunction) (arguments : List ExprId)
  | cast (operand : ExprId) (kind : ScalarKind) (width : Nat)
  | callResult (function : Nat)
  deriving DecidableEq, Repr

/-- Expressions that have a value before any statement runs. -/
def Expression.isPreEmitted : Expression → Bool
  | .literal _ | .constant _ | .zeroValue _ | .functionArgument _ | .globalVariable _
  | .localVariable _ => true
  | _ => false

/-- A statement; nested blocks are lists of statements. -/
inductive Statement where
  /-- Evaluates a run of expressions. -/
  | emit (first count : Nat)
  | block (body : List Statement)
  | branch (condition : ExprId) (accept reject : List Statement)
  | loop (body continuing : List Statement)
  | leave
  | again
  | ret (value : Option ExprId)
  | kill
  | store (pointer value : ExprId)
  | call (function : Nat) (arguments : List ExprId) (result : Option ExprId)
  deriving Repr

/-- A sequence of statements. -/
abbrev Block := List Statement

/-- A variable of a function. -/
structure LocalVariable where
  name : Option String
  type : TypeId
  init : Option ExprId
  deriving Repr

/-- A parameter of a function. -/
structure Argument where
  name : Option String
  type : TypeId
  binding : Option Binding
  deriving Repr

/-- What a function returns. -/
structure FunctionResult where
  type : TypeId
  binding : Option Binding
  deriving Repr

/-- A function: its own expression table and a body over it. -/
structure Function where
  name : Option String := none
  arguments : Array Argument := #[]
  result : Option FunctionResult := none
  locals : Array LocalVariable := #[]
  expressions : Array Expression := #[]
  body : Block := []
  span : Span := .none
  deriving Repr

/-- A resource slot. -/
structure ResourceBinding where
  group : Nat
  binding : Nat
  deriving DecidableEq, Repr

/-- A variable of the module; its initial value is a global expression. -/
structure GlobalVariable where
  name : Option String
  space : AddressSpace
  binding : Option ResourceBinding
  type : TypeId
  init : Option ExprId
  span : Span
  deriving Repr

/-- A named constant; its value is a global expression. -/
structure Constant where
  name : Option String
  type : TypeId
  init : ExprId
  span : Span
  deriving Repr

/-- The stage's name in messages. -/
def describeStage : Stage → String
  | .vertex => "Vertex"
  | .fragment => "Fragment"
  | .compute => "Compute"

/-- The function that the pipeline calls. -/
structure EntryPoint where
  name : String
  stage : Stage
  workGroupSize : List Nat
  function : Function
  deriving Repr

/-- A whole shader program. -/
structure Module where
  types : TypeTable := #[]
  constants : Array Constant := #[]
  globals : Array GlobalVariable := #[]
  globalExpressions : Array Expression := #[]
  functions : Array Function := #[]
  entryPoint : Option EntryPoint := none
  deriving Repr

end ShaderBuild.Program
