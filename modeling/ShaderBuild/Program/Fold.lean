import ShaderBuild.Program.Draft
import ShaderBuild.Number.Binary

/-! Evaluation of constant expressions, whose operands have values at compile time. -/

namespace ShaderBuild.Program

/-- Why a constant expression has no value. -/
inductive FoldFault where
  | notImplemented (what : String)
  | invalidBinaryArguments
  | invalidUnaryArgument
  | invalidCast
  | invalidAccessBase
  | invalidAccessIndex
  | invalidIndexType
  | splatOfNonScalar
  | swizzleOfNonVector
  | swizzleOutOfBounds
  | notConstant
  | divisionByZero
  | remainderByZero
  | shiftTooFar
  /-- The result of an operation does not fit. -/
  | overflow (operation : String)
  | notANumber
  | infinite
  | runtimeExpression
  deriving DecidableEq, Repr

namespace FoldFault

/-- The sentence about the fault. -/
def message : FoldFault → String
  | notImplemented what => "Not implemented as constant expression: " ++ what
  | invalidBinaryArguments => "Cannot apply the binary op to the arguments"
  | invalidUnaryArgument => "Cannot apply the unary op to the argument"
  | invalidCast => "Cannot cast scalar components of expression"
  | invalidAccessBase => "Cannot access the type"
  | invalidAccessIndex => "Cannot access at the index"
  | invalidIndexType => "Cannot access with index of type"
  | splatOfNonScalar => "Splat is defined only on scalar values"
  | swizzleOfNonVector => "Can only swizzle vector constants"
  | swizzleOutOfBounds => "swizzle component not present in source expression"
  | notConstant => "Subexpression(s) are not constant"
  | divisionByZero => "Division by zero"
  | remainderByZero => "Remainder by zero"
  | shiftTooFar => "RHS of shift operation is greater than or equal to 32"
  | overflow operation => operation ++ " operation overflowed"
  | notANumber => "Float literal is NaN"
  | infinite => "Float literal is infinite"
  | runtimeExpression => "Unexpected runtime-expression"

/-- Faults after which a function evaluates the expression at run time. -/
def leavesToRunTime : FoldFault → Bool
  | notImplemented _ | invalidBinaryArguments => true
  | _ => false

end FoldFault

/-- Evaluation changes the desk even when it fails half-way. -/
abbrev Folding := ExceptT FoldFault (StateM Desk)

namespace Folding

/-- Whether the bits are those of a number that is neither infinite nor undefined. -/
def checkBits (format : Number.BinaryFormat) (bits : Nat) : Except FoldFault Unit :=
  let magnitude := bits % Nat.pow 2 (format.precision - 1 + format.exponentBits)
  if format.infinity < magnitude then .error .notANumber
  else if magnitude = format.infinity then .error .infinite
  else .ok ()

/-- Infinite and undefined numbers are no values. -/
def checkLiteral : Literal → Except FoldFault Unit
  | .f32 bits => checkBits Number.single bits.toNat
  | .f64 bits => checkBits Number.double bits.toNat
  | _ => .ok ()

/-- Appends an expression that has a value. -/
def register (expression : Expression) : Folding ExprId := do
  if let .literal value := expression then
    if let .error fault := checkLiteral value then throw fault
  modifyGet fun desk => let (desk, id) := desk.append expression true; (id, desk)

/-- Puts a nameless type into the table. -/
def typeOfShape (shape : Shape) (span : Span) : Folding TypeId :=
  modifyGet fun desk => let (desk, id) := desk.insertType none shape span; (id, desk)

/-- The shape of a type of the table. -/
def shapeOf (type : TypeId) : Folding Shape := do
  return (← get).module.types.shape type

/-- An expression of the table. -/
def expressionAt (id : ExprId) : Folding Expression := do
  match (← get).expression? id with
  | some expression => return expression
  | none => throw .notConstant

/-- Copies a constant's value from the module's table into the function's. -/
def copyValue : Nat → ExprId → Folding ExprId
  | 0, _ => throw .notConstant
  | fuel + 1, id => do
    match (← get).module.globalExpressions[id]? with
    | some (.compose type components) =>
      let components ← components.mapM (copyValue fuel)
      register (.compose type components)
    | some (.splat size value) =>
      let value ← copyValue fuel value
      register (.splat size value)
    | some expression@(.literal _) | some expression@(.zeroValue _)
    | some expression@(.constant _) => register expression
    | _ => throw .notConstant

/-- The value of an operand: a named constant stands for what it was given. -/
def operand (id : ExprId) : Folding ExprId := do
  let desk ← get
  match desk.expression? id with
  | some (.constant constant) =>
    let value := (desk.module.constants[constant]?.map (·.init)).getD 0
    if desk.atModule then return value
    else copyValue (desk.module.globalExpressions.size + 1) value
  | _ => if desk.isConstant id then return id else throw .notConstant

/-- The zero of a type, spelled out when it is a scalar or a vector. -/
def zeroOf (type : TypeId) (span : Span) : Folding ExprId := do
  match ← shapeOf type with
  | .scalar scalar => register (.literal (.zero scalar))
  | .vector size scalar =>
    let _ ← typeOfShape (.scalar scalar) span
    let component ← register (.literal (.zero scalar))
    register (.compose type (List.replicate size.toNat component))
  | _ => register (.zeroValue type)

/-- A vector of equal components. -/
def splatValue (value : ExprId) (size : VectorSize) (span : Span) : Folding ExprId := do
  match ← expressionAt value with
  | .literal literal =>
    let type ← typeOfShape (.vector size literal.scalar) span
    register (.compose type (List.replicate size.toNat value))
  | .zeroValue type =>
    match ← shapeOf type with
    | .scalar scalar =>
      let type ← typeOfShape (.vector size scalar) span
      register (.zeroValue type)
    | _ => throw .splatOfNonScalar
  | _ => throw .splatOfNonScalar

/-- Spells out zero values. -/
def spellZero (id : ExprId) (span : Span) : Folding ExprId := do
  match ← expressionAt id with
  | .zeroValue type => zeroOf type span
  | _ => return id

/-- Spells out zero values and vectors of equal components. -/
def spell (id : ExprId) (span : Span) : Folding ExprId := do
  match ← expressionAt id with
  | .zeroValue type => zeroOf type span
  | .splat size value => splatValue value size span
  | _ => return id

/-- The components of a vector value, with the vectors among them spelled out. -/
def flatten (types : TypeTable) (table : Array Expression) (type : TypeId)
    (components : List ExprId) : List ExprId :=
  match types.shape type with
  | .vector size _ =>
    let open1 := fun id =>
      match table[id]? with
      | some (.compose _ inner) => inner
      | _ => [id]
    let open2 := fun id =>
      match table[id]? with
      | some (.splat size value) => List.replicate size.toNat value
      | _ => [id]
    (((components.flatMap open1).flatMap open1).flatMap open2).take size.toNat
  | _ => components

/-- The component of a value at an index. -/
def component (base : ExprId) (index : Nat) (span : Span) : Folding ExprId := do
  match ← expressionAt base with
  | .zeroValue type =>
    match ← shapeOf type with
    | .vector size scalar =>
      if index < size.toNat then
        let element ← typeOfShape (.scalar scalar) span
        register (.zeroValue element)
      else throw .invalidAccessIndex
    | .array element (.constant size) _ =>
      if index < size then register (.zeroValue element) else throw .invalidAccessIndex
    | .struct members _ =>
      match members[index]? with
      | some member => register (.zeroValue member.type)
      | none => throw .invalidAccessIndex
    | _ => throw .invalidAccessBase
  -- All components of a spread value are the same.
  | .splat size value =>
    if index < size.toNat then return value else throw .invalidAccessIndex
  | .compose type components =>
    match ← shapeOf type with
    | .vector .. | .array .. | .struct .. =>
      let desk ← get
      match (flatten desk.module.types desk.table type components)[index]? with
      | some id => return id
      | none => throw .invalidAccessIndex
    | _ => throw .invalidAccessBase
  | _ => throw .invalidAccessBase

/-- The value of an index. -/
def indexValue (id : ExprId) : Folding Nat := do
  match ← expressionAt id with
  | .literal (.u32 value) => return value.toNat
  | .literal (.i32 value) =>
    if value < 0 then throw .invalidIndexType else return value.toInt.toNat
  | .zeroValue type =>
    match ← shapeOf type with
    | .scalar ⟨.uint, _⟩ | .scalar ⟨.sint, _⟩ => return 0
    | _ => throw .invalidIndexType
  | _ => throw .invalidIndexType

/-- Components of a vector value in a new order. -/
def swizzleValue (size : VectorSize) (vector : ExprId) (pattern : List Nat) (span : Span) :
    Folding ExprId := do
  match ← expressionAt vector with
  | .zeroValue type =>
    match ← shapeOf type with
    | .vector _ scalar =>
      let target ← typeOfShape (.vector size scalar) span
      register (.zeroValue target)
    | _ => throw .swizzleOfNonVector
  | .splat _ value => register (.splat size value)
  | .compose type components =>
    match ← shapeOf type with
    | .vector _ scalar =>
      let target ← typeOfShape (.vector size scalar) span
      let desk ← get
      -- The parts of a vector may be vectors themselves.
      let flat := flatten desk.module.types desk.table type components
      let chosen ← (pattern.take size.toNat).mapM fun i =>
        match flat[i]? with
        | some id => pure id
        | none => throw FoldFault.swizzleOutOfBounds
      register (.compose target chosen)
    | _ => throw .swizzleOfNonVector
  | _ => throw .swizzleOfNonVector

/-- The whole number that a floating-point number is cut to, within bounds. -/
def truncateWithin (format : Number.BinaryFormat) (bits : Nat) (low high : Int) : Int :=
  let signBit := Nat.pow 2 (format.precision - 1 + format.exponentBits)
  let magnitude := bits % signBit
  if format.infinity < magnitude then 0
  else
    let whole : Int :=
      if magnitude = format.infinity then Nat.pow 2 200
      else
        let (mantissa, step) := format.decode magnitude
        ((mantissa * Nat.pow 2 step) / Nat.pow 2 format.scale : Nat)
    let value := if signBit ≤ bits then -whole else whole
    max low (min high value)

/-- The floating-point number nearest to a whole number. -/
def ofWhole (format : Number.BinaryFormat) (value : Int) : Nat :=
  let bits := format.round value.natAbs 1
  if value < 0 then bits + Nat.pow 2 (format.precision - 1 + format.exponentBits) else bits

/-- The number of one format nearest to a number of another. -/
def reformat (source target : Number.BinaryFormat) (bits : Nat) : Nat :=
  let signBit := Nat.pow 2 (source.precision - 1 + source.exponentBits)
  let magnitude := bits % signBit
  let sign := if signBit ≤ bits then Nat.pow 2 (target.precision - 1 + target.exponentBits) else 0
  if source.infinity ≤ magnitude then
    sign + target.infinity + (if source.infinity < magnitude then 1 else 0)
  else
    let (mantissa, step) := source.decode magnitude
    sign + target.round (mantissa * Nat.pow 2 step) (Nat.pow 2 source.scale)

/-- A literal's numeric value as a whole number, where it has one. -/
def wholeValue? : Literal → Option Int
  | .i32 value => some value.toInt
  | .u32 value => some value.toNat
  | .bool value => some (if value then 1 else 0)
  | _ => none

/-- A literal turned into another type. -/
def castLiteral (target : Scalar) (literal : Literal) : Except FoldFault Literal :=
  match target.kind with
  | .sint =>
    -- Numbers with a fraction stop at the bounds; whole ones keep their low bits.
    let wrap := fun i : Int => Literal.i32 (Int32.ofInt i)
    match literal with
    | .f32 bits => .ok (wrap (truncateWithin Number.single bits.toNat (-0x80000000) 0x7FFFFFFF))
    | .f64 bits => .ok (wrap (truncateWithin Number.double bits.toNat (-0x80000000) 0x7FFFFFFF))
    | other => match wholeValue? other with
      | some value => .ok (wrap value)
      | none => .error .invalidCast
  | .uint =>
    let wrap := fun i : Int => Literal.u32 (UInt32.ofNat (i % 0x100000000).toNat)
    match literal with
    | .f32 bits => .ok (wrap (truncateWithin Number.single bits.toNat 0 0xFFFFFFFF))
    | .f64 bits => .ok (wrap (truncateWithin Number.double bits.toNat 0 0xFFFFFFFF))
    | other => match wholeValue? other with
      | some value => .ok (wrap value)
      | none => .error .invalidCast
  | .float =>
    let narrow := target.width = 4
    match literal with
    | .f32 bits =>
      .ok (if narrow then .f32 bits
        else .f64 (UInt64.ofNat (reformat Number.single Number.double bits.toNat)))
    | .f64 bits =>
      .ok (if narrow then .f32 (UInt32.ofNat (reformat Number.double Number.single bits.toNat))
        else .f64 bits)
    | other => match wholeValue? other with
      | some value =>
        .ok (if narrow then .f32 (UInt32.ofNat (ofWhole Number.single value))
          else .f64 (UInt64.ofNat (ofWhole Number.double value)))
      | none => .error .invalidCast
  | .bool =>
    match literal with
    -- Both zeros are false, so the sign does not count.
    | .f32 bits => .ok (.bool (bits.toNat % 0x80000000 ≠ 0))
    | .f64 bits => .ok (.bool (bits.toNat % 0x8000000000000000 ≠ 0))
    | other => match wholeValue? other with
      | some value => .ok (.bool (value ≠ 0))
      | none => .error .invalidCast

/-- A value turned into another type, component by component. -/
def castValue (target : Scalar) (span : Span) : Nat → ExprId → Folding ExprId
  | 0, _ => throw .invalidCast
  | fuel + 1, id => do
    let id ← spellZero id span
    match ← expressionAt id with
    | .literal literal =>
      match castLiteral target literal with
      | .ok literal => register (.literal literal)
      | .error fault => throw fault
    | .compose type components =>
      match ← shapeOf type with
      | .vector size _ =>
        let components ← components.mapM (castValue target span fuel)
        let type ← typeOfShape (.vector size target) span
        register (.compose type components)
      | _ => throw .invalidCast
    | .splat size value =>
      let value ← castValue target span fuel value
      register (.splat size value)
    | _ => throw .invalidCast

/-- An operator applied to a literal. -/
def unaryLiteral : UnaryOp → Literal → Except FoldFault Literal
  | .negate, .i32 value => .ok (.i32 (-value))
  | .negate, .f32 bits => .ok (.f32 (bits ^^^ 0x80000000))
  | .negate, .f64 bits => .ok (.f64 (bits ^^^ 0x8000000000000000))
  | .logicalNot, .bool value => .ok (.bool !value)
  | .bitwiseNot, .i32 value => .ok (.i32 (~~~value))
  | .bitwiseNot, .u32 value => .ok (.u32 (~~~value))
  | _, _ => .error .invalidUnaryArgument

/-- An operator applied to a value, component by component. -/
def unaryValue (op : UnaryOp) (span : Span) : Nat → ExprId → Folding ExprId
  | 0, _ => throw .invalidUnaryArgument
  | fuel + 1, id => do
    let id ← spell id span
    match ← expressionAt id with
    | .literal literal =>
      match unaryLiteral op literal with
      | .ok literal => register (.literal literal)
      | .error fault => throw fault
    | .compose type components =>
      match ← shapeOf type with
      | .vector .. =>
        let components ← components.mapM (unaryValue op span fuel)
        register (.compose type components)
      | _ => throw .invalidUnaryArgument
    | _ => throw .invalidUnaryArgument

/-- The functions of one number of single precision that have a value at compile time. -/
def mathOfFloat? (function : MathFunction) (x : Float32) : Option Float32 :=
  match function with
  | .floor => some x.floor
  | .ceil => some x.ceil
  | .fract => some (x - x.floor)
  | .trunc => some (if x < 0 then x.ceil else x.floor)
  | .sqrt => some x.sqrt
  | .inverseSqrt => some (1 / x.sqrt)
  | .sin => some x.sin
  | .cos => some x.cos
  | .tan => some x.tan
  | .exp => some x.exp
  | .exp2 => some x.exp2
  | .log => some x.log
  | .log2 => some x.log2
  | .radians => some (x * Float32.ofBits 0x3C8EFA35)
  | .degrees => some (x * Float32.ofBits 0x42652EE1)
  | .normalize | .length | .distance | .dot | .cross | .reflect | .mix => none

/-- A function applied to a value, component by component. -/
def mathValue (function : MathFunction) (span : Span) : Nat → ExprId → Folding ExprId
  | 0, _ => throw (.notImplemented (function.name ++ " built-in function"))
  | fuel + 1, id => do
    let id ← spell id span
    match ← expressionAt id with
    | .literal (.f32 bits) =>
      match mathOfFloat? function (Float32.ofBits bits) with
      | some value => register (.literal (.f32 value.toBits))
      | none => throw (.notImplemented (function.name ++ " built-in function"))
    | .compose type components =>
      let components ← components.mapM (mathValue function span fuel)
      register (.compose type components)
    | _ => throw (.notImplemented (function.name ++ " built-in function"))

/-- Whether a function of values at compile time has itself such a value. -/
def isFolded (function : MathFunction) : Bool := (mathOfFloat? function 1).isSome

/-- The place of a literal's type in the order that compares literals of different types. -/
def literalRank : Literal → Nat
  | .f64 _ => 0
  | .f32 _ => 1
  | .u32 _ => 2
  | .i32 _ => 3
  | .bool _ => 4

/-- How two literals compare; an undefined number compares with nothing. -/
def compareLiterals (left right : Literal) : Option Ordering :=
  let floats := fun (less equal greater : Bool) =>
    if less then some Ordering.lt else if equal then some .eq
    else if greater then some .gt else none
  match left, right with
  | .f32 a, .f32 b =>
    let x := Float32.ofBits a
    let y := Float32.ofBits b
    floats (x < y) (x == y) (y < x)
  | .f64 a, .f64 b =>
    let x := Float.ofBits a
    let y := Float.ofBits b
    floats (x < y) (x == y) (y < x)
  | .u32 a, .u32 b => some (compare a.toNat b.toNat)
  | .i32 a, .i32 b => some (compare a.toInt b.toInt)
  | .bool a, .bool b => some (compare a.toNat b.toNat)
  | a, b => some (compare (literalRank a) (literalRank b))

/-- The comparison operators on literals. -/
def compareWith (op : BinaryOp) (left right : Literal) : Bool :=
  match op, compareLiterals left right with
  | .notEqual, some .eq => false
  | .notEqual, _ => true
  | .equal, some .eq => true
  | .less, some .lt => true
  | .lessEqual, some .lt | .lessEqual, some .eq => true
  | .greater, some .gt => true
  | .greaterEqual, some .gt | .greaterEqual, some .eq => true
  | _, _ => false

/-- The remainder of two finite numbers of single precision, with the sign of the first. -/
def remainder32 (a b : UInt32) : UInt32 :=
  let magnitude := fun x : UInt32 => x.toNat % 0x80000000
  let format := Number.single
  if format.infinity ≤ magnitude a ∨ magnitude b = 0 ∨ format.infinity < magnitude b then 0x7fc00000
  else if magnitude b = format.infinity then a
  else
    let (m, s) := format.decode (magnitude a)
    let (n, t) := format.decode (magnitude b)
    let bits := format.round ((m * Nat.pow 2 s) % (n * Nat.pow 2 t)) (Nat.pow 2 format.scale)
    UInt32.ofNat bits ||| (a &&& 0x80000000)

/-- Arithmetic on numbers of single precision. -/
def floatArithmetic (op : BinaryOp) (a b : UInt32) : Except FoldFault UInt32 :=
  let x := Float32.ofBits a
  let y := Float32.ofBits b
  match op with
  | .add => .ok (x + y).toBits
  | .subtract => .ok (x - y).toBits
  | .multiply => .ok (x * y).toBits
  | .divide => .ok (x / y).toBits
  | .modulo => .ok (remainder32 a b)
  | _ => .error .invalidBinaryArguments

/-- Arithmetic on numbers of double precision. -/
def doubleArithmetic (op : BinaryOp) (a b : UInt64) : Except FoldFault UInt64 :=
  let x := Float.ofBits a
  let y := Float.ofBits b
  match op with
  | .add => .ok (x + y).toBits
  | .subtract => .ok (x - y).toBits
  | .multiply => .ok (x * y).toBits
  | .divide => .ok (x / y).toBits
  | _ => .error .invalidBinaryArguments

/-- Arithmetic on signed numbers; results that do not fit wrap. -/
def signedArithmetic (op : BinaryOp) (a b : Int32) : Except FoldFault Int32 :=
  match op with
  | .add => .ok (a + b)
  | .subtract => .ok (a - b)
  | .multiply => .ok (a * b)
  | .divide => if b = 0 then .error .divisionByZero else .ok (a / b)
  | .modulo => if b = 0 then .error .remainderByZero else .ok (a % b)
  | .bitAnd => .ok (a &&& b)
  | .bitXor => .ok (a ^^^ b)
  | .bitOr => .ok (a ||| b)
  | _ => .error .invalidBinaryArguments

/-- A number without a sign, which has to fit into 32 bits. -/
def fitting (operation : String) (value : Int) : Except FoldFault UInt32 :=
  if value < 0 ∨ 0x100000000 ≤ value then .error (.overflow operation)
  else .ok (UInt32.ofNat value.toNat)

/-- Arithmetic on unsigned numbers; no result wraps. -/
def unsignedArithmetic (op : BinaryOp) (a b : UInt32) : Except FoldFault UInt32 :=
  match op with
  | .add => fitting "addition" (a.toNat + b.toNat : Nat)
  | .subtract => fitting "subtraction" ((a.toNat : Int) - b.toNat)
  | .multiply => fitting "multiplication" (a.toNat * b.toNat : Nat)
  | .divide => if b = 0 then .error .divisionByZero else .ok (a / b)
  | .modulo => if b = 0 then .error .remainderByZero else .ok (a % b)
  | .bitAnd => .ok (a &&& b)
  | .bitXor => .ok (a ^^^ b)
  | .bitOr => .ok (a ||| b)
  | .shiftLeft =>
    if 32 ≤ b then .error .shiftTooFar
    else fitting "<<" (a.toNat * Nat.pow 2 b.toNat : Nat)
  | .shiftRight => if 32 ≤ b then .error .shiftTooFar else .ok (a >>> b)
  | _ => .error .invalidBinaryArguments

/-- A signed number moved by some bits. To the left no bit may be lost and the sign may not change;
the right shift keeps the sign. -/
def signedShift (op : BinaryOp) (a : Int32) (b : UInt32) : Except FoldFault Int32 :=
  match op with
  | .shiftLeft =>
    let magnitude := if a < 0 then (-1 - a.toInt).toNat else a.toInt.toNat
    -- The bits in front of the highest one that counts, the sign among them.
    let room := 32 - (if magnitude = 0 then 0 else Nat.log2 magnitude + 1)
    if room ≤ b.toNat then .error (.overflow "<<") else .ok (a <<< Int32.ofNat b.toNat)
  | .shiftRight => if 32 ≤ b then .error .shiftTooFar else .ok (a >>> Int32.ofNat b.toNat)
  | _ => .error .invalidBinaryArguments

/-- An operator applied to two literals. -/
def binaryLiterals (op : BinaryOp) (left right : Literal) : Except FoldFault Literal :=
  if op.isComparison then .ok (.bool (compareWith op left right))
  else
    match left, right with
    | .i32 a, .i32 b => (signedArithmetic op a b).map .i32
    | .i32 a, .u32 b => (signedShift op a b).map .i32
    | .u32 a, .u32 b => (unsignedArithmetic op a b).map .u32
    | .f32 a, .f32 b => (floatArithmetic op a b).map .f32
    | .f64 a, .f64 b => (doubleArithmetic op a b).map .f64
    | .bool a, .bool b =>
      match op with
      | .logicalAnd => .ok (.bool (a && b))
      | .logicalOr => .ok (.bool (a || b))
      | _ => .error .invalidBinaryArguments
    | _, _ => .error .invalidBinaryArguments

/-- An operator applied to two values, component by component. -/
def binaryValues (op : BinaryOp) (span : Span) : Nat → ExprId → ExprId → Folding ExprId
  | 0, _, _ => throw .invalidBinaryArguments
  | fuel + 1, left, right => do
    -- Zeros and spread values are written out before they meet other values.
    let left ← spell left span
    let right ← spell right span
    match ← expressionAt left, ← expressionAt right with
    | .literal a, .literal b =>
      match binaryLiterals op a b with
      | .ok literal => register (.literal literal)
      | .error fault => throw fault
    | .compose type components, .literal _ =>
      let components ← components.mapM fun c => binaryValues op span fuel c right
      register (.compose type components)
    | .literal _, .compose type components =>
      let components ← components.mapM fun c => binaryValues op span fuel left c
      register (.compose type components)
    | .compose leftType leftParts, .compose rightType rightParts =>
      match ← shapeOf leftType, ← shapeOf rightType with
      | .vector leftSize _, .vector rightSize _ =>
        if leftSize = rightSize then
          let desk ← get
          let ls := flatten desk.module.types desk.table leftType leftParts
          let rs := flatten desk.module.types desk.table rightType rightParts
          -- A comparison of vectors is a vector of truth values.
          let type ←
            if op.isComparison then typeOfShape (.vector leftSize .boolean) span
            else pure leftType
          let components ← (ls.zip rs).mapM fun pair => binaryValues op span fuel pair.1 pair.2
          register (.compose type components)
        else throw .invalidBinaryArguments
      | _, _ => throw .invalidBinaryArguments
    | _, _ => throw .invalidBinaryArguments

/-- The value of an expression whose operands have values. -/
def evaluate (expression : Expression) (span : Span) : Folding ExprId := do
  -- Values are built from earlier ones, so no value is nested deeper than the table is long.
  let fuel := (← get).table.size + 2
  match expression with
  | .constant id =>
    let desk ← get
    -- The module knows what its constants stand for; a function goes on by name.
    if desk.atModule then return (desk.module.constants[id]?.map (·.init)).getD 0
    else register expression
  | .literal _ | .zeroValue _ => register expression
  | .compose type components =>
    let components ← components.mapM operand
    register (.compose type components)
  | .splat size value =>
    let value ← operand value
    register (.splat size value)
  | .accessIndex base index =>
    let base ← operand base
    component base index span
  | .access base index =>
    let base ← operand base
    let index ← operand index
    component base (← indexValue index) span
  | .swizzle size vector pattern =>
    let vector ← operand vector
    swizzleValue size vector pattern span
  | .unary op argument =>
    let argument ← operand argument
    unaryValue op span fuel argument
  | .binary op left right =>
    let left ← operand left
    let right ← operand right
    binaryValues op span fuel left right
  | .cast argument kind width =>
    let argument ← operand argument
    castValue ⟨kind, width⟩ span fuel argument
  | .math function arguments =>
    match ← arguments.mapM operand, isFolded function with
    | [argument], true => mathValue function span fuel argument
    | _, _ => throw (.notImplemented (function.name ++ " built-in function"))
  | .select .. => throw (.notImplemented "select built-in function")
  | .relational function _ =>
    throw (.notImplemented ((match function with | .all => "All" | .any => "Any") ++
      " built-in function"))
  | _ => throw .runtimeExpression

/-- Whether an expression has a value at compile time. -/
def hasValue (desk : Desk) : Expression → Bool
  | .literal _ | .zeroValue _ | .constant _ => true
  | .compose _ components => components.all desk.isConstant
  | .splat _ value => desk.isConstant value
  | .accessIndex base _ => desk.isConstant base
  | .access base index => desk.isConstant base && desk.isConstant index
  | .swizzle _ vector _ => desk.isConstant vector
  | .unary _ argument => desk.isConstant argument
  | .binary _ left right => desk.isConstant left && desk.isConstant right
  | .math _ arguments => arguments.all desk.isConstant
  | .cast argument _ _ => desk.isConstant argument
  | .select condition accept reject =>
    desk.isConstant condition && desk.isConstant accept && desk.isConstant reject
  | .relational _ argument => desk.isConstant argument
  | _ => false

end Folding

/-- Adds an expression: its value when it has one, else the expression itself. -/
def addExpression (expression : Expression) (span : Span) : Folding ExprId := do
  let desk ← get
  let plain : Folding ExprId :=
    modifyGet fun desk => let (desk, id) := desk.append expression false; (id, desk)
  if Folding.hasValue desk expression then
    try Folding.evaluate expression span
    catch fault =>
      if !desk.atModule && fault.leavesToRunTime then plain else throw fault
  else if desk.atModule then throw .runtimeExpression
  else plain

end ShaderBuild.Program
