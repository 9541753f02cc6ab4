import ShaderBuild.Program.Traits
import ShaderBuild.Program.Use

/-! The rules that a program has to keep, of which the first broken one is reported. -/

namespace ShaderBuild.Program

namespace Check

/-- Pointers to scalars and vectors in their spelled-out form. -/
def canonical (types : TypeTable) : Shape → Shape
  | .pointer base space =>
    match types.shape base with
    | .scalar scalar => .valuePointer none scalar space
    | .vector size scalar => .valuePointer (some size) scalar space
    | _ => .pointer base space
  | shape => shape

/-- Whether values of two types can stand for each other. -/
def equivalent (types : TypeTable) (a b : Shape) : Bool :=
  canonical types a = canonical types b

/-- The scalar of a shape that is a number. -/
def number? : Shape → Option Scalar
  | .scalar scalar | .vector _ scalar => if scalar.kind = .bool then none else some scalar
  | _ => none

/-- Whether the operands of a product go together. -/
def productFits : Shape → Shape → Bool
  | .scalar a, .scalar b | .vector _ a, .scalar b | .scalar a, .vector _ b => a = b
  | .vector m a, .vector n b => a = b && m = n
  | _, _ => false

/-- Whether the operands of a shift go together. -/
def shiftFits : Shape → Shape → Bool
  | .scalar a, .scalar b => (a.kind = .sint || a.kind = .uint) && b.kind = .uint
  | .vector m a, .vector n b => (a.kind = .sint || a.kind = .uint) && b.kind = .uint && m = n
  | _, _ => false

/-- Whether the scalar of a shape is of one of some kinds. -/
def kindIn (kinds : List ScalarKind) : Shape → Bool
  | .scalar scalar | .vector _ scalar => kinds.contains scalar.kind
  | _ => false

/-- Whether values of a type have a size that is known at compile time. -/
def isSized (types : TypeTable) : Shape → Bool
  | .array _ .dynamic _ => false
  | .struct members _ =>
    match members.getLast? with
    | some member => match types.shape member.type with
      | .array _ .dynamic _ => false
      | _ => true
    | none => true
  | _ => true

/-- Whether an operator takes operands of two shapes. -/
def binaryFits (types : TypeTable) (op : BinaryOp) (left right : Shape) : Bool :=
  match op with
  | .add | .subtract | .divide | .modulo | .less | .lessEqual | .greater | .greaterEqual =>
    (number? left).isSome && left = right
  | .multiply => (number? left).isSome && productFits left right
  | .equal | .notEqual => isSized types left && left = right
  | .logicalAnd | .logicalOr => kindIn [.bool] left && left = right
  | .bitAnd | .bitOr => kindIn [.bool, .sint, .uint] left && left = right
  | .bitXor => kindIn [.sint, .uint] left && left = right
  | .shiftLeft | .shiftRight => shiftFits left right

/-- Whether an operator takes an operand of a shape. -/
def unaryFits (op : UnaryOp) (shape : Shape) : Bool :=
  match op with
  | .negate => kindIn [.float, .sint] shape
  | .logicalNot => kindIn [.bool] shape
  | .bitwiseNot => kindIn [.sint, .uint] shape

/-- The number of elements behind a base, where it is known. -/
def elementCount? (types : TypeTable) (throughPointer : Bool) : Shape → Option (Option Nat)
  | .vector size _ | .valuePointer (some size) _ _ => some (some size.toNat)
  | .array _ (.constant n) _ => some (some n)
  | .array _ .dynamic _ => some none
  | .struct members _ => some (some members.length)
  | .pointer base _ =>
    if throughPointer then
      match types.shape base with
      | .vector size _ => some (some size.toNat)
      | .array _ (.constant n) _ => some (some n)
      | .array _ .dynamic _ => some none
      | .struct members _ => some (some members.length)
      | _ => none
    else none
  | _ => none

/-- The value of an index expression, where it is known. -/
inductive IndexValue where
  | known (value : Nat)
  | negative
  | unknown

/-- Reads an index expression. -/
def indexValue (module : Module) (expressions : Array Expression) (index : ExprId) : IndexValue :=
  let ofLiteral : Literal → IndexValue
    | .u32 value => .known value.toNat
    | .i32 value => if value < 0 then .negative else .known value.toInt.toNat
    | _ => .unknown
  match expressions[index]? with
  | some (.literal value) => ofLiteral value
  | some (.constant id) =>
    match module.constants[id]? with
    | some constant =>
      match module.globalExpressions[constant.init]? with
      | some (.literal value) => ofLiteral value
      | some (.zeroValue _) => .known 0
      | _ => .unknown
    | none => .unknown
  | some (.zeroValue _) => .known 0
  | _ => .unknown

/-- Checks the parts of a vector value and counts its components. -/
def countComponents (scalar : Scalar) : List Shape → Nat → Nat → Except ComposeFault Nat
  | [], _, total => .ok total
  | shape :: rest, index, total =>
    match shape with
    | .scalar s =>
      if s = scalar then countComponents scalar rest (index + 1) (total + 1)
      else .error (.componentType index)
    | .vector size s =>
      if s = scalar then countComponents scalar rest (index + 1) (total + size.toNat)
      else .error (.componentType index)
    | _ => .error (.componentType index)

/-- Checks the parts of a composite value against the types they should have. -/
def matchComponents (types : TypeTable) : List Shape → List Shape → Nat → Except ComposeFault Unit
  | given :: givens, expected :: rest, index =>
    if equivalent types given expected then matchComponents types givens rest (index + 1)
    else .error (.componentType index)
  | _, _, _ => .ok ()

/-- Checks a composite value. -/
def checkCompose (types : TypeTable) (type : TypeId) (parts : List Shape) :
    Except ComposeFault Unit :=
  match types.shape type with
  | .vector size scalar =>
    match countComponents scalar parts 0 0 with
    | .error fault => .error fault
    | .ok total =>
      if total = size.toNat then .ok () else .error (.componentCount total size.toNat)
  | .array base (.constant n) _ =>
    if parts.length = n then
      matchComponents types parts (List.replicate n (types.shape base)) 0
    else .error (.componentCount parts.length n)
  | .struct members _ =>
    if parts.length = members.length then
      matchComponents types parts (members.map fun member => types.shape member.type) 0
    else .error (.componentCount parts.length members.length)
  | _ => .error (.type type)

/-- Whether a shape is a scalar or vector of numbers with a fraction. -/
def isFloat : Shape → Bool := kindIn [.float]

/-- Whether a shape is a vector of numbers with a fraction. -/
def isFloatVector : Shape → Bool
  | .vector _ scalar => scalar.kind = .float
  | _ => false

/-- Checks the arguments of a mathematical function. -/
def checkMath (function : MathFunction) (arguments : List (ExprId × Shape)) :
    Except ExpressionFault Unit :=
  match function, arguments with
  | .floor, [(a, s)] | .ceil, [(a, s)] | .fract, [(a, s)] | .trunc, [(a, s)] | .sqrt, [(a, s)]
  | .inverseSqrt, [(a, s)] | .sin, [(a, s)] | .cos, [(a, s)] | .tan, [(a, s)] | .exp, [(a, s)]
  | .exp2, [(a, s)] | .log, [(a, s)] | .log2, [(a, s)] | .radians, [(a, s)] | .degrees, [(a, s)]
  | .length, [(a, s)] =>
    if isFloat s then .ok () else .error (.invalidArgument function 0 a)
  | .normalize, [(a, s)] =>
    if isFloatVector s then .ok () else .error (.invalidArgument function 0 a)
  -- The first argument decides the type that the others must have.
  | .distance, [(a, s), (b, t)] =>
    if !isFloat s then .error (.invalidArgument function 0 a)
    else if s = t then .ok () else .error (.invalidArgument function 1 b)
  | .dot, [(a, s), (b, t)] | .cross, [(a, s), (b, t)] | .reflect, [(a, s), (b, t)] =>
    if !isFloatVector s then .error (.invalidArgument function 0 a)
    else if s = t then .ok () else .error (.invalidArgument function 1 b)
  | .mix, [(a, s), (b, t), (c, u)] =>
    if !isFloat s then .error (.invalidArgument function 0 a)
    else if s ≠ t then .error (.invalidArgument function 1 b)
    -- The weight of a mixture may be one number for all components.
    else if u = s ∨ (u matches .scalar ⟨.float, _⟩) then .ok ()
    else .error (.invalidArgument function 2 c)
  | _, _ => .error (.wrongArgumentCount function)

/-- Checks a choice between two values. -/
def checkSelect (condition accept reject : Shape) : Except ExpressionFault Unit :=
  let fits :=
    match condition, accept with
    | .scalar ⟨.bool, _⟩, .scalar _ | .scalar ⟨.bool, _⟩, .vector .. => true
    | .vector m ⟨.bool, _⟩, .vector n _ => m = n
    | _, _ => false
  if accept ≠ reject then .error (.selectMismatch accept reject)
  else if fits then .ok () else .error (.selectCondition condition)

/-- Checks an expression against the types of its operands. -/
def checkExpression (module : Module) (traits : Array Traits) (expressions : Array Expression)
    (argumentCount : Nat) (shape : ExprId → Shape) :
    Expression → Except ExpressionFault Unit
  | .access base index =>
    match shape base with
    | .vector .. | .array .. | .pointer .. | .valuePointer (some _) .. =>
      match shape index with
      | .scalar ⟨.sint, _⟩ | .scalar ⟨.uint, _⟩ =>
        -- Only an index that is known at compile time can be compared with the length.
        match indexValue module expressions index with
        | .known value =>
          match elementCount? module.types true (shape base) with
          | some (some count) =>
            if value < count then .ok () else .error (.indexOutOfBounds base value)
          | _ => .ok ()
        | .negative => .error (.negativeIndex base)
        | .unknown => .ok ()
      | _ => .error (.invalidIndexType index)
    | _ => .error (.invalidBase base)
  | .accessIndex base index =>
    match elementCount? module.types true (shape base) with
    | none => .error (.invalidBase base)
    | some none => .ok ()
    | some (some count) =>
      if index < count then .ok () else .error (.indexOutOfBounds base count)
  | .splat _ value =>
    match shape value with
    | .scalar _ => .ok ()
    | _ => .error (.invalidSplat value)
  | .swizzle size vector pattern =>
    match shape vector with
    | .vector n _ =>
      -- The components behind the size of the result do not count.
      match (pattern.take size.toNat).find? fun component => n.toNat ≤ component with
      | some component => .error (.invalidSwizzle component n)
      | none => .ok ()
    | _ => .error (.invalidVector vector)
  | .literal _ | .constant _ | .zeroValue _ | .globalVariable _ | .localVariable _
  | .callResult _ => .ok ()
  | .compose type components =>
    match checkCompose module.types type (components.map shape) with
    | .ok () => .ok ()
    | .error fault => .error (.compose fault)
  | .functionArgument index =>
    if index < argumentCount then .ok () else .error (.missingArgument index)
  | .load pointer =>
    match shape pointer with
    | .pointer base _ =>
      let t := traits.getD base {}
      if t.sized && t.data then .ok () else .error (.invalidPointer pointer)
    | .valuePointer .. => .ok ()
    | _ => .error (.invalidPointer pointer)
  | .unary op operand =>
    if unaryFits op (shape operand) then .ok () else .error (.unaryOperand op operand)
  | .binary op left right =>
    if binaryFits module.types op (shape left) (shape right) then .ok ()
    else .error (.binaryOperands op left (shape left) right (shape right))
  | .select condition accept reject =>
    checkSelect (shape condition) (shape accept) (shape reject)
  | .relational _ argument =>
    match shape argument with
    | .vector _ ⟨.bool, _⟩ => .ok ()
    | _ => .error (.invalidTruthVector argument)
  | .math function arguments => checkMath function (arguments.map fun id => (id, shape id))
  | .cast operand kind width =>
    match shape operand with
    | .scalar _ | .vector .. =>
      if kind = .float ∧ width ≠ 4 then .error .invalidCast else .ok ()
    | _ => .error .invalidCast

/-- Checks the expressions of a table, from a place on. -/
def checkExpressions (check : Expression → Except ExpressionFault Unit) :
    List Expression → Nat → Except FunctionFault Unit
  | [], _ => .ok ()
  | expression :: rest, id =>
    match check expression with
    | .ok () => checkExpressions check rest (id + 1)
    | .error fault => .error (.expression id fault)

/-- Checks the variables of a function, from a place on. -/
def checkLocals (types : TypeTable) (traits : Array Traits) (shape : ExprId → Shape) :
    List LocalVariable → Nat → Except FunctionFault Unit
  | [], _ => .ok ()
  | item :: rest, id =>
    let fail := fun fault => .error (.localVariable id (item.name.getD "") fault)
    if !(traits.getD item.type {}).constructible then fail (.type item.type)
    else
      match item.init with
      | none => checkLocals types traits shape rest (id + 1)
      | some init =>
        if equivalent types (types.shape item.type) (shape init) then
          checkLocals types traits shape rest (id + 1)
        else fail .initializerType

/-- Checks the parameters of a function, from a place on. -/
def checkArguments (traits : Array Traits) : List Argument → Nat → Except FunctionFault Unit
  | [], _ => .ok ()
  | item :: rest, index =>
    if (traits.getD item.type {}).argument then checkArguments traits rest (index + 1)
    else .error (.argumentType index (item.name.getD ""))

/-- What the statements of a function are checked against. -/
structure Surroundings where
  module : Module
  expressions : Array Expression
  result : Option TypeId
  shape : ExprId → Shape

/-- What a statement may do to the flow of control. -/
structure Abilities where
  leave : Bool
  again : Bool
  ret : Bool

/-- The expressions that statements can use at a place. -/
abbrev InScope := List ExprId

/-- The shape of an expression that is in scope. -/
def shapeInScope (s : Surroundings) (scope : InScope) (id : ExprId) :
    Except FunctionFault Shape :=
  if scope.contains id then .ok (s.shape id) else .error (.expression id .notInScope)

/-- Puts a run of expressions into scope. -/
def emitRange (first : Nat) : Nat → InScope → Except FunctionFault InScope
  | 0, scope => .ok scope
  | count + 1, scope => do
    let scope ← emitRange first count scope
    let id := first + count
    if scope.contains id then throw (.alreadyInScope id)
    return id :: scope

/-- The expression that an address starts from, if it is a place that can be stored to. -/
def storeRoot (expressions : Array Expression) : Nat → ExprId → Except ExprId Unit
  | 0, id => .error id
  | fuel + 1, id =>
    match expressions[id]? with
    | some (.access base _) | some (.accessIndex base _) => storeRoot expressions fuel base
    | some (.localVariable _) | some (.globalVariable _) | some (.functionArgument _) => .ok ()
    | _ => .error id

/-- Whether a value of a shape can be stored through a pointer of a shape. -/
def storeFits (types : TypeTable) (pointer value : Shape) : Bool :=
  match pointer with
  | .pointer base _ => value = types.shape base
  | .valuePointer (some size) scalar _ => value = .vector size scalar
  | .valuePointer none scalar _ => value = .scalar scalar
  | _ => false

/-- Whether a space can be written to. -/
def isWritable : AddressSpace → Bool
  | .function | .privateSpace | .workGroup => true
  | .storage _ store => store
  | .uniform | .pushConstant => false

/-- Checks a store. -/
def checkStore (s : Surroundings) (scope : InScope) (pointer value : ExprId) :
    Except FunctionFault Unit := do
  if let .error _ := storeRoot s.expressions (s.expressions.size + 1) pointer then
    match storeRoot s.expressions (s.expressions.size + 1) pointer with
    | .error id => throw (.storePointer id)
    | .ok () => pure ()
  let valueShape ← shapeInScope s scope value
  let pointerShape := s.shape pointer
  if !storeFits s.module.types pointerShape valueShape then throw (.storeTypes pointer value)
  match pointerShape.pointerSpace? with
  | some space => if !isWritable space then throw (.storePointer pointer)
  | none => pure ()

/-- Checks the arguments of a call, from a place on. -/
def checkCallArguments (s : Surroundings) (scope : InScope) :
    List (Argument × ExprId) → Nat → Except CallFault Unit
  | [], _ => .ok ()
  | (parameter, id) :: rest, index =>
    if !scope.contains id then .error (.argument index .notInScope)
    else if equivalent s.module.types (s.shape id) (s.module.types.shape parameter.type) then
      checkCallArguments s scope rest (index + 1)
    else .error (.argumentType index parameter.type id)

/-- Checks a call and puts its result into scope. -/
def checkCall (s : Surroundings) (scope : InScope) (function : Nat) (arguments : List ExprId)
    (result : Option ExprId) : Except CallFault InScope := do
  let callee := s.module.functions.getD function {}
  if callee.arguments.size ≠ arguments.length then
    throw (.argumentCount callee.arguments.size arguments.length)
  checkCallArguments s scope (callee.arguments.toList.zip arguments) 0
  match result with
  | some id =>
    if scope.contains id then throw (.resultInScope id)
    match s.expressions[id]? with
    | some (.callResult other) =>
      if callee.result.isSome ∧ other = function then return id :: scope
      else throw .resultMismatch
    | _ => throw .resultMismatch
  | none => if callee.result.isSome then throw .resultMismatch else return scope

/-- Checks a return statement. -/
def checkReturn (s : Surroundings) (scope : InScope) (value : Option ExprId) :
    Except FunctionFault Unit := do
  match value, s.result with
  | none, none => return ()
  | some id, expected =>
    let shape ← shapeInScope s scope id
    match expected with
    | some type =>
      if equivalent s.module.types shape (s.module.types.shape type) then return ()
      else throw (.returnType value)
    | none => throw (.returnType value)
  | none, some _ => throw (.returnType none)

mutual

/-- Checks a statement; the answer is the scope after it and whether control goes on. -/
def checkStatement (s : Surroundings) (able : Abilities) (scope : InScope) :
    Statement → Except FunctionFault (InScope × Bool)
  | .emit first count => do
    return (← emitRange first count scope, true)
  | .block body => do
    -- What is evaluated inside a block is out of scope behind it.
    let (_, goesOn) ← checkBlock s able scope body true
    return (scope, goesOn)
  | .branch condition accept reject => do
    match ← shapeInScope s scope condition with
    | .scalar ⟨.bool, _⟩ => pure ()
    | _ => throw (.condition condition)
    let _ ← checkBlock s able scope accept true
    let _ ← checkBlock s able scope reject true
    return (scope, true)
  | .loop body continuing => do
    let (inner, _) ← checkBlock s { able with leave := true, again := true } scope body true
    -- The step sees what the body has evaluated, and must come to its end.
    let _ ← checkBlock s ⟨false, false, false⟩ inner continuing true
    return (scope, true)
  | .leave => if able.leave then .ok (scope, false) else .error .leaveOutsideLoop
  | .again => if able.again then .ok (scope, false) else .error .againOutsideLoop
  | .ret value => do
    if !able.ret then throw .returnInContinuing
    checkReturn s scope value
    return (scope, false)
  | .kill => .ok (scope, false)
  | .store pointer value => do
    checkStore s scope pointer value
    return (scope, true)
  | .call function arguments result =>
    match checkCall s scope function arguments result with
    | .ok scope => .ok (scope, true)
    | .error fault => .error (.call function fault)

/-- Checks the statements of a block, in order; nothing may follow where control has ended. -/
def checkBlock (s : Surroundings) (able : Abilities) (scope : InScope) :
    List Statement → Bool → Except FunctionFault (InScope × Bool)
  | [], goesOn => .ok (scope, goesOn)
  | statement :: rest, goesOn => do
    if !goesOn then throw .afterReturn
    let (scope, goesOn) ← checkStatement s able scope statement
    checkBlock s able scope rest goesOn

end

/-- The expressions that are in scope from the start. -/
def startScope : List Expression → Nat → InScope
  | [], _ => []
  | expression :: rest, id =>
    if expression.isPreEmitted then id :: startScope rest (id + 1) else startScope rest (id + 1)

/-- Checks a function and tells what it makes use of. -/
def checkFunction (module : Module) (traits : Array Traits) (others : Array FunctionUse)
    (function : Function) : Except FunctionFault FunctionUse := do
  -- Every expression needs a type before any rule can be looked at.
  let use ←
    match FunctionUse.ofFunction module others function with
    | .ok use => pure use
    | .error (id, fault) => throw (FunctionFault.expression id (.type fault))
  let shape := use.shape module.types
  checkLocals module.types traits shape function.locals.toList 0
  checkArguments traits function.arguments.toList 0
  match function.result with
  | some result => if !(traits.getD result.type {}).constructible then throw .resultType
  | none => pure ()
  checkExpressions
    (checkExpression module traits function.expressions function.arguments.size shape)
    function.expressions.toList 0
  -- Outside of loops a body may return but neither leave nor go on.
  let surroundings : Surroundings :=
    { module, expressions := function.expressions, result := function.result.map (·.type), shape }
  let _ ← checkBlock surroundings ⟨false, false, true⟩ (startScope function.expressions.toList 0)
    function.body true
  return use

/-- The shape that a built-in value has. -/
def builtInShape : BuiltIn → Shape
  | .baseInstance | .baseVertex | .instanceIndex | .vertexIndex | .drawId | .primitiveIndex
  | .sampleIndex | .localInvocationIndex => .scalar .u32
  | .pointSize | .fragDepth => .scalar .f32
  | .pointCoord => .vector .bi .f32
  | .position => .vector .quad .f32
  | .frontFacing => .scalar .boolean
  | .globalInvocationId | .localInvocationId | .workGroupId | .workGroupSize
  | .numWorkGroups => .vector .tri .u32

/-- Whether a stage takes a built-in value as input, or gives it as output. -/
def builtInVisible (stage : Stage) (output : Bool) : BuiltIn → Bool
  | .baseInstance | .baseVertex | .instanceIndex | .vertexIndex | .drawId =>
    stage = .vertex && !output
  | .pointSize => stage = .vertex && output
  | .position =>
    match stage with
    | .vertex => output
    | .fragment => !output
    | .compute => false
  | .fragDepth => stage = .fragment && output
  | .pointCoord | .frontFacing | .primitiveIndex | .sampleIndex => stage = .fragment && !output
  | .globalInvocationId | .localInvocationId | .localInvocationIndex | .workGroupId
  | .workGroupSize | .numWorkGroups => stage = .compute && !output

/-- The locations and built-in values that were seen among the inputs or outputs. -/
structure Seen where
  locations : List Nat := []
  builtIns : List BuiltIn := []

/-- Checks one value that the pipeline carries. -/
def checkVarying (types : TypeTable) (traits : Array Traits) (stage : Stage) (output : Bool)
    (seen : Seen) (type : TypeId) : Binding → Except VaryingFault Seen
  -- A built-in value is there once, in the right stage and with its own type.
  | .builtIn value =>
    if seen.builtIns.contains value then .error (.duplicateBuiltIn value)
    else if value = .sampleIndex then .error (.unsupported "Capabilities(MULTISAMPLED_SHADING)")
    else if value = .primitiveIndex then .error (.unsupported "Capabilities(PRIMITIVE_INDEX)")
    else if !builtInVisible stage output value then .error (.builtInStage value)
    else if types.shape type ≠ builtInShape value then .error (.builtInType value)
    else .ok { seen with builtIns := value :: seen.builtIns }
  | .location location interpolation sampling =>
    if !(traits.getD type {}).ioShareable then .error (.notShareable type)
    else if seen.locations.contains location then .error (.locationCollision location)
    else if interpolation = some .flat ∧ sampling = some .centroid then
      .error (.samplingOfFlat "Flat" "Centroid")
    else if interpolation = some .flat ∧ sampling = some .sample then
      .error (.samplingOfFlat "Flat" "Sample")
    else if sampling = some .sample then
      .error (.unsupported "Capabilities(MULTISAMPLED_SHADING)")
    else
      -- Between the vertices and the fragments values are interpolated, unless they are whole.
      let carried : Bool :=
        match stage with
        | .vertex => output
        | .fragment => !output
        | .compute => false
      match (types.shape type).components? with
      | none => .error (.invalidType type)
      | some scalar =>
        if scalar.kind = .float then
          if carried ∧ interpolation = none then .error .missingInterpolation
          else .ok { seen with locations := location :: seen.locations }
        else if carried ∧ interpolation ≠ some .flat then .error .invalidInterpolation
        else .ok { seen with locations := location :: seen.locations }

/-- Checks the inputs of an entry point, from a place on. -/
def checkInputs (module : Module) (traits : Array Traits) (stage : Stage) :
    List Argument → Nat → Seen → Except (EntryFault × Span) Unit
  | [], _, _ => .ok ()
  | item :: rest, index, seen =>
    match item.binding with
    | none => .error (.argument index .missingBinding, .none)
    | some binding =>
      match checkVarying module.types traits stage false { seen with locations := seen.locations }
        item.type binding with
      | .ok seen => checkInputs module traits stage rest (index + 1) seen
      | .error fault =>
        let span := (module.types[item.type]?.map (·.span)).getD .none
        .error (.argument index fault, span)

/-- Checks the members of the structure that an entry point returns, from a place on. -/
def checkOutputs (module : Module) (traits : Array Traits) (stage : Stage) :
    List Member → Nat → Seen → Except VaryingFault Seen
  | [], _, seen => .ok seen
  | member :: rest, index, seen =>
    match member.binding with
    | none => .error (.memberMissingBinding index)
    | some binding =>
      match checkVarying module.types traits stage true seen member.type binding with
      | .ok seen => checkOutputs module traits stage rest (index + 1) seen
      | .error fault => .error fault

/-- Checks what an entry point returns. -/
def checkEntryResult (module : Module) (traits : Array Traits) (entry : EntryPoint) :
    Except (EntryFault × Span) Unit :=
  match entry.function.result with
  | none => if entry.stage = .vertex then .error (.missingPosition, .none) else .ok ()
  | some result =>
    let span := (module.types[result.type]?.map (·.span)).getD .none
    match module.types.shape result.type with
    | .struct members _ =>
      match checkOutputs module traits entry.stage members 0 {} with
      | .error fault => .error (.result fault, span)
      | .ok seen =>
        if entry.stage = .vertex ∧ !seen.builtIns.contains .position then
          .error (.missingPosition, .none)
        else .ok ()
    | _ => .error (.result .missingBinding, .none)

/-- Checks the resources that an entry point uses, from a place on. -/
def checkResources (use : FunctionUse) : List GlobalVariable → Nat → List ResourceBinding →
    Except (EntryFault × Span) Unit
  | [], _, _ => .ok ()
  | item :: rest, id, seen =>
    let used := use.globals.getD id {}
    if !used.isUsed then checkResources use rest (id + 1) seen
    else
      let readable := match item.space with | .storage load _ => load | _ => true
      if (used.reads && !readable) || (used.writes && !isWritable item.space) then
        .error (.globalUse id used.reads used.writes, item.span)
      else
        match item.binding with
        | none => checkResources use rest (id + 1) seen
        | some binding =>
          if seen.contains binding then .error (.bindingCollision id, item.span)
          else checkResources use rest (id + 1) (binding :: seen)

/-- Checks the entry point and tells what it makes use of. -/
def checkEntry (module : Module) (traits : Array Traits) (uses : Array FunctionUse)
    (entry : EntryPoint) : Except (EntryFault × Span) FunctionUse := do
  if entry.stage = .compute then
    if entry.workGroupSize.any fun n => n = 0 ∨ 16384 < n then
      throw (.workGroupSizeRange, Span.none)
  else if entry.workGroupSize.any (· ≠ 0) then throw (.workGroupSizeUnexpected, Span.none)
  let use ←
    match checkFunction module traits uses entry.function with
    | .ok use => pure use
    | .error fault => throw (EntryFault.function fault, Span.none)
  if use.fragmentOnly ∧ entry.stage ≠ .fragment then throw (.forbiddenOperations, Span.none)
  checkInputs module traits entry.stage entry.function.arguments.toList 0 {}
  checkEntryResult module traits entry
  checkResources use module.globals.toList 0 []
  return use

/-- Types the module's own expressions. -/
def moduleTypes (module : Module) : Except (ModuleFault × Span) (Array Resolution) :=
  match FunctionUse.addExpressions (module.scope #[] #[]) module.globalExpressions.toList {} with
  | .ok use => .ok use.types
  | .error (id, fault) => .error (.expression id (.type fault), .none)

/-- Checks the module's own expressions, from a place on. -/
def checkModuleExpressions (check : Expression → Except ExpressionFault Unit) :
    List Expression → Nat → Except (ModuleFault × Span) Unit
  | [], _ => .ok ()
  | expression :: rest, id =>
    match check expression with
    | .ok () => checkModuleExpressions check rest (id + 1)
    | .error fault => .error (.expression id fault, .none)

/-- Checks the constants, from a place on. -/
def checkConstants (types : TypeTable) (shape : ExprId → Shape) :
    List Constant → Nat → Except (ModuleFault × Span) Unit
  | [], _ => .ok ()
  | item :: rest, id =>
    if equivalent types (types.shape item.type) (shape item.init) then
      checkConstants types shape rest (id + 1)
    else .error (.constant id (item.name.getD ""), item.span)

/-- What the types of variables in a space have to admit, as messages list it. -/
def requiredTraits : AddressSpace → String
  | .uniform => "TypeFlags(DATA | SIZED | COPY | HOST_SHAREABLE | CREATION_RESOLVED)"
  | .storage .. => "TypeFlags(DATA | HOST_SHAREABLE | CREATION_RESOLVED)"
  | .workGroup => "TypeFlags(DATA | SIZED)"
  | _ => "TypeFlags(CONSTRUCTIBLE | CREATION_RESOLVED)"

/-- Whether a type can be that of a variable in a space. -/
def traitsFit (space : AddressSpace) (traits : Traits) : Bool :=
  match space with
  | .uniform | .pushConstant => traits.data && traits.copy && traits.sized && traits.hostShareable
  | .storage .. => traits.data && traits.hostShareable
  | .workGroup => traits.data && traits.sized
  | .function | .privateSpace => traits.constructible

/-- Checks a variable of the module. -/
def checkGlobal (types : TypeTable) (traits : Array Traits) (shape : ExprId → Shape)
    (item : GlobalVariable) : Except GlobalFault Unit := do
  let known := traits.getD item.type {}
  match item.space with
  | .uniform =>
    if let .error (type, fault) := known.uniformLayout then
      throw (.alignment item.space type fault)
  | .storage .. =>
    if let .error (type, fault) := known.storageLayout then
      throw (.alignment item.space type fault)
  | _ => pure ()
  if !traitsFit item.space known then
    throw (.missingTraits known.describe (requiredTraits item.space))
  -- What the host binds needs a slot, and nothing else may have one.
  let isResource := match item.space with | .uniform | .storage .. => true | _ => false
  if isResource ≠ item.binding.isSome then throw .binding
  match item.init with
  | none => return ()
  | some init =>
    if item.space ≠ .privateSpace then throw (.initializerNotAllowed item.space)
    if !equivalent types (types.shape item.type) (shape init) then throw .initializerType

/-- Checks the variables of the module, from a place on. -/
def checkGlobals (types : TypeTable) (traits : Array Traits) (shape : ExprId → Shape) :
    List GlobalVariable → Nat → Except (ModuleFault × Span) Unit
  | [], _ => .ok ()
  | item :: rest, id =>
    match checkGlobal types traits shape item with
    | .ok () => checkGlobals types traits shape rest (id + 1)
    | .error fault => .error (.global id (item.name.getD "") fault, item.span)

/-- Checks the functions of the module, in order. -/
def checkFunctions (module : Module) (traits : Array Traits) :
    List Function → Array FunctionUse → Except (ModuleFault × Span) (Array FunctionUse)
  | [], uses => .ok uses
  | function :: rest, uses =>
    match checkFunction module traits uses function with
    | .ok use => checkFunctions module traits rest (uses.push use)
    | .error fault => .error (.function uses.size (function.name.getD "") fault, function.span)

end Check

/-- What a checked program makes use of. -/
structure Checked where
  /-- The types of the module's own expressions. -/
  types : Array Resolution
  functions : Array FunctionUse
  entry : Option FunctionUse

/-- Checks a program; a broken rule comes with the place in the text that it belongs to. -/
def check (module : Module) : Except (ModuleFault × Span) Checked := do
  let traits ← Traits.ofTable module.types.toList #[]
  let types ← Check.moduleTypes module
  let shape := fun id => ((types[id]?).getD (.made (.scalar .boolean))).shape module.types
  Check.checkModuleExpressions
    (Check.checkExpression module traits module.globalExpressions 0 shape)
    module.globalExpressions.toList 0
  Check.checkConstants module.types shape module.constants.toList 0
  Check.checkGlobals module.types traits shape module.globals.toList 0
  let functions ← Check.checkFunctions module traits module.functions.toList #[]
  match module.entryPoint with
  | none => return ⟨types, functions, none⟩
  | some entry =>
    match Check.checkEntry module traits functions entry with
    | .ok use => return ⟨types, functions, some use⟩
    | .error (fault, span) => throw (.entryPoint entry.stage entry.name fault, span)

end ShaderBuild.Program
