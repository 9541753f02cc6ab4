import ShaderBuild.Spirv.Writer

/-! The code of a function: expressions, statements and the blocks they make up. -/

namespace ShaderBuild.Spirv

open ShaderBuild.Program

/-- An output of an entry point: its variable, its type and the built-in value that it carries. -/
structure OutputSlot where
  variable_ : UInt32
  type : UInt32
  builtIn : Option BuiltIn

/-- What is fixed while a function is written. -/
structure Site where
  module : Module
  function : Function
  use : FunctionUse
  format : Format
  /-- Which of the function's expressions are constants. -/
  constants : Array Bool
  parameters : Array UInt32
  /-- The outputs, when the function is the entry point. -/
  outputs : Option (List OutputSlot)

/-- The function as far as it is written. -/
structure Page where
  code : Array Instruction := #[]
  locals : Array Instruction := #[]
  variableIds : Array UInt32 := #[]
  /-- Where each of the module's variables is reached. -/
  access : Array UInt32 := #[]
  /-- The identifiers of the expressions' values. -/
  values : Array UInt32 := #[]

/-- Writing a function changes the page and the sheet. -/
abbrev Coding := StateT Page Writing

namespace Coding

/-- An identifier that was not used before. -/
def fresh : Coding UInt32 := liftM Writing.fresh

/-- Adds an instruction to the code. -/
def add (opcode : Nat) (operands : List UInt32) : Coding Unit :=
  modify fun page => { page with code := page.code.push ⟨opcode, operands⟩ }

/-- The identifier of an expression's value. -/
def value (id : ExprId) : Coding UInt32 := do
  return (← get).values.getD id 0

/-- Sets the identifier of an expression's value. -/
def setValue (id : ExprId) (word : UInt32) : Coding Unit :=
  modify fun page => { page with values := page.values.setIfInBounds id word }

/-- The shape of an expression. -/
def shape (site : Site) (id : ExprId) : Shape :=
  site.use.shape site.module.types id

/-- The identifier of an expression's type. -/
def typeOfExpression (site : Site) (id : ExprId) : Coding UInt32 :=
  liftM (Writing.typeId (Writing.typeKey ((site.use.types[id]?).getD (.made (.scalar .boolean)))))

/-- Adds an instruction with a result. -/
def result (opcode : Nat) (type : UInt32) (operands : List UInt32) : Coding UInt32 := do
  let id ← fresh
  add opcode (type :: id :: operands)
  return id

/-- The word of an index within an address. -/
def indexWord (site : Site) (index : ExprId) : Coding UInt32 := do
  match Check.indexValue site.module site.function.expressions index with
  | .known n => liftM (Writing.indexId n)
  | _ => value index

/-- The steps of an address from its end to its root, and the root. -/
def addressSteps (site : Site) : Nat → ExprId → Coding (UInt32 × List UInt32)
  | 0, _ => pure (0, [])
  | fuel + 1, id => do
    match site.function.expressions[id]? with
    | some (.access base index) =>
      let word ← indexWord site index
      let (root, steps) ← addressSteps site fuel base
      return (root, word :: steps)
    | some (.accessIndex base index) =>
      let word ← liftM (Writing.indexId index)
      let (root, steps) ← addressSteps site fuel base
      return (root, word :: steps)
    | some (.globalVariable global) => return ((← get).access.getD global 0, [])
    | some (.localVariable variable_) => return ((← get).variableIds.getD variable_ 0, [])
    | some (.functionArgument index) => return (site.parameters.getD index 0, [])
    | _ => return (0, [])

/-- The identifier of an address; one that has steps is computed anew. -/
def address (site : Site) (id : ExprId) : Coding UInt32 := do
  let type ← typeOfExpression site id
  let (root, steps) ← addressSteps site (id + 1) id
  if steps.isEmpty then return root
  else result Op.accessChain type (root :: steps.reverse)

/-- The instruction of an operator on two scalars or two vectors. -/
def binaryOpcode (op : BinaryOp) (kind : ScalarKind) : Nat :=
  match op, kind with
  | .add, .float => Op.fAdd
  | .add, _ => Op.iAdd
  | .subtract, .float => Op.fSub
  | .subtract, _ => Op.iSub
  | .multiply, .float => Op.fMul
  | .multiply, _ => Op.iMul
  | .divide, .sint => Op.sDiv
  | .divide, .uint => Op.uDiv
  | .divide, _ => Op.fDiv
  | .modulo, .sint => Op.sRem
  | .modulo, .uint => Op.uMod
  | .modulo, _ => Op.fRem
  | .equal, .float => Op.fOrdEqual
  | .equal, .bool => Op.logicalEqual
  | .equal, _ => Op.iEqual
  | .notEqual, .float => Op.fOrdNotEqual
  | .notEqual, .bool => Op.logicalNotEqual
  | .notEqual, _ => Op.iNotEqual
  | .less, .sint => Op.sLessThan
  | .less, .uint => Op.uLessThan
  | .less, _ => Op.fOrdLessThan
  | .lessEqual, .sint => Op.sLessThanEqual
  | .lessEqual, .uint => Op.uLessThanEqual
  | .lessEqual, _ => Op.fOrdLessThanEqual
  | .greater, .sint => Op.sGreaterThan
  | .greater, .uint => Op.uGreaterThan
  | .greater, _ => Op.fOrdGreaterThan
  | .greaterEqual, .sint => Op.sGreaterThanEqual
  | .greaterEqual, .uint => Op.uGreaterThanEqual
  | .greaterEqual, _ => Op.fOrdGreaterThanEqual
  | .bitAnd, .bool => Op.logicalAnd
  | .bitAnd, _ => Op.bitwiseAnd
  | .bitOr, .bool => Op.logicalOr
  | .bitOr, _ => Op.bitwiseOr
  | .bitXor, _ => Op.bitwiseXor
  | .logicalAnd, _ => Op.logicalAnd
  | .logicalOr, _ => Op.logicalOr
  | .shiftLeft, _ => Op.shiftLeftLogical
  | .shiftRight, .sint => Op.shiftRightArithmetic
  | .shiftRight, _ => Op.shiftRightLogical

/-- The kind of a shape's components. -/
def kindOf (shape : Shape) : ScalarKind :=
  (shape.components?.map (·.kind)).getD .float

/-- A vector times a scalar, into a given identifier. -/
def scaleVector (id type : UInt32) (vector scalar : UInt32) (size : VectorSize)
    (kind : ScalarKind) : Coding Unit := do
  if kind = .float then add Op.vectorTimesScalar [type, id, vector, scalar]
  else
    let spread ← result Op.compositeConstruct type (List.replicate size.toNat scalar)
    add Op.iMul [type, id, vector, spread]

/-- An operator with two operands. -/
def writeBinary (site : Site) (type : UInt32) (op : BinaryOp) (left right : ExprId) :
    Coding UInt32 := do
  let id ← fresh
  let l ← value left
  let r ← value right
  match op, shape site left, shape site right with
  | .multiply, .vector size scalar, .scalar _ =>
    scaleVector id type l r size scalar.kind
  | .multiply, .scalar _, .vector size scalar =>
    scaleVector id type r l size scalar.kind
  | _, leftShape, _ => add (binaryOpcode op (kindOf leftShape)) [type, id, l, r]
  return id

/-- The number of an extended instruction, or of a plain one. -/
def mathOpcode : MathFunction → Bool × Nat
  | .trunc => (true, 3)
  | .floor => (true, 8)
  | .ceil => (true, 9)
  | .fract => (true, 10)
  | .radians => (true, 11)
  | .degrees => (true, 12)
  | .sin => (true, 13)
  | .cos => (true, 14)
  | .tan => (true, 15)
  | .exp => (true, 27)
  | .log => (true, 28)
  | .exp2 => (true, 29)
  | .log2 => (true, 30)
  | .sqrt => (true, 31)
  | .inverseSqrt => (true, 32)
  | .mix => (true, 46)
  | .length => (true, 66)
  | .distance => (true, 67)
  | .cross => (true, 68)
  | .normalize => (true, 69)
  | .reflect => (true, 71)
  | .dot => (false, Op.dot)

/-- A mathematical function. The weight of a mixture is spread over a vector. -/
def writeMath (site : Site) (type : UInt32) (function : MathFunction) (arguments : List ExprId) :
    Coding UInt32 := do
  let words ← arguments.mapM value
  -- The instruction wants a weight for each component.
  let words ←
    match function, arguments, words with
    | .mix, [first, _, weight], [x, y, z] =>
      match shape site first, shape site weight with
      | .vector size scalar, .scalar _ => do
        let spreadType ← liftM (Writing.localTypeId (.vector size scalar))
        if site.constants.getD weight false then
          let spread ← liftM (Writing.compositeId (.local (.vector size scalar))
            (List.replicate size.toNat z))
          pure [x, y, spread]
        else
          let spread ← result Op.compositeConstruct spreadType (List.replicate size.toNat z)
          pure [x, y, spread]
      | _, _ => pure words
    | _, _, _ => pure words
  let (extended, number) := mathOpcode function
  if extended then
    result Op.extInst type (Writing.extendedSet :: UInt32.ofNat number :: words)
  else result number type words

/-- What turns a value into another type. -/
inductive Conversion where
  | none
  | unary (opcode : Nat)
  | notEqualZero (opcode : Nat)
  | chooseOne

/-- The conversion between two scalars. -/
def conversion (source target : Scalar) : Conversion :=
  if source = target then .none
  else
    match source.kind, target.kind with
    | .float, .bool => .notEqualZero Op.fUnordNotEqual
    | _, .bool => .notEqualZero Op.iNotEqual
    | .bool, _ => .chooseOne
    | .float, .uint => .unary Op.convertFToU
    | .float, .sint => .unary Op.convertFToS
    | .sint, .float => .unary Op.convertSToF
    | .uint, .float => .unary Op.convertUToF
    | _, _ => .unary Op.bitcast

/-- A constant with all components equal. -/
def spreadConstant (shape : Shape) (literal : Literal) : Coding UInt32 := do
  let word ← liftM (Writing.literalId literal)
  match shape with
  | .vector size _ =>
    liftM (Writing.compositeId (.local (.vector size literal.scalar))
      (List.replicate size.toNat word))
  | _ => return word

/-- A value turned into another type. -/
def writeCast (site : Site) (type : UInt32) (operand : ExprId) (target : Scalar) :
    Coding UInt32 := do
  let word ← value operand
  let operandShape := shape site operand
  let source := operandShape.components?.getD target
  match conversion source target with
  | .none => do
    -- An identifier is set aside even though nothing is written under it.
    let _ ← fresh
    return word
  | .unary opcode => result opcode type [word]
  | .notEqualZero opcode => do
    let none_ ← spreadConstant operandShape (.zero source)
    result opcode type [word, none_]
  | .chooseOne => do
    -- Truth values choose between one and zero of the target.
    let none_ ← liftM (Writing.literalId (.zero target))
    let one ← liftM (Writing.literalId (.one target))
    match operandShape with
    | .vector size _ =>
      let key : TypeKey := .local (.vector size target)
      let nones ← liftM (Writing.compositeId key (List.replicate size.toNat none_))
      let ones ← liftM (Writing.compositeId key (List.replicate size.toNat one))
      result Op.select type [word, ones, nones]
    | _ => result Op.select type [word, one, none_]

/-- A choice between two values; one condition is spread over the components of vectors. -/
def writeSelect (site : Site) (type : UInt32) (condition accept reject : ExprId) :
    Coding UInt32 := do
  let id ← fresh
  let c ← value condition
  let a ← value accept
  let r ← value reject
  let c ←
    match shape site condition, shape site accept with
    | .scalar scalar, .vector size _ => do
      let vector ← liftM (Writing.localTypeId (.vector size scalar))
      result Op.compositeConstruct vector (List.replicate size.toNat c)
    | _, _ => pure c
  add Op.select [type, id, c, a, r]
  return id

/-- Whether a shape is that of an address. -/
def isAddress (shape : Shape) : Bool := shape.pointerSpace?.isSome

/-- Writes the value of an expression that is used. -/
def writeExpression (site : Site) (id : ExprId) (expression : Expression) : Coding Unit := do
  let type ← typeOfExpression site id
  let isConstant := site.constants.getD id false
  let word ←
    match expression with
    | .literal literal => liftM (Writing.literalId literal)
    | .constant constant => do
      let init := (site.module.constants[constant]?.map (·.init)).getD 0
      pure ((← liftM (get : Writing Sheet)).constants.getD init 0)
    | .zeroValue _ => liftM (Writing.nullId type)
    | .compose table components =>
      -- Constants go into the section of constants, where equal ones are shared.
      if isConstant then do
        let flat :=
          Folding.flatten site.module.types site.function.expressions table components
        let words ← flat.mapM value
        liftM (Writing.compositeId (.table table) words)
      else do
        let words ← components.mapM value
        result Op.compositeConstruct type words
    | .splat size part => do
      let words := List.replicate size.toNat (← value part)
      if isConstant then
        liftM (Writing.compositeId
          (Writing.typeKey ((site.use.types[id]?).getD (.made (.scalar .boolean)))) words)
      else result Op.compositeConstruct type words
    | .access base index =>
      -- Addresses are written where they are used, not where they are computed.
      if isAddress (shape site base) then pure 0
      else do
        let b ← value base
        let i ← value index
        result Op.vectorExtractDynamic type [b, i]
    | .accessIndex base index =>
      if isAddress (shape site base) then pure 0
      else do
        let b ← value base
        result Op.compositeExtract type [b, UInt32.ofNat index]
    | .swizzle size vector pattern => do
      let v ← value vector
      result Op.vectorShuffle type
        ([v, v] ++ (pattern.take size.toNat).map fun component => UInt32.ofNat component)
    | .functionArgument index => pure (site.parameters.getD index 0)
    | .globalVariable global => do pure ((← get).access.getD global 0)
    | .localVariable item => do pure ((← get).variableIds.getD item 0)
    | .load pointer => do
      let place ← address site pointer
      result Op.load type [place]
    | .unary op operand => do
      let id ← fresh
      let o ← value operand
      let opcode :=
        match op, kindOf (shape site operand) with
        | .negate, .float => Op.fNegate
        | .negate, _ => Op.sNegate
        | .logicalNot, _ => Op.logicalNot
        | .bitwiseNot, _ => Op.not
      add opcode [type, id, o]
      pure id
    | .binary op left right => writeBinary site type op left right
    | .select condition accept reject => writeSelect site type condition accept reject
    | .relational function argument => do
      let a ← value argument
      match function with
      | .all => result Op.all type [a]
      | .any => result Op.any type [a]
    | .math function arguments => writeMath site type function arguments
    | .cast operand kind width => writeCast site type operand ⟨kind, width⟩
    | .callResult _ => value id
  setValue id word

/-- Writes an expression unless nothing uses it. -/
def writeIfUsed (site : Site) (id : ExprId) : Coding Unit := do
  if site.use.references.getD id 0 = 0 then return ()
  match site.function.expressions[id]? with
  | some expression => writeExpression site id expression
  | none => return ()

/-- Turns the vertical coordinate of the position that is written around. -/
def turnPosition (position : UInt32) : Coding Unit := do
  let pointer ← liftM (Writing.localTypeId (.numericPointer none .f32 .output))
  let one ← liftM (Writing.indexId 1)
  let place ← result Op.accessChain pointer [position, one]
  let float ← liftM (Writing.scalarType .f32)
  let old ← result Op.load float [place]
  let new ← result Op.fNegate float [old]
  add Op.store [place, new]

/-- Keeps the depth that is written within zero and one. -/
def clampDepth (depth : UInt32) : Coding Unit := do
  let float ← liftM (Writing.scalarType .f32)
  let low ← liftM (Writing.literalId (.f32 0))
  let high ← liftM (Writing.literalId (.f32 0x3f800000))
  let old ← result Op.load float [depth]
  let new ← result Op.extInst float [Writing.extendedSet, 43, old, low, high]
  add Op.store [depth, new]

/-- Stores the parts of a returned value into the outputs, from a place on. -/
def writeOutputs (site : Site) (whole : UInt32) : List OutputSlot → Nat → Coding Unit
  | [], _ => pure ()
  | slot :: rest, index => do
    let part ← result Op.compositeExtract slot.type [whole, UInt32.ofNat index]
    add Op.store [slot.variable_, part]
    if slot.builtIn = some .position then
      if site.format.flipY then turnPosition slot.variable_
    if slot.builtIn = some .fragDepth then clampDepth slot.variable_
    writeOutputs site whole rest (index + 1)

/-- Where control goes at the end of a block. -/
inductive Exit where
  | ret
  | branch (target : UInt32)

/-- Where the statements that leave or repeat a loop go. -/
structure LoopTargets where
  leave : Option UInt32 := none
  again : Option UInt32 := none

/-- Ends a block. -/
def writeExit (site : Site) : Exit → Coding Unit
  | .branch target => add Op.branch [target]
  | .ret =>
    match site.function.result, site.outputs with
    | some item, none => do
      let type ← liftM (Writing.tableType item.type)
      let null ← liftM (Writing.nullId type)
      add Op.returnValue [null]
    | _, _ => add Op.ret []

mutual

/-- Writes a statement and says whether control goes on after it. -/
def writeStatement (site : Site) (targets : LoopTargets) : Statement → Coding Bool
  | .emit first count => do
    for id in List.range' first count do
      if !site.constants.getD id false then writeIfUsed site id
    return true
  | .block body => do
    let scope ← fresh
    add Op.branch [scope]
    let merge ← fresh
    let goesOn ← writeBlock site targets scope body (.branch merge)
    if goesOn then add Op.label [merge]
    return goesOn
  | .branch condition accept reject => do
    -- A branch that does nothing on either side is not written.
    if accept.isEmpty && reject.isEmpty then return true
    let c ← value condition
    let merge ← fresh
    add Op.selectionMerge [merge, 0]
    let acceptId ← if accept.isEmpty then pure merge else fresh
    let rejectId ← if reject.isEmpty then pure merge else fresh
    add Op.branchConditional [c, acceptId, rejectId]
    if !accept.isEmpty then
      let _ ← writeBlock site targets acceptId accept (.branch merge)
    if !reject.isEmpty then
      let _ ← writeBlock site targets rejectId reject (.branch merge)
    add Op.label [merge]
    return true
  | .loop body continuing => do
    -- The header of a loop is a block by itself, to which the step jumps back.
    let preamble ← fresh
    add Op.branch [preamble]
    let merge ← fresh
    let bodyId ← fresh
    let continuingId ← fresh
    add Op.label [preamble]
    add Op.loopMerge [merge, continuingId, 0]
    add Op.branch [bodyId]
    let _ ← writeBlock site ⟨some merge, some continuingId⟩ bodyId body (.branch continuingId)
    let _ ← writeBlock site ⟨some merge, none⟩ continuingId continuing (.branch preamble)
    add Op.label [merge]
    return true
  | .leave => do
    add Op.branch [targets.leave.getD 0]
    return false
  | .again => do
    add Op.branch [targets.again.getD 0]
    return false
  | .ret none => do
    add Op.ret []
    return false
  | .ret (some id) => do
    let word ← value id
    match site.outputs with
    -- An entry point stores its outputs and returns nothing.
    | some slots =>
      writeOutputs site word slots 0
      add Op.ret []
    | none => add Op.returnValue [word]
    return false
  | .kill => do
    add Op.kill []
    return false
  | .store pointer id => do
    let word ← value id
    let place ← address site pointer
    add Op.store [place, word]
    return true
  | .call function arguments outcome => do
    let id ← fresh
    let words ← arguments.mapM value
    let type ←
      match outcome with
      | some target => do
        setValue target id
        typeOfExpression site target
      | none => pure Writing.voidType
    let callee := (← liftM (get : Writing Sheet)).functionIds.getD function 0
    add Op.functionCall (type :: id :: callee :: words)
    return true

/-- Writes the statements of a block after its label, and its end unless control has left. -/
def writeStatements (site : Site) (targets : LoopTargets) (exit : Exit) :
    List Statement → Coding Bool
  | [] => do
    writeExit site exit
    return true
  | statement :: rest => do
    if ← writeStatement site targets statement then writeStatements site targets exit rest
    else return false

/-- Writes a block; the answer is whether its end is reached. -/
def writeBlock (site : Site) (targets : LoopTargets) (labelId : UInt32) (body : List Statement)
    (exit : Exit) : Coding Bool := do
  add Op.label [labelId]
  writeStatements site targets exit body

end

end Coding

end ShaderBuild.Spirv
