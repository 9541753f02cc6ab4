import ShaderBuild.Glsl.Layout
import ShaderBuild.Glsl.Lower
import ShaderBuild.Glsl.Words

/-! Terms and types as they are written, to a depth that no text reaches. -/

namespace ShaderBuild.Glsl

open ShaderBuild.Program

/-- How tightly an operator binds on its left and on its right, and what it does. -/
def operatorOf : Token → Option (Nat × Nat × BinaryOp)
  | .punct .logicalOr => some (1, 2, .logicalOr)
  | .punct .logicalXor => some (3, 4, .notEqual)
  | .punct .logicalAnd => some (5, 6, .logicalAnd)
  | .punct .bar => some (7, 8, .bitOr)
  | .punct .caret => some (9, 10, .bitXor)
  | .punct .ampersand => some (11, 12, .bitAnd)
  | .punct .equal => some (13, 14, .equal)
  | .punct .notEqual => some (13, 14, .notEqual)
  | .punct .greaterEqual => some (15, 16, .greaterEqual)
  | .punct .lessEqual => some (15, 16, .lessEqual)
  | .punct .rightAngle => some (15, 16, .greater)
  | .punct .leftAngle => some (15, 16, .less)
  | .punct .leftShift => some (17, 18, .shiftLeft)
  | .punct .rightShift => some (17, 18, .shiftRight)
  | .punct .plus => some (19, 20, .add)
  | .punct .dash => some (19, 20, .subtract)
  | .punct .star => some (21, 22, .multiply)
  | .punct .slash => some (21, 22, .divide)
  | .punct .percent => some (21, 22, .modulo)
  | _ => none

/-- What an operator does that assigns as well. -/
def assignedOperator : Token → Option BinaryOp
  | .punct .orAssign => some .bitOr
  | .punct .andAssign => some .bitAnd
  | .punct .xorAssign => some .bitXor
  | .punct .addAssign => some .add
  | .punct .subAssign => some .subtract
  | .punct .mulAssign => some .multiply
  | .punct .divAssign => some .divide
  | .punct .modAssign => some .modulo
  | .punct .leftShiftAssign => some .shiftLeft
  | .punct .rightShiftAssign => some .shiftRight
  | _ => none

/-- What an operator in front of its operand does. -/
def leadingOperator : Token → Option (Option UnaryOp)
  | .punct .plus => some none
  | .punct .dash => some (some .negate)
  | .punct .bang => some (some .logicalNot)
  | .punct .tilde => some (some .bitwiseNot)
  | _ => none

/-- What an operator that counts up or down adds or takes away. -/
def countingOperator : Token → Option BinaryOp
  | .punct .increment => some .add
  | .punct .decrement => some .subtract
  | _ => none

/-- The value that a variable of the language carries, the shape of its type, whether the program
provides it, and whether the program may store into it. -/
def builtInVariable (name : String) : Option (BuiltIn × Shape × Bool × Bool) :=
  let entries : List (String × BuiltIn × Shape × Bool × Bool) :=
    [("gl_Position", .position, .vector .quad .f32, true, true),
      ("gl_FragCoord", .position, .vector .quad .f32, false, false),
      ("gl_PointCoord", .pointCoord, .vector .bi .f32, false, false),
      ("gl_GlobalInvocationID", .globalInvocationId, .vector .tri .u32, false, false),
      ("gl_NumWorkGroups", .numWorkGroups, .vector .tri .u32, false, false),
      ("gl_WorkGroupSize", .workGroupSize, .vector .tri .u32, false, false),
      ("gl_WorkGroupID", .workGroupId, .vector .tri .u32, false, false),
      ("gl_LocalInvocationID", .localInvocationId, .vector .tri .u32, false, false),
      ("gl_FrontFacing", .frontFacing, .scalar .boolean, false, false),
      ("gl_PointSize", .pointSize, .scalar .f32, true, true),
      ("gl_FragDepth", .fragDepth, .scalar .f32, true, true),
      ("gl_BaseVertex", .baseVertex, .scalar .u32, false, false),
      ("gl_BaseInstance", .baseInstance, .scalar .u32, false, false),
      ("gl_PrimitiveID", .primitiveIndex, .scalar .u32, false, false),
      ("gl_InstanceIndex", .instanceIndex, .scalar .u32, false, false),
      ("gl_VertexIndex", .vertexIndex, .scalar .u32, false, false),
      ("gl_SampleID", .sampleIndex, .scalar .u32, false, false),
      ("gl_LocalInvocationIndex", .localInvocationIndex, .scalar .u32, false, false),
      ("gl_DrawID", .drawId, .scalar .u32, false, false)]
  entries.lookup name

namespace Reading

/-- A bound on the depth of the rules for the words that are left, which no text reaches; every rule
takes the depth that it may still go to first. -/
def depthFor (items : List Item) : Nat := 40 * (items.length + 8)

/-- Adds a variable to the module. -/
def addGlobalVariable (item : GlobalVariable) : Reading Nat := do
  let id := (← theModule).globals.size
  updateModule fun module => { module with globals := module.globals.push item }
  return id

/-- Adds a variable that the entry point fills or reads. -/
def addVarying (item : Varying) : Reading Unit :=
  modify fun bench => { bench with varyings := bench.varyings.push item }

/-- Adds a name that later functions see. -/
def addGlobalName (entry : GlobalName) : Reading Unit :=
  modify fun bench => { bench with globals := bench.globals.push entry }

/-- What a name refers to. A variable of the language comes into being when it is first named. -/
def findName (name : String) (span : Span) : Reading Reference := do
  match lookupName name (← get).scopes with
  | some reference => return reference
  | none =>
    match builtInVariable name with
    | none => stop (.unknownVariable name) span
    | some (value, shape, isOutput, mutable_) =>
      let type ← insertType none shape span
      let id ← addGlobalVariable
        { name := some name, space := .privateSpace, binding := none, type, init := none, span }
      addVarying { name := some name, binding := .builtIn value, global := id, isOutput }
      addGlobalName { name, target := .whole id, mutable_ }
      let expression ← addExpression (.globalVariable id) span
      let reference : Reference := { expression, load := true, mutable_ }
      declareOutermost name reference
      return reference

/-- Makes a term. -/
def makeTerm (span : Span) (build : TermPlace → Term) : Reading Term := do
  return build (← newPlace span)

/-- The literal that a word stands for. -/
def literalOf (token : Token) (span : Span) : Reading Literal := do
  match token with
  | .integer number =>
    return if number.signed then .i32 (Int32.ofNat number.value) else .u32 (.ofNat number.value)
  | .float number => return .f32 number.bits
  | .bool value => return .bool value
  | other => stop (.unexpected other [.token (.punct .leftParen), .anInteger, .aFloat, .aBool]) span

/-- What a name in front of parentheses calls. -/
def calleeOf (name : String) : Reading Callee := do
  match (← get).structs.lookup name with
  | some type => return .type type
  | none => return .function name

/-- The type that a constructor makes; an array of unknown length takes the number of the values. -/
def constructedType (type : TypeId) (count : Nat) (span : Span) : Reading TypeId := do
  match ← shapeOfType type with
  | .array base .dynamic stride =>
    if count = 0 then stop .emptyArray span
    insertType none (.array base (.constant count) stride) (← spanOfType type)
  | _ => return type

mutual

/-- A term: the last of several that commas divide. -/
def parseTerm : Nat → Reading Term
  | 0 => endOfFile
  | n + 1 => do moreTerms n (← parseAssignment n)

/-- Goes on after a comma. -/
def moreTerms : Nat → Term → Reading Term
  | 0, _ => endOfFile
  | n + 1, term => do
    if (← peek) = .punct .comma then
      let _ ← take
      moreTerms n (← parseAssignment n)
    else return term

/-- A term without commas. -/
def parseAssignment : Nat → Reading Term
  | 0 => endOfFile
  | n + 1 => do
    let target ← parseUnary n
    let token ← peek
    if token = .punct .assign then
      let _ ← take
      let value ← parseAssignment n
      makeTerm (target.span.join value.span) fun place => .assign place target value
    else
      match assignedOperator token with
      | some op =>
        let _ ← take
        let right ← parseAssignment n
        let span := target.span.join right.span
        let value ← makeTerm span fun place => .binary place op target right
        makeTerm span fun place => .assign place target value
      | none => parseConditional n (some target)

/-- A choice between two terms, or an operator, perhaps after an operand that was read already. -/
def parseConditional : Nat → Option Term → Reading Term
  | 0, _ => endOfFile
  | n + 1, given => do
    let condition ← parseBinary n given 0
    match ← takeMark .question with
    | none => return condition
    | some _ =>
      let accept ← parseTerm n
      let _ ← expectMark .colon
      let reject ← parseAssignment n
      makeTerm (condition.span.join reject.span) fun place =>
        .conditional place condition accept reject

/-- Operators that bind at least as tightly as a limit. -/
def parseBinary : Nat → Option Term → Nat → Reading Term
  | 0, _, _ => endOfFile
  | n + 1, given, limit => do
    let left ← match given with | some term => pure term | none => parseUnary n
    moreBinary n left left.span limit

/-- Goes on with the operators after an operand. -/
def moreBinary : Nat → Term → Span → Nat → Reading Term
  | 0, _, _, _ => endOfFile
  | n + 1, left, span, limit => do
    match operatorOf (← peek) with
    | none => return left
    | some (power, rightPower, op) =>
      if power < limit then return left
      else
        let _ ← take
        let right ← parseBinary n none rightPower
        let span := span.join right.span
        let term ← makeTerm span fun place => .binary place op left right
        moreBinary n term span limit

/-- An operand with the operators in front of it. -/
def parseUnary : Nat → Reading Term
  | 0 => endOfFile
  | n + 1 => do
    let token ← peek
    match leadingOperator token, countingOperator token with
    | some op, _ =>
      let (_, start) ← take
      let operand ← parseUnary n
      match op with
      | some op =>
        makeTerm (start.join operand.span) fun place => .unary place op operand
      | none => return operand
    | none, some op =>
      let (_, start) ← take
      let operand ← parseUnary n
      makeTerm start fun place => .step place op false operand
    | none, none => parsePostfix n

/-- An operand with what follows it. -/
def parsePostfix : Nat → Reading Term
  | 0 => endOfFile
  | n + 1 => do
    -- A type in front of a parenthesis builds a value of it.
    if ← peekType then
      let (type, span) ← parseTypeNonVoid n
      let _ ← expectMark .leftParen
      let (arguments, span) ← parseArguments n span
      let type ← constructedType type arguments.length span
      let term ← makeTerm span fun place => .call place (.type type) arguments
      morePostfix n term
    else
      match ← peek with
      | .name _ =>
        let (name, span) ← expectName
        -- The parenthesis tells the name of a function from that of a variable.
        match ← takeMark .leftParen with
        | some _ =>
          let (arguments, span) ← parseArguments n span
          let callee ← calleeOf name
          let term ← makeTerm span fun place => .call place callee arguments
          morePostfix n term
        | none =>
          let reference ← findName name span
          let term ← makeTerm span fun place => .name place reference
          morePostfix n term
      | .punct .leftParen =>
        let _ ← take
        let term ← parseTerm n
        let _ ← expectMark .rightParen
        morePostfix n term
      | _ =>
        let (token, span) ← take
        let literal ← literalOf token span
        let term ← makeTerm span fun place => .literal place literal
        morePostfix n term

/-- Goes on with what follows an operand. -/
def morePostfix : Nat → Term → Reading Term
  | 0, _ => endOfFile
  | n + 1, base => do
    let token ← peek
    match token, countingOperator token with
    | .punct .leftBracket, _ =>
      let (_, start) ← take
      let index ← parseTerm n
      let stop ← expectMark .rightBracket
      let term ← makeTerm (start.join stop) fun place => .access place base index
      morePostfix n term
    | .punct .dot, _ =>
      let (_, start) ← take
      let (name, stop) ← expectName
      -- After a dot a parenthesis makes the difference between a method and a member.
      match ← takeMark .leftParen with
      | some _ =>
        let (arguments, span) ← parseArguments n start
        let term ← makeTerm span fun place => .method place base name arguments
        morePostfix n term
      | none =>
        let term ← makeTerm (start.join stop) fun place => .field place base name
        morePostfix n term
    | _, some op =>
      let (_, span) ← take
      let term ← makeTerm span fun place => .step place op true base
      morePostfix n term
    | _, none => return base

/-- The arguments of a call after the opening parenthesis, and the span that they extend. -/
def parseArguments : Nat → Span → Reading (List Term × Span)
  | 0, _ => endOfFile
  | n + 1, span => do
    match ← takeMark .rightParen with
    | some stop => return ([], span.join stop)
    | none => moreArguments n span

/-- Goes on with an argument. -/
def moreArguments : Nat → Span → Reading (List Term × Span)
  | 0, _ => endOfFile
  | n + 1, span => do
    let argument ← parseAssignment n
    let (token, place) ← take
    match token with
    | .punct .comma =>
      let (rest, span) ← moreArguments n span
      return (argument :: rest, span)
    | .punct .rightParen => return ([argument], span.join place)
    | other =>
      stop (.unexpected other [.token (.punct .comma), .token (.punct .rightParen)]) place

/-- A type; there is none for the word that says so. -/
def parseType : Nat → Reading (Option TypeId × Span)
  | 0 => endOfFile
  | n + 1 => do
    let (token, start) ← take
    match token with
    | .key .voidKey => return (none, start)
    | .typeName shape =>
      let type ← insertType none shape start
      let (sizes, span) ← parseSizes n start
      return (some (← arrayOfSizes span sizes type), span)
    | .key .structKey =>
      let (name, _) ← expectName
      let _ ← expectMark .leftBrace
      let (members, size) ← parseMembers n .std140 [] 1 0
      let stop ← expectMark .rightBrace
      let type ← insertType (some name) (.struct members size) (start.join stop)
      -- The name of the structure may stand for it from here on.
      modify fun bench => { bench with structs := (name, type) :: bench.structs }
      let (sizes, span) ← parseSizes n start
      return (some (← arrayOfSizes span sizes type), span)
    | .name name =>
      match (← get).structs.lookup name with
      | none => stop (.unknownType name) start
      | some type =>
        let (sizes, span) ← parseSizes n start
        return (some (← arrayOfSizes span sizes type), span)
    | other =>
      stop (.unexpected other [.token (.key .voidKey), .token (.key .structKey), .aType]) start

/-- A type that values have. -/
def parseTypeNonVoid : Nat → Reading (TypeId × Span)
  | 0 => endOfFile
  | n + 1 => do
    match ← parseType n with
    | (some type, span) => return (type, span)
    | (none, span) => stop .voidType span

/-- The sizes in brackets after a type or a name, and the span that they extend. -/
def parseSizes : Nat → Span → Reading (List ArraySize × Span)
  | 0, _ => endOfFile
  | n + 1, span => do
    match ← takeMark .leftBracket with
    | none => return ([], span)
    | some _ =>
      match ← takeMark .rightBracket with
      | some stop =>
        let (rest, span) ← parseSizes n (span.join stop)
        return (.dynamic :: rest, span)
      | none =>
        let (size, place) ← parseUint n
        if size = 0 then Reading.stop .zeroArraySize place
        let stop ← expectMark .rightBracket
        let (rest, span) ← parseSizes n (span.join stop)
        return (.constant size :: rest, span)

/-- A number that is known at compile time. -/
def parseUint : Nat → Reading (Nat × Span)
  | 0 => endOfFile
  | n + 1 => do
    let (value, span) ← withinFunction do
      let _ ← switchTable true
      beginTerms
      let term ← parseConditional n none
      return (← lowerValue term, term.span)
    let module ← theModule
    match Check.indexValue module module.globalExpressions value with
    | .known number => return (number, span)
    | .negative => stop .intOverflow span
    | .unknown => stop .notUint span

/-- The members of a structure after those before them, and the size of the whole. -/
def parseMembers : Nat → BlockLayout → List Member → Nat → Nat → Reading (List Member × Nat)
  | 0, _, _, _, _ => endOfFile
  | n + 1, layout, members, align, offset => do
    let (type, span) ← parseTypeNonVoid n
    let (members, align, offset) ← parseNames n layout type span members align offset
    let _ ← expectMark .semicolon
    if (← peek) = .punct .rightBrace then return (members, Traits.roundUp align offset)
    else parseMembers n layout members align offset

/-- The names of members of one type. -/
def parseNames : Nat → BlockLayout → TypeId → Span → List Member → Nat → Nat →
    Reading (List Member × Nat × Nat)
  | 0, _, _, _, _, _, _ => endOfFile
  | n + 1, layout, type, span, members, align, offset => do
    let (name, nameSpan) ← expectName
    let (sizes, span) ← parseSizes n span
    let whole ← arrayOfSizes span sizes type
    let span := span.join nameSpan
    let placed ← placeType layout span (whole + 1) whole
    let offset := Traits.roundUp placed.align offset
    let members := members ++
      [{ name := some name, type := placed.type, binding := none, offset }]
    let align := max align placed.align
    let offset := offset + placed.size
    match ← takeMark .comma with
    | some _ => parseNames n layout type span members align offset
    | none => return (members, align, offset)

end

/-- Reads a term and lowers it for its value. -/
def parseValue (n : Nat) : Reading (ExprId × Span) := do
  beginTerms
  let term ← parseTerm n
  return (← lowerValue term, term.span)

/-- Reads a term and lowers it for what it does. -/
def parseEffect (n : Nat) : Reading Unit := do
  beginTerms
  let term ← parseTerm n
  let _ ← lower .value term

end Reading

end ShaderBuild.Glsl
