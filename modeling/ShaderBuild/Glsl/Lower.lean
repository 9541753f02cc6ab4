import ShaderBuild.Glsl.Overload
import ShaderBuild.Program.Check

/-! Terms become expressions and statements of the function in the making. -/

namespace ShaderBuild.Glsl

open ShaderBuild.Program

/-- What a term is lowered for. -/
inductive Position where
  /-- A place to store into. -/
  | target
  /-- The base of an access, whose index may be a constant. -/
  | base (constantIndex : Bool)
  /-- A value. -/
  | value
  deriving DecidableEq, Repr

/-- The position of the base of an access. -/
def Position.ofBase (position : Position) (constantIndex : Bool) : Position :=
  match position with
  | .target => .target
  | .base inner => .base (inner && constantIndex)
  | .value => .base constantIndex

namespace Reading

/-- Demands that a term has a value. -/
def needValue (span : Span) (action : Reading (Option ExprId)) : Reading ExprId := do
  match ← action with
  | some id => return id
  | none => stop .returnsVoid span

/-- Stores a value; components of a vector in a new order are stored one by one. -/
def storeParts (vector value : ExprId) (span : Span) : List Nat → Nat → Reading Unit
  | [], _ => pure ()
  | component :: rest, index => do
    let target ← addExpression (.accessIndex vector component) span
    let part ← addExpression (.accessIndex value index) span
    restartEmit
    pushStatement (.store target part)
    storeParts vector value span rest (index + 1)

/-- The address that a loaded value came from, or the value itself. -/
def unloaded (id : ExprId) : Reading ExprId := do
  match ← expressionAt id with
  | some (.load pointer) => return pointer
  | _ => return id

/-- Stores a value into a place. -/
def store (place value : ExprId) (span : Span) : Reading Unit := do
  match ← expressionAt place with
  | some (.swizzle size vector pattern) =>
    storeParts (← unloaded vector) value span (pattern.take size.toNat) 0
  | _ =>
    restartEmit
    pushStatement (.store place value)

/-- The components that a name stands for, in one of the three spellings. -/
def componentsNamed (size : VectorSize) (name : String) : Option (List Nat) :=
  let spelled := fun (letters : String) =>
    name.toList.mapM fun c =>
      (letters.toList.idxOf? c).bind fun i => if i < size.toNat then some i else none
  (spelled "xyzw").orElse fun _ => (spelled "rgba").orElse fun _ => spelled "stpq"

/-- Whether a list holds something twice. -/
def hasRepeats : List Nat → Bool
  | [] => false
  | head :: rest => rest.contains head || hasRepeats rest

/-- The vector that components are taken from, and the components in terms of it: components of
components are components of the first vector. -/
def flattenSwizzle (vector : ExprId) (components : List Nat) : Reading (ExprId × List Nat) := do
  match ← expressionAt vector with
  | some (.swizzle _ source pattern) =>
    return (source, components.map fun component => pattern.getD component 0)
  | _ => return (vector, components)

/-- Components of a vector, or of the vector that an address leads to. -/
def selectComponents (position : Position) (base : ExprId) (isAddress : Bool) (size : VectorSize)
    (name : String) (span : Span) : Reading ExprId := do
  match componentsNamed size name with
  | none => stop (.invalidSwizzle name) span
  | some components =>
    if position = .target && hasRepeats components then report (.repeatedComponents name) span
    -- Four components are always kept; the unused ones repeat the first.
    let padded := (components ++ List.replicate 4 0).take 4
    let (vector, pattern) ← flattenSwizzle base padded
    let ofSize := fun (count : VectorSize) => do
      let vector ← if isAddress then addExpression (.load vector) span else pure vector
      addExpression (.swizzle count vector pattern) span
    match components.length with
    | 1 =>
      let vector ←
        if position = .value && isAddress then addExpression (.load vector) span else pure vector
      addExpression (.accessIndex vector (pattern.getD 0 0)) span
    | 2 => ofSize .bi
    | 3 => ofSize .tri
    | 4 => ofSize .quad
    | _ => do
      report (.swizzleSize name) span
      ofSize .quad

/-- A named part of a structure or of a vector. -/
def selectField (position : Position) (base : ExprId) (name : String) (span : Span) :
    Reading ExprId := do
  let shape ← shapeOf base span
  let (inner, isAddress) ←
    match shape with
    | .pointer type _ => do pure (← shapeOfType type, true)
    | shape => pure (shape, false)
  match inner with
  | .struct members _ =>
    match members.findIdx? fun member => member.name = some name with
    | none => stop (.unknownField name) span
    | some index =>
      let place ← addExpression (.accessIndex base index) span
      if position = .value && isAddress then addExpression (.load place) span else return place
  | .vector size _ => selectComponents position base isAddress size name span
  | _ => stop (.noFields name) span

/-- Operators that work on a vector and a scalar once the scalar is spread. -/
def spreadsRight (op : BinaryOp) : Bool :=
  match op with
  | .add | .subtract | .divide | .bitAnd | .bitXor | .bitOr | .shiftLeft | .shiftRight => true
  | _ => false

/-- Operators that work on a scalar and a vector once the scalar is spread. -/
def spreadsLeft (op : BinaryOp) : Bool :=
  match op with
  | .add | .subtract | .divide | .bitAnd | .bitXor | .bitOr => true
  | _ => false

/-- Applies an operator to two values. -/
def combine (op : BinaryOp) (left : ExprId) (leftSpan : Span) (right : ExprId) (rightSpan : Span)
    (span : Span) : Reading ExprId := do
  -- The amount of a shift is converted by itself; other operands meet in the wider type.
  let (left, right) ←
    match op with
    | .shiftLeft | .shiftRight => do pure (left, ← convertUp right rightSpan .u32)
    | _ => convertOperands left leftSpan right rightSpan
  let plain := addExpression (.binary op left right) span
  match ← shapeOf left leftSpan, ← shapeOf right rightSpan with
  | .vector _ _, .vector _ _ =>
    match op with
    -- Vectors are compared component by component, and a program asks for one answer.
    | .equal => addExpression (.relational .all (← plain)) span
    | .notEqual => addExpression (.relational .any (← plain)) span
    | _ => plain
  | .vector size _, .scalar _ =>
    -- A product takes a vector and a scalar as they are; for a sum the scalar is spread.
    if spreadsRight op then
      let right ← addExpression (.splat size right) span
      addExpression (.binary op left right) span
    else plain
  | .scalar _, .vector size _ =>
    if spreadsLeft op then
      let left ← addExpression (.splat size left) span
      addExpression (.binary op left right) span
    else plain
  | _, _ => plain

/-- The first components of a vector, as far as there is room for them. -/
def takeComponents (vector : ExprId) (span : Span) : Nat → Nat → Reading (List ExprId)
  | 0, _ => pure []
  | room + 1, index => do
    let part ← addExpression (.accessIndex vector index) span
    return part :: (← takeComponents vector span room (index + 1))

/-- Collects the components of a vector from values. -/
def gatherComponents (size : Nat) (scalar : Scalar) :
    List (ExprId × Span) → List ExprId → Reading (List ExprId)
  | [], parts => pure parts
  | (value, span) :: rest, parts => do
    let value ← convertAlways value span scalar
    if size ≤ parts.length then return parts
    match ← shapeOf value span with
    | .vector count _ =>
      let more ← takeComponents value span (min count.toNat (size - parts.length)) 0
      gatherComponents size scalar rest (parts ++ more)
    | _ => gatherComponents size scalar rest (parts ++ [value])

/-- A vector from values. Too few of them are noticed when the module is checked. -/
def constructVector (type : TypeId) (size : VectorSize) (scalar : Scalar)
    (values : List (ExprId × Span)) (span : Span) : Reading ExprId := do
  let parts ← gatherComponents size.toNat scalar values []
  addExpression (.compose type parts) span

/-- A number from a truth value: one or zero, in each component. -/
def numberOfTruth (scalar : Scalar) (size : Option VectorSize) (value : ExprId)
    (valueSpan span : Span) : Reading ExprId := do
  let scalar := { scalar with width := 4 }
  let reject ← addExpression (.literal (.zero scalar)) valueSpan
  let accept ← addExpression (.literal (.one scalar)) valueSpan
  let reject ← spread reject span size
  let accept ← spread accept span size
  addExpression (.select value accept reject) valueSpan

/-- The scalar that a shape is made of, when a truth value does not turn into it by itself. -/
def numberScalar? (shape : Shape) : Option Scalar :=
  match shape with
  | .scalar scalar | .vector _ scalar => if scalar.kind = .bool then none else some scalar
  | _ => none

/-- A value of a type from one value. -/
def constructOne (type : TypeId) (value : ExprId) (valueSpan span : Span) : Reading ExprId := do
  let target ← shapeOfType type
  let source ← shapeOf value valueSpan
  let sourceSize := match source with | .vector size _ => some size | _ => none
  let fromTruth := (source.components?.map (·.kind)) = some .bool
  -- Truth values become numbers by a choice between one and zero.
  match (if fromTruth then numberScalar? target else none) with
  | some scalar => numberOfTruth scalar sourceSize value valueSpan span
  | none =>
    match target, sourceSize with
    | .vector size scalar, none => do
      let value ← convertAlways value valueSpan scalar
      match ← shapeOf value valueSpan with
      | .scalar _ => addExpression (.splat size value) span
      | _ => constructVector type size scalar [(value, valueSpan)] span
    | .scalar scalar, some _ => do
      let first ← addExpression (.accessIndex value 0) span
      addExpression (.cast first scalar.kind scalar.width) span
    | .scalar scalar, none => addExpression (.cast value scalar.kind scalar.width) span
    -- A longer vector is cut before its components are converted.
    | .vector size scalar, some given => do
      let value ←
        if given = size then pure value
        else addExpression (.swizzle size value [0, 1, 2, 3]) valueSpan
      addExpression (.cast value scalar.kind scalar.width) span
    | .struct members _, _ => do
      let value ←
        match members.head? with
        | some member => convertToShape value valueSpan (← shapeOfType member.type)
        | none => pure value
      addExpression (.compose type [value]) span
    | .array base _ _, _ => do
      let value ← convertToShape value valueSpan (← shapeOfType base)
      addExpression (.compose type [value]) span
    | _, _ => do
      report .badConstructor span
      return value

/-- Values turned into what the members of a type are made of, as many as there are of both. -/
def convertParts : List (ExprId × Span) → List TypeId → Reading (List ExprId)
  | (value, span) :: values, type :: types => do
    let value ← convertToShape value span (← shapeOfType type)
    return value :: (← convertParts values types)
  | _, _ => return []

/-- A value of a type from several values, or from none. -/
def constructMany (type : TypeId) (values : List (ExprId × Span)) (span : Span) :
    Reading ExprId := do
  match ← shapeOfType type with
  | .vector size scalar => constructVector type size scalar values span
  | .array base _ _ => do
    let parts ← convertParts values (values.map fun _ => base)
    addExpression (.compose type parts) span
  | .struct members _ => do
    let parts ← convertParts values (members.map (·.type))
    addExpression (.compose type parts) span
  | _ => stop .tooManyArguments span

/-- A value of a type from the values in the parentheses. -/
def construct (type : TypeId) (values : List (ExprId × Span)) (span : Span) : Reading ExprId :=
  match values with
  | [(value, valueSpan)] => constructOne type value valueSpan span
  | values => constructMany type values span

/-- A value that has to be written back after a call. -/
structure WriteBack where
  target : ExprId
  value : ExprId
  convert : Option Scalar

/-- The parts of a swizzled place and of the variable that stands in for it. -/
def writeBackParts (vector stand : ExprId) (convert : Option Scalar) :
    List Nat → Nat → Reading (List WriteBack)
  | [], _ => pure []
  | component :: rest, index => do
    let target ← addExpression (.accessIndex vector component) .none
    let value ← addExpression (.accessIndex stand index) .none
    return ⟨target, value, convert⟩ :: (← writeBackParts vector stand convert rest (index + 1))

/-- The type of the variable that has to stand in for a place, where one has to. -/
def standInType? (shape : Shape) : Reading (Option TypeId) :=
  match shape with
  | .vector _ _ => do return some (← insertType none shape .none)
  | .pointer base space => return if space = .function then none else some base
  | .valuePointer size scalar space =>
    if space = .function then return none
    else do return some (← insertType none (sized size scalar) .none)
  | _ => return none

/-- Passes a place to a parameter that is stored into. A place that is no variable of the function,
or is of another type, is stood in for by a variable and written back. -/
def passPlace (place : ExprId) (placeSpan : Span) (parameter : TypeId) (passing : Passing)
    (argument : ExprId × Span) : Reading (ExprId × List WriteBack) := do
  let placeShape ← shapeOf place placeSpan
  let standIn ← standInType? placeShape
  let value ←
    if placeShape.pointerSpace?.isSome then addExpression (.load place) .none else pure place
  let argumentShape ← shapeOf argument.1 argument.2
  let converts := argumentShape ≠ (← shapeOfType parameter)
  match if converts then some parameter else standIn with
  | none => return (place, [])
  | some type =>
    let stand ← addTemporary type .none
    if passing = .both then pushStatement (.store stand value)
    let convert := if converts then argumentShape.components? else none
    match ← expressionAt place with
    | some (.swizzle size vector pattern) =>
      let parts ← writeBackParts (← unloaded vector) stand convert (pattern.take size.toNat) 0
      return (stand, parts)
    | _ => return (stand, [⟨place, stand, convert⟩])

/-- Writes values back after a call. -/
def writeBackAll (span : Span) : List WriteBack → Reading Unit
  | [] => pure ()
  | item :: rest => do
    let value ← addExpression (.load item.value) span
    let value ←
      match item.convert with
      | some scalar => convert value span scalar
      | none => pure value
    restartEmit
    pushStatement (.store item.target value)
    writeBackAll span rest

/-- Calls a function of the module. -/
def callFunction (function : Nat) (isVoid : Bool) (arguments : List ExprId)
    (writeBacks : List WriteBack) (span : Span) : Reading (Option ExprId) := do
  updateDesk Desk.endEmit
  let result ←
    if isVoid then pure none
    else do pure (some (← addExpression (.callResult function) span))
  pushStatement (.call function arguments result)
  updateDesk Desk.beginEmit
  writeBackAll span writeBacks
  return result

/-- Calls a function of the language. -/
def callBuiltIn (function : BuiltInFunction) (arguments : List ExprId) (span : Span) :
    Reading ExprId :=
  match function, arguments with
  | .math function, arguments => addExpression (.math function arguments) .none
  | .mixScalar size, [first, second, weight] => do
    let weight ← spread weight span size
    addExpression (.math .mix [first, second, weight]) .none
  | .choose, [reject, accept, condition] =>
    addExpression (.select condition accept reject) .none
  | _, _ => stop .badConstructor span

/-- Chooses the function that a call means. -/
def resolveCall (name : String) (arguments : List (ExprId × Span)) (span : Span) :
    Reading Overload := do
  let shapes ← arguments.mapM fun argument => shapeOf argument.1 argument.2
  let declarations ← declarationsOf name (shapes.any isDouble)
  let (best, ambiguous) :=
    chooseOverload (← theModule).types shapes declarations.overloads.toList
  if ambiguous then report (.ambiguousFunction name) span
  match best with
  | some overload => return overload
  | none => stop (.unknownFunction name) span

/-- The value of a name, or its address. -/
def lowerName (position : Position) (reference : Reference) (span : Span) : Reading ExprId := do
  match position with
  | .target =>
    if !reference.mutable_ then report .notWritable span
    return reference.expression
  | .base constantIndex =>
    match constantIndex, reference.constant with
    | false, some (constant, type) =>
      -- A constant has no address, so that a variable has to hold it.
      let place ← addTemporary type .none
      let value ← addExpression (.constant constant) .none
      restartEmit
      pushStatement (.store place value)
      return place
    | _, _ => return reference.expression
  | .value =>
    if reference.load then addExpression (.load reference.expression) span
    else
      match (← get).desk.atModule, reference.constant with
      | true, some (constant, _) => addExpression (.constant constant) span
      | _, _ => return reference.expression

/-- The value of an index, where it is known. -/
def knownIndex? (index : ExprId) : Reading (Option Nat) := do
  let desk := (← get).desk
  match Check.indexValue desk.module desk.table index with
  | .known n => return some n
  | _ => return none

/-- An element of a value, or of what an address leads to. -/
def accessElement (position : Position) (base index : ExprId) (known : Option Nat)
    (span : Span) : Reading ExprId := do
  let place ←
    match known with
    | some n => addExpression (.accessIndex base n) span
    | none => addExpression (.access base index) span
  if position = .value then
    match (← shapeOf place span).pointerSpace? with
    | some _ => addExpression (.load place) span
    | none => return place
  else return place

/-- Joins two branches that were lowered apart: a variable takes the value of either. -/
def joinBranches (condition accept reject : ExprId) (acceptSpan rejectSpan span : Span)
    (acceptBody rejectBody : Array Statement) : Reading ExprId := do
  let acceptScalar ← componentsOf accept acceptSpan
  let rejectScalar ← componentsOf reject rejectSpan
  -- The weaker branch is converted inside its own body, where its value is known.
  let (accept, acceptBody, reject, rejectBody) ←
    match acceptScalar, powerOf acceptScalar, rejectScalar, powerOf rejectScalar with
    | some a, some ap, some r, some rp =>
      if ap < rp then do
        let (accept, acceptBody) ← continueBody acceptBody (convert accept acceptSpan r)
        pure (accept, acceptBody, reject, rejectBody)
      else if rp < ap then do
        let (reject, rejectBody) ← continueBody rejectBody (convert reject rejectSpan a)
        pure (accept, acceptBody, reject, rejectBody)
      else pure (accept, acceptBody, reject, rejectBody)
    | _, _, _, _ => pure (accept, acceptBody, reject, rejectBody)
  let type ←
    match ← typeOf accept acceptSpan with
    | .known id => pure id
    | .made shape => insertType none shape .none
  -- Only a variable outlives the branches.
  let place ← addTemporary type span
  pushStatement (.branch condition (acceptBody.push (.store place accept)).toList
    (rejectBody.push (.store place reject)).toList)
  addExpression (.load place) span

/-- One more or one less in a place; the answer is the value before or after. -/
def stepPlace (op : BinaryOp) (isAfter : Bool) (place : ExprId) (span : Span) :
    Reading ExprId := do
  let old ←
    match ← expressionAt place with
    -- Components that were picked out are a value already and need no load.
    | some (.swizzle _ _ _) => pure place
    | _ => addExpression (.load place) span
  let size? : Option (Option VectorSize × Scalar) :=
    match ← shapeOf old span with
    | .scalar scalar => some (none, scalar)
    | .vector size scalar => some (some size, scalar)
    | _ => none
  match size? with
  | none =>
    report .noStep span
    return old
  | some (size, scalar) =>
    let one ← addExpression (.literal (.one scalar)) span
    let one ←
      match size with
      | some size => addExpression (.splat size one) span
      | none => pure one
    let new ← addExpression (.binary op old one) span
    store place new span
    return if isAfter then old else new

mutual

/-- Lowers a term; a call of a function without a result has no value. -/
def lower (position : Position) : Term → Reading (Option ExprId)
  | .literal place value => do
    if position = .target then stop (.notAPlace (Term.literal place value).describe) place.span
    return some (← addExpression (.literal value) place.span)
  | .name place reference => do
    return some (← lowerName position reference place.span)
  | .access place base index => do
    let i ← needValue index.span (lower .value index)
    -- Only an index that is known at compile time can pick from a base that is a value.
    let known ← if position = .target then pure none else knownIndex? i
    let b ← needValue base.span (lower (position.ofBase known.isSome) base)
    return some (← accessElement position b i known place.span)
  | .field place base name => do
    let b ← needValue base.span (lower position base)
    return some (← selectField position b name place.span)
  | .unary place op operand => do
    if position = .target then stop (.notAPlace (Term.unary place op operand).describe) place.span
    let value ← needValue operand.span (lower .value operand)
    return some (← addExpression (.unary op value) place.span)
  | .binary place op left right => do
    if position = .target then
      stop (.notAPlace (Term.binary place op left right).describe) place.span
    let l ← needValue left.span (lower .value left)
    let r ← needValue right.span (lower .value right)
    return some (← combine op l left.span r right.span place.span)
  | .call place callee arguments => do
    if position = .target then
      stop (.notAPlace (Term.call place callee arguments).describe) place.span
    let values ← lowerAll arguments
    match callee with
    | .type type => return some (← construct type values place.span)
    | .function name =>
      let overload ← resolveCall name values place.span
      let (passed, writeBacks) ←
        passAll arguments (overload.parameters.zip overload.passing) values
      match overload.body with
      | .function id => callFunction id overload.isVoid passed writeBacks place.span
      | .builtIn function => return some (← callBuiltIn function passed place.span)
  | .conditional place condition accept reject => do
    if position = .target then
      stop (.notAPlace (Term.conditional place condition accept reject).describe) place.span
    let c ← needValue condition.span (lower .value condition)
    -- Either branch may do something, so each goes into a body of its own.
    let (a, acceptBody) ← newBody (needValue accept.span (lower position accept))
    let (r, rejectBody) ← newBody (needValue reject.span (lower position reject))
    return some (← joinBranches c a r accept.span reject.span place.span acceptBody rejectBody)
  | .assign place target value => do
    if position = .target then
      stop (.notAPlace (Term.assign place target value).describe) place.span
    -- The place is worked out before the value that goes into it.
    let t ← needValue target.span (lower .target target)
    let v ← needValue value.span (lower .value value)
    let shape ←
      match ← shapeOf t target.span with
      | .pointer type _ => shapeOfType type
      | shape => pure shape
    let v ← convertToShape v value.span shape
    store t v place.span
    return some v
  | .step place op isAfter operand => do
    if position = .target then
      stop (.notAPlace (Term.step place op isAfter operand).describe) place.span
    let target ← needValue operand.span (lower .target operand)
    return some (← stepPlace op isAfter target place.span)
  | .method place base name arguments => do
    if position = .target then
      stop (.notAPlace (Term.method place base name arguments).describe) place.span
    let values ← lowerAll arguments
    if name ≠ "length" then stop (.unknownMethod name) place.span
    if !values.isEmpty then report .methodArguments place.span
    let object ← needValue base.span (lower position base)
    match ← shapeOf object place.span with
    | .array _ (.constant size) _ =>
      let length ← addExpression (.literal (.u32 (UInt32.ofNat size))) place.span
      return some (← convertAlways length place.span .i32)
    | _ => stop (.unknownMethod name) place.span

/-- Lowers the arguments of a call. -/
def lowerAll : List Term → Reading (List (ExprId × Span))
  | [] => return []
  | term :: rest => do
    let value ← needValue term.span (lower .value term)
    return (value, term.span) :: (← lowerAll rest)

/-- Passes the arguments of a call to the parameters. -/
def passAll : List Term → List (TypeId × Passing) → List (ExprId × Span) →
    Reading (List ExprId × List WriteBack)
  | term :: terms, (parameter, passing) :: parameters, argument :: arguments => do
    let (passed, writeBacks) ←
      if passing.isPlace then do
        let place ← needValue term.span (lower .target term)
        passPlace place term.span parameter passing argument
      else do
        let value ← convertToShape argument.1 argument.2 (← shapeOfType parameter)
        pure (value, [])
    let (others, moreBacks) ← passAll terms parameters arguments
    return (passed :: others, writeBacks ++ moreBacks)
  | _, _, _ => return ([], [])

end

/-- Lowers a term for its value. -/
def lowerValue (term : Term) : Reading ExprId :=
  needValue term.span (lower .value term)

end Reading

end ShaderBuild.Glsl
