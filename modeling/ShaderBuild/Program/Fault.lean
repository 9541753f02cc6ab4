import ShaderBuild.Program.Typing

/-! What can be wrong with a program, and how it reads. -/

namespace ShaderBuild.Program

/-- What is wrong with an expression that builds a composite value. -/
inductive ComposeFault where
  | type (type : TypeId)
  | componentCount (given expected : Nat)
  | componentType (index : Nat)
  deriving DecidableEq, Repr

/-- The sentence about the fault. -/
def ComposeFault.message : ComposeFault → String
  | .type id => "Composing of type " ++ describeIndex id ++ " can't be done"
  | componentCount given expected =>
    "Composing expects " ++ toString expected ++ " components but " ++ toString given ++
      " were given"
  | componentType index =>
    "Composing " ++ toString index ++ "'s component type is not expected"

/-- What is wrong with an expression. -/
inductive ExpressionFault where
  | notInScope
  | invalidBase (base : ExprId)
  | invalidIndexType (index : ExprId)
  | negativeIndex (base : ExprId)
  | indexOutOfBounds (base : ExprId) (index : Nat)
  | missingArgument (index : Nat)
  | invalidPointer (pointer : ExprId)
  | invalidSplat (value : ExprId)
  | invalidVector (vector : ExprId)
  | invalidSwizzle (component : Nat) (size : VectorSize)
  | compose (fault : ComposeFault)
  | unaryOperand (op : UnaryOp) (operand : ExprId)
  | binaryOperands (op : BinaryOp) (left : ExprId) (leftShape : Shape) (right : ExprId)
    (rightShape : Shape)
  | selectMismatch (accept reject : Shape)
  | selectCondition (actual : Shape)
  | invalidTruthVector (argument : ExprId)
  | wrongArgumentCount (function : MathFunction)
  | invalidArgument (function : MathFunction) (index : Nat) (argument : ExprId)
  | invalidCast
  | type (fault : TypeFault)
  deriving DecidableEq, Repr

/-- The letter of a vector component. -/
def componentName : Nat → String
  | 0 => "X"
  | 1 => "Y"
  | 2 => "Z"
  | _ => "W"

/-- The sentence about the fault. -/
def ExpressionFault.message : ExpressionFault → String
  | notInScope =>
    "Used by a statement before it was introduced into the scope by any of the dominating blocks"
  | invalidBase base =>
    "Base type " ++ describeIndex base ++ " is not compatible with this expression"
  | invalidIndexType index => "Accessing with index " ++ describeIndex index ++ " can't be done"
  | negativeIndex base => "Accessing " ++ describeIndex base ++ " via a negative index is invalid"
  | indexOutOfBounds base index =>
    "Accessing index " ++ toString index ++ " is out of " ++ describeIndex base ++ " bounds"
  | missingArgument index => "Function argument " ++ toString index ++ " doesn't exist"
  | invalidPointer pointer => "Loading of " ++ describeIndex pointer ++ " can't be done"
  | invalidSplat value => "Splatting " ++ describeIndex value ++ " can't be done"
  | invalidVector vector => "Swizzling " ++ describeIndex vector ++ " can't be done"
  | invalidSwizzle component size =>
    "Swizzle component " ++ componentName component ++ " is outside of vector size " ++ size.name
  | compose fault => fault.message
  | unaryOperand op operand =>
    "Operation " ++ op.name ++ " can't work with " ++ describeIndex operand
  | binaryOperands op left leftShape right rightShape =>
    "Operation " ++ op.name ++ " can't work with " ++ describeIndex left ++ " (of type " ++
      leftShape.describe ++ ") and " ++ describeIndex right ++ " (of type " ++
      rightShape.describe ++ ")"
  | selectMismatch accept reject =>
    "Expected selection argument types to match, but reject value of type " ++ reject.describe ++
      " does not match accept value of value " ++ accept.describe
  | selectCondition actual =>
    "Expected selection condition to be a boolean value, got " ++ actual.describe
  | invalidTruthVector argument =>
    "Relational argument " ++ describeIndex argument ++ " is not a boolean vector"
  | wrongArgumentCount function => "Argument count for " ++ function.name ++ " is wrong"
  | invalidArgument function index argument =>
    "Argument [" ++ toString index ++ "] to " ++ function.name ++ " as expression " ++
      describeIndex argument ++ " has an invalid type."
  | invalidCast => "Invalid cast"
  | type fault => "Type resolution failed: " ++ fault.message

/-- What is wrong with a variable of a function. -/
inductive LocalFault where
  | type (type : TypeId)
  | initializerType
  | initializerValue
  deriving DecidableEq, Repr

/-- The sentence about the fault. -/
def LocalFault.message : LocalFault → String
  | .type id =>
    "Local variable has a type " ++ describeIndex id ++ " that can't be stored in a local variable."
  | initializerType => "Initializer doesn't match the variable type"
  | initializerValue => "Initializer is not a const or override expression"

/-- What is wrong with a call. -/
inductive CallFault where
  | argument (index : Nat) (fault : ExpressionFault)
  | argumentCount (required seen : Nat)
  | argumentType (index : Nat) (required : TypeId) (seen : ExprId)
  | resultInScope (result : ExprId)
  | resultMismatch
  deriving DecidableEq, Repr

/-- The sentence about the fault. -/
def CallFault.message : CallFault → String
  | argument index fault =>
    "Argument " ++ toString index ++ " expression is invalid: " ++ fault.message
  | argumentCount required seen =>
    "Requires " ++ toString required ++ " arguments, but " ++ toString seen ++ " are provided"
  | argumentType index required seen =>
    "Argument " ++ toString index ++ " value " ++ describeIndex seen ++
      " doesn't match the type " ++ describeIndex required
  | resultInScope result =>
    "Result expression " ++ describeIndex result ++ " has already been introduced earlier"
  | resultMismatch => "The emitted expression doesn't match the call"

/-- What is wrong with a function. -/
inductive FunctionFault where
  | expression (id : ExprId) (fault : ExpressionFault)
  | alreadyInScope (id : ExprId)
  | localVariable (id : Nat) (name : String) (fault : LocalFault)
  | argumentType (index : Nat) (name : String)
  | resultType
  | afterReturn
  | leaveOutsideLoop
  | againOutsideLoop
  | returnInContinuing
  | returnType (value : Option ExprId)
  | condition (id : ExprId)
  | storePointer (pointer : ExprId)
  | storeTypes (pointer value : ExprId)
  | call (function : Nat) (fault : CallFault)
  | unvisited (id : ExprId)
  deriving DecidableEq, Repr

/-- The sentence about the fault. -/
def FunctionFault.message : FunctionFault → String
  | expression id fault => "Expression " ++ describeIndex id ++ " is invalid: " ++ fault.message
  | alreadyInScope id =>
    "Expression " ++ describeIndex id ++ " can't be introduced - it's already in scope"
  | localVariable id name fault =>
    "Local variable " ++ describeIndex id ++ " '" ++ name ++ "' is invalid: " ++ fault.message
  | argumentType index name =>
    "Argument '" ++ name ++ "' at index " ++ toString index ++
      " has a type that can't be passed into functions."
  | resultType => "The function's given return type cannot be returned from functions"
  | afterReturn => "There are instructions after `return`/`break`/`continue`"
  | leaveOutsideLoop => "The `break` is used outside of a `loop` or `switch` context"
  | againOutsideLoop => "The `continue` is used outside of a `loop` context"
  | returnInContinuing => "The `return` is called within a `continuing` block"
  | returnType value =>
    "The `return` value " ++ describeOption describeIndex value ++
      " does not match the function return value"
  | condition id => "The `if` condition " ++ describeIndex id ++ " is not a boolean scalar"
  | storePointer pointer =>
    "The pointer " ++ describeIndex pointer ++
      " doesn't relate to a valid destination for a store"
  | storeTypes pointer value =>
    "The type of " ++ describeIndex value ++ " doesn't match the type stored in " ++
      describeIndex pointer
  | call function fault => "Call to " ++ describeIndex function ++ " is invalid: " ++ fault.message
  | unvisited id => "Required uniformity of control flow for " ++ describeIndex id ++ " is missing"

/-- What is wrong with a value that the pipeline carries. -/
inductive VaryingFault where
  | missingBinding
  | memberMissingBinding (index : Nat)
  | duplicateBuiltIn (value : BuiltIn)
  | builtInStage (value : BuiltIn)
  | builtInType (value : BuiltIn)
  | unsupported (capability : String)
  | notShareable (type : TypeId)
  | locationCollision (location : Nat)
  | missingInterpolation
  | invalidInterpolation
  | samplingOfFlat (interpolation sampling : String)
  | invalidType (type : TypeId)
  deriving DecidableEq, Repr

/-- The sentence about the fault. -/
def VaryingFault.message : VaryingFault → String
  | missingBinding => "Entry point argument has no binding"
  | memberMissingBinding index =>
    "Struct member " ++ toString index ++ " is missing a binding"
  | duplicateBuiltIn value => "Built-in " ++ value.describe ++ " is present more than once"
  | builtInStage value => "Built-in " ++ value.describe ++ " is not available at this stage"
  | builtInType value => "Type for " ++ value.describe ++ " is invalid"
  | unsupported capability => "Capability " ++ capability ++ " is not supported"
  | notShareable type =>
    "The type " ++ describeIndex type ++
      " cannot be used for user-defined entry point inputs or outputs"
  | locationCollision location =>
    "Multiple bindings at location " ++ toString location ++ " are present"
  | missingInterpolation =>
    "Interpolation must be specified on vertex shader outputs and fragment shader inputs"
  | invalidInterpolation => "Interpolation is not valid"
  | samplingOfFlat interpolation sampling =>
    "Cannot combine " ++ interpolation ++ " interpolation with the " ++ sampling ++ " sample type"
  | invalidType type => "The type " ++ describeIndex type ++ " does not match the varying"

/-- What is wrong with the function that the pipeline calls. -/
inductive EntryFault where
  | workGroupSizeRange
  | workGroupSizeUnexpected
  | function (fault : FunctionFault)
  | forbiddenOperations
  | argument (index : Nat) (fault : VaryingFault)
  | result (fault : VaryingFault)
  | missingPosition
  | globalUse (global : Nat) (reads writes : Bool)
  | bindingCollision (global : Nat)
  deriving DecidableEq, Repr

/-- The sentence about the fault. -/
def EntryFault.message : EntryFault → String
  | workGroupSizeRange => "Workgroup size is out of range"
  | workGroupSizeUnexpected => "Workgroup size is not applicable"
  | function fault => fault.message
  | forbiddenOperations => "Uses operations forbidden at this stage"
  | argument index fault =>
    "Argument " ++ toString index ++ " varying error: " ++ fault.message
  | result fault => fault.message
  | missingPosition => "Vertex shaders must return a `@builtin(position)` output value"
  | globalUse global reads writes =>
    let flags :=
      match reads, writes with
      | true, true => "READ | WRITE"
      | true, false => "READ"
      | false, true => "WRITE"
      | false, false => "0x0"
    "Global variable " ++ describeIndex global ++ " is used incorrectly as GlobalUse(" ++ flags ++
      ")"
  | bindingCollision global =>
    "Bindings for " ++ describeIndex global ++ " conflict with other resource"

/-- Why a type cannot lie in memory that the host sees. -/
inductive LayoutFault where
  | arrayStride (stride alignment : Nat)
  | memberOffset (index offset alignment : Nat)
  | unsizedMember (index : Nat)
  | notHostShareable
  deriving DecidableEq, Repr

/-- The sentence about the fault. -/
def LayoutFault.message : LayoutFault → String
  | arrayStride stride alignment =>
    "The array stride " ++ toString stride ++ " is not a multiple of the required alignment " ++
      toString alignment
  | memberOffset index offset alignment =>
    "The struct member[" ++ toString index ++ "] offset " ++ toString offset ++
      " is not a multiple of the required alignment " ++ toString alignment
  | unsizedMember index =>
    "The struct member[" ++ toString index ++ "] is not statically sized"
  | notHostShareable => "The type is not host-shareable"

/-- What is wrong with a variable of the module. -/
inductive GlobalFault where
  | alignment (space : AddressSpace) (type : TypeId) (fault : LayoutFault)
  | missingTraits (seen required : String)
  | binding
  | initializerNotAllowed (space : AddressSpace)
  | initializerType
  deriving DecidableEq, Repr

/-- The sentence about the fault. -/
def GlobalFault.message : GlobalFault → String
  | alignment space type fault =>
    "Alignment requirements for address space " ++ space.describe ++ " are not met by " ++
      describeIndex type ++ ": " ++ fault.message
  | missingTraits seen required =>
    "Type flags " ++ seen ++ " do not meet the required " ++ required
  | binding => "Binding decoration is missing or not applicable"
  | initializerNotAllowed space =>
    "Initializer can't be used with address space " ++ space.describe
  | initializerType => "Initializer doesn't match the variable type"

/-- What is wrong with a type. -/
inductive ShapeFault where
  | doublePrecision
  | arrayBase (base : TypeId)
  | memberData (type : TypeId)
  | dynamicMember (name : Option String) (type : TypeId)
  | pointerToUnsized (base : TypeId) (space : AddressSpace)
  | emptyStruct
  deriving DecidableEq, Repr

/-- The sentence about the fault. -/
def ShapeFault.message : ShapeFault → String
  | doublePrecision =>
    "Using `f64` values requires the `naga::valid::Capabilities::FLOAT64` flag"
  | arrayBase base => "The base type " ++ describeIndex base ++ " of the array is invalid"
  | memberData type =>
    "Data type " ++ describeIndex type ++ " is not sized"
  | dynamicMember name type =>
    "Unsized types like " ++ describeIndex type ++ " must be the last member of a structure, " ++
      "but " ++ describeOption (fun text => "\"" ++ text ++ "\"") name ++ " is not"
  | pointerToUnsized base space =>
    "Unsized type " ++ describeIndex base ++ " can't be used in address space " ++ space.describe
  | emptyStruct => "Structure types must have at least one member"

/-- What is wrong with a program. -/
inductive ModuleFault where
  | type (id : TypeId) (name : String) (fault : ShapeFault)
  | expression (id : ExprId) (fault : ExpressionFault)
  | constant (id : Nat) (name : String)
  | global (id : Nat) (name : String) (fault : GlobalFault)
  | function (id : Nat) (name : String) (fault : FunctionFault)
  | entryPoint (stage : Stage) (name : String) (fault : EntryFault)
  deriving DecidableEq, Repr

/-- The sentence about the fault. -/
def ModuleFault.message : ModuleFault → String
  | type id name fault =>
    "Type " ++ describeIndex id ++ " '" ++ name ++ "' is invalid: " ++ fault.message
  | expression id fault =>
    "Constant expression " ++ describeIndex id ++ " is invalid: " ++ fault.message
  | constant id name =>
    "Constant " ++ describeIndex id ++ " '" ++ name ++
      "' is invalid: The type doesn't match the constant"
  | global id name fault =>
    "Global variable " ++ describeIndex id ++ " '" ++ name ++ "' is invalid: " ++ fault.message
  | function id name fault =>
    "Function " ++ describeIndex id ++ " '" ++ name ++ "' is invalid: " ++ fault.message
  | entryPoint stage name fault =>
    "Entry point " ++ name ++ " at " ++ describeStage stage ++ " is invalid: " ++ fault.message

end ShaderBuild.Program
