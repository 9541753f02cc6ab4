import ShaderBuild.Program.Module

/-! The type of an expression from the types of its operands. -/

namespace ShaderBuild.Program

/-- A type that is in the table, or one that is only known by its shape. -/
inductive Resolution where
  | known (id : TypeId)
  | made (shape : Shape)
  deriving DecidableEq, Repr

/-- The shape behind a resolution. -/
def Resolution.shape (types : TypeTable) : Resolution → Shape
  | known id => types.shape id
  | made shape => shape

/-- Why an expression has no type. -/
inductive TypeFault where
  | outOfBoundsIndex (expr : ExprId) (index : Nat)
  | invalidAccess (expr : ExprId) (indexed : Bool)
  | invalidSubAccess (type : TypeId) (indexed : Bool)
  | invalidScalar (expr : ExprId)
  | invalidVector (expr : ExprId)
  | invalidPointer (expr : ExprId)
  | functionReturnsVoid
  | incompatibleOperands (text : String)
  | missing (expr : ExprId)
  deriving DecidableEq, Repr

namespace TypeFault

/-- A truth value as messages show it. -/
def describeFlag (flag : Bool) : String := if flag then "true" else "false"

/-- The fault with its parts named. -/
def describe : TypeFault → String
  | outOfBoundsIndex expr index =>
    "OutOfBoundsIndex \x7b expr: " ++ describeIndex expr ++ ", index: " ++ toString index ++ " \x7d"
  | invalidAccess expr indexed =>
    "InvalidAccess \x7b expr: " ++ describeIndex expr ++ ", indexed: " ++ describeFlag indexed ++
      " \x7d"
  | invalidSubAccess type indexed =>
    "InvalidSubAccess \x7b ty: " ++ describeIndex type ++ ", indexed: " ++ describeFlag indexed ++
      " \x7d"
  | invalidScalar expr => "InvalidScalar(" ++ describeIndex expr ++ ")"
  | invalidVector expr => "InvalidVector(" ++ describeIndex expr ++ ")"
  | invalidPointer expr => "InvalidPointer(" ++ describeIndex expr ++ ")"
  | functionReturnsVoid => "FunctionReturnsVoid"
  | incompatibleOperands text => "IncompatibleOperands(\"" ++ text ++ "\")"
  | missing expr => "InvalidPointer(" ++ describeIndex expr ++ ")"

/-- The fault as a sentence. -/
def message : TypeFault → String
  | outOfBoundsIndex expr index =>
    "Index " ++ toString index ++ " is out of bounds for expression " ++ describeIndex expr
  | invalidAccess expr indexed =>
    "Invalid access into expression " ++ describeIndex expr ++ ", indexed: " ++ describeFlag indexed
  | invalidSubAccess type indexed =>
    "Invalid sub-access into type " ++ describeIndex type ++ ", indexed: " ++ describeFlag indexed
  | invalidScalar expr => "Invalid scalar " ++ describeIndex expr
  | invalidVector expr => "Invalid vector " ++ describeIndex expr
  | invalidPointer expr => "Invalid pointer " ++ describeIndex expr
  | functionReturnsVoid => "Function returns void"
  | incompatibleOperands text => "Incompatible operands: " ++ text
  | missing expr => "Invalid pointer " ++ describeIndex expr

end TypeFault

/-- The declarations that the type of an expression depends on. -/
structure Scope where
  types : TypeTable
  constants : Array TypeId
  globals : Array (TypeId × AddressSpace)
  results : Array (Option TypeId)
  locals : Array TypeId
  arguments : Array TypeId

/-- The scope of a function of a module. -/
def Module.scope (module : Module) (locals : Array LocalVariable) (arguments : Array Argument) :
    Scope where
  types := module.types
  constants := module.constants.map (·.type)
  globals := module.globals.map fun global => (global.type, global.space)
  results := module.functions.map fun function => function.result.map (·.type)
  locals := locals.map (·.type)
  arguments := arguments.map (·.type)

/-- The type of one element of a value or of what a pointer points to, at an unknown index. -/
def elementAt (types : TypeTable) (base : ExprId) : Shape → Except TypeFault Resolution
  | .array element _ _ => .ok (.known element)
  | .vector _ scalar => .ok (.made (.scalar scalar))
  | .valuePointer (some _) scalar space => .ok (.made (.valuePointer none scalar space))
  | .pointer type space =>
    match types.shape type with
    | .array element _ _ => .ok (.made (.pointer element space))
    | .vector _ scalar => .ok (.made (.valuePointer none scalar space))
    | _ => .error (.invalidSubAccess type false)
  | _ => .error (.invalidAccess base false)

/-- The type of one element of a value or of what a pointer points to, at a known index. -/
def elementAtIndex (types : TypeTable) (base : ExprId) (index : Nat) :
    Shape → Except TypeFault Resolution
  | .vector size scalar =>
    if index < size.toNat then .ok (.made (.scalar scalar))
    else .error (.outOfBoundsIndex base index)
  | .array element _ _ => .ok (.known element)
  | .struct members _ =>
    match members[index]? with
    | some member => .ok (.known member.type)
    | none => .error (.outOfBoundsIndex base index)
  | .valuePointer (some size) scalar space =>
    if index < size.toNat then .ok (.made (.valuePointer none scalar space))
    else .error (.outOfBoundsIndex base index)
  -- An element of what a pointer leads to is reached as an address again.
  | .pointer type space =>
    match types.shape type with
    | .array element _ _ => .ok (.made (.pointer element space))
    | .vector size scalar =>
      if index < size.toNat then .ok (.made (.valuePointer none scalar space))
      else .error (.outOfBoundsIndex base index)
    | .struct members _ =>
      match members[index]? with
      | some member => .ok (.made (.pointer member.type space))
      | none => .error (.outOfBoundsIndex base index)
    | _ => .error (.invalidSubAccess type true)
  | _ => .error (.invalidAccess base true)

/-- The same shape with truth values for components. -/
def truthShape (name : String) : Shape → Except TypeFault Resolution
  | .scalar _ => .ok (.made (.scalar .boolean))
  | .vector size _ => .ok (.made (.vector size .boolean))
  | other => .error (.incompatibleOperands (name ++ "(" ++ other.describe ++ ", _)"))

/-- The type of a product: a vector wins over a scalar. -/
def productType (left right : Resolution) (leftShape rightShape : Shape) :
    Except TypeFault Resolution :=
  match leftShape, rightShape with
  | .vector .., .scalar _ => .ok left
  | .scalar _, _ => .ok right
  | _, .scalar _ => .ok left
  | .vector .., .vector .. => .ok left
  | l, r => .error (.incompatibleOperands (l.describe ++ " * " ++ r.describe))

/-- The type of an expression, given the types of the expressions before it. -/
def typeOf (scope : Scope) (past : ExprId → Except TypeFault Resolution) :
    Expression → Except TypeFault Resolution
  | .literal value => .ok (.made (.scalar value.scalar))
  | .constant id => .ok (.known (scope.constants.getD id 0))
  | .zeroValue type => .ok (.known type)
  | .compose type _ => .ok (.known type)
  | .access base _ => do
    elementAt scope.types base ((← past base).shape scope.types)
  | .accessIndex base index => do
    elementAtIndex scope.types base index ((← past base).shape scope.types)
  | .splat size value => do
    match (← past value).shape scope.types with
    | .scalar scalar => .ok (.made (.vector size scalar))
    | _ => .error (.invalidScalar value)
  | .swizzle size vector _ => do
    match (← past vector).shape scope.types with
    | .vector _ scalar => .ok (.made (.vector size scalar))
    | _ => .error (.invalidVector vector)
  | .functionArgument index => .ok (.known (scope.arguments.getD index 0))
  | .globalVariable id =>
    -- The name of a variable stands for its address, and a load makes a value of it.
    let global := scope.globals.getD id (0, .privateSpace)
    .ok (.made (.pointer global.1 global.2))
  | .localVariable id => .ok (.made (.pointer (scope.locals.getD id 0) .function))
  | .load pointer => do
    match (← past pointer).shape scope.types with
    | .pointer base _ => .ok (.known base)
    | .valuePointer (some size) scalar _ => .ok (.made (.vector size scalar))
    | .valuePointer none scalar _ => .ok (.made (.scalar scalar))
    | _ => .error (.invalidPointer pointer)
  | .unary _ operand => past operand
  | .binary op left right =>
    match op with
    | .multiply => do
      let l ← past left
      let r ← past right
      productType l r (l.shape scope.types) (r.shape scope.types)
    | .equal | .notEqual | .less | .lessEqual | .greater | .greaterEqual
    | .logicalAnd | .logicalOr => do
      truthShape op.name ((← past left).shape scope.types)
    | _ => past left
  | .select _ accept _ => past accept
  | .relational _ _ => .ok (.made (.scalar .boolean))
  | .math function arguments =>
    match arguments with
    | [] => .error (.incompatibleOperands function.name)
    | first :: _ => do
      let type ← past first
      match function, type.shape scope.types with
      | .dot, .vector _ scalar => .ok (.made (.scalar scalar))
      | .dot, other => .error (.incompatibleOperands ("Dot(" ++ other.describe ++ ", _)"))
      | .distance, .scalar scalar | .distance, .vector _ scalar
      | .length, .scalar scalar | .length, .vector _ scalar => .ok (.made (.scalar scalar))
      | .distance, other | .length, other =>
        .error (.incompatibleOperands (function.name ++ "(" ++ other.describe ++ ", _)"))
      | _, _ => .ok type
  | .cast operand kind width => do
    match (← past operand).shape scope.types with
    | .scalar _ => .ok (.made (.scalar ⟨kind, width⟩))
    | .vector size _ => .ok (.made (.vector size ⟨kind, width⟩))
    | other => .error (.incompatibleOperands (other.describe ++ " as " ++ kind.name))
  | .callResult function =>
    match scope.results.getD function none with
    | some type => .ok (.known type)
    | none => .error .functionReturnsVoid

/-- Types the expressions of a table from a place on, until one after a goal has been typed. -/
def growTypes (scope : Scope) (goal : Nat) :
    List Expression → Array Resolution → Except TypeFault (Array Resolution)
  | [], known => .ok known
  | expression :: rest, known =>
    if goal < known.size then .ok known
    else
      let past := fun id =>
        match known[id]? with
        | some resolution => .ok resolution
        | none => .error (.missing id)
      match typeOf scope past expression with
      | .ok resolution => growTypes scope goal rest (known.push resolution)
      | .error fault => .error fault

/-- Extends a list of known types to reach an expression; a fault keeps what was known. -/
def typesUpTo (scope : Scope) (expressions : Array Expression) (known : Array Resolution)
    (goal : ExprId) : Except TypeFault (Array Resolution) :=
  growTypes scope goal (expressions.toList.drop known.size) known

end ShaderBuild.Program
