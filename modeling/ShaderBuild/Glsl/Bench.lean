import ShaderBuild.Glsl.Fault
import ShaderBuild.Glsl.Term

/-! Everything that is known while the text of a program is read. -/

namespace ShaderBuild.Glsl

open ShaderBuild.Program

/-- What the name of a variable or constant of the module stands for. -/
inductive GlobalTarget where
  | whole (id : Nat)
  | member (id : Nat) (index : Nat)
  | constant (id : Nat) (type : TypeId)
  deriving DecidableEq, Repr

/-- A name that every function sees. -/
structure GlobalName where
  name : String
  target : GlobalTarget
  mutable_ : Bool

/-- A variable that the entry point fills before, or reads after, the main function. -/
structure Varying where
  name : Option String
  binding : Binding
  global : Nat
  isOutput : Bool

/-- How an argument reaches its parameter. -/
inductive Passing where
  | copied
  | constant
  | returned
  | both
  deriving DecidableEq, Repr

/-- Whether a parameter is a place that the function stores into. -/
def Passing.isPlace : Passing → Bool
  | returned | both => true
  | copied | constant => false

/-- Functions that come with the language. -/
inductive BuiltInFunction where
  | math (function : MathFunction)
  /-- A mixture whose weight is one number for all components of the given size. -/
  | mixScalar (size : Option VectorSize)
  /-- A choice between the components of two values. -/
  | choose
  deriving DecidableEq, Repr

/-- What an overload does when it is called. -/
inductive OverloadBody where
  | function (id : Nat)
  | builtIn (function : BuiltInFunction)
  deriving DecidableEq, Repr

/-- One of the functions of a name. -/
structure Overload where
  parameters : List TypeId
  passing : List Passing
  body : OverloadBody
  defined : Bool
  isVoid : Bool

/-- The functions of a name, and which families of the language's own were added. -/
structure Declarations where
  overloads : Array Overload := #[]
  standard : Bool := false
  doubles : Bool := false

/-- The state of reading. -/
structure Bench where
  items : List Item
  /-- Words that were read and put back, the next one first. -/
  held : List (Token × Span) := []
  lastSpan : Span := .none
  desk : Desk := {}
  faults : Array (SourceFault × Span) := #[]
  functions : List (String × Declarations) := []
  structs : List (String × TypeId) := []
  globals : Array GlobalName := #[]
  varyings : Array Varying := #[]
  /-- The names in scope, innermost scope first. -/
  scopes : List (List (String × Reference)) := [[]]
  parameters : Array TypeId := #[]
  passing : Array Passing := #[]
  version : Nat := 440
  workGroupSize : List Nat
  /-- How many terms the current statement has. -/
  termCount : Nat := 0

/-- Reading stops at a mistake that leaves nothing to go on with. -/
abbrev Reading := ExceptT (SourceFault × Span) (StateM Bench)

namespace Reading

/-- Stops at a mistake. -/
def stop (fault : SourceFault) (span : Span) : Reading α := throw (fault, span)

/-- Notes a mistake and goes on. -/
def report (fault : SourceFault) (span : Span) : Reading Unit :=
  modify fun bench => { bench with faults := bench.faults.push (fault, span) }

/-- Changes the module or the function in the making. -/
def updateDesk (f : Desk → Desk) : Reading Unit :=
  modify fun bench => { bench with desk := f bench.desk }

/-- The module in the making. -/
def theModule : Reading Module := do
  return (← get).desk.module

/-- Changes the module in the making. -/
def updateModule (f : Module → Module) : Reading Unit :=
  updateDesk fun desk => { desk with module := f desk.module }

/-- Adds an expression or its value. -/
def addExpression (expression : Expression) (span : Span) : Reading ExprId := do
  let bench ← get
  let (outcome, desk) := (Program.addExpression expression span).run.run bench.desk
  set { bench with desk }
  match outcome with
  | .ok id => return id
  | .error fault => stop (.folding fault) span

/-- The type of an expression. -/
def typeOf (id : ExprId) (span : Span) : Reading Resolution := do
  let bench ← get
  let (desk, outcome) := bench.desk.resolve id
  set { bench with desk }
  match outcome with
  | .ok resolution => return resolution
  | .error fault => stop (.noType fault) span

/-- The shape of an expression's type. -/
def shapeOf (id : ExprId) (span : Span) : Reading Shape := do
  let resolution ← typeOf id span
  return resolution.shape (← theModule).types

/-- The shape of a type. -/
def shapeOfType (id : TypeId) : Reading Shape := do
  return (← theModule).types.shape id

/-- Puts a type into the table. -/
def insertType (name : Option String) (shape : Shape) (span : Span) : Reading TypeId := do
  let bench ← get
  let (desk, id) := bench.desk.insertType name shape span
  set { bench with desk }
  return id

/-- The expression at a place of the table. -/
def expressionAt (id : ExprId) : Reading (Option Expression) := do
  return (← get).desk.expression? id

/-- Ends the run of expressions that is being emitted and begins another one. -/
def restartEmit : Reading Unit := updateDesk Desk.restartEmit

/-- Adds a statement. -/
def pushStatement (statement : Statement) : Reading Unit :=
  updateDesk fun desk => desk.push statement

/-- The statements of the function in the making. -/
def body : Reading (Array Statement) := do
  return (← get).desk.draft.body

/-- Sets the statements of the function in the making. -/
def setBody (statements : Array Statement) : Reading Unit :=
  updateDesk fun desk => desk.updateDraft fun draft => { draft with body := statements }

/-- Adds statements to some others. -/
def continueBody (start : Array Statement) (action : Reading α) :
    Reading (α × Array Statement) := do
  restartEmit
  let outer ← body
  setBody start
  let result ← action
  restartEmit
  let inner ← body
  setBody outer
  return (result, inner)

/-- Collects statements apart from those of the function. -/
def newBody (action : Reading α) : Reading (α × Array Statement) :=
  continueBody #[] action

/-- Adds a variable to the function in the making. -/
def addLocal (item : LocalVariable) : Reading Nat := do
  let id := (← get).desk.draft.locals.size
  updateDesk fun desk => desk.updateDraft fun draft =>
    { draft with locals := draft.locals.push item }
  return id

/-- The address of a new nameless variable of the function. -/
def addTemporary (type : TypeId) (span : Span) : Reading ExprId := do
  let id ← addLocal ⟨none, type, none⟩
  addExpression (.localVariable id) span

/-- The scalar that an expression's value is made of. -/
def componentsOf (id : ExprId) (span : Span) : Reading (Option Scalar) := do
  return (← shapeOf id span).components?

/-- An expression turned into another scalar type. -/
def convert (id : ExprId) (span : Span) (target : Scalar) : Reading ExprId :=
  addExpression (.cast id target.kind target.width) span

/-- How far a scalar reaches among the implicit conversions. -/
def powerOf (scalar : Option Scalar) : Option Nat := scalar.bind Scalar.power?

/-- An expression turned into a scalar type that reaches farther than its own. -/
def convertUp (id : ExprId) (span : Span) (target : Scalar) : Reading ExprId := do
  let source ← componentsOf id span
  match target.power?, powerOf source with
  | some high, some low => if low < high then convert id span target else return id
  | _, _ => return id

/-- An expression turned into a scalar type unless it has it already. -/
def convertAlways (id : ExprId) (span : Span) (target : Scalar) : Reading ExprId := do
  match ← componentsOf id span with
  | some source => if source = target then return id else convert id span target
  | none => return id

/-- An expression turned into what values of a shape are made of, if it reaches farther. -/
def convertToShape (id : ExprId) (span : Span) (shape : Shape) : Reading ExprId :=
  match shape.components? with
  | some scalar => convertUp id span scalar
  | none => return id

/-- Two operands, the one that reaches less far turned into the type of the other. -/
def convertOperands (left : ExprId) (leftSpan : Span) (right : ExprId) (rightSpan : Span) :
    Reading (ExprId × ExprId) := do
  let leftScalar ← componentsOf left leftSpan
  let rightScalar ← componentsOf right rightSpan
  match leftScalar, powerOf leftScalar, rightScalar, powerOf rightScalar with
  | some ls, some lp, some rs, some rp =>
    if lp < rp then return (← convert left leftSpan rs, right)
    else if rp < lp then return (left, ← convert right rightSpan ls)
    else return (left, right)
  | _, _, _, _ => return (left, right)

/-- A scalar spread over the components of a vector; anything else stays. -/
def spread (id : ExprId) (span : Span) (size : Option VectorSize) : Reading ExprId := do
  match ← shapeOf id span, size with
  | .scalar _, some size => addExpression (.splat size id) span
  | _, _ => return id

/-- What a name refers to, looked up from the innermost scope outwards. -/
def lookupName (name : String) : List (List (String × Reference)) → Option Reference
  | [] => none
  | scope :: outer =>
    match scope.lookup name with
    | some reference => some reference
    | none => lookupName name outer

/-- Adds a name to the innermost scope, and says whether the scope had it already. -/
def declare (name : String) (reference : Reference) : Reading Bool := do
  let bench ← get
  match bench.scopes with
  | [] =>
    set { bench with scopes := [[(name, reference)]] }
    return false
  | scope :: outer =>
    set { bench with scopes := ((name, reference) :: scope) :: outer }
    return (scope.lookup name).isSome

/-- Adds a name to the outermost scope. -/
def declareOutermost (name : String) (reference : Reference) : Reading Unit :=
  modify fun bench =>
    match bench.scopes.reverse with
    | [] => { bench with scopes := [[(name, reference)]] }
    | outermost :: inner =>
      { bench with scopes := (((name, reference) :: outermost) :: inner).reverse }

/-- Opens a scope. -/
def pushScope : Reading Unit :=
  modify fun bench => { bench with scopes := [] :: bench.scopes }

/-- Closes the innermost scope. -/
def popScope : Reading Unit :=
  modify fun bench => { bench with scopes := bench.scopes.tail }

/-- Whether a member of a variable is an array whose length is known only at run time. -/
def isDynamicMember (module : Module) (global index : Nat) : Bool :=
  match module.globals[global]?.map fun item => module.types.shape item.type with
  | some (.struct members _) =>
    match members[index]?.map fun member => module.types.shape member.type with
    | some (.array _ .dynamic _) => true
    | _ => false
  | _ => false

/-- The place in the text of a variable of the module. -/
def spanOfGlobal (id : Nat) : Reading Span := do
  return ((← theModule).globals[id]?.map (·.span)).getD .none

/-- Brings a name of the module into the scope of the function in the making. -/
def declareGlobal (entry : GlobalName) : Reading Unit := do
  let reference : Reference ←
    match entry.target with
    | .whole id => do
      let expression ← addExpression (.globalVariable id) (← spanOfGlobal id)
      pure { expression, load := true, mutable_ := entry.mutable_ }
    | .member id index => do
      let span ← spanOfGlobal id
      let base ← addExpression (.globalVariable id) span
      let expression ← addExpression (.accessIndex base index) span
      let load := !isDynamicMember (← theModule) id index
      pure { expression, load, mutable_ := entry.mutable_ }
    | .constant id type => do
      let span := ((← theModule).constants[id]?.map (·.span)).getD .none
      let expression ← addExpression (.constant id) span
      pure { expression, load := false, mutable_ := entry.mutable_, constant := some (id, type) }
  let _ ← declare entry.name reference

/-- Brings names of the module into scope, in order. -/
def declareGlobals : List GlobalName → Reading Unit
  | [] => pure ()
  | entry :: rest => do
    declareGlobal entry
    declareGlobals rest

/-- Begins a function: nothing but the names of the module is in scope. -/
def beginFunction : Reading Unit := do
  modify fun bench =>
    { bench with
      desk := ({ bench.desk with draft := {}, atModule := false }).beginEmit
      scopes := [[]]
      parameters := #[]
      passing := #[] }
  declareGlobals (← get).globals.toList

/-- Does something within a function of its own, and goes back to the one at hand. -/
def withinFunction (action : Reading α) : Reading α := do
  let outer ← get
  let leave : Reading Unit :=
    modify fun bench =>
      { bench with
        desk := { bench.desk with draft := outer.desk.draft, atModule := outer.desk.atModule }
        scopes := outer.scopes
        parameters := outer.parameters
        passing := outer.passing
        termCount := outer.termCount }
  try
    beginFunction
    let result ← action
    leave
    return result
  catch fault =>
    leave
    throw fault

/-- Chooses the table that expressions are added to, and tells the choice before. -/
def switchTable (atModule : Bool) : Reading Bool := do
  let before := (← get).desk.atModule
  updateDesk fun desk => { desk with atModule }
  return before

/-- Begins the terms of a statement. -/
def beginTerms : Reading Unit :=
  modify fun bench => { bench with termCount := 0 }

/-- The place of a new term. -/
def newPlace (span : Span) : Reading TermPlace :=
  modifyGet fun bench => (⟨bench.termCount, span⟩, { bench with termCount := bench.termCount + 1 })

end Reading

end ShaderBuild.Glsl
