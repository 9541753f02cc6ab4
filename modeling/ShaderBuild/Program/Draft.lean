import ShaderBuild.Program.Typing

/-! A module in the making and the function that is being written into it. -/

namespace ShaderBuild.Program

/-- A function in the making. -/
structure Draft where
  expressions : Array Expression := #[]
  /-- Which expressions have a value at compile time. -/
  isConstant : Array Bool := #[]
  /-- The types of the first expressions, as far as they were asked for. -/
  types : Array Resolution := #[]
  locals : Array LocalVariable := #[]
  arguments : Array Argument := #[]
  /-- Where the run of expressions began that no emit statement covers yet. -/
  emitFrom : Option Nat := none
  body : Array Statement := #[]

/-- A module in the making, a function in the making, and which of their tables is written to. -/
structure Desk where
  module : Module := {}
  moduleTypes : Array Resolution := #[]
  draft : Draft := {}
  atModule : Bool := false

namespace Desk

/-- The table that is written to. -/
def table (desk : Desk) : Array Expression :=
  if desk.atModule then desk.module.globalExpressions else desk.draft.expressions

/-- An expression of the table that is written to. -/
def expression? (desk : Desk) (id : ExprId) : Option Expression :=
  desk.table[id]?

/-- Whether an expression has a value at compile time; all of the module's have. -/
def isConstant (desk : Desk) (id : ExprId) : Bool :=
  if desk.atModule then true else desk.draft.isConstant.getD id false

/-- Changes the function in the making. -/
def updateDraft (desk : Desk) (f : Draft → Draft) : Desk :=
  { desk with draft := f desk.draft }

/-- Begins a run of expressions. -/
def beginEmit (desk : Desk) : Desk :=
  desk.updateDraft fun draft => { draft with emitFrom := some draft.expressions.size }

/-- Ends a run of expressions; a run that is not empty becomes a statement. -/
def endEmit (desk : Desk) : Desk :=
  desk.updateDraft fun draft =>
    match draft.emitFrom with
    | none => draft
    | some first =>
      let count := draft.expressions.size - first
      let body := if count = 0 then draft.body else draft.body.push (.emit first count)
      { draft with emitFrom := none, body }

/-- Ends a run of expressions and begins another one. -/
def restartEmit (desk : Desk) : Desk :=
  desk.endEmit.beginEmit

/-- Adds a statement. -/
def push (desk : Desk) (statement : Statement) : Desk :=
  desk.updateDraft fun draft => { draft with body := draft.body.push statement }

/-- Adds an expression to the function's table as it is. -/
def pushExpression (desk : Desk) (expression : Expression) (constant : Bool) : Desk :=
  desk.updateDraft fun draft =>
    { draft with
      expressions := draft.expressions.push expression
      isConstant := draft.isConstant.push constant }

/-- Appends an expression. One that needs no evaluation splits the run that is being emitted. -/
def append (desk : Desk) (expression : Expression) (constant : Bool) : Desk × ExprId :=
  if desk.atModule then
    let expressions := desk.module.globalExpressions
    ({ desk with
        module := { desk.module with globalExpressions := expressions.push expression } },
      expressions.size)
  else
    let id := desk.draft.expressions.size
    if desk.draft.emitFrom.isSome && expression.isPreEmitted then
      ((desk.endEmit.pushExpression expression constant).beginEmit, id)
    else (desk.pushExpression expression constant, id)

/-- Puts a type into the module's table. -/
def insertType (desk : Desk) (name : Option String) (shape : Shape) (span : Span) :
    Desk × TypeId :=
  let (types, id) := desk.module.types.insert name shape span
  ({ desk with module := { desk.module with types } }, id)

/-- The type of an expression of the table that is written to. -/
def resolve (desk : Desk) (id : ExprId) : Desk × Except TypeFault Resolution :=
  let scope := desk.module.scope desk.draft.locals desk.draft.arguments
  let known := if desk.atModule then desk.moduleTypes else desk.draft.types
  match typesUpTo scope desk.table known id with
  | .error fault => (desk, .error fault)
  | .ok types =>
    let desk :=
      if desk.atModule then { desk with moduleTypes := types }
      else desk.updateDraft fun draft => { draft with types }
    match types[id]? with
    | some resolution => (desk, .ok resolution)
    | none => (desk, .error (.missing id))

end Desk

end ShaderBuild.Program
