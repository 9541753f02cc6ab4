import ShaderBuild.Program.Typing

/-! What a function makes use of: its expressions, the variables of the module, and the stages. -/

namespace ShaderBuild.Program

/-- How a variable of the module is used. -/
structure GlobalUse where
  reads : Bool := false
  writes : Bool := false
  deriving DecidableEq, Repr

namespace GlobalUse

/-- Either use. -/
def isUsed (use : GlobalUse) : Bool := use.reads || use.writes

/-- Both uses together. -/
def union (a b : GlobalUse) : GlobalUse := ⟨a.reads || b.reads, a.writes || b.writes⟩

/-- Whether the first use covers the second. -/
def covers (a b : GlobalUse) : Bool := (a.reads || !b.reads) && (a.writes || !b.writes)

end GlobalUse

/-- What is known about a function. -/
structure FunctionUse where
  types : Array Resolution := #[]
  references : Array Nat := #[]
  /-- The variable that an expression points into. -/
  rootGlobal : Array (Option Nat) := #[]
  globals : Array GlobalUse := #[]
  /-- The function can only run in the fragment stage. -/
  fragmentOnly : Bool := false

namespace FunctionUse

/-- Whether any part of a variable is used. -/
def usesGlobal (use : FunctionUse) (id : Nat) : Bool :=
  (use.globals.getD id {}).isUsed

/-- Whether every use by the second function is also one by the first. -/
def dominates (use other : FunctionUse) : Bool :=
  (List.range other.globals.size).all fun i =>
    (use.globals.getD i {}).covers (other.globals.getD i {})

/-- The shape of an expression's type. -/
def shape (use : FunctionUse) (types : TypeTable) (id : ExprId) : Shape :=
  ((use.types[id]?).getD (.made (.scalar .boolean))).shape types

/-- Counts a use of an expression, through which a variable of the module may be used. -/
def refer (use : FunctionUse) (id : ExprId) (kind : GlobalUse) : FunctionUse :=
  let use := { use with references := use.references.modify id (· + 1) }
  match use.rootGlobal.getD id none with
  | none => use
  | some global => { use with globals := use.globals.modify global (·.union kind) }

/-- Counts a use of an expression that only reads it. -/
def read (use : FunctionUse) (id : ExprId) : FunctionUse :=
  use.refer id { reads := true }

/-- Counts a use of an expression as the base of an address. -/
def address (use : FunctionUse) (id : ExprId) : FunctionUse :=
  { use with references := use.references.modify id (· + 1) }

/-- Takes an expression into account; its operands stand before it. -/
def addExpression (use : FunctionUse) (type : Resolution) (expression : Expression) :
    FunctionUse :=
  let use :=
    match expression with
    | .access base index => (use.address base).read index
    | .accessIndex base _ => use.address base
    | .splat _ value => use.read value
    | .swizzle _ vector _ => use.read vector
    | .compose _ components => components.foldl read use
    | .load pointer => use.read pointer
    | .unary _ operand => use.read operand
    | .binary _ left right => (use.read left).read right
    | .select condition accept reject => ((use.read condition).read accept).read reject
    | .relational _ argument => use.read argument
    | .math _ arguments => arguments.foldl read use
    | .cast operand _ _ => use.read operand
    | .literal _ | .constant _ | .zeroValue _ | .functionArgument _ | .globalVariable _
    | .localVariable _ | .callResult _ => use
  -- An address leads back to the variable that it lies in.
  let root :=
    match expression with
    | .globalVariable id => some id
    | .access base _ | .accessIndex base _ => use.rootGlobal.getD base none
    | _ => none
  { use with
    types := use.types.push type
    references := use.references.push 0
    rootGlobal := use.rootGlobal.push root }

/-- Takes a list of expressions into account, until one of them has no type. -/
def addExpressions (scope : Scope) : List Expression → FunctionUse →
    Except (ExprId × TypeFault) FunctionUse
  | [], use => .ok use
  | expression :: rest, use =>
    let past := fun id =>
      match use.types[id]? with
      | some type => .ok type
      | none => .error (.missing id)
    match typeOf scope past expression with
    | .ok type => addExpressions scope rest (use.addExpression type expression)
    | .error fault => .error (use.types.size, fault)

mutual

/-- Takes a statement into account. -/
def addStatement (others : Array FunctionUse) (use : FunctionUse) : Statement → FunctionUse
  | .emit _ _ | .leave | .again | .ret none => use
  | .block body => addBlock others use body
  | .branch condition accept reject =>
    addBlock others (addBlock others (use.read condition) accept) reject
  | .loop body continuing => addBlock others (addBlock others use body) continuing
  | .ret (some value) => use.read value
  | .kill => { use with fragmentOnly := true }
  | .store pointer value => (use.refer pointer { writes := true }).read value
  | .call function arguments _ =>
    let use := arguments.foldl read use
    let callee := others.getD function {}
    { use with
      globals := use.globals.mapIdx fun i mine => mine.union (callee.globals.getD i {})
      fragmentOnly := use.fragmentOnly || callee.fragmentOnly }

/-- Takes the statements of a block into account, in order. -/
def addBlock (others : Array FunctionUse) (use : FunctionUse) : List Statement → FunctionUse
  | [] => use
  | statement :: rest => addBlock others (addStatement others use statement) rest

end

/-- What a function makes use of, given the same of the functions before it. -/
def ofFunction (module : Module) (others : Array FunctionUse) (function : Function) :
    Except (ExprId × TypeFault) FunctionUse := do
  let scope := module.scope function.locals function.arguments
  let start : FunctionUse := { globals := module.globals.map fun _ => {} }
  let use ← addExpressions scope function.expressions.toList start
  let inits := function.locals.toList.filterMap (·.init)
  return addBlock others (inits.foldl read use) function.body

end FunctionUse

end ShaderBuild.Program
