import ShaderBuild.Spirv.Body

/-! Whole functions, and the variables through which an entry point exchanges values. -/

namespace ShaderBuild.Spirv

open ShaderBuild.Program

/-- The number of a built-in value; a position that is read is that of a fragment. -/
def builtInWord (isOutput : Bool) : BuiltIn → UInt32
  | .position => if isOutput then 0 else 15
  | .pointSize => 1
  | .primitiveIndex => 7
  | .pointCoord => 16
  | .frontFacing => 17
  | .sampleIndex => 18
  | .fragDepth => 22
  | .numWorkGroups => 24
  | .workGroupSize => 25
  | .workGroupId => 26
  | .localInvocationId => 27
  | .globalInvocationId => 28
  | .localInvocationIndex => 29
  | .vertexIndex => 42
  | .instanceIndex => 43
  | .baseVertex => 4424
  | .baseInstance => 4425
  | .drawId => 4426

/-- Whether values of a shape are whole numbers or truth values, between which there is nothing. -/
def isDiscrete (shape : Shape) : Bool :=
  match shape.components? with
  | some scalar => scalar.kind ≠ .float
  | none => false

/-- Decorates a variable of an entry point with what it carries. -/
def decorateVarying (module : Module) (stage : Stage) (isOutput : Bool) (id : UInt32)
    (type : TypeId) : Binding → Writing Unit
  | .location location interpolation sampling => do
    Writing.decorate id Decoration.location [UInt32.ofNat location]
    -- Nothing is interpolated before the vertices and after the fragments.
    let atTheEnds := if isOutput then stage = .fragment else stage = .vertex
    if !atTheEnds then
      match interpolation with
      | some .flat => Writing.decorate id Decoration.flat []
      | some .linear => Writing.decorate id Decoration.noPerspective []
      | _ => pure ()
      match sampling with
      | some .centroid => Writing.decorate id Decoration.centroid []
      | _ => pure ()
  | .builtIn value => do
    Writing.decorate id Decoration.builtIn [builtInWord isOutput value]
    if !isOutput && stage = .fragment && isDiscrete (module.types.shape type) then
      Writing.decorate id Decoration.flat []

/-- Writes a variable of an entry point. -/
def writeVarying (module : Module) (stage : Stage) (isOutput : Bool) (name : Option String)
    (type : TypeId) (binding : Binding) : Writing UInt32 := do
  let storage : StorageClass := if isOutput then .output else .input
  let id ← Writing.fresh
  let pointer ← Writing.pointerType type storage
  Writing.declare Op.var [pointer, id, storage.word]
  Writing.nameId id name
  decorateVarying module stage isOutput id type binding
  return id

/-- A function before its code: what comes in, what goes out and what was written so far. -/
structure Opening where
  prelude : Array Instruction := #[]
  parameters : Array UInt32 := #[]
  parameterTypes : Array UInt32 := #[]
  outputs : List OutputSlot := []
  /-- The variables that an entry point has to list. -/
  interface : Array UInt32 := #[]

/-- Takes in the arguments: an entry point loads them from variables. -/
def openArguments (module : Module) (stage : Option Stage) :
    List Argument → Opening → Writing Opening
  | [], opening => pure opening
  | argument :: rest, opening => do
    let type ← Writing.tableType argument.type
    match stage, argument.binding with
    -- The pipeline passes values through variables, and the function has no parameters.
    | some stage, some binding => do
      let source ← writeVarying module stage false argument.name argument.type binding
      let id ← Writing.fresh
      openArguments module (some stage) rest
        { opening with
          prelude := opening.prelude.push ⟨Op.load, [type, id, source]⟩
          parameters := opening.parameters.push id
          interface := opening.interface.push source }
    | _, _ => do
      let id ← Writing.fresh
      Writing.nameId id argument.name
      openArguments module stage rest
        { opening with
          parameters := opening.parameters.push id
          parameterTypes := opening.parameterTypes.push type }

/-- Writes the output variables, one for each member of the result. -/
def openOutputs (module : Module) (stage : Stage) : List Member → Opening → Writing Opening
  | [], opening => pure opening
  | member :: rest, opening => do
    match member.binding with
    | none => openOutputs module stage rest opening
    | some binding =>
      let type ← Writing.tableType member.type
      let target ← writeVarying module stage true member.name member.type binding
      let builtIn := match binding with | .builtIn value => some value | .location .. => none
      openOutputs module stage rest
        { opening with
          outputs := opening.outputs ++ [⟨target, type, builtIn⟩]
          interface := opening.interface.push target }

/-- Writes what a function returns, and gives the type that it is declared with. -/
def openResult (module : Module) (stage : Option Stage) (result : Option FunctionResult)
    (opening : Opening) : Writing (Opening × UInt32) := do
  match stage, result with
  | _, none => return (opening, Writing.voidType)
  | none, some result => return (opening, ← Writing.tableType result.type)
  | some stage, some result =>
    match module.types.shape result.type with
    | .struct members _ => return (← openOutputs module stage members opening, Writing.voidType)
    | _ => return (opening, Writing.voidType)

/-- Makes a variable of the module reachable; one in a wrapper is reached through its member. -/
def reachGlobal (module : Module) (use : FunctionUse) (listed : Bool) (opening : Opening)
    (id : Nat) (item : GlobalVariable) : Writing (Opening × UInt32) := do
  if !use.usesGlobal id then return (opening, 0)
  let source := (← get).globals.getD id 0
  let opening :=
    if listed then { opening with interface := opening.interface.push source } else opening
  if Writing.needsWrapper module item then
    let pointer ← Writing.pointerType item.type (Writing.storageOf item.space)
    let zero ← Writing.indexId 0
    let place ← Writing.fresh
    return ({ opening with
      prelude := opening.prelude.push ⟨Op.accessChain, [pointer, place, source, zero]⟩ }, place)
  else return (opening, source)

/-- Makes the variables of the module reachable, from a place on. -/
def reachGlobals (module : Module) (use : FunctionUse) (listed : Bool) :
    List GlobalVariable → Nat → Opening → Writing (Opening × List UInt32)
  | [], _, opening => pure (opening, [])
  | item :: rest, id, opening => do
    let (opening, place) ← reachGlobal module use listed opening id item
    let (opening, places) ← reachGlobals module use listed rest (id + 1) opening
    return (opening, place :: places)

/-- Which of some expressions are constants, given the ones before them. -/
def constantsOf : List Expression → Array Bool → Array Bool
  | [], known => known
  | expression :: rest, known =>
    let constant :=
      match expression with
      | .literal _ | .constant _ | .zeroValue _ => true
      | .compose _ components => components.all fun part => known.getD part false
      | .splat _ value => known.getD value false
      | _ => false
    constantsOf rest (known.push constant)

namespace Coding

/-- Whether an expression is the address of a variable of the function. -/
def isLocalAddress : Expression → Bool
  | .localVariable _ => true
  | _ => false

/-- Writes the expressions that have a value before the body runs, from a place on. -/
def writeEarly (site : Site) (chosen : ExprId → Expression → Bool) :
    List Expression → ExprId → Coding Unit
  | [], _ => pure ()
  | expression :: rest, id => do
    if chosen id expression then writeIfUsed site id
    writeEarly site chosen rest (id + 1)

/-- Writes the variables of the function; one without an initial value starts at zero. -/
def writeLocals : List LocalVariable → Coding Unit
  | [] => pure ()
  | item :: rest => do
    let id ← fresh
    liftM (Writing.nameId id item.name)
    let pointer ← liftM (Writing.pointerType item.type .function)
    let init ←
      match item.init with
      | some init => value init
      | none => do
        let type ← liftM (Writing.tableType item.type)
        liftM (Writing.freshNull type)
    modify fun page =>
      { page with
        variableIds := page.variableIds.push id
        locals :=
          page.locals.push ⟨Op.var, [pointer, id, StorageClass.function.word, init]⟩ }
    writeLocals rest

/-- Writes all code of a function. -/
def writeCode (site : Site) : Coding Unit := do
  let expressions := site.function.expressions.toList
  writeEarly site (fun id expression =>
    (expression.isPreEmitted && !isLocalAddress expression) || site.constants.getD id false)
    expressions 0
  writeLocals site.function.locals.toList
  writeEarly site (fun _ expression => isLocalAddress expression) expressions 0
  let bodyId ← fresh
  add Op.branch [bodyId]
  let _ ← writeBlock site {} bodyId site.function.body .ret

end Coding

/-- Writes a function and gives its identifier and, for an entry point, its variables. -/
def writeFunction (module : Module) (format : Format) (function : Function) (use : FunctionUse)
    (stage : Option Stage) : Writing (UInt32 × Array UInt32) := do
  let start ← Writing.fresh
  let opening ← openArguments module stage function.arguments.toList {}
  let (opening, resultType) ← openResult module stage function.result opening
  let id ← Writing.fresh
  Writing.nameId id function.name
  let type ← Writing.functionType opening.parameterTypes.toList resultType
  -- Newer modules list every variable that an entry point can reach.
  let listed := stage.isSome && format.atLeast 1 4
  let (opening, access) ← reachGlobals module use listed module.globals.toList 0 opening
  let site : Site :=
    { module, function, use, format
      constants := constantsOf function.expressions.toList #[]
      parameters := opening.parameters
      outputs := stage.map fun _ => opening.outputs }
  let page : Page :=
    { code := opening.prelude
      access := access.toArray
      values := Array.replicate function.expressions.size 0 }
  let ((), page) ← (Coding.writeCode site).run page
  let parameters := (opening.parameterTypes.zip opening.parameters).map fun pair =>
    (⟨Op.functionParameter, [pair.1, pair.2]⟩ : Instruction)
  -- Variables of the function come before its code in the first block.
  modify fun sheet =>
    { sheet with
      functions :=
        (sheet.functions.push ⟨Op.function, [resultType, id, 0, type]⟩) ++ parameters ++
          #[⟨Op.label, [start]⟩] ++ page.locals ++ page.code ++ #[⟨Op.functionEnd, []⟩] }
  return (id, opening.interface)

end ShaderBuild.Spirv
