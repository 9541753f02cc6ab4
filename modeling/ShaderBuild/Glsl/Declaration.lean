import ShaderBuild.Glsl.Qualifier

/-! Declarations of variables, blocks and functions. -/

namespace ShaderBuild.Glsl

open ShaderBuild.Program

/-- A variable or constant of the module. -/
inductive GlobalId where
  | variable_ (id : Nat)
  | constant (id : Nat)

/-- A declared variable. -/
structure Declared where
  type : TypeId
  name : Option String
  init : Option ExprId
  span : Span

mutual

/-- A body that returns at its end: a return is added where control would run out of it. -/
def ensureReturns : List Statement → List Statement
  | [] => [.ret none]
  | [last] => ensureReturnsLast last
  | statement :: next :: rest => statement :: ensureReturns (next :: rest)

/-- The last statement of a body and what has to follow it. -/
def ensureReturnsLast : Statement → List Statement
  | .block body => [.block (ensureReturns body)]
  | .branch condition accept reject =>
    [.branch condition (ensureReturns accept) (ensureReturns reject)]
  | .loop body continuing => [.loop body continuing, .ret none]
  | .store pointer value => [.store pointer value, .ret none]
  | .call function arguments result => [.call function arguments result, .ret none]
  | last => [last]

end

/-- How an output of no stated interpolation is carried on: whole numbers and truth values as they
are, other numbers by perspective. -/
def defaultInterpolation (shape : Shape) : Option Interpolation :=
  shape.components?.map fun scalar => if scalar.kind = .float then .perspective else .flat

namespace Reading

/-- Adds an expression of a function to the module's own, with its parts. -/
def liftConstant : Nat → ExprId → Reading (Option ExprId)
  | 0, _ => return none
  | fuel + 1, id => do
    -- The parts stand in the table before the whole, as everywhere.
    let append := fun (expression : Expression) => do
      let id := (← theModule).globalExpressions.size
      updateModule fun module =>
        { module with globalExpressions := module.globalExpressions.push expression }
      return some id
    match (← get).desk.draft.expressions[id]? with
    | some expression@(.literal _) | some expression@(.constant _)
    | some expression@(.zeroValue _) => append expression
    | some (.compose type components) =>
      let parts ← components.mapM (liftConstant fuel)
      match parts.mapM fun part => part with
      | some parts => append (.compose type parts)
      | none => return none
    | some (.splat size value) =>
      match ← liftConstant fuel value with
      | some value => append (.splat size value)
      | none => return none
    -- Whatever else a function computes has no place outside of it.
    | _ => return none

/-- Adds a named constant; an equal one is not added twice. -/
def addConstant (item : Constant) : Reading Nat := do
  let constants := (← theModule).constants
  match constants.findIdx? fun old =>
      old.name = item.name && old.type = item.type && old.init = item.init with
  | some id => return id
  | none =>
    updateModule fun module => { module with constants := module.constants.push item }
    return constants.size

/-- Declares an input or output of the entry point. -/
def declareVarying (qualifiers : Qualifiers) (item : Declared) (isOutput : Bool) :
    Reading (GlobalId × GlobalTarget × Bool × Qualifiers) := do
  let (location, qualifiers) ← takeNumber qualifiers "location"
  let interpolation :=
    (qualifiers.interpolation.map (·.1)).or (defaultInterpolation (← shapeOfType item.type))
  let sampling := qualifiers.sampling.map (·.1)
  let qualifiers := { qualifiers with interpolation := none, sampling := none }
  let id ← addGlobalVariable
    { name := item.name, space := .privateSpace, binding := none, type := item.type
      init := item.init, span := item.span }
  addVarying
    { name := item.name, global := id, isOutput
      binding := .location (location.getD 0) interpolation sampling }
  return (.variable_ id, .whole id, isOutput, qualifiers)

/-- The space of a variable of the module, after its qualifiers are taken into account. -/
def globalSpace (qualifiers : Qualifiers) (space : AddressSpace) :
    Reading (AddressSpace × Qualifiers) := do
  match space with
  | .storage load store =>
    let (load, store) := (qualifiers.memory.map (·.1)).getD (load, store)
    return (.storage load store, { qualifiers with memory := none })
  | .uniform =>
    let (isPush, qualifiers) ← takeFlag qualifiers "push_constant"
    return (if isPush then .pushConstant else .uniform, qualifiers)
  | .function => return (.privateSpace, qualifiers)
  | space => return (space, qualifiers)

/-- The resource slot of a variable in a space that needs one. -/
def resourceSlot (qualifiers : Qualifiers) (space : AddressSpace) (span : Span) :
    Reading (Option ResourceBinding × Qualifiers) := do
  match space with
  | .uniform | .storage _ _ =>
    let (binding, qualifiers) ← takeNumber qualifiers "binding"
    if binding.isNone then report .bindingRequired span
    let (group, qualifiers) ← takeNumber qualifiers "set"
    return (binding.map fun binding => ⟨group.getD 0, binding⟩, qualifiers)
  | _ => return (none, qualifiers)

/-- Declares a variable or constant of the module. -/
def declareModuleVariable (qualifiers : Qualifiers) (item : Declared) :
    Reading (GlobalId × Qualifiers) := do
  -- The storage decides what the declaration makes: a varying, a constant or a variable.
  let (global, target, mutable_, qualifiers) ←
    match qualifiers.storage.1 with
    | .input => declareVarying qualifiers item false
    | .output => declareVarying qualifiers item true
    | .constant =>
      match item.init with
      | none => stop .constWithoutValue item.span
      | some init =>
        let id ← addConstant { name := item.name, type := item.type, init, span := item.span }
        pure (.constant id, .constant id item.type, false, qualifiers)
    | .space space => do
      let (space, qualifiers) ← globalSpace qualifiers space
      let (binding, qualifiers) ← resourceSlot qualifiers space item.span
      let id ← addGlobalVariable
        { name := item.name, space, binding, type := item.type, init := item.init
          span := item.span }
      pure (.variable_ id, .whole id, true, qualifiers)
  -- A block without a name is reached through its members alone.
  match item.name with
  | none => pure ()
  | some name =>
    let entry : GlobalName := { name, target, mutable_ }
    declareGlobal entry
    addGlobalName entry
  reportUnused qualifiers
  return (global, qualifiers)

/-- Declares a variable of the function in the making and gives its address. -/
def declareLocal (qualifiers : Qualifiers) (item : Declared) : Reading ExprId := do
  let mutable_ ←
    match qualifiers.storage with
    | (.space .function, _) => pure true
    | (.constant, _) => pure false
    | (_, span) => do
      report .localStorage span
      pure true
  let id ← addLocal ⟨item.name, item.type, item.init⟩
  let expression ← addExpression (.localVariable id) item.span
  if let some name := item.name then
    if ← declare name { expression, load := true, mutable_ } then
      report (.declaredTwice name) item.span
  reportUnused qualifiers
  return expression

/-- The type that a part of an initial value is expected to have. -/
def partType (type : TypeId) (index : Nat) : Reading TypeId := do
  match ← shapeOfType type with
  | .vector _ scalar => insertType none (.scalar scalar) .none
  | .array base _ _ => return base
  | .struct members _ => return (members[index]?.map (·.type)).getD type
  | _ => return type

mutual

/-- Reads an initial value for a type. -/
def parseInitializer : Nat → TypeId → Reading (ExprId × Span)
  | 0, _ => endOfFile
  | n + 1, type => do
    match ← takeMark .leftBrace with
    | some span =>
      let (components, span) ← parseParts n type 0 span
      return (← addExpression (.compose type components) span, span)
    | none =>
      beginTerms
      let term ← parseAssignment n
      let value ← lowerValue term
      return (← convertToShape value term.span (← shapeOfType type), term.span)

/-- Reads the parts of an initial value in braces. -/
def parseParts : Nat → TypeId → Nat → Span → Reading (List ExprId × Span)
  | 0, _, _, _ => endOfFile
  | n + 1, type, index, span => do
    let inner ← partType type index
    let (part, _) ← parseInitializer n inner
    let (token, place) ← take
    match token with
    | .punct .comma =>
      match ← takeMark .rightBrace with
      | some stop => return ([part], span.join stop)
      | none =>
        let (rest, span) ← parseParts n type (index + 1) span
        return (part :: rest, span)
    | .punct .rightBrace => return ([part], span.join place)
    | other =>
      stop (.unexpected other [.token (.punct .comma), .token (.punct .rightBrace)]) place

end

/-- What a declaration is part of. -/
structure Setting where
  /-- The declaration stands outside of all functions. -/
  isExternal : Bool
  insideLoop : Bool

/-- Reads the initial value of a variable. The value of a constant of the module is written into
the module's own table. -/
def parseInit (n : Nat) (toModule : Bool) (type : TypeId) : Reading (ExprId × Span) := do
  let before ← switchTable toModule
  let (value, span) ← parseInitializer n type
  let value ← convertToShape value span (← shapeOfType type)
  let _ ← switchTable before
  return (value, span)

/-- Whether an expression has a value at compile time. -/
def isConstant (id : ExprId) : Reading Bool := do
  return (← get).desk.isConstant id

/-- Declares one variable with its initial value. -/
def declareVariable (setting : Setting) (qualifiers : Qualifiers) (type : TypeId) (name : String)
    (init : Option ExprId) (span : Span) : Reading Qualifiers := do
  -- A value that is known when the variable is made belongs to it; any other one is stored.
  let early ←
    match init with
    | none => pure none
    | some value =>
      if setting.isExternal then
        if qualifiers.storage.1 = .constant then pure (some value)
        else liftConstant (value + 1) value
      -- A variable of a loop takes its value anew in every round.
      else if setting.insideLoop then pure none
      else if ← isConstant value then pure (some value)
      else pure none
  let item : Declared := { type, name := some name, init := early, span }
  if setting.isExternal then
    let (global, qualifiers) ← declareModuleVariable qualifiers item
    let _ ← addExpression
      (match global with
        | .variable_ id => .globalVariable id
        | .constant id => .constant id) span
    return qualifiers
  else
    let place ← declareLocal qualifiers item
    match init, early with
    | some value, none =>
      restartEmit
      pushStatement (.store place value)
    | _, _ => pure ()
    return qualifiers

/-- Reads the variables of a declaration, up to and with the semicolon. -/
def parseDeclarators : Nat → Setting → Qualifiers → TypeId → Reading Unit
  | 0, _, _, _ => endOfFile
  | n + 1, setting, qualifiers, base => do
    let (token, start) ← take
    match token with
    | .punct .semicolon => return ()
    | .name name =>
      let (sizes, span) ← parseSizes n start
      let type ← arrayOfSizes span sizes base
      -- The initial value of a constant of the module is written into the module.
      let toModule := qualifiers.storage.1 = .constant && setting.isExternal
      let (init, span) ←
        match ← takeMark .assign with
        | none => pure (none, span)
        | some _ => do
          let (value, valueSpan) ← parseInit n toModule type
          pure (some value, span.join valueSpan)
      let qualifiers ← declareVariable setting qualifiers type name init span
      let (token, place) ← take
      match token with
      | .punct .semicolon => return ()
      | .punct .comma => parseDeclarators n setting qualifiers base
      | other =>
        stop (.unexpected other [.token (.punct .comma), .token (.punct .semicolon)]) place
    | other => stop (.unexpected other [.aName, .token (.punct .semicolon)]) start

/-- Declares the members of a block, from a place on. -/
def declareMembers (global : GlobalId) : List Member → Nat → Reading Unit
  | [], _ => pure ()
  | member :: rest, index => do
    match member.name with
    | none => pure ()
    | some name =>
      let target :=
        match global with
        | .variable_ id => GlobalTarget.member id index
        | .constant id => .constant id member.type
      let entry : GlobalName := { name, target, mutable_ := true }
      declareGlobal entry
      addGlobalName entry
    declareMembers global rest (index + 1)

/-- Reads a block after its opening brace. -/
def parseBlock (n : Nat) (qualifiers : Qualifiers) (blockName : String) (start : Span) :
    Reading Span := do
  let (entry, qualifiers) := qualifiers.takeEntry none
  -- Blocks that shaders write to are packed more tightly unless a layout says otherwise.
  let layout :=
    match entry.map (·.value), qualifiers.storage.1 with
    | some (.standard layout), _ => layout
    | _, .space (.storage _ _) => .std430
    | _, _ => .std140
  let (members, size) ← parseMembers n layout [] 1 0
  let _ ← expectMark .rightBrace
  let type ← insertType (some blockName) (.struct members size) .none
  let (token, place) ← take
  let (name, type, span) ←
    match token with
    -- Without a name for the variable its members become names of the module.
    | .punct .semicolon => pure (none, type, start)
    | .name name => do
      let (sizes, span) ← parseSizes n start
      let type ← arrayOfSizes span sizes type
      let _ ← expectMark .semicolon
      pure (some name, type, span)
    | other => stop (.unexpected other [.aName, .token (.punct .semicolon)]) place
  let (global, _) ← declareModuleVariable qualifiers { type, name, init := none, span }
  declareMembers global members 0
  return span

/-- Sets a side of the work groups from a layout. -/
def setWorkGroupSide (qualifiers : Qualifiers) (key : String) (side : Nat) :
    Reading Qualifiers := do
  let (value, qualifiers) ← takeNumber qualifiers key
  if let some value := value then
    modify fun bench => { bench with workGroupSize := bench.workGroupSize.set side value }
  return qualifiers

/-- Takes qualifiers into account that stand alone. -/
def applyLoneQualifiers (qualifiers : Qualifiers) : Reading Span := do
  let qualifiers ← setWorkGroupSide qualifiers "local_size_x" 0
  let qualifiers ← setWorkGroupSide qualifiers "local_size_y" 1
  let qualifiers ← setWorkGroupSide qualifiers "local_size_z" 2
  let (_, qualifiers) ← takeFlag qualifiers "early_fragment_tests"
  reportUnused qualifiers
  return qualifiers.span

/-- How the next word says that an argument reaches its parameter. -/
def passingOf : Token → Option Passing
  | .key .inKey => some .copied
  | .key .outKey => some .returned
  | .key .inOutKey => some .both
  | .key .constKey => some .constant
  | _ => none

/-- Adds a parameter. One that the function may change without the caller seeing it is copied into a
variable. -/
def addParameter (name : Option (String × Span)) (type : TypeId) (passing : Passing) :
    Reading Unit := do
  let index := (← get).desk.draft.arguments.size
  -- A parameter that the caller sees changed is passed as an address.
  let argumentType ←
    if passing.isPlace then do insertType none (.pointer type .function) (← spanOfType type)
    else pure type
  modify fun bench =>
    { bench with
      desk := bench.desk.updateDraft fun draft =>
        { draft with arguments := draft.arguments.push ⟨name.map (·.1), argumentType, none⟩ }
      parameters := bench.parameters.push type
      passing := bench.passing.push passing }
  match name with
  | none => pure ()
  | some (name, span) =>
    let expression ← addExpression (.functionArgument index) span
    -- Arguments are not variables, so one that may change is copied first.
    let reference : Reference ←
      if passing = .copied then do
        let id ← addLocal ⟨some name, type, none⟩
        let place ← addExpression (.localVariable id) span
        restartEmit
        pushStatement (.store place expression)
        pure { expression := place, load := true, mutable_ := true }
      else
        pure { expression, load := passing.isPlace, mutable_ := passing ≠ .constant }
    let _ ← declare name reference

/-- Reads the parameters of a function. -/
def parseParameters : Nat → Reading Unit
  | 0 => endOfFile
  | n + 1 => do
    -- Without a word that says how, a parameter is the function's own copy.
    let given := (← peek?).bind passingOf
    if !(given.isSome || (← peekType)) then return ()
    if given.isSome then
      let _ ← take
    let passing := given.getD .copied
    let (type, _) ← parseTypeNonVoid n
    match ← peek with
    | .punct .comma =>
      let _ ← take
      addParameter none type passing
      parseParameters n
    | .name _ =>
      let (name, start) ← expectName
      let (sizes, span) ← parseSizes n start
      let type ← arrayOfSizes span sizes type
      addParameter (some (name, span)) type passing
      match ← takeMark .comma with
      | some _ => parseParameters n
      | none => return ()
    | _ => addParameter none type passing

/-- Whether two lists of parameters have the same types. -/
def sameParameters (types : TypeTable) (a b : List TypeId) : Bool :=
  a.map types.shape = b.map types.shape

/-- The function in the making, as one of the module. -/
def finishedFunction (name : String) (result : Option TypeId) (body : List Statement)
    (span : Span) : Reading Function := do
  let draft := (← get).desk.draft
  return {
    name := some name
    arguments := draft.arguments
    result := result.map fun type => ⟨type, none⟩
    locals := draft.locals
    expressions := draft.expressions
    body
    span }

/-- Adds a function to the module. -/
def appendFunction (function : Function) : Reading Nat := do
  let id := (← theModule).functions.size
  updateModule fun module => { module with functions := module.functions.push function }
  return id

/-- Adds what is known of a function before its body. -/
def addPrototype (name : String) (result : Option TypeId) (span : Span) : Reading Unit := do
  let bench ← get
  let shapes := bench.parameters.toList.map bench.desk.module.types.shape
  let declarations ← declarationsOf name (shapes.any isDouble)
  let types := (← theModule).types
  if declarations.overloads.any fun old =>
      sameParameters types old.parameters bench.parameters.toList then
    report .prototypeDefined span
  else
    let id ← appendFunction
      { name := some name, arguments := bench.desk.draft.arguments
        result := result.map fun type => ⟨type, none⟩, span }
    setDeclarations name { declarations with
      overloads := declarations.overloads.push
        { parameters := bench.parameters.toList, passing := bench.passing.toList
          body := .function id, defined := false, isVoid := result.isNone } }

/-- Adds the function in the making to the module, in place of its prototype if it has one. -/
def addFunction (name : String) (result : Option TypeId) (span : Span) : Reading Unit := do
  let bench ← get
  let parameters := bench.parameters.toList
  let shapes := parameters.map bench.desk.module.types.shape
  let declarations ← declarationsOf name (shapes.any isDouble)
  let function ← finishedFunction name result (ensureReturns (← body).toList) span
  let types := (← theModule).types
  -- A prototype keeps its place in the module, because calls may name it already.
  match declarations.overloads.findIdx? fun old =>
      sameParameters types old.parameters parameters with
  | none =>
    let id ← appendFunction function
    setDeclarations name { declarations with
      overloads := declarations.overloads.push
        { parameters, passing := bench.passing.toList, body := .function id, defined := true
          isVoid := result.isNone } }
  | some place =>
    match declarations.overloads[place]? with
    | none => pure ()
    | some old =>
      if old.defined then report .functionDefined span
      else
        let id ←
          match old.body with
          | .function id => do
            updateModule fun module =>
              { module with
                functions := module.functions.modify id fun prototype =>
                  { function with span := prototype.span } }
            pure id
          -- A function of the language gives way to one of the program.
          | .builtIn _ => appendFunction function
        setDeclarations name { declarations with
          overloads := declarations.overloads.setIfInBounds place
            { old with passing := bench.passing.toList, body := .function id, defined := true } }

/-- Reads a function after its opening parenthesis. Only outside of all functions may it have a
body. -/
def parseFunction (n : Nat) (readBody : Option (Span → Reading Unit)) (result : Option TypeId)
    (name : String) (start : Span) : Reading Span :=
  withinFunction do
    match ← takeIf (.key .voidKey) with
    | some _ => pure ()
    | none => parseParameters n
    let close ← expectMark .rightParen
    let span := start.join close
    let (token, place) ← take
    let semicolon := Expected.token (.punct .semicolon)
    match token, readBody with
    | .punct .semicolon, _ => addPrototype name result span
    | .punct .leftBrace, some readBody =>
      readBody place
      addFunction name result span
    | other, some _ =>
      stop (.unexpected other [.token (.punct .leftBrace), semicolon]) place
    | other, none => stop (.unexpected other [semicolon]) place
    return span

/-- Reads a declaration that begins with its type. -/
def parseTyped (n : Nat) (setting : Setting) (readBody : Option (Span → Reading Unit))
    (qualifiers : Qualifiers) : Reading Span := do
  let (type, span) ← parseType n
  let found ← take
  let functionName? ←
    match found.1 with
    | .name name => do pure (if (← peek) = .punct .leftParen then some name else none)
    | _ => pure none
  match functionName? with
  | some name =>
    let _ ← take
    parseFunction n readBody type name span
  | none =>
    match type with
    | none => stop .voidDeclaration span
    | some type =>
      putBack found
      -- A comma may come before the first name.
      let _ ← takeMark .comma
      parseDeclarators n setting qualifiers type
      return span

/-- Reads a declaration that has qualifiers but no type of its own. -/
def parseUntyped (n : Nat) (qualifiers : Qualifiers) : Reading Span := do
  let (token, span) ← take
  match token with
  | .name name =>
    match ← takeMark .leftBrace with
    | some _ => parseBlock n qualifiers name span
    | none =>
      match qualifiers.invariance with
      | some _ =>
        let _ ← findName name span
        reportUnused { qualifiers with invariance := none }
        let _ ← expectMark .semicolon
        return qualifiers.span
      | none => stop (.notImplemented "variable qualifier") span
  | .punct .semicolon => applyLoneQualifiers qualifiers
  | other => stop (.unexpected other [.aName, .token (.punct .semicolon)]) span

/-- Reads a precision statement, which changes nothing. -/
def parsePrecision (n : Nat) : Reading Span := do
  let _ ← take
  let (token, span) ← take
  match token with
  | .precision _ => pure ()
  | other =>
    stop (.unexpected other [.token (.precision .high), .token (.precision .medium),
      .token (.precision .low)]) span
  let (type, typeSpan) ← parseTypeNonVoid n
  match ← shapeOfType type with
  | .scalar ⟨.float, _⟩ | .scalar ⟨.sint, _⟩ => pure ()
  | _ => report .precisionOfType typeSpan
  let _ ← expectMark .semicolon
  return typeSpan

/-- Reads a declaration, if there is one. -/
def parseDeclaration (n : Nat) (setting : Setting) (readBody : Option (Span → Reading Unit)) :
    Reading (Option Span) := do
  if (← peekQualifier) || (← peekType) then
    let qualifiers ← parseQualifiers n {}
    if ← peekType then return some (← parseTyped n setting readBody qualifiers)
    else return some (← parseUntyped n qualifiers)
  else if (← peek?) = some (.key .precisionKey) then return some (← parsePrecision n)
  else return none

end Reading

end ShaderBuild.Glsl
