import ShaderBuild.Spirv.Instruction
import ShaderBuild.Program.Check
import ShaderBuild.Program.Fold

/-! The sections of a module as they are filled, each type and constant once. -/

namespace ShaderBuild.Spirv

open ShaderBuild.Program

/-- A type that need not stand in the program's table. -/
inductive LocalType where
  | scalar (scalar : Scalar)
  | vector (size : VectorSize) (scalar : Scalar)
  | pointer (base : TypeId) (storage : StorageClass)
  | numericPointer (size : Option VectorSize) (scalar : Scalar) (storage : StorageClass)
  deriving DecidableEq, Repr

/-- What a written type was written for. -/
inductive TypeKey where
  | table (id : TypeId)
  | local (type : LocalType)
  deriving DecidableEq, Repr

/-- The choices that a module is written under. -/
structure Format where
  version : UInt8 × UInt8
  debugNames : Bool
  flipY : Bool

/-- Whether the format's version is at least the given one. -/
def Format.atLeast (format : Format) (major minor : UInt8) : Bool :=
  major < format.version.1 || (format.version.1 == major && minor ≤ format.version.2)

/-- The module as far as it is written. -/
structure Sheet where
  nextId : UInt32 := 3
  names : Array Instruction := #[]
  annotations : Array Instruction := #[]
  declarations : Array Instruction := #[]
  executionModes : Array Instruction := #[]
  entryPoints : Array Instruction := #[]
  functions : Array Instruction := #[]
  tableTypes : Array UInt32 := #[]
  localTypes : List (LocalType × UInt32) := []
  functionTypes : List ((List UInt32 × UInt32) × UInt32) := []
  literals : List (Literal × UInt32) := []
  composites : List ((TypeKey × List UInt32) × UInt32) := []
  nulls : List (UInt32 × UInt32) := []
  /-- The identifiers of the module's own expressions. -/
  constants : Array UInt32 := #[]
  /-- The identifiers of the module's variables; zero for those left out. -/
  globals : Array UInt32 := #[]
  functionIds : Array UInt32 := #[]

/-- Writing changes the sheet. -/
abbrev Writing := StateM Sheet

namespace Writing

/-- The set of extended instructions. -/
def extendedSet : UInt32 := 1

/-- The type of functions that return nothing. -/
def voidType : UInt32 := 2

/-- An identifier that was not used before. -/
def fresh : Writing UInt32 :=
  modifyGet fun sheet => (sheet.nextId, { sheet with nextId := sheet.nextId + 1 })

/-- Adds a declaration. -/
def declare (opcode : Nat) (operands : List UInt32) : Writing Unit :=
  modify fun sheet => { sheet with declarations := sheet.declarations.push ⟨opcode, operands⟩ }

/-- Adds a decoration of an identifier. -/
def decorate (id decoration : UInt32) (operands : List UInt32) : Writing Unit :=
  modify fun sheet =>
    { sheet with
      annotations := sheet.annotations.push ⟨Op.decorate, id :: decoration :: operands⟩ }

/-- Adds the offset of a member and its name. -/
def describeMember (id : UInt32) (index : Nat) (member : Member) : Writing Unit :=
  modify fun sheet =>
    let index := UInt32.ofNat index
    let annotations := sheet.annotations.push
      ⟨Op.memberDecorate, [id, index, Decoration.offset, UInt32.ofNat member.offset]⟩
    let names :=
      match member.name with
      | some name => sheet.names.push ⟨Op.memberName, id :: index :: textWords name⟩
      | none => sheet.names
    { sheet with annotations, names }

/-- Adds the name of an identifier. -/
def nameId (id : UInt32) (name : Option String) : Writing Unit :=
  match name with
  | none => pure ()
  | some name =>
    modify fun sheet => { sheet with names := sheet.names.push ⟨Op.name, id :: textWords name⟩ }

/-- The storage class of an address space. -/
def storageOf : AddressSpace → StorageClass
  | .function => .function
  | .privateSpace => .privateClass
  | .workGroup => .workGroup
  | .uniform => .uniform
  | .storage .. => .storageBuffer
  | .pushConstant => .pushConstant

/-- The type that stands for a shape outside the table, where there is one. -/
def localType? : Shape → Option LocalType
  | .scalar scalar => some (.scalar scalar)
  | .vector size scalar => some (.vector size scalar)
  | .pointer base space => some (.pointer base (storageOf space))
  | .valuePointer size scalar space => some (.numericPointer size scalar (storageOf space))
  | .array .. | .struct .. => none

/-- The identifier of a type of the table. -/
def tableType (id : TypeId) : Writing UInt32 := do
  return (← get).tableTypes.getD id 0

/-- Remembers a type that was written. -/
def rememberType (type : LocalType) (id : UInt32) : Writing Unit :=
  modify fun sheet => { sheet with localTypes := (type, id) :: sheet.localTypes }

/-- The identifier of a scalar type. -/
def scalarType (scalar : Scalar) : Writing UInt32 := do
  match (← get).localTypes.lookup (.scalar scalar) with
  | some id => return id
  | none =>
    let id ← fresh
    rememberType (.scalar scalar) id
    let bits := UInt32.ofNat (8 * scalar.width)
    match scalar.kind with
    | .sint => declare Op.typeInt [id, bits, 1]
    | .uint => declare Op.typeInt [id, bits, 0]
    | .float => declare Op.typeFloat [id, bits]
    | .bool => declare Op.typeBool [id]
    return id

/-- The identifier of a vector type. -/
def vectorType (size : VectorSize) (scalar : Scalar) : Writing UInt32 := do
  match (← get).localTypes.lookup (.vector size scalar) with
  | some id => return id
  | none =>
    let id ← fresh
    rememberType (.vector size scalar) id
    let component ← scalarType scalar
    declare Op.typeVector [id, component, UInt32.ofNat size.toNat]
    return id

/-- The identifier of a type that need not stand in the table. -/
def localTypeId (type : LocalType) : Writing UInt32 := do
  match (← get).localTypes.lookup type with
  | some id => return id
  | none =>
    match type with
    | .scalar scalar => scalarType scalar
    | .vector size scalar => vectorType size scalar
    | .pointer base storage =>
      let id ← fresh
      rememberType type id
      let target ← tableType base
      declare Op.typePointer [id, storage.word, target]
      return id
    | .numericPointer size scalar storage =>
      let id ← fresh
      rememberType type id
      let target ←
        match size with
        | some size => vectorType size scalar
        | none => scalarType scalar
      declare Op.typePointer [id, storage.word, target]
      return id

/-- The identifier of a pointer to a type of the table. -/
def pointerType (base : TypeId) (storage : StorageClass) : Writing UInt32 :=
  localTypeId (.pointer base storage)

/-- What the type of an expression was written for. -/
def typeKey : Resolution → TypeKey
  | .known id => .table id
  | .made shape =>
    match localType? shape with
    | some type => .local type
    | none => .local (.scalar .boolean)

/-- The identifier of a type. -/
def typeId : TypeKey → Writing UInt32
  | .table id => tableType id
  | .local type => localTypeId type

/-- The identifier of a literal. -/
def literalId (value : Literal) : Writing UInt32 := do
  match (← get).literals.lookup value with
  | some id => return id
  | none =>
    let id ← fresh
    let type ← scalarType value.scalar
    match value with
    | .f64 bits => declare Op.constant [type, id, bits.toUInt32, (bits >>> 32).toUInt32]
    | .f32 bits => declare Op.constant [type, id, bits]
    | .u32 value => declare Op.constant [type, id, value]
    | .i32 value => declare Op.constant [type, id, value.toUInt32]
    | .bool true => declare Op.constantTrue [type, id]
    | .bool false => declare Op.constantFalse [type, id]
    modify fun sheet => { sheet with literals := (value, id) :: sheet.literals }
    return id

/-- The identifier of an index. -/
def indexId (index : Nat) : Writing UInt32 :=
  literalId (.u32 (UInt32.ofNat index))

/-- The identifier of a composite constant. -/
def compositeId (key : TypeKey) (parts : List UInt32) : Writing UInt32 := do
  match (← get).composites.lookup (key, parts) with
  | some id => return id
  | none =>
    let id ← fresh
    let type ← typeId key
    declare Op.constantComposite (type :: id :: parts)
    modify fun sheet => { sheet with composites := ((key, parts), id) :: sheet.composites }
    return id

/-- Writes a zero of a type, even if there is one already. -/
def freshNull (type : UInt32) : Writing UInt32 := do
  let id ← fresh
  declare Op.constantNull [type, id]
  return id

/-- The identifier of the zero of a type. -/
def nullId (type : UInt32) : Writing UInt32 := do
  match (← get).nulls.lookup type with
  | some id => return id
  | none =>
    let id ← freshNull type
    modify fun sheet => { sheet with nulls := (type, id) :: sheet.nulls }
    return id

/-- The identifier of a function type. -/
def functionType (parameters : List UInt32) (result : UInt32) : Writing UInt32 := do
  match (← get).functionTypes.lookup (parameters, result) with
  | some id => return id
  | none =>
    let id ← fresh
    declare Op.typeFunction (id :: result :: parameters)
    modify fun sheet =>
      { sheet with functionTypes := ((parameters, result), id) :: sheet.functionTypes }
    return id

/-- Whether a member is an array whose length is known only at run time. -/
def isRuntimeArray (types : TypeTable) (type : TypeId) : Bool :=
  match types.shape type with
  | .array _ .dynamic _ => true
  | _ => false

/-- Describes the members of a structure, from a place on, and collects their types. -/
def writeMembers (id : UInt32) : List Member → Nat → Writing (List UInt32)
  | [], _ => pure []
  | member :: rest, index => do
    describeMember id index member
    let type ← tableType member.type
    let types ← writeMembers id rest (index + 1)
    return type :: types

/-- Writes a type of the table. -/
def writeType (types : TypeTable) (entry : TypeEntry) : Writing Unit := do
  let id ←
    match localType? entry.shape with
    | some type => localTypeId type
    | none =>
      -- Arrays and structures carry layouts, so each entry of the table is its own type.
      let id ← fresh
      match entry.shape with
      | .array base size stride =>
        decorate id Decoration.arrayStride [UInt32.ofNat stride]
        let element ← tableType base
        match size with
        | .constant n =>
          let length ← indexId n
          declare Op.typeArray [id, element, length]
        | .dynamic => declare Op.typeRuntimeArray [id, element]
      | .struct members _ =>
        let parts ← writeMembers id members 0
        if members.any fun member => isRuntimeArray types member.type then
          decorate id Decoration.block []
        declare Op.typeStruct (id :: parts)
      | _ => pure ()
      pure id
  modify fun sheet => { sheet with tableTypes := sheet.tableTypes.push id }
  nameId id entry.name

/-- Writes one of the module's own expressions. -/
def writeConstant (module : Module) (types : Array Resolution) (id : ExprId)
    (expression : Expression) : Writing Unit := do
  let known := fun (constants : Array UInt32) (part : ExprId) => constants.getD part 0
  let word ←
    match expression with
    | .literal value => literalId value
    | .constant constant =>
      let init := (module.constants[constant]?.map (·.init)).getD 0
      pure (known (← get).constants init)
    | .zeroValue type => do
      let type ← tableType type
      nullId type
    | .compose type components =>
      -- Nested parts are written as one row of components.
      let flat := Folding.flatten module.types module.globalExpressions type components
      let constants := (← get).constants
      compositeId (.table type) (flat.map (known constants))
    | .splat size value =>
      let part := known (← get).constants value
      compositeId (typeKey (types.getD id (.made (.scalar .boolean))))
        (List.replicate size.toNat part)
    | _ => pure 0
  modify fun sheet => { sheet with constants := sheet.constants.push word }

/-- Whether a variable is wrapped into a structure of its own, so that it can be a block. -/
def needsWrapper (module : Module) (item : GlobalVariable) : Bool :=
  match item.space with
  | .uniform | .storage .. | .pushConstant =>
    match module.types.shape item.type with
    | .struct members _ =>
      match members.getLast? with
      | some member => !isRuntimeArray module.types member.type
      | none => false
    | _ => true
  | _ => false

/-- Writes a variable of the module. -/
def writeVariable (module : Module) (item : GlobalVariable) : Writing UInt32 := do
  let id ← fresh
  let storage := storageOf item.space
  nameId id item.name
  -- What a shader must not do with a block is said of the whole variable.
  if let .storage load store := item.space then
    if !load then decorate id Decoration.nonReadable []
    if !store then decorate id Decoration.nonWritable []
  if let some binding := item.binding then
    decorate id Decoration.descriptorSet [UInt32.ofNat binding.group]
    decorate id Decoration.binding [UInt32.ofNat binding.binding]
  let constants := (← get).constants
  let given := item.init.map fun init => constants.getD init 0
  let inner ← tableType item.type
  let pointer ←
    if needsWrapper module item then do
      let wrapper ← fresh
      decorate wrapper Decoration.block []
      describeMember wrapper 0 ⟨none, item.type, none, 0⟩
      declare Op.typeStruct [wrapper, inner]
      let pointer ← fresh
      declare Op.typePointer [pointer, storage.word, wrapper]
      pure pointer
    else pointerType item.type storage
  -- A private variable starts with zeros when it has no value of its own.
  let value ←
    match item.space, given with
    | .privateSpace, none => do
      let null ← nullId inner
      pure (some null)
    | _, given => pure given
  declare Op.var ([pointer, id, storage.word] ++ value.toList)
  return id

end Writing

end ShaderBuild.Spirv
