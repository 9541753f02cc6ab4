import ShaderBuild.Spirv.Function
import ShaderBuild.Bytecode

/-! A checked program as the words of a module. -/

namespace ShaderBuild.Spirv

open ShaderBuild.Program

/-- Writes types, in order. -/
def writeTypes (types : TypeTable) : List TypeEntry → Writing Unit
  | [] => pure ()
  | entry :: rest => do
    Writing.writeType types entry
    writeTypes types rest

/-- Writes the module's own expressions, from a place on. -/
def writeConstants (module : Module) (types : Array Resolution) :
    List Expression → ExprId → Writing Unit
  | [], _ => pure ()
  | expression :: rest, id => do
    Writing.writeConstant module types id expression
    writeConstants module types rest (id + 1)

/-- Names the values of the named constants. -/
def nameConstants : List Constant → Writing Unit
  | [] => pure ()
  | item :: rest => do
    let id := (← get).constants.getD item.init 0
    Writing.nameId id item.name
    nameConstants rest

/-- Writes the variables that the entry point uses, from a place on. -/
def writeGlobals (module : Module) (use : FunctionUse) :
    List GlobalVariable → Nat → Writing Unit
  | [], _ => pure ()
  | item :: rest, place => do
    let id ← if use.usesGlobal place then Writing.writeVariable module item else pure 0
    modify fun sheet => { sheet with globals := sheet.globals.push id }
    writeGlobals module use rest (place + 1)

/-- Writes the functions that can be called from the entry point. -/
def writeFunctions (module : Module) (format : Format) (entry : FunctionUse) :
    List (Function × FunctionUse) → Writing Unit
  | [] => pure ()
  | (function, use) :: rest => do
    let id ←
      if entry.dominates use && (!use.fragmentOnly || entry.fragmentOnly) then do
        let (id, _) ← writeFunction module format function use none
        pure id
      else pure 0
    modify fun sheet => { sheet with functionIds := sheet.functionIds.push id }
    writeFunctions module format entry rest

/-- The number of a stage. -/
def stageWord : Stage → UInt32
  | .vertex => 0
  | .fragment => 4
  | .compute => 5

/-- Whether an entry point sets the depth. -/
def setsDepth (module : Module) (entry : EntryPoint) : Bool :=
  match entry.function.result.map fun result => module.types.shape result.type with
  | some (.struct members _) => members.any fun m => m.binding = some (.builtIn .fragDepth)
  | _ => false

/-- How an entry point runs. -/
def executionModes (module : Module) (entry : EntryPoint) (id : UInt32) : Array Instruction :=
  match entry.stage with
  | .vertex => #[]
  | .fragment =>
    #[⟨Op.executionMode, [id, 7]⟩] ++
      if setsDepth module entry then #[⟨Op.executionMode, [id, 12]⟩] else #[]
  | .compute =>
    #[⟨Op.executionMode, [id, 17] ++ entry.workGroupSize.map UInt32.ofNat⟩]

/-- Writes the entry point. -/
def writeEntry (module : Module) (format : Format) (entry : EntryPoint) (use : FunctionUse) :
    Writing Unit := do
  let (id, interface) ← writeFunction module format entry.function use (some entry.stage)
  modify fun sheet =>
    { sheet with
      executionModes := sheet.executionModes ++ executionModes module entry id
      entryPoints := sheet.entryPoints.push
        ⟨Op.entryPoint, [stageWord entry.stage, id] ++ textWords entry.name ++ interface.toList⟩ }

/-- Writes everything that has an identifier. -/
def writeModule (module : Module) (checked : Checked) (format : Format) (entry : EntryPoint)
    (use : FunctionUse) : Writing Unit := do
  writeTypes module.types module.types.toList
  writeConstants module checked.types module.globalExpressions.toList 0
  nameConstants module.constants.toList
  writeGlobals module use module.globals.toList 0
  writeFunctions module format use (module.functions.toList.zip checked.functions.toList)
  writeEntry module format entry use

/-- Whether a module has a variable in a storage buffer. -/
def hasStorage (module : Module) : Bool :=
  module.globals.any fun item => match item.space with | .storage .. => true | _ => false

/-- The instructions of a module, section after section. -/
def sections (module : Module) (format : Format) (sheet : Sheet) : List Instruction :=
  [⟨Op.capability, [1]⟩] ++
    (if hasStorage module && !format.atLeast 1 3 then
      [⟨Op.extension, textWords "SPV_KHR_storage_buffer_storage_class"⟩] else []) ++
    [⟨Op.extInstImport, Writing.extendedSet :: textWords "GLSL.std.450"⟩,
      ⟨Op.memoryModel, [0, 1]⟩] ++
    sheet.entryPoints.toList ++ sheet.executionModes.toList ++
    (if format.debugNames then sheet.names.toList else []) ++ sheet.annotations.toList ++
    [⟨Op.typeVoid, [Writing.voidType]⟩] ++ sheet.declarations.toList ++ sheet.functions.toList

/-- The number of the writer. -/
def generator : UInt32 := 28

/-- The words before the instructions. -/
def header (format : Format) (bound : UInt32) : List UInt32 :=
  [spirvMagic, (format.version.1.toUInt32 <<< 16) ||| (format.version.2.toUInt32 <<< 8),
    generator, bound, 0]

/-- The words of a checked program with an entry point. -/
def image (module : Module) (checked : Checked) (format : Format) (entry : EntryPoint)
    (use : FunctionUse) : List UInt32 :=
  let ((), sheet) := (writeModule module checked format entry use).run {}
  header format sheet.nextId ++
    (sections module format sheet).flatMap Instruction.words

end ShaderBuild.Spirv
