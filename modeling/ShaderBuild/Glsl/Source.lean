import ShaderBuild.Glsl.Statement

/-! Whole programs, with an entry point that is built around the main function. -/

namespace ShaderBuild.Glsl

open ShaderBuild.Program

/-- The entry point in the making. -/
structure EntryDraft where
  expressions : Array Expression
  body : Array Statement := #[]
  arguments : Array Argument := #[]
  members : List Member := []
  components : List ExprId := []
  size : Nat := 0

namespace EntryDraft

/-- Stores an input into its variable. -/
def addInput (module : Module) (draft : EntryDraft) (varying : Varying) : EntryDraft :=
  if varying.isOutput then draft
  else
    let pointer := draft.expressions.size
    let type := (module.globals[varying.global]?.map (·.type)).getD 0
    { draft with
      expressions := (draft.expressions.push (.globalVariable varying.global)).push
        (.functionArgument draft.arguments.size)
      body := draft.body.push (.store pointer (pointer + 1))
      arguments := draft.arguments.push ⟨varying.name, type, some varying.binding⟩ }

/-- Reads an output from its variable. -/
def addOutput (module : Module) (draft : EntryDraft) (varying : Varying) : EntryDraft :=
  if !varying.isOutput then draft
  else
    let pointer := draft.expressions.size
    let type := (module.globals[varying.global]?.map (·.type)).getD 0
    { draft with
      expressions := (draft.expressions.push (.globalVariable varying.global)).push (.load pointer)
      body := draft.body.push (.emit (pointer + 1) 1)
      members := draft.members ++
        [{ name := varying.name, type, binding := some varying.binding, offset := draft.size }]
      components := draft.components ++ [pointer + 1]
      size := draft.size + (extentOf module.types (type + 1) type).2 }

/-- The entry point's function; several outputs are returned as one structure. -/
def finish (module : Module) (draft : EntryDraft) : Module × Function :=
  if draft.components.isEmpty then
    (module,
      { arguments := draft.arguments, expressions := draft.expressions
        body := (draft.body.push (.ret none)).toList })
  else
    let (types, type) :=
      module.types.insert none (.struct draft.members draft.size) .none
    let whole := draft.expressions.size
    ({ module with types },
      { arguments := draft.arguments
        result := some ⟨type, none⟩
        expressions := draft.expressions.push (.compose type draft.components)
        body := ((draft.body.push (.emit whole 1)).push (.ret (some whole))).toList })

end EntryDraft

/-- Adds the entry point around the main function. The draft holds what the text says outside of
all functions. -/
def addEntryPoint (module : Module) (stage : Stage) (workGroupSize : List Nat) (draft : Draft)
    (varyings : Array Varying) (main : Nat) : Module :=
  let entry : EntryDraft := { expressions := draft.expressions }
  let entry := varyings.foldl (EntryDraft.addInput module) entry
  let entry := { entry with body := (entry.body ++ draft.body).push (.call main [] none) }
  let entry := varyings.foldl (EntryDraft.addOutput module) entry
  let (module, function) := entry.finish module
  { module with entryPoint := some { name := "main", stage, workGroupSize, function } }

namespace Reading

/-- Reads declarations to the end of the text. -/
def parseExternals : Nat → Reading Unit
  | 0 => endOfFile
  | n + 1 => do
    match ← peek? with
    | none => return ()
    | some _ =>
      let readBody := fun (_ : Span) => do
        let _ ← parseCompound n false
      match ← parseDeclaration n ⟨true, false⟩ (some readBody) with
      | some _ => parseExternals n
      | none =>
        let (token, span) ← take
        let allowsEmpty := (← get).version = 460
        if allowsEmpty && token = .punct .semicolon then parseExternals n
        else
          let semicolon := if allowsEmpty then [Expected.token (.punct .semicolon)] else []
          stop (.unexpected token (semicolon ++ [.theEnd])) span

/-- The main function: one with a body and without parameters. -/
def findMain : Reading Nat := do
  let overloads := (((← get).functions.lookup "main").getD {}).overloads
  let isMain := fun (overload : Overload) =>
    match overload.body with
    | .function id => if overload.defined && overload.parameters.isEmpty then some id else none
    | .builtIn _ => none
  match overloads.findSome? isMain with
  | some id => return id
  | none => stop .missingEntryPoint .none

/-- Reads a program. -/
def parseProgram (stage : Stage) : Reading Module := do
  beginFunction
  parseExternals (depthFor (← get).items)
  let main ← findMain
  let bench ← get
  return addEntryPoint bench.desk.module stage bench.workGroupSize bench.desk.draft bench.varyings
    main

end Reading

/-- The size of the work groups of a program that does not tell it. -/
def defaultWorkGroupSize : Stage → List Nat
  | .compute => [1, 1, 1]
  | .vertex | .fragment => [0, 0, 0]

/-- Reads the text of a program; the answer is the program or all that is wrong with its text. -/
def parse (stage : Stage) (macros : Macros) (text : String) :
    Except (List (SourceFault × Span)) Module :=
  let start : Bench :=
    { items := itemsOf macros text, workGroupSize := defaultWorkGroupSize stage }
  match (Reading.parseProgram stage).run.run start with
  | (.ok module, bench) =>
    if bench.faults.isEmpty then .ok module else .error bench.faults.toList
  | (.error fault, bench) => .error (bench.faults.push fault).toList

end ShaderBuild.Glsl
