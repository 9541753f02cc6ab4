import ShaderBuild.Shell.Program

/-! A run of the program told input by input, whose end is the outcome of the run. -/

namespace ShaderBuild.Shell

/-- The lines that were printed, without the notes. -/
def Run.lines (run : Run) : List String :=
  run.printed.filterMap fun
    | .plain text => some text
    | .note _ => none

/-- What became of an input. -/
structure Attempt where
  input : Path
  output : Path
  /-- What was to be compiled, if the input could be read. -/
  request? : Option Request
  result : Except Failure Unit

/-- Whether the module was written. -/
def Attempt.succeeded (attempt : Attempt) : Bool :=
  attempt.result.isOk

/-- What an input asks the compiler for, if it can be read. -/
def request? (files : Files) (input : Path) : Option Request :=
  (files.readText input).toOption.map fun source => ⟨input.logicalName, source⟩

/-- Where the module of an input goes. -/
def goal (output : Option Path) (input : Path) : Path :=
  output.getD (defaultOutput input)

/-- The run after a result, which is reported if it is a failure. -/
def Run.told (run : Run) (input : Path) : Except Failure Unit → Run
  | .ok () => run
  | .error failure => report input failure run

/-- Compiles one input and reports a failure. -/
def attempt (cached : Bool) (compiler : Compiler) (options : Options) (output : Option Path)
    (input : Path) (run : Run) : Attempt × Run :=
  let (result, after) := compileFile cached compiler options input (goal output input) run
  (⟨input, goal output input, request? run.files input, result⟩, after.told input result)

/-- Compiles inputs in order. -/
def attempts (cached : Bool) (compiler : Compiler) (options : Options) (output : Option Path) :
    List Path → Run → List Attempt × Run
  | [], run => ([], run)
  | input :: inputs, run =>
    let (first, run) := attempt cached compiler options output input run
    let (rest, run) := attempts cached compiler options output inputs run
    (first :: rest, run)

/-- A run: what became of its inputs, the run before it ends, and the exit code. -/
structure Trace where
  filter : Log.Filter
  attempts : List Attempt
  last : Run
  code : Nat

namespace Trace

/-- How the run ends. -/
def outcome (trace : Trace) : Outcome :=
  trace.last.end_ trace.filter trace.code

/-- The lines that the run prints. -/
def lines (trace : Trace) : List String :=
  trace.last.lines

/-- The files that the run leaves. -/
def files (trace : Trace) : Files :=
  trace.last.files

end Trace

/-- The filter of notes and the run before anything is compiled. -/
def opening (compiler : Compiler) (surroundings : Surroundings) (settings : Settings)
    (disk : Disk) : Log.Filter × Run :=
  let (filter, faults) := Log.readFilter
    (surroundings.logSpec.getD (Log.thresholdName settings.logging.threshold))
  let disk := disk.withFiles (writeBanner settings.logging surroundings.started disk.files)
  (filter, Run.print { service := { cache := { compiler := compiler }, disk := disk } }
    (faults.map fun fault => "warning: " ++ fault ++ ", ignoring it"))

/-- The trace of a run that fails before anything is compiled. -/
def failedTrace (filter : Log.Filter) (run : Run) (message : String) : Trace :=
  ⟨filter, [], run.print [fatalText message none], 1⟩

/-- The trace of a run that compiles its inputs. -/
def traceBatch (compiler : Compiler) (arguments : Arguments) (options : Options) (cached : Bool)
    (filter : Log.Filter) (run : Run) : Trace :=
  let (attempts, run) :=
    attempts cached compiler options arguments.output arguments.inputs run
  let failures := attempts.countP fun attempt => !attempt.succeeded
  let run :=
    if cached then
      run.note .debug ("Cache statistics: " ++ run.service.cache.stats.render)
    else run
  if failures = 0 then
    ⟨filter, attempts, if cached then { run with service := run.service.close }.drain else run, 0⟩
  else
    ⟨filter, attempts,
      run.note .error s!"{failures} of {arguments.inputs.length} shaders failed to compile", 1⟩

/-- The options that a run compiles with, or why it fails at once. -/
def Arguments.options (arguments : Arguments) (settings : Settings) : Except String Options :=
  if arguments.output.isSome && arguments.inputs.length != 1 then
    .error s!"--output requires exactly one input, got {arguments.inputs.length}"
  else
    match settings.compiler.options with
    | .error failure => .error failure.message
    | .ok options => .ok { options with stage := arguments.stage }

/-- The trace of a run under settings that were read. -/
def trace (compiler : Compiler) (surroundings : Surroundings) (arguments : Arguments)
    (settings : Settings) (disk : Disk) : Trace :=
  let (filter, run) := opening compiler surroundings settings disk
  match arguments.options settings with
  | .error message => failedTrace filter run message
  | .ok options =>
    if usesCache arguments settings then
      match run.service.configure compiler (cacheSettings arguments settings) settings.compiler with
      | (.error failure, service) =>
        failedTrace filter { run with service := service }.drain failure.message
      | (.ok (), service) =>
        let service := service.withCache { service.cache with options := options }
        traceBatch compiler arguments options true filter { run with service := service }.drain
    else traceBatch compiler arguments options false filter run

/-- The attempts are those of the run, and the failures are counted. -/
theorem compileAll_eq (cached : Bool) (compiler : Compiler) (options : Options)
    (output : Option Path) (inputs : List Path) (run : Run) :
    compileAll cached compiler options output inputs run =
      ((attempts cached compiler options output inputs run).1.countP fun attempt =>
        !attempt.succeeded, (attempts cached compiler options output inputs run).2) := by
  -- Input by input.
  induction inputs generalizing run with
  | nil => rfl
  | cons input inputs ih =>
    rw [compileAll, attempts, attempt, goal]
    generalize compileFile cached compiler options input _ run = compiled
    obtain ⟨result, after⟩ := compiled
    cases result with
    | ok =>
      simp only [ih, Run.told, List.countP_cons]
      rfl
    | error failure =>
      simp only [ih, Run.told, List.countP_cons]
      rfl

/-- The outcome of a batch is the end of its trace. -/
theorem compileBatch_eq (compiler : Compiler) (arguments : Arguments) (options : Options)
    (cached : Bool) (filter : Log.Filter) (run : Run) :
    compileBatch compiler arguments options cached filter run =
      (traceBatch compiler arguments options cached filter run).outcome := by
  -- Both go through the inputs, and tell the failures if there are any.
  rw [compileBatch, traceBatch, compileAll_eq]
  simp only
  split <;> rfl

/-- The outcome of a run is the end of its trace. -/
theorem run_eq_outcome {compiler : Compiler} {surroundings : Surroundings} {words : List String}
    {arguments : Arguments} {settings : Settings} {disk : Disk}
    (given : parse words = .ok (.compile arguments))
    (loaded : Settings.load disk.files arguments.config = .ok settings) :
    run compiler surroundings words disk =
      (trace compiler surroundings arguments settings disk).outcome := by
  rw [run, given]
  simp only [loaded]
  unfold compileUnder trace opening Arguments.options
  simp only
  -- The two go the same ways.
  split
  · rfl
  · cases settings.compiler.options with
    | error failure => rfl
    | ok options =>
      simp only
      split
      · generalize Service.configure _ compiler _ _ = configured
        obtain ⟨result, service⟩ := configured
        cases result with
        | error failure => rfl
        | ok => exact compileBatch_eq ..
      · exact compileBatch_eq ..

end ShaderBuild.Shell
