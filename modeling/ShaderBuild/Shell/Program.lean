import ShaderBuild.Cache.Request
import ShaderBuild.Settings.Reading
import ShaderBuild.Shell.Arguments
import ShaderBuild.Shell.Verbosity

/-! The program as a function from words and files to an exit code, lines and files. -/

namespace ShaderBuild.Shell

/-- Something printed to the user. -/
inductive Line where
  | note (note : Log.Note)
  | plain (text : String)
  deriving DecidableEq

/-- A cache at work and what has been printed so far. -/
structure Run where
  service : Service
  printed : List Line := []

/-- The part of the program that notes about the command line come from. -/
def noteSource : String := "avd_shaderc"

namespace Run

/-- Prints the notes that were made. -/
def drain (run : Run) : Run :=
  { service := { run.service with notes := [] }
    printed := run.printed ++ run.service.notes.map .note }

/-- Prints a note. -/
def note (run : Run) (level : Log.Level) (text : String) : Run :=
  { run with printed := run.printed ++ [.note ⟨level, noteSource, text⟩] }

/-- Prints lines. -/
def print (run : Run) (texts : List String) : Run :=
  { run with printed := run.printed ++ texts.map .plain }

/-- The run with other files. -/
def withFiles (run : Run) (files : Files) : Run :=
  { run with service := { run.service with disk := run.service.disk.withFiles files } }

/-- The files as the run has left them so far. -/
def files (run : Run) : Files := run.service.disk.files

end Run

/-- Where the module of an input goes when nothing else is said. -/
def defaultOutput (input : Path) : Path :=
  input.append ".spv"

/-- Compiles a text, through the cache or without it. -/
def compileText (cached : Bool) (compiler : Compiler) (options : Options) (request : Request)
    (run : Run) : Except Failure CompiledShader × Run :=
  if cached then
    let (service, phase) := run.service.request request
    let run := { run with service := service }.drain
    match phase.answer? with
    | some (.returned (.ok shared)) => (.ok (.shared shared.handle), run)
    | some (.returned (.error failure)) => (.error failure, run)
    | some (.panicked message) => (.error (.toolchain request.name message), run)
    | none => (.error (.toolchain request.name "the compile is still in flight"), run)
  else
    let run := { run with service := run.service.noteAll (compiler.notes request options) }.drain
    match compiler.compile request options with
    | .finished (.ok bytecode) => (.ok (.owned bytecode), run)
    | .finished (.error failure) => (.error failure, run)
    | .panicked message => (.error (.toolchain request.name message), run)

/-- Makes the directories around a path. -/
def makeAround (path : Path) (run : Run) : Except Failure Unit × Run :=
  match path.parent? with
  | none => (.ok (), run)
  | some around =>
    if around.text.isEmpty then (.ok (), run)
    else
      match run.files.makeDirectories around with
      | (.ok (), files) => (.ok (), run.withFiles files)
      | (.error fault, files) => (.error (.file around.text fault.message), run.withFiles files)

/-- Writes a module to its file, after the directories around it. -/
def writeOutput (output : Path) (shader : CompiledShader) (run : Run) :
    Except Failure Unit × Run :=
  match makeAround output run with
  | (.error failure, run) => (.error failure, run)
  | (.ok (), run) =>
    match run.files.write output (shader.toBytes run.service.heap) with
    | .error fault => (.error (.file output.text fault.message), run)
    | .ok files =>
      (.ok (), (run.withFiles files).note .info
        ("Wrote " ++ Text.quoted output.text ++ " (" ++
          toString (shader.byteLength run.service.heap) ++ " bytes)"))

/-- Gives up a module that was written, or could not be. -/
def releaseShader (shader : CompiledShader) (run : Run) : Run :=
  { run with service := { run.service with heap := shader.release run.service.heap } }

/-- Compiles one file. -/
def compileFile (cached : Bool) (compiler : Compiler) (options : Options) (input output : Path)
    (run : Run) : Except Failure Unit × Run :=
  match run.files.readText input with
  | .error fault => (.error (.file input.text fault.message), run)
  | .ok source =>
    match compileText cached compiler options ⟨input.logicalName, source⟩ run with
    | (.error failure, run) => (.error failure, run)
    | (.ok shader, run) =>
      let (result, run) := writeOutput output shader run
      (result, releaseShader shader run)

/-- A diagnostic with the file that it is about. -/
def diagnosticLine (input : Path) (diagnostic : Diagnostic) : String :=
  input.text ++ ":" ++ toString diagnostic.line.toNat ++ ":" ++
    toString diagnostic.column.toNat ++ ": error: " ++ diagnostic.message

/-- Tells the user why an input failed. -/
def report (input : Path) (failure : Failure) (run : Run) : Run :=
  match failure with
  | .compile _ diagnostics => run.print (diagnostics.map (diagnosticLine input))
  | failure => run.note .error (input.text ++ ": " ++ failure.message)

/-- Compiles inputs in order and counts those that fail. -/
def compileAll (cached : Bool) (compiler : Compiler) (options : Options) (output : Option Path) :
    List Path → Run → Nat × Run
  | [], run => (0, run)
  | input :: inputs, run =>
    match compileFile cached compiler options input (output.getD (defaultOutput input)) run with
    | (.ok (), run) => compileAll cached compiler options output inputs run
    | (.error failure, run) =>
      let (failures, run) :=
        compileAll cached compiler options output inputs (report input failure run)
      (failures + 1, run)

/-- How a run ends. -/
structure Outcome where
  code : Nat
  output : String := ""
  /-- What goes to the error channel. -/
  errors : String := ""
  disk : Disk

/-- The lines that go to the error channel. -/
def Outcome.errorLines (outcome : Outcome) : List String :=
  (Text.lines outcome.errors.toList).map fun line => String.ofList line.body

/-- A text whose lines but the first are indented. -/
def hanging (text : String) : String :=
  "\n    ".intercalate ((Text.splitAtChar '\n' text.toList).map String.ofList)

/-- What is printed for a line. Notes are printed only when they are shown; nothing in them steers a
terminal. -/
def Line.render (filter : Log.Filter) : Line → String
  | .note made =>
    if filter.shows made then
      String.ofList (Text.withoutEscapes (hanging made.render ++ "\n").toList)
    else ""
  | .plain text => text ++ "\n"

/-- Ends a run. -/
def Run.end_ (run : Run) (filter : Log.Filter) (code : Nat) : Outcome :=
  { code := code
    errors := "".intercalate (run.printed.map (Line.render filter))
    disk := run.service.disk }

/-- An error that ends the program, with its cause. -/
def fatalText (message : String) (cause : Option String) : String :=
  "Error: " ++ message ++
    match cause with
    | none => ""
    | some cause => "\n\nCaused by:\n    " ++ hanging cause

/-- The first lines of a log file. -/
def bannerText (started : String) : String :=
  "=== avd-shaderc log ===\n" ++ "Started: " ++ started ++ "\n\n"

/-- Writes the first lines of the log file, if one is wanted; a failure says nothing. -/
def writeBanner (settings : LoggingSettings) (started : String) (files : Files) : Files :=
  if settings.logToFile then
    match files.write ⟨settings.logFile⟩ (bannerText started).toUTF8.toList with
    | .ok files => files
    | .error _ => files
  else files

/-- What surrounds a run: the specification of shown notes, when there is one, and the time. -/
structure Surroundings where
  logSpec : Option String := none
  started : String := ""

/-- The settings of the cache under a command line. -/
def cacheSettings (arguments : Arguments) (settings : Settings) : CacheSettings :=
  match arguments.cacheDirectory with
  | none => settings.cache
  | some directory => { settings.cache with diskDirectory := some directory }

/-- Whether a run uses the cache. -/
def usesCache (arguments : Arguments) (settings : Settings) : Bool :=
  !arguments.noCache && settings.cache.enabled

/-- Compiles all inputs and ends. A cache is given up only when nothing failed. -/
def compileBatch (compiler : Compiler) (arguments : Arguments) (options : Options) (cached : Bool)
    (filter : Log.Filter) (run : Run) : Outcome :=
  let (failures, run) :=
    compileAll cached compiler options arguments.output arguments.inputs run
  let run :=
    if cached then
      run.note .debug ("Cache statistics: " ++ run.service.cache.stats.render)
    else run
  if failures = 0 then
    (if cached then { run with service := run.service.close }.drain else run).end_ filter 0
  else
    (run.note .error s!"{failures} of {arguments.inputs.length} shaders failed to compile").end_
      filter 1

/-- Compiles under settings that were read. -/
def compileUnder (compiler : Compiler) (surroundings : Surroundings) (arguments : Arguments)
    (settings : Settings) (disk : Disk) : Outcome :=
  let (filter, faults) := Log.readFilter
    (surroundings.logSpec.getD (Log.thresholdName settings.logging.threshold))
  let disk := disk.withFiles (writeBanner settings.logging surroundings.started disk.files)
  let run := Run.print { service := { cache := { compiler := compiler }, disk := disk } }
    (faults.map fun fault => "warning: " ++ fault ++ ", ignoring it")
  let fail := fun (run : Run) (message : String) =>
    (run.print [fatalText message none]).end_ filter 1
  if arguments.output.isSome && arguments.inputs.length != 1 then
    fail run s!"--output requires exactly one input, got {arguments.inputs.length}"
  else
    match settings.compiler.options with
    | .error failure => fail run failure.message
    | .ok options =>
      let options := { options with stage := arguments.stage }
      if usesCache arguments settings then
        match run.service.configure compiler (cacheSettings arguments settings)
            settings.compiler with
        | (.error failure, service) => fail { run with service := service }.drain failure.message
        | (.ok (), service) =>
          let service := service.withCache { service.cache with options := options }
          compileBatch compiler arguments options true filter { run with service := service }.drain
      else compileBatch compiler arguments options false filter run

/-- Runs the program. -/
def run (compiler : Compiler) (surroundings : Surroundings) (words : List String) (disk : Disk) :
    Outcome :=
  match parse words with
  | .error fault => { code := 2, errors := fault.message ++ "\n", disk := disk }
  | .ok .help => { code := 0, output := helpText, disk := disk }
  | .ok .version => { code := 0, output := versionText, disk := disk }
  | .ok (.compile arguments) =>
    match Settings.load disk.files arguments.config with
    | .error fault =>
      { code := 1, errors := fatalText fault.message (some fault.cause) ++ "\n", disk := disk }
    | .ok settings => compileUnder compiler surroundings arguments settings disk

end ShaderBuild.Shell
