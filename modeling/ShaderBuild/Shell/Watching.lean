import ShaderBuild.Shell.Trace
import ShaderBuild.Watch

/-! Inputs that change after they were compiled are compiled again, all through one cache. -/

namespace ShaderBuild.Shell

/-- Sets up the cache of a run that uses one, or ends with the reason why it cannot compile. -/
def prepare (compiler : Compiler) (arguments : Arguments) (settings : Settings) (run : Run) :
    Except Run (Options × Run) :=
  match arguments.options settings with
  | .error message => .error (run.print [fatalText message none])
  | .ok options =>
    if usesCache arguments settings then
      match run.service.configure compiler (cacheSettings arguments settings) settings.compiler with
      | (.error failure, service) =>
        .error ({ run with service := service }.drain.print [fatalText failure.message none])
      | (.ok (), service) =>
        let service := service.withCache { service.cache with options := options }
        .ok (options, { run with service := service }.drain)
    else .ok (options, run)

/-- A run sets up its cache first, and compiles its inputs then. -/
theorem trace_eq (compiler : Compiler) (surroundings : Surroundings) (arguments : Arguments)
    (settings : Settings) (disk : Disk) :
    trace compiler surroundings arguments settings disk =
      let (filter, run) := opening compiler surroundings settings disk
      match prepare compiler arguments settings run with
      | .error run => ⟨filter, [], run, 1⟩
      | .ok (options, run) =>
        traceBatch compiler arguments options (usesCache arguments settings) filter run := by
  unfold trace prepare
  -- The two go the same ways.
  cases arguments.options settings with
  | error message => rfl
  | ok options =>
    cases usesCache arguments settings with
    | false => rfl
    | true =>
      simp only [if_true]
      generalize Service.configure _ compiler _ _ = configured
      obtain ⟨result, service⟩ := configured
      cases result <;> rfl

/-- Compiles the inputs. The cache stays open for what comes after them; where they have gone without
one, there is one from now on. -/
def compileFirst (compiler : Compiler) (arguments : Arguments) (options : Options) (cached : Bool)
    (run : Run) : Run :=
  let run := (attempts cached compiler options arguments.output arguments.inputs run).2
  if cached then run.note .debug ("Cache statistics: " ++ run.service.cache.stats.render)
  else
    { run with service := run.service.withCache { compiler := compiler, options := options } }

/-- Inputs that are watched. A directory is watched until the compiler breaks down there. -/
structure Watch where
  run : Run
  inputs : List Path
  output : Option Path
  directories : List Path

namespace Watch

/-- The text by which directories are put in order, name by name. -/
def rank (directory : Path) : String :=
  directory.text.map fun letter => if letter = '/' then '\x00' else letter

/-- Begins to watch the directories around some inputs. -/
def start (run : Run) (inputs : List Path) (output : Option Path) : Watch :=
  let directories := (inputs.filterMap Path.parent?).eraseDups.mergeSort
    fun one other => !decide (rank other < rank one)
  let notes : List Log.Note := directories.map fun directory =>
    ⟨.info, "avd_shader::watch",
      "Watching " ++ Text.quoted directory.text ++ " for shader changes"⟩
  let run := { run with service := run.service.noteAll notes }.drain
  { run := run.note .info s!"Watching {inputs.length} shader(s), press Ctrl+C to stop"
    inputs := inputs
    output := output
    directories := directories }

/-- Writes the module of an input that was compiled again, or tells why there is none. -/
def deal (output : Option Path) (run : Run) (reload : Reload) : Run :=
  match reload.result with
  | .error failure => report reload.path failure run
  | .ok shared =>
    let (result, run) := writeOutput (goal output reload.path) (.shared shared.handle) run
    releaseShader (.shared shared.handle) (run.told reload.path result)

/-- The watcher of one directory. It goes by the inputs of all of them. -/
def watcher (watch : Watch) (notice : ChangeNotice) : Watcher :=
  Watcher.notice { service := watch.run.service } (fun path => watch.inputs.contains path) notice

/-- Deals with a notice that comes from one directory. -/
def notice (notice : ChangeNotice) (watch : Watch) (directory : Path) : Watch :=
  let watcher := watch.watcher notice
  { watch with
    run := watcher.sent.foldl (deal watch.output) { watch.run with service := watcher.service }.drain
    directories :=
      if watcher.live then watch.directories else watch.directories.erase directory }

/-- Deals with a change of a file, of which every directory around it gives notice. -/
def change (watch : Watch) (kind : ChangeKind) (path : Path) : Watch :=
  (watch.directories.filter path.ancestors.contains).foldl (notice (.change kind [path])) watch

end Watch

end ShaderBuild.Shell
