import ShaderBuild.Glsl.Compiler
import ShaderBuild.Shell.Reach
import ShaderBuild.Shell.Watching
import Std.Time.DateTime.Timestamp

/-! The command line, which reads the files that a run can reach and writes back what it changed. -/

namespace ShaderBuild.Shell

/-- What stands at a path. -/
def look (path : Path) : IO (Option Item) := do
  try
    let bytes ← IO.FS.readBinFile path.text
    return some (.file bytes.toList)
  catch fault =>
    match fault with
    | .inappropriateType .. => return some .directory
    | _ => return none

/-- Makes what stands at a path, and around it, known. -/
def learn (files : Files) (path : Path) : IO Files := do
  let mut files := files
  for step in path.ancestors.reverse do
    if !step.text.isEmpty then
      files := files.place step (← look step)
  return files

/-- Makes known what a command line can reach. -/
def learnAround (arguments : Arguments) : IO Files := do
  let mut files := Files.empty
  for path in namedPaths arguments do
    files ← learn files path
  for path in settledPaths Glsl.compiler arguments files do
    files ← learn files path
  return files

/-- The text of a location. -/
def textOfLocation (place : Location) : String :=
  match place with
  | "/" :: names => "/" ++ "/".intercalate names
  | names => "/".intercalate names

/-- Makes the real files what a run left. -/
def save (before now : Files) : IO Unit := do
  for (place, item) in now.entries.reverse do
    if before.get? place != some item then
      match item with
      | .directory => IO.FS.createDirAll (textOfLocation place)
      | .file bytes => IO.FS.writeBinFile (textOfLocation place) ⟨bytes.toArray⟩
  for (place, item) in before.entries do
    if (now.get? place).isNone && item != .directory then
      IO.FS.removeFile (textOfLocation place)

/-- The time as the log file shows it. -/
def timeText : IO String := do
  let now ← Std.Time.Timestamp.now
  let nanoseconds := now.toNanosecondsSinceUnixEpoch.val
  let seconds := nanoseconds / 1000000000
  let rest := nanoseconds % 1000000000
  return "SystemTime \x7b tv_sec: " ++ toString seconds ++ ", tv_nsec: " ++ toString rest ++ " \x7d"

/-- Prints what a run has to print, once. -/
def tell (filter : Log.Filter) (run : Run) : IO Run := do
  IO.eprint (run.end_ filter 0).errors
  return { run with printed := [] }

/-- Makes known what a change of an input can reach, and deals with the change. -/
def deliver (watch : Watch) (kind : ChangeKind) (path : Path) : IO Watch := do
  let cache := watch.run.service.cache
  let mut files ← learn watch.run.files path
  for reached in goal watch.output path :: cache.diskDirectory.toList ++
      (cachedFile? cache files path).toList do
    files ← learn files reached
  let after := { watch with run := watch.run.withFiles files }.change kind path
  save files after.run.files
  return after

/-- Looks at the inputs again and again, and deals with those that have changed. -/
partial def keepWatching (filter : Log.Filter) (watch : Watch)
    (known : List (Path × Option Item)) : IO Unit := do
  let mut watch := { watch with run := ← tell filter watch.run }
  IO.sleep 100
  let now ← watch.inputs.eraseDups.mapM fun input => return (input, ← look input)
  for (input, item) in now do
    if known.lookup input != some item then
      watch ← deliver watch (if item.isSome then .modified else .other) input
  keepWatching filter watch now

/-- The path of an input from the root, or why there is none. -/
def resolve (input : Path) : IO (Except String Path) := do
  try
    return .ok ⟨(← IO.FS.realPath input.text).toString⟩
  catch _ =>
    return .error (fatalText ("Failed to resolve " ++ Text.quoted input.text)
      (some FileFault.missing.message))

/-- Compiles the inputs, and those that change again. -/
def performWatching (surroundings : Surroundings) (arguments : Arguments) (settings : Settings)
    (files : Files) : IO Nat := do
  let (filter, run) := opening Glsl.compiler surroundings settings { files := files }
  match prepare Glsl.compiler arguments settings run with
  | .error run =>
    let run ← tell filter run
    save files run.files
    return 1
  | .ok (options, run) =>
    let run ← tell filter
      (compileFirst Glsl.compiler arguments options (usesCache arguments settings) run)
    save files run.files
    match (← arguments.inputs.mapM resolve).mapM id with
    | .error message =>
      IO.eprintln message
      return 1
    | .ok inputs =>
      let known ← inputs.mapM fun input => return (input, ← look input)
      keepWatching filter (.start run inputs arguments.output) known
      return 0

/-- Runs the program over the real files. -/
def perform (words : List String) : IO Nat := do
  let surroundings : Surroundings := ⟨← IO.getEnv "RUST_LOG", ← timeText⟩
  let mut files := Files.empty
  match parse words with
  | .ok (.compile arguments) =>
    files ← learnAround arguments
    if arguments.watch then
      if let .ok settings := Settings.load files arguments.config then
        return ← performWatching surroundings arguments settings files
  | _ => pure ()
  let outcome := run Glsl.compiler surroundings words { files := files }
  IO.print outcome.output
  IO.eprint outcome.errors
  save files outcome.disk.files
  return outcome.code

end ShaderBuild.Shell

/-- Runs the program. -/
def main (words : List String) : IO UInt32 :=
  return UInt32.ofNat (← ShaderBuild.Shell.perform words)
