import ShaderBuild.Cache.Request

/-! Shader files that change are read again and compiled through the cache. -/

namespace ShaderBuild

/-- What a change does to its paths. -/
inductive ChangeKind where
  | created
  | modified
  | other
  deriving DecidableEq, Repr

/-- A message about changes of files. -/
inductive ChangeNotice where
  | change (kind : ChangeKind) (paths : List Path)
  /-- The watching itself failed. -/
  | trouble (message : String)
  deriving DecidableEq, Repr

/-- The paths of a notice that are compiled again. -/
def ChangeNotice.accepted (accepts : Path → Bool) : ChangeNotice → List Path
  | .change .other _ => []
  | .change _ paths => paths.filter fun path => path.isShaderFile && accepts path
  | .trouble _ => []

/-- Reads a file and requests it under its file name. -/
def Service.reload (service : Service) (path : Path) : Service × Phase :=
  match service.disk.files.readText path with
  | .error fault =>
    (service, .answered (.returned (.error (.file path.text fault.message))))
  | .ok text => service.request ⟨path.logicalName, text⟩

/-- A file that was compiled again, and how that ended. -/
structure Reload where
  path : Path
  result : Except Failure Shared

/-- What a reload notes about its end. -/
def Reload.notes (reload : Reload) : List Log.Note :=
  match reload.result with
  | .ok shared =>
    [⟨.info, "avd_shader::watch",
      "Reloaded " ++ Text.quoted reload.path.text ++ " (" ++ toString shared.bytecode.wordCount ++
        " words)"⟩]
  | .error failure =>
    [⟨.error, "avd_shader::watch",
      "Reload of " ++ Text.quoted reload.path.text ++ " failed: " ++ failure.message⟩]

/-- A cache whose files are watched, and what has been reported so far. When the compiler breaks
down, that goes through to the thread that watches, and ends it. -/
structure Watcher where
  service : Service
  sent : List Reload := []
  live : Bool := true

/-- What can happen while files are watched. -/
inductive Occurrence where
  /-- Other programs change files. -/
  | edit (files : Files)
  /-- A notice is delivered. -/
  | notice (notice : ChangeNotice)

namespace Watcher

/-- Compiles a path again and reports how that ended. -/
def reload (watcher : Watcher) (path : Path) : Watcher :=
  if watcher.live then
    match watcher.service.reload path with
    | (service, .answered (.returned result)) =>
      let reload : Reload := ⟨path, result⟩
      ⟨service.noteAll reload.notes, watcher.sent ++ [reload], true⟩
    -- Nothing is reported of a request that does not come back.
    | (service, _) => ⟨service, watcher.sent, false⟩
  else watcher

/-- Deals with a notice. -/
def notice (watcher : Watcher) (accepts : Path → Bool) : ChangeNotice → Watcher
  | .trouble message =>
    let note : Log.Note := ⟨.warn, "avd_shader::watch", "Shader watcher error: " ++ message⟩
    if watcher.live then { watcher with service := watcher.service.noteAll [note] } else watcher
  | notice => (notice.accepted accepts).foldl reload watcher

/-- Lets something happen. -/
def take (accepts : Path → Bool) (watcher : Watcher) : Occurrence → Watcher
  | .edit files =>
    { watcher with service := { watcher.service with disk := watcher.service.disk.withFiles files } }
  | .notice notice => watcher.notice accepts notice

/-- Lets one thing happen after the other. -/
def run (accepts : Path → Bool) (watcher : Watcher) (occurrences : List Occurrence) : Watcher :=
  occurrences.foldl (take accepts) watcher

end Watcher

end ShaderBuild
