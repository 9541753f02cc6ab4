import ShaderBuild.Bytecode
import ShaderBuild.Files.AtomicWrite

/-! Writers and readers of module files that take their steps in any order. -/

namespace ShaderBuild

/-- A call that writes a module to a file of a directory. -/
structure WriteCall where
  directory : Path
  name : String
  words : List UInt32
  deriving DecidableEq, Repr

namespace WriteCall

/-- The file that a call writes. -/
def goal (call : WriteCall) : Path :=
  call.directory.join call.name

/-- What a call writes. -/
def image (call : WriteCall) : List UInt8 :=
  bytesOfWords call.words

end WriteCall

/-- A write brings its file to the goal with this step. -/
def Disk.Write.lands : Disk.Write → Disk.Write → Bool
  | .filled _, .ended (.ok ()) => true
  | _, _ => false

/-- The files and the calls, in the order of their beginning. -/
structure Writers where
  disk : Disk
  calls : List (WriteCall × Disk.Write) := []
  /-- The calls that have brought their file to its goal, the last one first. -/
  landed : List WriteCall := []
  /-- What readers have read from which path. -/
  readings : List (Path × List UInt8) := []

namespace Writers

/-- What can happen next. -/
inductive Event where
  /-- A thread calls. -/
  | begin (call : WriteCall)
  /-- A call takes its next step. -/
  | advance (thread : Nat)
  /-- Somebody reads a file. -/
  | read (path : Path)

/-- What an event does. A call that is not there does nothing. -/
def take (writers : Writers) : Event → Writers
  | .begin call => { writers with calls := writers.calls ++ [(call, .waiting)] }
  | .advance thread =>
    match writers.calls[thread]? with
    | none => writers
    | some (call, write) =>
      let (disk, next) := Disk.advanceWrite call.goal call.image writers.disk write
      { writers with
        disk := disk
        calls := writers.calls.set thread (call, next)
        landed := if write.lands next then call :: writers.landed else writers.landed }
  | .read path =>
    match writers.disk.files.read path with
    | .ok bytes => { writers with readings := (path, bytes) :: writers.readings }
    | .error _ => writers

/-- One event after the other. -/
def run (writers : Writers) (events : List Event) : Writers :=
  events.foldl take writers

end Writers

end ShaderBuild
