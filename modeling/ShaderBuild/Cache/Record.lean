import ShaderBuild.Cache.Crowd

/-! What somebody counts who watches a crowd and does not look at the counters. -/

namespace ShaderBuild

/-- What has been seen of a crowd. -/
structure Record where
  /-- Requests that were made. -/
  calls : Nat := 0
  /-- Calls of the compiler that have come back. -/
  invocations : Nat := 0
  /-- Those among them that came back with a failure. -/
  errors : Nat := 0
  /-- Leaders that were answered with a module. -/
  granted : Nat := 0
  /-- Entries that a flush or an invalidation took out. -/
  removed : Nat := 0
  deriving DecidableEq, Repr

/-- What two records show together. -/
def Record.add (first second : Record) : Record where
  calls := first.calls + second.calls
  invocations := first.invocations + second.invocations
  errors := first.errors + second.errors
  granted := first.granted + second.granted
  removed := first.removed + second.removed

/-- The compiler came back with a failure; it did not break down. -/
def CompileOutcome.isFailure : CompileOutcome → Bool
  | .finished (.error _) => true
  | _ => false

namespace Phase

/-- A request whose compiler has not come back yet. -/
def isCompiling : Phase → Bool
  | .compiling _ => true
  | _ => false

/-- A leader that is answered with a module next. -/
def isGranted : Phase → Bool
  | .settled _ (.returned (.ok _)) => true
  | _ => false

/-- What the step of a request lets see, when the compiler would end on it like this: the compiler
comes back, or a leader is answered with a module. -/
def seen (outcome : CompileOutcome) (phase : Phase) : Record where
  invocations := if phase.isCompiling then 1 else 0
  errors := if phase.isCompiling && outcome.isFailure then 1 else 0
  granted := if phase.isGranted then 1 else 0

end Phase

namespace Crowd

/-- The entries that a move takes out of the memory. -/
def lost (crowd : Crowd) (move : Move) : Nat :=
  crowd.service.cache.shelf.size - (crowd.move move).service.cache.shelf.size

/-- What a move lets see. -/
def seen (crowd : Crowd) : Move → Record
  | .join _ => { calls := 1 }
  | .advance thread =>
    match crowd.threads[thread]? with
    | none => {}
    | some (job, phase) =>
      let cache := crowd.service.cache
      phase.seen (cache.compiler.compile job.request cache.options)
  | .flush => { removed := crowd.lost .flush }
  | .forget key => { removed := crowd.lost (.forget key) }
  | _ => {}

/-- What a run lets see. -/
def record (crowd : Crowd) : List Move → Record
  | [] => {}
  | move :: moves => (crowd.seen move).add ((crowd.move move).record moves)

end Crowd

end ShaderBuild
