import ShaderBuild.Cache.Request

/-! Requests of several threads to one cache, scheduled step by step. -/

namespace ShaderBuild

/-- A cache at work and the requests that were made, in the order of their arrival. -/
structure Crowd where
  service : Service
  threads : List (Job × Phase) := []

/-- What can happen next. -/
inductive Move where
  /-- A new thread makes a request. -/
  | join (request : Request)
  /-- A thread takes its next step. -/
  | advance (thread : Nat)
  | flush
  /-- The first half of an invalidation: the entry of a key goes. -/
  | forget (key : Fingerprint)
  /-- The second half of an invalidation: the file of a key goes. -/
  | unlink (key : Fingerprint)
  /-- From now on the compiler answers in another way; it may keep a state of its own. -/
  | recast (compile : Request → Options → CompileOutcome)
  /-- Other programs change files. -/
  | disturb (files : Files)

namespace Crowd

/-- Makes a move. A thread that is not there does nothing. -/
def move (crowd : Crowd) : Move → Crowd
  | .join request =>
    { crowd with threads := crowd.threads ++ [(crowd.service.jobOf request, .arriving)] }
  | .advance thread =>
    match crowd.threads[thread]? with
    | none => crowd
    | some (job, phase) =>
      let (service, phase) := crowd.service.advance job phase
      ⟨service, crowd.threads.set thread (job, phase)⟩
  | .flush => { crowd with service := crowd.service.flush }
  | .forget key => { crowd with service := (crowd.service.removeEntry key).2 }
  | .unlink key => { crowd with service := (crowd.service.removeFile key).2 }
  | .recast compile =>
    let cache := crowd.service.cache
    { crowd with
      service := crowd.service.withCache
        { cache with compiler := { cache.compiler with compile := compile } } }
  | .disturb files =>
    { crowd with
      service := { crowd.service with disk := crowd.service.disk.withFiles files } }

/-- Makes moves in order. -/
def run (crowd : Crowd) (moves : List Move) : Crowd :=
  moves.foldl move crowd

/-- Several threads make the same request: all arrive, the first one goes on to its end, and then
the others. -/
def rush (request : Request) (count : Nat) : List Move :=
  List.replicate count (.join request) ++ (List.range count).map .advance ++
    List.replicate 4 (.advance 0) ++ (List.range count).map .advance

end Crowd

end ShaderBuild
