import ShaderBuild.Cache.Service

/-! How a request is answered, in phases with atomic steps between them. -/

namespace ShaderBuild

/-- How a request ends. -/
inductive Answer where
  | returned (result : Except Failure Shared)
  /-- The compiler broke down, and the breakdown goes on to the caller. -/
  | panicked (message : String)

/-- A request and its key under the options at its arrival. -/
structure Job where
  request : Request
  key : Fingerprint
  deriving DecidableEq

/-- Where a request stands. -/
inductive Phase where
  | arriving
  /-- Another request compiles the same key. -/
  | following (flight : FlightId)
  /-- The request is the first for its key and looks on the disk next. -/
  | leading (flight : FlightId)
  /-- The compiler is called. -/
  | compiling (flight : FlightId)
  /-- The module is there, or will not be. -/
  | produced (flight : FlightId) (answer : Answer)
  /-- The module is in memory, if it is to be; those who wait are told next. -/
  | settled (flight : FlightId) (answer : Answer)
  | answered (answer : Answer)

/-- The answer of a request that has one. -/
def Phase.answer? : Phase → Option Answer
  | .answered answer => some answer
  | _ => none

namespace Service

/-- A key's text in brackets after a name. -/
def describe (job : Job) : String :=
  job.request.name ++ " (" ++ String.ofList job.key.toText ++ ")"

/-- The job of a request. -/
def jobOf (service : Service) (request : Request) : Job :=
  ⟨request, service.cache.keyOf request⟩

/-- Looks for the key in memory; if it is not there, follows the flight of the key or leads a new
one. -/
def arrive (service : Service) (job : Job) : Service × Phase :=
  match service.cache.shelf.touch job.key with
  -- A hit hands out a handle of its own, so that the entry may go while the handle is held.
  | (some shared, shelf) =>
    (((service.withShelf shelf).retain shared).count (fun s => { s with hits := s.hits + 1 })
      |>.note .debug ("Shader cache hit for " ++ describe job),
      .answered (.returned (.ok shared)))
  | (none, shelf) =>
    let service := service.withShelf shelf
    match service.cache.inFlight.lookup job.key with
    -- Another request compiles the same key already, and this one waits for its outcome.
    | some id =>
      let flight := (service.flight? id).getD {}
      ((service.setFlight id { flight with followers := flight.followers + 1 }).count
          (fun s => { s with coalesced := s.coalesced + 1 })
        |>.note .debug ("Waiting on in-flight compile of " ++ describe job),
        .following id)
    | none =>
      -- From here on later requests for the key find this flight.
      let id := service.nextFlight
      let service := { service.setFlight id {} with
        nextFlight := id + 1
        cache := { service.cache with inFlight := (job.key, id) :: service.cache.inFlight } }
      ((service.count (fun s => { s with misses := s.misses + 1 })).note .debug
          ("Shader cache miss for " ++ describe job),
        .leading id)

/-- Removes a file of the disk tier that holds no module. -/
def discardFile (service : Service) (path : Path) (failure : Failure) : Service :=
  let service := service.note .warn
    ("Discarding corrupt disk cache entry " ++ Text.quoted path.text ++ ": " ++ failure.message)
  match service.disk.files.remove path with
  | .ok files => { service with disk := service.disk.withFiles files }
  | .error fault =>
    service.note .warn
      ("Failed to remove " ++ Text.quoted path.text ++ ": " ++ fault.message)

/-- Looks for the module on the disk. A file that holds none is removed. -/
def loadFromDisk (service : Service) (job : Job) : Option Bytecode × Service :=
  match service.cache.diskPath? job.key with
  | none => (none, service)
  | some path =>
    match service.disk.files.read path with
    | .error _ => (none, service)
    | .ok bytes =>
      match Bytecode.ofBytes bytes with
      | .ok bytecode =>
        (some bytecode, service.note .debug
          ("Loaded " ++ job.request.name ++ " from disk cache " ++ Text.quoted path.text))
      | .error failure => (none, service.discardFile path failure)

/-- Puts a module on the disk; a failure is only noted. -/
def storeToDisk (service : Service) (job : Job) (bytecode : Bytecode) : Service :=
  match service.cache.diskPath? job.key with
  | none => service
  | some path =>
    match service.disk.writeAtomically path (bytesOfWords bytecode.words) with
    | (disk, .ok ()) => { service with disk := disk }
    | (disk, .error fault) =>
      { service with disk := disk }.note .warn
        ("Failed to write disk cache entry for " ++ job.request.name ++ " to " ++
          Text.quoted path.text ++ ": " ++ fault.message)

/-- The leader looks on the disk, or else calls the compiler. -/
def lead (service : Service) (job : Job) (flight : FlightId) : Service × Phase :=
  match service.loadFromDisk job with
  | (some bytecode, service) =>
    let (shared, service) := service.allocate bytecode
    (service.count (fun s => { s with diskHits := s.diskHits + 1 }),
      .produced flight (.returned (.ok shared)))
  | (none, service) =>
    (service.count (fun s => { s with compilations := s.compilations + 1 }), .compiling flight)

/-- The compiler comes back. A module that fits under the limit goes to the disk. -/
def compile (service : Service) (job : Job) (flight : FlightId) : Service × Phase :=
  let cache := service.cache
  let service := service.noteAll (cache.compiler.notes job.request cache.options)
  match cache.compiler.compile job.request cache.options with
  | .panicked message => (service, .produced flight (.panicked message))
  | .finished (.error failure) =>
    (service.count (fun s => { s with failures := s.failures + 1 }),
      .produced flight (.returned (.error failure)))
  | .finished (.ok bytecode) =>
    match cache.checkFits bytecode.byteLength with
    | .error failure => (service, .produced flight (.returned (.error failure)))
    | .ok () =>
      let (shared, service) := (service.storeToDisk job bytecode).allocate bytecode
      (service, .produced flight (.returned (.ok shared)))

/-- Puts a module in memory after the oldest entries have made room for it. -/
def keep (service : Service) (key : Fingerprint) (shared : Shared) :
    Except Failure Shared × Service :=
  match service.cache.checkFits shared.bytecode.byteLength with
  | .error failure => (.error failure, service.release shared)
  | .ok () =>
    let (evicted, shelf) :=
      service.cache.shelf.room service.cache.memoryLimit shared.bytecode.byteLength
    let (previous, shelf) := shelf.insert key shared
    let service := ((service.withShelf shelf).retain shared).releaseEntries
      (evicted ++ previous.toList)
    (.ok shared, service.count (fun s => { s with evictions := s.evictions + evicted.length }))

/-- The leader leaves the table of flights and puts what it has in memory. -/
def settle (service : Service) (job : Job) (flight : FlightId) (answer : Answer) :
    Service × Phase :=
  let service := { service with
    cache := { service.cache with inFlight := service.cache.inFlight.filter (·.1 != job.key) } }
  match answer with
  | .returned (.ok shared) =>
    let (result, service) := service.keep job.key shared
    (service, .settled flight (.returned result))
  | answer => (service, .settled flight answer)

/-- What those who wait are told. -/
def outcomeFor (job : Job) : Answer → Except Failure Shared
  | .returned result => result
  | .panicked _ =>
    .error (.toolchain job.request.name
      "compiler panicked while other requests were waiting on it")

/-- The leader tells those who wait how it ended. -/
def publish (service : Service) (job : Job) (id : FlightId) (answer : Answer) : Service × Phase :=
  let flight := (service.flight? id).getD {}
  let service :=
    if flight.followers = 0 then service.dropFlight id
    else
      (service.setFlight id { flight with outcome := some (outcomeFor job answer) }).retainAnswer
        (outcomeFor job answer)
  (service, .answered answer)

/-- A follower takes the answer, when there is one. The last one leaves nothing behind. -/
def follow (service : Service) (id : FlightId) : Service × Phase :=
  match service.flight? id with
  | some ⟨followers, some outcome⟩ =>
    let service := service.retainAnswer outcome
    let service :=
      if followers ≤ 1 then (service.dropFlight id).releaseAnswer outcome
      else service.setFlight id ⟨followers - 1, some outcome⟩
    (service, .answered (.returned outcome))
  | _ => (service, .following id)

/-- Takes the next step of a request. One that is answered or still has to wait stays as it is. -/
def advance (service : Service) (job : Job) : Phase → Service × Phase
  | .arriving => service.arrive job
  | .following flight => service.follow flight
  | .leading flight => service.lead job flight
  | .compiling flight => service.compile job flight
  | .produced flight answer => service.settle job flight answer
  | .settled flight answer => service.publish job flight answer
  | .answered answer => (service, .answered answer)

/-- Takes so many steps of a request, one after the other. -/
def proceed (job : Job) : Nat → Service → Phase → Service × Phase
  | 0, service, phase => (service, phase)
  | steps + 1, service, phase =>
    let (service, phase) := service.advance job phase
    proceed job steps service phase

/-- Answers a request that no other one disturbs. A request has five steps. -/
def request (service : Service) (request : Request) : Service × Phase :=
  proceed (service.jobOf request) 5 service .arriving

/-- A request with an answer stays as it is. -/
theorem proceed_answered (job : Job) (steps : Nat) (service : Service) (answer : Answer) :
    proceed job steps service (.answered answer) = (service, .answered answer) := by
  -- No step changes an answered request.
  induction steps with
  | zero => rfl
  | succ steps ih => simp only [proceed, advance]; exact ih

end Service

end ShaderBuild
