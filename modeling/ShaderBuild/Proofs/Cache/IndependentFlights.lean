import ShaderBuild.Proofs.Cache.Stock

/-! A request is served amid requests for other keys as if it were alone. -/

namespace ShaderBuild

namespace Service

/-- The service beside flights of other requests, which have their entries in the table. -/
def beside (service : Service) (table : List (Fingerprint × FlightId))
    (others : List (FlightId × Flight)) : Service :=
  { service with
    cache := { service.cache with inFlight := service.cache.inFlight ++ table }
    flights := service.flights ++ others }

/-- A request is apart from some flights: it has yet to arrive where no other request is, or it
leads the only flight that there is beside them. -/
def Apart (service : Service) (others : List (FlightId × Flight)) : Phase → Prop
  | .arriving => service.Idle ∧ others.lookup service.nextFlight = none
  | .following _ => False
  | .leading id | .compiling id | .produced id _ | .settled id _ =>
    service.flights = [(id, {})] ∧ others.lookup id = none
  | .answered _ => True

/-- Some pieces of the two runs of a step agree: the phase is the same, and so is the service but
for the flights beside it, which the request is still apart from. -/
structure Agrees (table : List (Fingerprint × FlightId)) (others : List (FlightId × Flight))
    (alone amid : Service × Phase) : Prop where
  service : amid.1 = alone.1.beside table others
  phase : amid.2 = alone.2
  apart : alone.1.Apart others alone.2

section Steps

variable {service : Service} {table : List (Fingerprint × FlightId)}
  {others : List (FlightId × Flight)} {job : Job} {id : FlightId}

/-- A request that arrives does not meet the flights of other keys. -/
theorem arrive_beside (free : table.lookup job.key = none)
    (apart : service.Apart others .arriving) :
    Agrees table others (service.arrive job) ((service.beside table others).arrive job) := by
  obtain ⟨⟨empty, none_⟩, fresh⟩ := apart
  unfold arrive
  cases touched : service.cache.shelf.touch job.key with
  | mk found shelf =>
    simp only [beside, touched, withShelf, empty, none_, List.nil_append]
    cases found with
    | some shared =>
      refine ⟨?_, rfl, trivial⟩
      simp [beside, retain, count, Cache.count, note, noteAll]
    | none =>
      -- The new flight is none of the others.
      have rest := Association.filter_of_absent fresh
      simp only [free, List.lookup_nil]
      refine ⟨?_, rfl, ?_, fresh⟩
      · simp [beside, setFlight, count, Cache.count, note, noteAll, rest]
      · simp [setFlight, count, Cache.count, note, noteAll]

/-- The flights are not asked when the disk is looked at. -/
theorem loadFromDisk_beside (service : Service) (table : List (Fingerprint × FlightId))
    (others : List (FlightId × Flight)) (job : Job) :
    (service.beside table others).loadFromDisk job =
      ((service.loadFromDisk job).1, (service.loadFromDisk job).2.beside table others) := by
  -- A look asks for the path and for the files, and the flights have no part in either.
  have path : (service.beside table others).cache.diskPath? job.key =
      service.cache.diskPath? job.key := rfl
  have files : (service.beside table others).disk.files = service.disk.files := rfl
  unfold loadFromDisk
  rw [path]
  cases service.cache.diskPath? job.key with
  | none => rfl
  | some path =>
    simp only [files]
    cases there : service.disk.files.read path with
    | error fault => rfl
    | ok bytes =>
      cases read_ : Bytecode.ofBytes bytes with
      | ok bytecode => simp only [read_]; rfl
      | error failure =>
        cases removed : service.disk.files.remove path <;>
          simp only [read_, discardFile, note, noteAll, files, removed] <;> rfl

/-- The flights are not asked when a module is written to the disk. -/
theorem storeToDisk_beside (service : Service) (table : List (Fingerprint × FlightId))
    (others : List (FlightId × Flight)) (job : Job) (bytecode : Bytecode) :
    (service.beside table others).storeToDisk job bytecode =
      (service.storeToDisk job bytecode).beside table others := by
  -- Neither the path nor the disk depends on flights.
  have path : (service.beside table others).cache.diskPath? job.key =
      service.cache.diskPath? job.key := rfl
  have disk : (service.beside table others).disk = service.disk := rfl
  unfold storeToDisk
  rw [path]
  cases service.cache.diskPath? job.key with
  | none => rfl
  | some path =>
    simp only [disk]
    rcases service.disk.writeAtomically path (bytesOfWords bytecode.words) with ⟨_, _ | _⟩ <;> rfl

/-- A leader that looks on the disk leaves the flights. -/
theorem lead_beside (apart : service.Apart others (.leading id)) :
    Agrees table others (service.lead job id) ((service.beside table others).lead job id) := by
  -- What is found does not depend on flights.
  obtain ⟨notes, loaded⟩ := service.loadFromDisk_eq job
  unfold lead
  rw [loadFromDisk_beside, loaded]
  cases (service.disk.search (service.cache.diskPath? job.key)).1 with
  | some bytecode => exact ⟨rfl, rfl, apart⟩
  | none => exact ⟨rfl, rfl, apart⟩

/-- A leader that calls the compiler leaves the flights. -/
theorem compile_beside (apart : service.Apart others (.compiling id)) :
    Agrees table others (service.compile job id)
      ((service.beside table others).compile job id) := by
  -- The options, the limit and the disk tier are all that is read, and they are the same.
  let called := service.noteAll (service.cache.compiler.notes job.request service.cache.options)
  have outcome : (service.beside table others).cache.compiler.compile job.request
      (service.beside table others).cache.options =
        service.cache.compiler.compile job.request service.cache.options := rfl
  have checked : ∀ size, (service.beside table others).cache.checkFits size =
      service.cache.checkFits size := fun _ => rfl
  unfold compile
  simp only [outcome, checked]
  cases compiled : service.cache.compiler.compile job.request service.cache.options with
  | panicked message => exact ⟨rfl, rfl, apart⟩
  | finished result =>
    cases result with
    | error failure => exact ⟨rfl, rfl, apart⟩
    | ok bytecode =>
      cases fits : service.cache.checkFits bytecode.byteLength with
      | error failure =>
        simp only [fits]
        exact ⟨rfl, rfl, apart⟩
      | ok =>
        have stored : ((service.beside table others).noteAll
            ((service.beside table others).cache.compiler.notes job.request
              (service.beside table others).cache.options)).storeToDisk job bytecode =
            (called.storeToDisk job bytecode).beside table others :=
          storeToDisk_beside called table others job bytecode
        obtain ⟨notes, same⟩ := called.storeToDisk_eq job bytecode
        simp only [fits, stored]
        refine ⟨rfl, rfl, ?_⟩
        show Apart (called.storeToDisk job bytecode) others (.leading id)
        rw [same]
        exact apart

/-- A leader that settles takes only its own entry out of the table. -/
theorem settle_beside (free : table.lookup job.key = none) {answer : Answer}
    (apart : service.Apart others (.produced id answer)) :
    Agrees table others (service.settle job id answer)
      ((service.beside table others).settle job id answer) := by
  -- None of the other flights has this key, and so they all stay in the table.
  have rest := Association.filter_of_absent free
  unfold settle
  simp only [beside, List.filter_append, rest]
  cases answer with
  | panicked message => exact ⟨rfl, rfl, apart⟩
  | returned result =>
    cases result with
    | error failure => exact ⟨rfl, rfl, apart⟩
    | ok shared =>
      simp only [keep, releaseEntries_eq]
      have checked : ∀ table', ({ service.cache with inFlight := table' } : Cache).checkFits
          shared.bytecode.byteLength = service.cache.checkFits shared.bytecode.byteLength :=
        fun _ => rfl
      simp only [checked]
      cases service.cache.checkFits shared.bytecode.byteLength with
      | error failure => exact ⟨rfl, rfl, apart⟩
      | ok => exact ⟨rfl, rfl, apart⟩

/-- A leader that nobody waits for drops only its own flight. -/
theorem publish_beside {answer : Answer} (apart : service.Apart others (.settled id answer)) :
    Agrees table others (service.publish job id answer)
      ((service.beside table others).publish job id answer) := by
  -- The own flight has no followers, and dropping it leaves the others.
  obtain ⟨own, fresh⟩ := apart
  have rest := Association.filter_of_absent fresh
  have alone : (service.flight? id).getD {} = {} := by simp [flight?, own]
  have amid : ((service.beside table others).flight? id).getD {} = {} := by
    simp [flight?, beside, own]
  unfold publish
  simp only [alone, amid, if_true]
  exact ⟨by simp [dropFlight, beside, rest], rfl, trivial⟩

/-- No step of a request meets the flights of other keys. -/
theorem advance_beside (free : table.lookup job.key = none) {phase : Phase}
    (apart : service.Apart others phase) :
    Agrees table others (service.advance job phase)
      ((service.beside table others).advance job phase) := by
  -- Each phase has a lemma of its own; a request that leads does not wait.
  cases phase with
  | arriving => exact arrive_beside free apart
  | following id => exact apart.elim
  | leading id => exact lead_beside apart
  | compiling id => exact compile_beside apart
  | produced id answer => exact settle_beside free apart
  | settled id answer => exact publish_beside apart
  | answered answer => exact ⟨rfl, rfl, trivial⟩

/-- However many steps a request takes, it does not meet the flights of other keys. -/
theorem proceed_beside (free : table.lookup job.key = none) (steps : Nat) {phase : Phase}
    (apart : service.Apart others phase) :
    Agrees table others (proceed job steps service phase)
      (proceed job steps (service.beside table others) phase) := by
  -- One step after the other, each apart from the flights.
  induction steps generalizing service phase with
  | zero => exact ⟨rfl, rfl, apart⟩
  | succ steps ih =>
    have step := advance_beside free apart
    simp only [proceed]
    rw [step.service, step.phase]
    exact ih step.apart

end Steps

/-- A request whose key has no flight is answered while requests for other keys are under way, and
leaves their flights as they are. -/
theorem request_serves_amid {service : Service} (request : Request)
    (free : service.cache.inFlight.lookup (service.stock.setting.keyOf request) = none)
    (fresh : service.flights.lookup service.nextFlight = none) :
    ∃ after answer, service.request request = (after, .answered answer) ∧
      after.cache.inFlight = service.cache.inFlight ∧ after.flights = service.flights ∧
      service.stock.Serves request answer after.stock := by
  -- The request runs as if it were alone, and the other flights stand beside it at each step.
  let alone : Service :=
    { service with cache := { service.cache with inFlight := [] }, flights := [] }
  have idle : alone.Idle := ⟨rfl, rfl⟩
  have whole : alone.beside service.cache.inFlight service.flights = service := rfl
  obtain ⟨after, answer, ends, idle', serves⟩ := request_serves idle request
  have steps : Agrees service.cache.inFlight service.flights
      (proceed (service.jobOf request) 5 alone .arriving)
      (proceed (service.jobOf request) 5 service .arriving) :=
    proceed_beside free 5 ⟨idle, fresh⟩
  have agrees : Agrees service.cache.inFlight service.flights (alone.request request)
      (service.request request) := steps
  rw [ends] at agrees
  refine ⟨after.beside service.cache.inFlight service.flights, answer,
    Prod.ext agrees.service agrees.phase, ?_, ?_, serves⟩
  · simp [beside, idle'.table]
  · simp [beside, idle'.flights]

end Service

end ShaderBuild
