import ShaderBuild.Proofs.Cache.InFlight
import ShaderBuild.Proofs.Cache.Transparency
import ShaderBuild.Proofs.Heap

/-! What a cache has before and after a request that no other one disturbs. -/

namespace ShaderBuild

/-- The key of a request. -/
def Setting.keyOf (setting : Setting) (request : Request) : Fingerprint :=
  .compute setting.compiler.identifier request setting.options

/-- The file of a key, when there is a disk tier. -/
def Setting.diskPath? (setting : Setting) (key : Fingerprint) : Option Path :=
  setting.diskDirectory.map (·.join key.fileName)

/-- Looks for a module in a file. A file that holds none is removed if it can be. -/
def Disk.search (disk : Disk) : Option Path → Option Bytecode × Disk
  | none => (none, disk)
  | some path =>
    match disk.files.read path with
    | .error _ => (none, disk)
    | .ok bytes =>
      match Bytecode.ofBytes bytes with
      | .ok bytecode => (some bytecode, disk)
      | .error _ =>
        match disk.files.remove path with
        | .ok files => (none, disk.withFiles files)
        | .error _ => (none, disk)

/-- Writes a module to a file, as far as that goes. -/
def Disk.store (disk : Disk) (bytecode : Bytecode) : Option Path → Disk
  | none => disk
  | some path => (disk.writeAtomically path (bytesOfWords bytecode.words)).1

/-- How a request ends that does not find its key in memory: with the module on the disk, or else as
the compiler ends, both under the limit. -/
def Setting.due (setting : Setting) (disk : Disk) (request : Request) : CompileOutcome :=
  match (disk.search (setting.diskPath? (setting.keyOf request))).1 with
  | some bytecode => (CompileOutcome.finished (.ok bytecode)).under setting.memoryLimit false
  | none => (setting.outcome request).under setting.memoryLimit false

/-- A module is found when the file is there and holds one. -/
theorem Disk.isSome_search_iff {disk : Disk} {path? : Option Path} :
    (disk.search path?).1.isSome ↔ ∃ path bytes bytecode, path? = some path ∧
      disk.files.read path = .ok bytes ∧ Bytecode.ofBytes bytes = .ok bytecode := by
  -- The look fails where there is no path, no file or no module, and finds the module otherwise.
  cases path? with
  | none => simp [search]
  | some path =>
    cases read_ : disk.files.read path with
    | error fault => simp [search, read_]
    | ok bytes =>
      cases holds : Bytecode.ofBytes bytes with
      | ok bytecode => simp [search, read_, holds]
      | error failure =>
        cases removed : disk.files.remove path with
        | ok files => simp [search, read_, holds, removed]
        | error fault => simp [search, read_, holds, removed]

/-- A search that meets no file without a module leaves the disk. -/
theorem Disk.search_of_legible {disk : Disk} {path? : Option Path}
    (legible : ∀ path bytes, path? = some path → disk.files.read path = .ok bytes →
      ∃ bytecode, Bytecode.ofBytes bytes = .ok bytecode) : (disk.search path?).2 = disk := by
  unfold search
  split
  · rfl
  · rename_i path
    split
    · rfl
    · rename_i bytes there
      -- Only a file without a module would be removed.
      obtain ⟨bytecode, holds⟩ := legible path bytes rfl there
      rw [holds]

/-- What a cache has between two requests. -/
structure Stock where
  setting : Setting
  shelf : Shelf
  heap : Heap
  disk : Disk
  stats : Stats

/-- What the cache of a service has. -/
def Service.stock (service : Service) : Stock :=
  ⟨service.cache.setting, service.cache.shelf, service.heap, service.disk, service.cache.stats⟩

namespace Stock

/-- What is found on the disk under a key, and the disk after the look. -/
def search (stock : Stock) (key : Fingerprint) : Option Bytecode × Disk :=
  stock.disk.search (stock.setting.diskPath? key)

/-- What the look on the disk for a request finds, and the disk after it. -/
def look (stock : Stock) (request : Request) : Option Bytecode × Disk :=
  stock.search (stock.setting.keyOf request)

/-- How a request ends that does not find its key in memory. -/
def due (stock : Stock) (request : Request) : CompileOutcome :=
  stock.setting.due stock.disk request

/-- The counters after a request that did not find its key in memory. -/
def counted (stock : Stock) (request : Request) : Stats :=
  if (stock.look request).1.isSome then
    { stock.stats with misses := stock.stats.misses + 1, diskHits := stock.stats.diskHits + 1 }
  else
    { stock.stats with
      misses := stock.stats.misses + 1
      compilations := stock.stats.compilations + 1 }

/-- What is there when the look on the disk is over. -/
def missed (stock : Stock) (request : Request) : Stock :=
  { stock with
    shelf := (stock.shelf.touch (stock.setting.keyOf request)).2
    disk := (stock.look request).2
    stats := stock.counted request }

/-- What is there when a request has its module. Only one that was compiled is written to the disk.
-/
def made (stock : Stock) (request : Request) (bytecode : Bytecode) : Stock :=
  { stock.missed request with
    heap := (stock.heap.allocate bytecode).2
    disk :=
      if (stock.look request).1.isSome then (stock.look request).2
      else (stock.look request).2.store bytecode
        (stock.setting.diskPath? (stock.setting.keyOf request)) }

/-- Puts a module in memory after the oldest entries have made room for it. -/
def put (stock : Stock) (key : Fingerprint) (shared : Shared) : Stock :=
  let made := stock.shelf.room stock.setting.memoryLimit shared.bytecode.byteLength
  { stock with
    shelf := (made.2.insert key shared).2
    heap := (stock.heap.retain shared.handle).releaseAll (made.1.map (·.shared.handle))
    stats := { stock.stats with evictions := stock.stats.evictions + made.1.length } }

section Look

variable {stock : Stock} {request : Request} {bytecode : Bytecode}

/-- The counters of the memory do not count a request that does not find its key there. -/
theorem counted_eq (stock : Stock) (request : Request) :
    (stock.counted request).hits = stock.stats.hits ∧
      (stock.counted request).evictions = stock.stats.evictions := by
  -- Disk hits and compilations are counters of their own.
  unfold counted
  split
  · exact ⟨rfl, rfl⟩
  · exact ⟨rfl, rfl⟩

/-- The counters when the module is on the disk. -/
theorem counted_of_found (found : (stock.look request).1 = some bytecode) :
    stock.counted request =
      { stock.stats with
        misses := stock.stats.misses + 1
        diskHits := stock.stats.diskHits + 1 } := by
  simp [counted, found]

/-- The counters when the module is not on the disk. -/
theorem counted_of_missing (missing : (stock.look request).1 = none) :
    stock.counted request =
      { stock.stats with
        misses := stock.stats.misses + 1
        compilations := stock.stats.compilations + 1 } := by
  simp [counted, missing]

/-- A module that is on the disk is not written to it again. -/
theorem made_of_found (found : (stock.look request).1 = some bytecode) :
    stock.made request bytecode =
      { stock.missed request with heap := (stock.heap.allocate bytecode).2 } := by
  -- The write is behind the branch in which nothing was found.
  simp [made, missed, found]

/-- A module that was compiled is written to the disk. -/
theorem made_of_missing (missing : (stock.look request).1 = none) :
    stock.made request bytecode =
      { stock.missed request with
        heap := (stock.heap.allocate bytecode).2
        disk := (stock.look request).2.store bytecode
          (stock.setting.diskPath? (stock.setting.keyOf request)) } := by
  -- With nothing found the branch with the write is taken.
  simp [made, missing]

/-- A module that is on the disk is due, as far as the limit allows. -/
theorem due_of_found (found : (stock.look request).1 = some bytecode) :
    stock.due request =
      (CompileOutcome.finished (.ok bytecode)).under stock.setting.memoryLimit false := by
  -- The disk is asked before the compiler.
  unfold look search at found
  rw [due, Setting.due, found]

/-- Without a module on the disk it is due how the compiler ends, as far as the limit allows. -/
theorem due_of_missing (missing : (stock.look request).1 = none) :
    stock.due request = (stock.setting.outcome request).under stock.setting.memoryLimit false := by
  -- The disk is asked before the compiler.
  unfold look search at missing
  rw [due, Setting.due, missing]

end Look

end Stock

/-- An answer without a module. -/
def Answer.Fails (answer : Answer) : Prop :=
  ∀ shared, answer ≠ .returned (.ok shared)

/-- An answer without a module does not show one. -/
theorem Answer.Fails.outcome_ne {answer : Answer} (fails : answer.Fails) (bytecode : Bytecode) :
    answer.outcome ≠ .finished (.ok bytecode) := by
  -- Of the three answers only a module shows one.
  cases answer with
  | panicked message => simp [Answer.outcome]
  | returned result =>
    cases result with
    | ok shared => exact absurd rfl (fails shared)
    | error failure => simp [Answer.outcome]

/-- A module that fits under the limit comes through it. -/
theorem Setting.Fits.under {setting : Setting} {bytecode : Bytecode} (fits : setting.Fits bytecode)
    (resident : Bool) :
    (CompileOutcome.finished (.ok bytecode)).under setting.memoryLimit resident =
      .finished (.ok bytecode) := by
  -- Without a limit nothing is refused.
  cases bounded : setting.memoryLimit with
  | none => rfl
  | some limit =>
    have small : 4 * bytecode.wordCount ≤ limit := fits limit bounded
    exact if_neg fun large => Nat.not_le.mpr large.1 small

/-- A module that is larger than the limit does not come through it. -/
theorem CompileOutcome.under_of_large {bytecode : Bytecode} {limit : Nat}
    (large : limit < bytecode.byteLength) :
    (CompileOutcome.finished (.ok bytecode)).under (some limit) false =
      .finished (.error (.cacheExhausted bytecode.byteLength limit)) :=
  if_pos ⟨large, rfl⟩

/-- What a request is answered, and what is there after it. -/
inductive Stock.Serves (stock : Stock) (request : Request) : Answer → Stock → Prop where
  /-- The key is in memory. -/
  | hit {shared : Shared}
    (found : stock.shelf.held? (stock.setting.keyOf request) = some shared) :
    Serves stock request (.returned (.ok shared))
      { stock with
        shelf := (stock.shelf.touch (stock.setting.keyOf request)).2
        heap := stock.heap.retain shared.handle
        stats := { stock.stats with hits := stock.stats.hits + 1 } }
  /-- There is no module. One that the memory refuses had a handle for a while. -/
  | failed {answer : Answer} {heap : Heap} {failures : Nat}
    (absent : stock.shelf.held? (stock.setting.keyOf request) = none)
    (due : answer.outcome = stock.due request) (fails : answer.Fails)
    (handles : heap = stock.heap ∨
      ∃ bytecode, heap = (stock.heap.allocate bytecode).2.release stock.heap.next) :
    Serves stock request answer
      { stock.missed request with
        heap := heap
        stats := { stock.counted request with failures := failures } }
  /-- A module is put in memory, and its first handle is handed out. -/
  | kept {bytecode : Bytecode}
    (absent : stock.shelf.held? (stock.setting.keyOf request) = none)
    (due : stock.due request = .finished (.ok bytecode)) :
    Serves stock request (.returned (.ok ⟨stock.heap.next, bytecode⟩))
      ((stock.made request bytecode).put (stock.setting.keyOf request)
        ⟨stock.heap.next, bytecode⟩)

/-- One request is under way, for some key and with some flight, and nobody waits for it. -/
structure Service.Leads (service : Service) (key : Fingerprint) (id : FlightId) : Prop where
  table : service.cache.inFlight = [(key, id)]
  flights : service.flights = [(id, {})]

namespace Service

/-- Looking on the disk is the search in the file of the key, with notes. -/
theorem loadFromDisk_eq (service : Service) (job : Job) :
    ∃ notes, service.loadFromDisk job =
      ((service.disk.search (service.cache.diskPath? job.key)).1,
        { service with
          disk := (service.disk.search (service.cache.diskPath? job.key)).2
          notes := notes }) := by
  -- There may be no directory, no file, a file with a module, or one that is discarded.
  cases used : service.cache.diskPath? job.key with
  | none => exact ⟨_, by simp only [loadFromDisk, Disk.search, used]; rfl⟩
  | some path =>
    cases there : service.disk.files.read path with
    | error fault => exact ⟨_, by simp only [loadFromDisk, Disk.search, used, there]; rfl⟩
    | ok bytes =>
      cases read_ : Bytecode.ofBytes bytes with
      | ok bytecode => exact ⟨_, by simp only [loadFromDisk, Disk.search, used, there, read_]; rfl⟩
      | error failure =>
        cases removed : service.disk.files.remove path with
        | ok files =>
          exact ⟨_, by
            simp only [loadFromDisk, Disk.search, used, there, read_, discardFile, note, noteAll,
              removed]
            rfl⟩
        | error fault =>
          exact ⟨_, by
            simp only [loadFromDisk, Disk.search, used, there, read_, discardFile, note, noteAll,
              removed]
            rfl⟩

/-- Storing a module is a write to the file of the key, with notes. -/
theorem storeToDisk_eq (service : Service) (job : Job) (bytecode : Bytecode) :
    ∃ notes, service.storeToDisk job bytecode =
      { service with
        disk := service.disk.store bytecode (service.cache.diskPath? job.key)
        notes := notes } := by
  cases used : service.cache.diskPath? job.key with
  | none => exact ⟨_, by simp only [storeToDisk, Disk.store, used]; rfl⟩
  | some path =>
    -- Whether the write succeeds or not, its files are kept.
    cases written : service.disk.writeAtomically path (bytesOfWords bytecode.words) with
    | mk disk result =>
      cases result with
      | ok => exact ⟨_, by simp only [storeToDisk, Disk.store, used, written]; rfl⟩
      | error fault =>
        exact ⟨_, by simp only [storeToDisk, Disk.store, used, written, note, noteAll]; rfl⟩

/-- Giving the handles of entries up changes the heap only. -/
theorem releaseEntries_eq (service : Service) (entries : List Entry) :
    service.releaseEntries entries =
      { service with heap := service.heap.releaseAll (entries.map (·.shared.handle)) } := by
  -- One handle after the other goes.
  induction entries generalizing service with
  | nil => rfl
  | cons entry entries ih => exact ih (service.release entry.shared)

section Steps

variable {service : Service} {job : Job} {id : FlightId}

/-- A request whose key is in memory has its answer at once. -/
theorem arrive_hit (job : Job) (idle : service.Idle) {shared : Shared}
    (found : service.stock.shelf.held? job.key = some shared) :
    ∃ after, service.arrive job = (after, .answered (.returned (.ok shared))) ∧ after.Idle ∧
      after.stock =
        { service.stock with
          shelf := (service.stock.shelf.touch job.key).2
          heap := service.stock.heap.retain shared.handle
          stats := { service.stock.stats with hits := service.stock.stats.hits + 1 } } := by
  -- The memory is asked before the table, and the flights are left alone.
  have touched : service.cache.shelf.touch job.key =
      (some shared, (service.cache.shelf.touch job.key).2) := Prod.ext found rfl
  unfold arrive
  rw [touched]
  exact ⟨_, rfl, ⟨idle.table, idle.flights⟩, rfl⟩

/-- A request whose key is not in memory leads a flight when no other request is under way. -/
theorem arrive_lead (job : Job) (idle : service.Idle)
    (absent : service.stock.shelf.held? job.key = none) :
    ∃ after id, service.arrive job = (after, .leading id) ∧ after.Leads job.key id ∧
      after.stock =
        { service.stock with
          shelf := (service.stock.shelf.touch job.key).2
          stats := { service.stock.stats with misses := service.stock.stats.misses + 1 } } := by
  have touched : service.cache.shelf.touch job.key =
      (none, (service.cache.shelf.touch job.key).2) := Prod.ext absent rfl
  -- Nobody leads a flight for the key, since there is no flight at all.
  have free : (service.withShelf (service.cache.shelf.touch job.key).2).cache.inFlight.lookup
      job.key = none := by
    show service.cache.inFlight.lookup job.key = none
    rw [idle.table]
    rfl
  unfold arrive
  rw [touched]
  simp only [free]
  refine ⟨_, _, rfl, ⟨?_, ?_⟩, rfl⟩
  · show (job.key, service.nextFlight) :: service.cache.inFlight = [(job.key, service.nextFlight)]
    rw [idle.table]
  · show (service.nextFlight, ({} : Flight)) :: service.flights.filter _ = _
    rw [idle.flights]
    rfl

/-- A leader whose module is on the disk has it at once. -/
theorem lead_found (leads : service.Leads job.key id) {bytecode : Bytecode}
    (found : (service.stock.search job.key).1 = some bytecode) :
    ∃ after, service.lead job id =
        (after, .produced id (.returned (.ok ⟨service.stock.heap.next, bytecode⟩))) ∧
      after.Leads job.key id ∧
      after.stock =
        { service.stock with
          heap := (service.stock.heap.allocate bytecode).2
          disk := (service.stock.search job.key).2
          stats := { service.stock.stats with diskHits := service.stock.stats.diskHits + 1 } } := by
  -- What was found is allocated, and the flights are left alone.
  obtain ⟨notes, loaded⟩ := service.loadFromDisk_eq job
  have found' : (service.disk.search (service.cache.diskPath? job.key)).1 = some bytecode := found
  rw [found'] at loaded
  unfold lead
  rw [loaded]
  exact ⟨_, rfl, ⟨leads.table, leads.flights⟩, rfl⟩

/-- A leader whose module is not on the disk calls the compiler. -/
theorem lead_compile (leads : service.Leads job.key id)
    (missing : (service.stock.search job.key).1 = none) :
    ∃ after, service.lead job id = (after, .compiling id) ∧ after.Leads job.key id ∧
      after.stock =
        { service.stock with
          disk := (service.stock.search job.key).2
          stats :=
            { service.stock.stats with
              compilations := service.stock.stats.compilations + 1 } } := by
  -- The call is counted before it is made.
  obtain ⟨notes, loaded⟩ := service.loadFromDisk_eq job
  have missing' : (service.disk.search (service.cache.diskPath? job.key)).1 = none := missing
  rw [missing'] at loaded
  unfold lead
  rw [loaded]
  exact ⟨_, rfl, ⟨leads.table, leads.flights⟩, rfl⟩

/-- A module that fits passes the check. -/
theorem checkFits_of_fits {cache : Cache} {bytecode : Bytecode}
    (fits : cache.setting.Fits bytecode) :
    cache.checkFits bytecode.byteLength = .ok () := by
  -- The only way to fail the check is a limit below the module's size.
  rcases checkFits_cases cache bytecode with ⟨ok, -⟩ | ⟨limit, bounded, large, -⟩
  · exact ok
  · exact absurd (fits limit bounded) (Nat.not_le.mpr large)

/-- A compiler that makes a module which fits has it written to the disk. -/
theorem compile_module (leads : service.Leads job.key id) {bytecode : Bytecode}
    (compiled : service.stock.setting.outcome job.request = .finished (.ok bytecode))
    (fits : service.stock.setting.Fits bytecode) :
    ∃ after, service.compile job id =
        (after, .produced id (.returned (.ok ⟨service.stock.heap.next, bytecode⟩))) ∧
      after.Leads job.key id ∧
      after.stock =
        { service.stock with
          heap := (service.stock.heap.allocate bytecode).2
          disk :=
            service.stock.disk.store bytecode (service.stock.setting.diskPath? job.key) } := by
  have made : service.cache.compiler.compile job.request service.cache.options =
      .finished (.ok bytecode) := compiled
  -- The notes of the compiler come before the write to the disk.
  obtain ⟨notes, stored⟩ := (service.noteAll
    (service.cache.compiler.notes job.request service.cache.options)).storeToDisk_eq job bytecode
  unfold compile
  simp only [made, checkFits_of_fits fits, stored]
  exact ⟨_, rfl, ⟨leads.table, leads.flights⟩, rfl⟩

/-- A compiler that makes no module, or one that is too large, changes the counters at most. -/
theorem compile_failed (leads : service.Leads job.key id)
    (fails : ∀ bytecode, service.stock.setting.outcome job.request = .finished (.ok bytecode) →
      ¬ service.stock.setting.Fits bytecode) :
    ∃ after answer failures, service.compile job id = (after, .produced id answer) ∧
      answer.Fails ∧
      answer.outcome = (service.stock.setting.outcome job.request).under
        service.stock.setting.memoryLimit false ∧
      after.Leads job.key id ∧
      after.stock =
        { service.stock with stats := { service.stock.stats with failures := failures } } := by
  have made : service.cache.compiler.compile job.request service.cache.options =
    service.stock.setting.outcome job.request := rfl
  unfold compile
  simp only [made]
  cases compiled : service.stock.setting.outcome job.request with
  | panicked message =>
    exact ⟨_, .panicked message, _, rfl, by simp [Answer.Fails], rfl,
      ⟨leads.table, leads.flights⟩, rfl⟩
  | finished result =>
    cases result with
    | error failure =>
      exact ⟨_, .returned (.error failure), _, rfl, by simp [Answer.Fails], rfl,
        ⟨leads.table, leads.flights⟩, rfl⟩
    | ok bytecode =>
      rcases checkFits_cases service.cache bytecode with
        ⟨-, fits⟩ | ⟨limit, bounded, large, checked⟩
      · exact absurd fits (fails bytecode compiled)
      -- The module that there is does not fit, and the check says so.
      · simp only [checked]
        refine ⟨_, .returned (.error (.cacheExhausted bytecode.byteLength limit)), _, rfl,
          by simp [Answer.Fails], ?_, ⟨leads.table, leads.flights⟩, rfl⟩
        have bounded' : service.stock.setting.memoryLimit = some limit := bounded
        rw [bounded', CompileOutcome.under_of_large large]
        rfl

/-- A module that fits and is not in memory is put in, and only those that made room for it go. -/
theorem keep_of_fits (service : Service) (key : Fingerprint) {shared : Shared}
    (fits : service.cache.setting.Fits shared.bytecode)
    (absent : service.cache.shelf.held? key = none) :
    ∃ after, service.keep key shared = (.ok shared, after) ∧
      after.cache.inFlight = service.cache.inFlight ∧ after.flights = service.flights ∧
      after.stock = service.stock.put key shared := by
  let left := (service.cache.shelf.room service.cache.memoryLimit shared.bytecode.byteLength).2
  -- There is nothing that the module takes the place of.
  have previous : left.insert key shared = (none, (left.insert key shared).2) :=
    Prod.ext (Shelf.held?_eq_none_iff.mp (Shelf.held?_room_of_none absent)) rfl
  unfold keep
  simp only [checkFits_of_fits fits, releaseEntries_eq]
  rw [previous]
  simp only [Option.toList_none, List.append_nil]
  exact ⟨_, rfl, rfl, rfl, rfl⟩

/-- A module that is too large is not put in memory, and its handle is given up. -/
theorem keep_of_large (service : Service) (key : Fingerprint) {shared : Shared} {limit : Nat}
    (bounded : service.cache.memoryLimit = some limit)
    (large : limit < shared.bytecode.byteLength) :
    service.keep key shared =
      (.error (.cacheExhausted shared.bytecode.byteLength limit), service.release shared) := by
  -- The check refuses before anything is inserted, so only the caller's handle has to be given up.
  have checked : service.cache.checkFits shared.bytecode.byteLength =
      .error (.cacheExhausted shared.bytecode.byteLength limit) := by
    simp [Cache.checkFits, bounded, large]
  unfold keep
  simp only [checked]

/-- The table is empty when its one leader has left it. -/
theorem Leads.left (leads : service.Leads job.key id) :
    service.cache.inFlight.filter (·.1 != job.key) = [] := by
  -- The leader's entry is the only one.
  simp [leads.table]

/-- What a leader without a module settles on. -/
theorem settle_failed (leads : service.Leads job.key id) {answer : Answer} (fails : answer.Fails) :
    ∃ after, service.settle job id answer = (after, .settled id answer) ∧
      after.cache.inFlight = [] ∧ after.flights = service.flights ∧
      after.stock = service.stock := by
  -- Both a panic and an error skip the shelf: what is taken out of the table is all that changes.
  unfold settle
  cases answer with
  | panicked message => exact ⟨_, rfl, leads.left, rfl, rfl⟩
  | returned result =>
    cases result with
    | ok shared => exact absurd rfl (fails shared)
    | error failure => exact ⟨_, rfl, leads.left, rfl, rfl⟩

/-- A leader whose module fits puts it in memory. -/
theorem settle_module (leads : service.Leads job.key id) {shared : Shared}
    (fits : service.stock.setting.Fits shared.bytecode)
    (absent : service.stock.shelf.held? job.key = none) :
    ∃ after, service.settle job id (.returned (.ok shared)) =
        (after, .settled id (.returned (.ok shared))) ∧
      after.cache.inFlight = [] ∧ after.flights = service.flights ∧
      after.stock = service.stock.put job.key shared := by
  -- The entry in flight is taken out first, so the module is kept by a cache whose table is empty.
  obtain ⟨after, kept, table, flights, stock⟩ := keep_of_fits { service with
    cache := { service.cache with inFlight := service.cache.inFlight.filter (·.1 != job.key) } }
    job.key fits absent
  unfold settle
  simp only [kept]
  exact ⟨after, rfl, table.trans leads.left, flights, stock⟩

/-- A leader whose module is too large is refused, and its handle is given up. -/
theorem settle_refused (leads : service.Leads job.key id) {shared : Shared} {limit : Nat}
    (bounded : service.stock.setting.memoryLimit = some limit)
    (large : limit < shared.bytecode.byteLength) :
    ∃ after, service.settle job id (.returned (.ok shared)) = (after, .settled id
        (.returned (.error (.cacheExhausted shared.bytecode.byteLength limit)))) ∧
      after.cache.inFlight = [] ∧ after.flights = service.flights ∧
      after.stock = { service.stock with heap := service.stock.heap.release shared.handle } := by
  -- As for a module that fits, the entry in flight is taken out before the check refuses.
  have refused := keep_of_large { service with
    cache := { service.cache with inFlight := service.cache.inFlight.filter (·.1 != job.key) } }
    job.key bounded large
  unfold settle
  simp only [refused]
  exact ⟨_, rfl, leads.left, rfl, rfl⟩

/-- A leader that nobody waits for is answered what it settles on, and leaves no flight behind. -/
theorem finish {left : Service} {made final : Answer}
    (settles : service.settle job id made = (left, .settled id final))
    (free : left.cache.inFlight = []) (flights : left.flights = [(id, {})]) (steps : Nat) :
    ∃ after, proceed job (steps + 2) service (.produced id made) = (after, .answered final) ∧
      after.Idle ∧ after.stock = left.stock := by
  -- The flight has no followers, so that it goes when it is published.
  have own : (left.flight? id).getD {} = {} := by simp [flight?, flights]
  have published : left.publish job id final = (left.dropFlight id, .answered final) := by
    unfold publish
    simp only [own, if_true]
  refine ⟨left.dropFlight id, ?_, ⟨free, ?_⟩, rfl⟩
  · simp only [proceed, advance, settles, published]
    exact proceed_answered job steps _ _
  · simp [dropFlight, flights]

/-- A leader without a module is answered with what it has. -/
theorem finish_failed (job : Job) (leads : service.Leads job.key id) {answer : Answer}
    (fails : answer.Fails) (steps : Nat) :
    ∃ after, proceed job (steps + 2) service (.produced id answer) = (after, .answered answer) ∧
      after.Idle ∧ after.stock = service.stock := by
  -- Two steps are left: to settle, which empties the table, and to finish, which ends the flight.
  obtain ⟨left, settles, free, flights, stock⟩ := settle_failed leads fails
  obtain ⟨after, ends, idle, same⟩ := finish settles free (flights.trans leads.flights) steps
  exact ⟨after, ends, idle, same.trans stock⟩

/-- A leader whose module fits is answered with it. -/
theorem finish_module (job : Job) (shared : Shared) (leads : service.Leads job.key id)
    (fits : service.stock.setting.Fits shared.bytecode)
    (absent : service.stock.shelf.held? job.key = none) (steps : Nat) :
    ∃ after, proceed job (steps + 2) service (.produced id (.returned (.ok shared))) =
        (after, .answered (.returned (.ok shared))) ∧ after.Idle ∧
      after.stock = service.stock.put job.key shared := by
  -- The module is in memory once the leader has settled; finishing leaves it there.
  obtain ⟨left, settles, free, flights, stock⟩ := settle_module leads fits absent
  obtain ⟨after, ends, idle, same⟩ := finish settles free (flights.trans leads.flights) steps
  exact ⟨after, ends, idle, same.trans stock⟩

/-- A leader whose module is too large is answered so. -/
theorem finish_refused (job : Job) (shared : Shared) (leads : service.Leads job.key id)
    {limit : Nat}
    (bounded : service.stock.setting.memoryLimit = some limit)
    (large : limit < shared.bytecode.byteLength) (steps : Nat) :
    ∃ after, proceed job (steps + 2) service (.produced id (.returned (.ok shared))) =
        (after, .answered (.returned (.error (.cacheExhausted shared.bytecode.byteLength limit)))) ∧
      after.Idle ∧
      after.stock = { service.stock with heap := service.stock.heap.release shared.handle } := by
  -- Settling turns the module into the refusal; finishing hands that on.
  obtain ⟨left, settles, free, flights, stock⟩ := settle_refused leads bounded large
  obtain ⟨after, ends, idle, same⟩ := finish settles free (flights.trans leads.flights) steps
  exact ⟨after, ends, idle, same.trans stock⟩

end Steps

/-- What a leader has when the disk and the compiler are done, and what is there then. -/
inductive Produces (stock : Stock) (request : Request) : Answer → Stock → Prop where
  /-- The module is on the disk. -/
  | found {bytecode : Bytecode} (found : (stock.look request).1 = some bytecode) :
    Produces stock request (.returned (.ok ⟨stock.heap.next, bytecode⟩))
      (stock.made request bytecode)
  /-- The compiler makes the module, and it fits. -/
  | compiled {bytecode : Bytecode} (missing : (stock.look request).1 = none)
    (compiled : stock.setting.outcome request = .finished (.ok bytecode))
    (fits : stock.setting.Fits bytecode) :
    Produces stock request (.returned (.ok ⟨stock.heap.next, bytecode⟩))
      (stock.made request bytecode)
  /-- The compiler makes no module, or one that is too large. -/
  | failed {answer : Answer} {failures : Nat} (fails : answer.Fails)
    (due : answer.outcome = stock.due request) :
    Produces stock request answer
      { stock.missed request with
        stats := { stock.counted request with failures := failures } }

/-- What a leader that calls the compiler has in the end. -/
theorem compile_produces {stock : Stock} {service : Service} (job : Job) {id : FlightId}
    (leads : service.Leads job.key id) (missed : service.stock = stock.missed job.request)
    (same : job.key = stock.setting.keyOf job.request)
    (missing : (stock.look job.request).1 = none) :
    ∃ after answer, service.compile job id = (after, .produced id answer) ∧
      after.Leads job.key id ∧ Produces stock job.request answer after.stock := by
  have setting : service.stock.setting = stock.setting := by rw [missed]; rfl
  have next : service.stock.heap.next = stock.heap.next := by rw [missed]; rfl
  by_cases makes : ∃ bytecode, stock.setting.outcome job.request = .finished (.ok bytecode) ∧
      stock.setting.Fits bytecode
  · obtain ⟨bytecode, compiled, fits⟩ := makes
    obtain ⟨after, compiles, leads, rest⟩ :=
      compile_module leads (setting ▸ compiled) (setting ▸ fits)
    refine ⟨after, _, compiles, leads, ?_⟩
    -- What the call adds to a request that missed is a request that has its module.
    have made : after.stock = stock.made job.request bytecode := by
      rw [rest, setting, missed, same, Stock.made_of_missing missing]
      rfl
    rw [made, next]
    exact .compiled missing compiled fits
  · have fails : ∀ bytecode, service.stock.setting.outcome job.request = .finished (.ok bytecode) →
        ¬ service.stock.setting.Fits bytecode := by
      rw [setting]
      exact fun bytecode compiled fits => makes ⟨bytecode, compiled, fits⟩
    obtain ⟨after, answer, failures, compiles, fails, due, leads, rest⟩ :=
      compile_failed leads fails
    refine ⟨after, answer, compiles, leads, ?_⟩
    rw [setting, ← Stock.due_of_missing missing] at due
    rw [rest, missed]
    exact .failed fails due

/-- A request that does not find its key in memory comes to what the disk and the compiler make. -/
theorem request_produces {service : Service} {request : Request} (idle : service.Idle)
    (absent : service.stock.shelf.held? (service.stock.setting.keyOf request) = none) :
    ∃ after id answer steps,
      service.request request =
        proceed (service.jobOf request) (steps + 2) after (.produced id answer) ∧
      after.Leads (service.stock.setting.keyOf request) id ∧
      Produces service.stock request answer after.stock := by
  let job := service.jobOf request
  obtain ⟨led, id, arrives, leads, begun⟩ := arrive_lead job idle absent
  -- The first of the five steps was the arrival.
  have whole : service.request request = proceed job 4 led (.leading id) := by
    show proceed job 5 service .arriving = _
    simp only [proceed, advance, arrives]
  have search : led.stock.search job.key = service.stock.look request := by rw [begun]; rfl
  cases loaded : (service.stock.look request).1 with
  | some bytecode =>
    obtain ⟨held, loads, leads, rest⟩ := lead_found leads (search ▸ loaded)
    refine ⟨held, id, .returned (.ok ⟨led.stock.heap.next, bytecode⟩), 1, ?_, leads, ?_⟩
    · rw [whole]
      simp only [proceed, advance, loads]
      rfl
    · have made : held.stock = service.stock.made request bytecode := by
        rw [rest, search, begun, Stock.made_of_found loaded, Stock.missed,
          Stock.counted_of_found loaded]
        rfl
      rw [made, begun]
      exact .found loaded
  | none =>
    obtain ⟨called, calls, leads, rest⟩ := lead_compile leads (search ▸ loaded)
    have missed : called.stock = service.stock.missed request := by
      rw [rest, search, begun, Stock.missed, Stock.counted_of_missing loaded]
      rfl
    obtain ⟨after, answer, compiles, leads, produces⟩ :=
      compile_produces job leads missed rfl loaded
    refine ⟨after, id, answer, 0, ?_, leads, produces⟩
    rw [whole]
    simp only [proceed, advance, calls, compiles]
    rfl

/-- A request to a cache without other requests is answered, and leaves none under way. -/
theorem request_serves {service : Service} (idle : service.Idle) (request : Request) :
    ∃ after answer, service.request request = (after, .answered answer) ∧ after.Idle ∧
      service.stock.Serves request answer after.stock := by
  let job := service.jobOf request
  cases found : service.stock.shelf.held? (service.stock.setting.keyOf request) with
  | some shared =>
    obtain ⟨after, arrives, idle, stock⟩ := arrive_hit job idle found
    refine ⟨after, .returned (.ok shared), ?_, idle, ?_⟩
    · show proceed job 5 service .arriving = _
      simp only [proceed, advance, arrives]
    · rw [stock]
      exact .hit found
  | none =>
    -- Two steps are left to settle and to publish what the leader has.
    obtain ⟨before, id, answer, steps, whole, leads, produces⟩ := request_produces idle found
    rw [whole]
    have absent : ∀ bytecode,
        (service.stock.made request bytecode).shelf.held? job.key = none := fun bytecode =>
      (Shelf.held?_touch _ _ _).trans found
    generalize here : before.stock = stock at produces
    cases produces with
    | failed fails due =>
      obtain ⟨after, ends, idle, same⟩ := finish_failed job leads fails steps
      refine ⟨after, answer, ends, idle, ?_⟩
      rw [same, here]
      exact .failed found due fails (.inl rfl)
    | @compiled bytecode missing compiled fits =>
      obtain ⟨after, ends, idle, stock⟩ := finish_module job
        ⟨service.stock.heap.next, bytecode⟩ leads (by rw [here]; exact fits)
        (by rw [here]; exact absent bytecode) steps
      refine ⟨after, _, ends, idle, ?_⟩
      rw [stock, here]
      refine .kept found ?_
      rw [Stock.due_of_missing missing, compiled, fits.under]
    | @found bytecode loaded =>
      -- A module from the disk is checked against the limit only when it is to be kept.
      rcases checkFits_cases service.cache bytecode with ⟨-, fits⟩ | ⟨limit, bounded, large, -⟩
      · obtain ⟨after, ends, idle, stock⟩ := finish_module job
          ⟨service.stock.heap.next, bytecode⟩ leads (by rw [here]; exact fits)
          (by rw [here]; exact absent bytecode) steps
        refine ⟨after, _, ends, idle, ?_⟩
        rw [stock, here]
        refine .kept found ?_
        have fits' : service.stock.setting.Fits bytecode := fits
        rw [Stock.due_of_found loaded, fits'.under]
      · have bounded' : service.stock.setting.memoryLimit = some limit := bounded
        obtain ⟨after, ends, idle, stock⟩ := finish_refused job
          ⟨service.stock.heap.next, bytecode⟩ leads (by rw [here]; exact bounded')
          large steps
        refine ⟨after, _, ends, idle, ?_⟩
        rw [stock, here, Stock.made_of_found loaded]
        refine .failed found ?_ (by simp [Answer.Fails]) (.inr ⟨bytecode, rfl⟩)
        rw [Stock.due_of_found loaded, bounded', CompileOutcome.under_of_large large]
        rfl

end Service

namespace Stock

variable {stock after : Stock} {request : Request} {answer : Answer}

/-- A request leaves the settings. -/
theorem Serves.setting_eq (serves : stock.Serves request answer after) :
    after.setting = stock.setting := by
  cases serves <;> rfl

/-- A request that finds its key in memory is answered from there. -/
theorem Serves.of_held {shared : Shared} (serves : stock.Serves request answer after)
    (found : stock.shelf.held? (stock.setting.keyOf request) = some shared) :
    answer = .returned (.ok shared) ∧ after =
      { stock with
        shelf := (stock.shelf.touch (stock.setting.keyOf request)).2
        heap := stock.heap.retain shared.handle
        stats := { stock.stats with hits := stock.stats.hits + 1 } } := by
  -- A key in memory rules out the two ways to serve a miss.
  cases serves with
  | hit found' =>
    obtain rfl := Option.some.inj (found'.symm.trans found)
    exact ⟨rfl, rfl⟩
  | failed absent due fails handles => simp [absent] at found
  | kept absent due => simp [absent] at found

/-- A request that does not find its key in memory is answered what is due. -/
theorem Serves.of_absent (serves : stock.Serves request answer after)
    (absent : stock.shelf.held? (stock.setting.keyOf request) = none) :
    answer.outcome = stock.due request := by
  -- Without the key in memory no hit is possible, and a miss gives what is due in both cases.
  cases serves with
  | hit found => simp [absent] at found
  | failed absent due fails handles => exact due
  | kept absent due => exact due.symm

/-- A request leaves the disk, or has looked on it, or has also written the module that it is
answered there. -/
theorem Serves.disk_of_answer (serves : stock.Serves request answer after) :
    after.disk = stock.disk ∨ after.disk = (stock.look request).2 ∨
      ∃ shared, answer = .returned (.ok shared) ∧
        after.disk = (stock.look request).2.store shared.bytecode
          (stock.setting.diskPath? (stock.setting.keyOf request)) := by
  -- Only a module that was made anew is written; one that was found on the disk is not.
  cases serves with
  | hit found => exact Or.inl rfl
  | failed absent due fails handles => exact Or.inr (Or.inl rfl)
  | @kept bytecode absent due =>
    refine Or.inr ?_
    show (stock.made request bytecode).disk = _ ∨
      ∃ shared, _ ∧ (stock.made request bytecode).disk = _
    unfold made
    simp only
    split
    · exact Or.inl rfl
    · exact Or.inr ⟨_, rfl, rfl⟩

/-- A request leaves the disk, or looks on it, or also writes to it. -/
theorem Serves.disk_cases (serves : stock.Serves request answer after) :
    after.disk = stock.disk ∨ after.disk = (stock.look request).2 ∨
      ∃ bytecode, after.disk = (stock.look request).2.store bytecode
        (stock.setting.diskPath? (stock.setting.keyOf request)) :=
  -- Which module was written is forgotten here, so that failures and successes read alike.
  serves.disk_of_answer.imp_right <| Or.imp_right fun ⟨shared, _, written⟩ =>
    ⟨shared.bytecode, written⟩

end Stock

end ShaderBuild
