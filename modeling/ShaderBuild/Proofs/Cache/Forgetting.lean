import ShaderBuild.Proofs.Cache.Eviction
import ShaderBuild.Proofs.Cache.Failures
import ShaderBuild.Proofs.Cache.Footprint

/-! What an invalidation and a flush take away, and what the next request meets. -/

namespace ShaderBuild

namespace Files

variable {files after : Files} {path : Path}

/-- What can be removed is a file that could be read. -/
theorem read_of_remove (removed : files.remove path = .ok after) :
    ∃ bytes, files.read path = .ok bytes := by
  -- What is removed stands at the place that the path leads to.
  obtain ⟨targeted, ⟨bytes, found⟩, -⟩ := remove_eq_ok_iff.mp removed
  exact ⟨bytes, read_of_locate (locate_of_target targeted) found⟩

/-- A file that can be read can be removed. -/
theorem remove_of_read (named : path.Named) {bytes : List UInt8}
    (read_ : files.read path = .ok bytes) : files.remove path = .ok (files.erase path.place) := by
  -- A named path that can be read leads to a file at its own place.
  obtain ⟨leads, found⟩ := (read_eq_ok_iff named).mp read_
  exact remove_of_target (reaches_iff.mp leads) found

end Files

namespace Crowd

/-- No request for a key is under way. -/
def Quiet (crowd : Crowd) (key : Fingerprint) : Prop :=
  ∀ (thread : Nat) (job : Job) (phase : Phase), crowd.threads[thread]? = some (job, phase) →
    job.key = key → ∃ answer, phase = .answered answer

/-- A key for which no request is under way has no flight. -/
theorem Orderly.free_of_quiet {crowd : Crowd} {key : Fingerprint} (orderly : crowd.Orderly)
    (quiet : crowd.Quiet key) : crowd.service.cache.inFlight.lookup key = none := by
  cases found : crowd.service.cache.inFlight.lookup key with
  | none => rfl
  | some id =>
    -- The flight would have a leader that has not settled.
    obtain ⟨thread, job, ⟨phase, here, leads⟩, own⟩ := orderly.slot.mp found
    obtain ⟨answer, rfl⟩ := quiet thread job phase here own
    simp [Phase.slot?] at leads

end Crowd

namespace Service

variable {service after : Service} {key : Fingerprint}

/-- What an invalidation does that tells whether it found anything. -/
structure Forgets (service : Service) (key : Fingerprint) (told : Bool) (after : Service) :
    Prop where
  /-- It has found the key in memory, or a file of the key. -/
  found : told = true ↔ service.cache.shelf.contains key = true ∨ (service.file? key).isSome = true
  absent : after.cache.shelf.contains key = false
  gone : after.file? key = none
  /-- The counter of bytes goes down by the size of the entry, if there was one. -/
  resident : after.cache.shelf.resident +
    ((service.cache.shelf.get? key).map Entry.size).getD 0 = service.cache.shelf.resident
  /-- Other keys keep their entries, with their modules and the times of their last uses. -/
  others : ∀ other, other ≠ key → after.cache.shelf.get? other = service.cache.shelf.get? other
  /-- The keys that stay are as recent as they were, in their order. -/
  order : after.cache.shelf.queue = service.cache.shelf.queue.filter (·.1 != key)
  /-- No other place on the disk changes. -/
  elsewhere : ∀ place, (∀ directory, service.cache.diskDirectory = some directory →
    place ≠ directory.keyPlace key) →
      after.disk.files.get? place = service.disk.files.get? place
  /-- Without a file of the key the disk stays as it is, whatever else is in its place. -/
  untouched : service.file? key = none → after.disk = service.disk
  stats : after.cache.stats = service.cache.stats
  setting : after.cache.setting = service.cache.setting
  flights : after.cache.inFlight = service.cache.inFlight ∧ after.flights = service.flights ∧
    after.nextFlight = service.nextFlight
  /-- The next request for the key calls the compiler, and is answered how it ends. -/
  next : ∀ request, service.cache.keyOf request = key →
    ∃ later answer, after.request request = (later, .answered answer) ∧
      answer.outcome =
        (service.cache.setting.outcome request).under service.cache.memoryLimit false ∧
      later.cache.stats.compilations = service.cache.stats.compilations + 1 ∧
      later.cache.stats.diskHits = service.cache.stats.diskHits ∧
      later.cache.stats.misses = service.cache.stats.misses + 1
  /-- Once more, and nothing is found and nothing changes. -/
  again : after.invalidate key = (false, after)

/-- What a flush does, as long as some keys are not asked for. -/
structure Empties (service : Service) (quiet : Fingerprint → Prop) (after : Service) : Prop where
  empty : ∀ key, after.cache.shelf.contains key = false
  resident : after.cache.shelf.resident = 0
  disk : after.disk = service.disk
  stats : after.cache.stats = service.cache.stats
  setting : after.cache.setting = service.cache.setting
  flights : after.cache.inFlight = service.cache.inFlight ∧ after.flights = service.flights ∧
    after.nextFlight = service.nextFlight
  /-- The next request for a key whose file holds a module that fits is answered with that module,
  from the disk and without the compiler. -/
  next : ∀ request bytecode, quiet (service.cache.keyOf request) →
    service.filed? (service.cache.keyOf request) = some bytecode →
    service.cache.setting.Fits bytecode →
      ∃ later shared, after.request request = (later, .answered (.returned (.ok shared))) ∧
        shared.bytecode = bytecode ∧
        later.cache.stats.diskHits = service.cache.stats.diskHits + 1 ∧
        later.cache.stats.compilations = service.cache.stats.compilations ∧
        later.cache.stats.misses = service.cache.stats.misses + 1
  /-- Once more, and nothing changes; it is noted that there was nothing. -/
  again : after.flush = after.note .info "Flushed 0 shader cache entries"

/-- Forgetting the file of a key finds it if and only if it can be read; then it goes, and else the
disk stays as it is. -/
theorem forget_cases (service : Service) (key : Fingerprint) :
    (service.file? key = none ∧ service.stock.forget key = (false, service.disk)) ∨
      ∃ directory bytes, service.cache.diskDirectory = some directory ∧
        service.file? key = some bytes ∧
        service.disk.files.get? (directory.keyPlace key) = some (.file bytes) ∧
        service.stock.forget key =
          (true, service.disk.withFiles (service.disk.files.erase (directory.keyPlace key))) := by
  have forget : service.stock.forget key = service.disk.forget (service.cache.diskPath? key) := rfl
  rw [forget]
  unfold file?
  -- What can be read can be removed, and what can be removed could be read.
  cases there : service.cache.diskPath? key with
  | none => exact Or.inl ⟨rfl, rfl⟩
  | some path =>
    obtain ⟨directory, used, rfl⟩ := Cache.diskPath?_eq_some there
    have named : (directory.join key.fileName).Named := Path.named_join directory key.plain_fileName
    cases read_ : service.disk.files.read (directory.join key.fileName) with
    | ok bytes =>
      have removed := Files.remove_of_read named read_
      have stands := Files.get?_of_read read_
      rw [Path.place_join_fileName] at removed stands
      exact Or.inr ⟨directory, bytes, used, by simp [read_, Except.toOption], stands,
        by simp only [Disk.forget, removed]⟩
    | error fault =>
      refine Or.inl ⟨by simp [read_, Except.toOption], ?_⟩
      cases removed : service.disk.files.remove (directory.join key.fileName) with
      | ok files =>
        obtain ⟨bytes, read'⟩ := Files.read_of_remove removed
        rw [read_] at read'
        simp at read'
      | error fault' => simp only [Disk.forget, removed]

/-- A file of a key stands in the directory of the cache. -/
theorem get?_of_file? {bytes : List UInt8} (there : service.file? key = some bytes) :
    ∃ directory, service.cache.diskDirectory = some directory ∧
      service.disk.files.get? (directory.keyPlace key) = some (.file bytes) := by
  -- Without a directory, or with nothing to read there, there is no such file.
  rcases service.forget_cases key with ⟨none_, -⟩ | ⟨directory, held, used, held_, stands, -⟩
  · simp [none_] at there
  · rw [there, Option.some.injEq] at held_
    exact ⟨directory, used, held_ ▸ stands⟩

/-- When the file of a key is forgotten it can be read no more, and no other place changes. -/
theorem file_of_forget {after : Service} (disk : after.disk = (service.stock.forget key).2)
    (same : after.cache.diskDirectory = service.cache.diskDirectory) :
    ((service.stock.forget key).1 = true ↔ (service.file? key).isSome = true) ∧
      after.file? key = none ∧
      (∀ place, (∀ directory, service.cache.diskDirectory = some directory →
        place ≠ directory.keyPlace key) →
          after.disk.files.get? place = service.disk.files.get? place) ∧
      (service.file? key = none → after.disk = service.disk) := by
  rcases service.forget_cases key with
    ⟨none_, forgot⟩ | ⟨directory, bytes, used, there, stands, forgot⟩
  · rw [forgot] at disk ⊢
    have still : after.file? key = service.file? key := by
      rw [file?, file?, Cache.diskPath?, Cache.diskPath?, same, disk]
    exact ⟨by simp [none_], still.trans none_, fun place _ => by rw [disk], fun _ => disk⟩
  · rw [forgot] at disk ⊢
    have free := Files.isFixed_eq_false_of_file stands
    refine ⟨by simp [there], ?_, fun place apart => ?_, fun none_ => by simp [none_] at there⟩
    · cases left : after.file? key with
      | none => rfl
      | some held =>
        -- Nothing stands there any more.
        obtain ⟨other, used', stands'⟩ := get?_of_file? left
        obtain rfl := Option.some.inj ((used'.symm.trans same).trans used)
        rw [disk] at stands'
        have empty : (service.disk.files.erase (other.keyPlace key)).get? (other.keyPlace key) =
          none := Files.get?_erase_self free
        exact absurd (empty.symm.trans stands') (by simp)
    · rw [disk]
      exact Files.get?_erase_of_ne (apart directory used)

/-- A request that does not find its key in memory looks for the file, and without a module there
calls the compiler. -/
theorem counts_of_serves {request : Request} {answer : Answer} {later : Service}
    (serves : service.stock.Serves request answer later.stock)
    (absent : service.cache.shelf.held? (service.cache.keyOf request) = none) :
    answer.outcome = (service.comesTo request).under service.cache.memoryLimit false ∧
      later.cache.stats.misses = service.cache.stats.misses + 1 ∧
      later.cache.stats.diskHits = service.cache.stats.diskHits +
        (if (service.filed? (service.cache.keyOf request)).isSome then 1 else 0) ∧
      later.cache.stats.compilations = service.cache.stats.compilations +
        (if (service.filed? (service.cache.keyOf request)).isSome then 0 else 1) := by
  -- What the look finds is the module in the file.
  have found : (service.stock.look request).1 = service.filed? (service.cache.keyOf request) :=
    service.search_eq_filed? _
  obtain ⟨misses, diskHits, compilations⟩ := serves.counts absent
  refine ⟨(serves.of_absent absent).trans (service.due_stock request), ?_⟩
  rw [← found]
  show later.stock.stats.misses = _ ∧ later.stock.stats.diskHits = _ ∧
    later.stock.stats.compilations = _
  rw [misses, diskHits, compilations]
  cases seen : (service.stock.look request).1 with
  | some bytecode =>
    rw [Stock.counted_of_found seen]
    exact ⟨rfl, rfl, rfl⟩
  | none =>
    rw [Stock.counted_of_missing seen]
    exact ⟨rfl, rfl, rfl⟩

/-- A request that does not find its key in memory is answered, when there are no other requests for
the key, and counts what it does. -/
theorem request_missed (request : Request)
    (free : service.cache.inFlight.lookup (service.cache.keyOf request) = none)
    (fresh : service.flights.lookup service.nextFlight = none)
    (absent : service.cache.shelf.held? (service.cache.keyOf request) = none) :
    ∃ later answer, service.request request = (later, .answered answer) ∧
      answer.outcome = (service.comesTo request).under service.cache.memoryLimit false ∧
      later.cache.stats.misses = service.cache.stats.misses + 1 ∧
      later.cache.stats.diskHits = service.cache.stats.diskHits +
        (if (service.filed? (service.cache.keyOf request)).isSome then 1 else 0) ∧
      later.cache.stats.compilations = service.cache.stats.compilations +
        (if (service.filed? (service.cache.keyOf request)).isSome then 0 else 1) := by
  -- The request is served as it is without the flights of other keys.
  obtain ⟨later, answer, ends, -, -, serves⟩ := request_serves_amid request free fresh
  exact ⟨later, answer, ends, counts_of_serves serves absent⟩

/-- An invalidation finds nothing when the key is not in memory and its file cannot be read, and
then changes nothing. -/
theorem invalidate_of_absent (absent : service.cache.shelf.contains key = false)
    (none_ : service.file? key = none) : service.invalidate key = (false, service) := by
  -- Neither half of the invalidation finds anything.
  have missing := Shelf.held?_eq_none_iff.mp (Shelf.contains_eq_false_iff.mp absent)
  have removed : service.cache.shelf.remove key = (none, service.cache.shelf) := by
    simp [Shelf.remove, missing]
  rcases service.forget_cases key with ⟨-, forgot⟩ | ⟨-, bytes, -, there, -⟩
  · rw [invalidate_eq, removed, forgot]
    rfl
  · simp [none_] at there

/-- An invalidation of a key that no request asks for forgets that key and nothing else. -/
theorem invalidate_forgets (dated : service.cache.shelf.Dated)
    (free : service.cache.inFlight.lookup key = none)
    (fresh : service.flights.lookup service.nextFlight = none) :
    service.Forgets key (service.invalidate key).1 (service.invalidate key).2 := by
  rw [invalidate_eq, Shelf.isSome_remove]
  generalize changed : ({ service with
    cache := { service.cache with shelf := (service.cache.shelf.remove key).2 }
    heap := service.heap.releaseAll
      ((service.cache.shelf.remove key).1.toList.map (·.shared.handle))
    disk := (service.stock.forget key).2 } : Service) = after
  have shelf : after.cache.shelf = (service.cache.shelf.remove key).2 := by rw [← changed]
  have missing : after.cache.shelf.held? key = none := by
    rw [shelf]
    exact (Shelf.held?_remove _ _ _).trans (if_pos rfl)
  have absent : after.cache.shelf.contains key = false := Shelf.contains_eq_false_iff.mpr missing
  have disk : after.disk = (service.stock.forget key).2 := by rw [← changed]
  have same : after.cache.diskDirectory = service.cache.diskDirectory := by rw [← changed]
  obtain ⟨told, gone, elsewhere, untouched⟩ := file_of_forget disk same
  refine ⟨?_, absent, gone, ?_, fun other apart => ?_, ?_, elsewhere, untouched, ?_, ?_, ?_, ?_,
    invalidate_of_absent absent gone⟩
  · rw [Bool.or_eq_true, told]
  · rw [shelf]
    exact dated.toAccounted.resident_remove key
  · rw [shelf]
    exact Shelf.get?_remove_of_ne _ apart
  · rw [shelf]
    exact dated.queue_remove key
  · rw [← changed]
  · rw [← changed]
    rfl
  · rw [← changed]
    exact ⟨rfl, rfl, rfl⟩
  · rintro request rfl
    have alike : after.cache.keyOf request = service.cache.keyOf request := by
      rw [← changed]
      rfl
    have free' : after.cache.inFlight.lookup (after.cache.keyOf request) = none := by
      rw [alike, ← changed]
      exact free
    have fresh' : after.flights.lookup after.nextFlight = none := by
      rw [← changed]
      exact fresh
    have missing' : after.cache.shelf.held? (after.cache.keyOf request) = none := by
      rw [alike]
      exact missing
    obtain ⟨later, answer, ends, outcome, misses, diskHits, compilations⟩ :=
      request_missed request free' fresh' missing'
    -- There is no file any more, so the compiler is called.
    have none_ : after.filed? (after.cache.keyOf request) = none := by
      rw [alike, filed?, gone]
      rfl
    have comes : after.comesTo request = service.cache.setting.outcome request := by
      rw [comesTo, none_, ← changed]
      rfl
    have stats : after.cache.stats = service.cache.stats := by rw [← changed]
    have limit : after.cache.memoryLimit = service.cache.memoryLimit := by rw [← changed]
    rw [comes, limit] at outcome
    rw [none_, stats] at diskHits compilations
    rw [stats] at misses
    exact ⟨later, answer, ends, outcome, compilations, diskHits, misses⟩

/-- A flush takes everything out of the memory and notes how much that was. -/
theorem flush_eq (service : Service) :
    service.flush =
      ({ service with
        cache := { service.cache with shelf := service.cache.shelf.clear }
        heap := service.heap.releaseAll
          ((service.cache.shelf.entries.map (·.2)).map (·.shared.handle)) } : Service).note .info
        s!"Flushed {service.cache.shelf.entries.length} shader cache entries" := by
  -- All entries are released at once.
  rw [flush]
  simp only [releaseEntries_eq]
  rfl

/-- A flush of an empty memory only notes that there was nothing. -/
theorem flush_of_cleared (cleared : service.cache.shelf.clear = service.cache.shelf) :
    service.flush = service.note .info "Flushed 0 shader cache entries" := by
  -- Nothing is released, and the note counts nothing.
  have none_ : service.cache.shelf.entries = [] := by
    rw [← cleared]
    rfl
  have text : s!"Flushed {0} shader cache entries" = "Flushed 0 shader cache entries" := by
    decide
  rw [flush_eq, cleared, none_, List.length_nil, text]
  rfl

/-- A flush empties the memory and does nothing else. -/
theorem flush_empties {quiet : Fingerprint → Prop}
    (free : ∀ key, quiet key → service.cache.inFlight.lookup key = none)
    (fresh : service.flights.lookup service.nextFlight = none) :
    service.Empties quiet service.flush := by
  generalize changed : service.flush = after
  have flushed := service.flush_eq.symm.trans changed
  have again : after.flush = after.note .info "Flushed 0 shader cache entries" :=
    flush_of_cleared (by rw [← flushed]; rfl)
  have missing : ∀ key, after.cache.shelf.held? key = none := fun key => by
    rw [← flushed]
    exact Shelf.held?_clear _ _
  refine ⟨fun key => Shelf.contains_eq_false_iff.mpr (missing key), by rw [← flushed]; rfl,
    by rw [← flushed]; rfl, by rw [← flushed]; rfl, by rw [← flushed]; rfl,
    by rw [← flushed]; exact ⟨rfl, rfl, rfl⟩, ?_, again⟩
  intro request bytecode calm filed fits
  have free' : after.cache.inFlight.lookup (after.cache.keyOf request) = none := by
    rw [← flushed]
    exact free _ calm
  have fresh' : after.flights.lookup after.nextFlight = none := by
    rw [← flushed]
    exact fresh
  obtain ⟨later, answer, ends, outcome, misses, diskHits, compilations⟩ :=
    request_missed request free' fresh' (missing _)
  -- The disk is as it was, so the file is found.
  have filed' : after.filed? (after.cache.keyOf request) = some bytecode := by
    rw [← flushed]
    exact filed
  have comes : after.comesTo request = .finished (.ok bytecode) := by
    rw [comesTo, filed']
  have stats : after.cache.stats = service.cache.stats := by
    rw [← flushed]
    rfl
  have limit : after.cache.memoryLimit = service.cache.setting.memoryLimit := by
    rw [← flushed]
    rfl
  rw [comes, limit, fits.under] at outcome
  rw [filed', stats] at diskHits compilations
  rw [stats] at misses
  obtain ⟨shared, rfl, words⟩ := eq_of_outcome_ok outcome
  exact ⟨later, shared, ends, words, diskHits, compilations, misses⟩

end Service

namespace Custody

/-- Wherever a run of any requests has led, an invalidation of a key for which none is under way
forgets that key in memory and on the disk and nothing else; a flush forgets all that is in memory
and nothing else; and both leave the next request for such a key what it then has to do. -/
theorem forgets_exactly {service : Service} (new : service.New) (events : List Event) :
    let crowd := ((of service).run events).crowd
    (∀ key, crowd.Quiet key →
      crowd.service.Forgets key (crowd.service.invalidate key).1 (crowd.service.invalidate key).2) ∧
      crowd.service.Empties crowd.Quiet crowd.service.flush := by
  intro crowd
  -- The run keeps the table of flights in order and the memory dated.
  have told := (told_of_new new).run events
  have fresh : crowd.service.flights.lookup crowd.service.nextFlight = none :=
    told.orderly.flight?_next
  have free : ∀ key, crowd.Quiet key → crowd.service.cache.inFlight.lookup key = none :=
    fun key quiet => told.orderly.free_of_quiet quiet
  exact ⟨fun key quiet => Service.invalidate_forgets told.shelf.toDated (free key quiet) fresh,
    Service.flush_empties free fresh⟩

/-- A request that was answered, and whose key is then invalidated. -/
theorem forgets_exactly_of_withdrawal :
    let events := ([.join Crowd.withdrawnRequest, .advance 0, .advance 0, .advance 0, .advance 0,
      .advance 0] : List Move).map Event.move
    let crowd := ((of (.ofCompiler .curt)).run events).crowd
    (Service.ofCompiler .curt).New ∧ crowd.Quiet Crowd.withdrawnKey ∧
      crowd.service.cache.shelf.contains Crowd.withdrawnKey = true ∧
      (crowd.service.invalidate Crowd.withdrawnKey).1 = true ∧
      crowd.service.Forgets Crowd.withdrawnKey true
        (crowd.service.invalidate Crowd.withdrawnKey).2 ∧
      crowd.service.Empties crowd.Quiet crowd.service.flush := by
  -- There is one request, which has been answered, so that the key is quiet.
  intro events crowd
  have new : (Service.ofCompiler .curt).New := ⟨⟨rfl, rfl⟩, rfl⟩
  have here : crowd.threads = [(⟨Crowd.withdrawnRequest, Crowd.withdrawnKey⟩,
      .answered (.returned (.ok ⟨0, ⟨[spirvMagic], by simp⟩⟩)))] := rfl
  have quiet : crowd.Quiet Crowd.withdrawnKey := by
    intro thread job phase there own
    rw [here] at there
    obtain ⟨-, rfl⟩ := Prod.mk.inj (List.mem_singleton.mp (List.mem_of_getElem? there))
    exact ⟨_, rfl⟩
  have resident : crowd.service.cache.shelf.contains Crowd.withdrawnKey = true :=
    Crowd.contains_laden
  obtain ⟨forgets, empties⟩ := forgets_exactly new events
  have forgotten := forgets Crowd.withdrawnKey quiet
  have told : (crowd.service.invalidate Crowd.withdrawnKey).1 = true :=
    forgotten.found.mpr (Or.inl resident)
  exact ⟨new, quiet, resident, told, told ▸ forgotten, empties⟩

end Custody

end ShaderBuild
