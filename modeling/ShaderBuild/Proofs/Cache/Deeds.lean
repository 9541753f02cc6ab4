import ShaderBuild.Proofs.Cache.Stock

/-! What a cache has after each thing that its owner does. -/

namespace ShaderBuild

/-- Removes a file, when there is one, and tells whether it is gone. -/
def Disk.forget (disk : Disk) : Option Path → Bool × Disk
  | none => (false, disk)
  | some path =>
    match disk.files.remove path with
    | .ok files => (true, disk.withFiles files)
    | .error _ => (false, disk)

namespace Stock

/-- Nothing is in memory any more, and the handles of the cache are given up. -/
def emptied (stock : Stock) : Stock :=
  { stock with
    shelf := stock.shelf.clear
    heap := stock.heap.releaseAll (stock.shelf.entries.map (·.2.shared.handle)) }

/-- A key is in memory no more. -/
def dropped (stock : Stock) (key : Fingerprint) : Stock :=
  { stock with
    shelf := (stock.shelf.remove key).2
    heap := stock.heap.releaseAll ((stock.shelf.remove key).1.toList.map (·.shared.handle)) }

/-- The file of a key is looked for and removed. -/
def forget (stock : Stock) (key : Fingerprint) : Bool × Disk :=
  stock.disk.forget (stock.setting.diskPath? key)

/-- A directory is used, or the cache is given up. -/
def opened (stock : Stock) (directory : Path) : Bool × Stock :=
  match stock.disk.files.makeDirectories directory with
  | (.error _, files) => (false, { stock with disk := stock.disk.withFiles files }.emptied)
  | (.ok (), files) =>
    (true,
      { stock with
        setting := { stock.setting with diskDirectory := some directory }
        disk := stock.disk.withFiles files })

/-- A new cache has the place of another one, which was given up. -/
def renewed (stock : Stock) (compiler : Compiler) (options : Options)
    (memoryLimit : Option Nat) : Stock :=
  { stock.emptied with
    setting := ⟨compiler, options, memoryLimit, none⟩
    shelf := {}
    stats := {} }

/-- Whether there is a cache after a deed that is no request, and what it has. -/
def changed (stock : Stock) : Deed → Bool × Stock
  | .get _ => (true, stock)
  | .flush => (true, stock.emptied)
  | .invalidate key => (true, { stock.dropped key with disk := (stock.forget key).2 })
  | .setOptions options =>
    (true, { stock with setting := { stock.setting with options := options } })
  | .setLimit limit =>
    (true, { stock with setting := { stock.setting with memoryLimit := some limit } })
  | .setDirectory directory => stock.opened directory
  | .renew compiler options memoryLimit none =>
    (true, stock.renewed compiler options memoryLimit)
  | .renew compiler options memoryLimit (some directory) =>
    (stock.renewed compiler options memoryLimit).opened directory
  | .drop => (false, stock.emptied)

end Stock

namespace Service

/-- A flush empties the memory. -/
theorem stock_flush (service : Service) : service.flush.stock = service.stock.emptied := by
  -- Releasing the entries concerns only the heap, which is no part of a stock.
  unfold flush
  simp only [releaseEntries_eq, List.map_map]
  rfl

/-- A cache that is given up has nothing in memory. -/
theorem stock_close (service : Service) : service.close.stock = service.stock.emptied := by
  unfold close
  simp only [releaseEntries_eq, List.map_map]
  -- Whether the release is noted does not matter.
  split <;> rfl

/-- A cache that is given up leaves no request under way. -/
theorem Idle.close {service : Service} (idle : service.Idle) : service.close.Idle := by
  -- Whether or not a note is made, flights are left alone.
  unfold Service.close
  simp only [releaseEntries_eq]
  split
  · exact ⟨idle.table, idle.flights⟩
  · exact ⟨idle.table, idle.flights⟩

/-- The entry of a key goes. -/
theorem removeEntry_eq (service : Service) (key : Fingerprint) :
    service.removeEntry key =
      ((service.cache.shelf.remove key).1.isSome,
        { service with
          cache := { service.cache with shelf := (service.cache.shelf.remove key).2 }
          heap := service.heap.releaseAll
            ((service.cache.shelf.remove key).1.toList.map (·.shared.handle)) }) := by
  -- With an entry its one handle is given up, and without one nothing is.
  cases found : service.cache.shelf.get? key with
  | none =>
    simp only [removeEntry, Shelf.remove, found]
    rfl
  | some entry =>
    simp only [removeEntry, Shelf.remove, found]
    rfl

/-- The file of a key goes, if it is there. -/
theorem removeFile_eq (service : Service) (key : Fingerprint) :
    service.removeFile key =
      ((service.stock.forget key).1, { service with disk := (service.stock.forget key).2 }) := by
  unfold removeFile Stock.forget Disk.forget
  have path : service.stock.setting.diskPath? key = service.cache.diskPath? key := rfl
  rw [path]
  -- Without a directory there is no file.
  cases service.cache.diskPath? key with
  | none => rfl
  | some path =>
    have disk : service.stock.disk = service.disk := rfl
    rw [disk]
    cases removed : service.disk.files.remove path with
    | ok files => simp only [removed]
    | error fault => simp only [removed]

/-- An invalidation takes a key out of the memory and off the disk, and tells whether it was there.
-/
theorem invalidate_eq (service : Service) (key : Fingerprint) :
    service.invalidate key =
      ((service.cache.shelf.remove key).1.isSome || (service.stock.forget key).1,
        { service with
          cache := { service.cache with shelf := (service.cache.shelf.remove key).2 }
          heap := service.heap.releaseAll
            ((service.cache.shelf.remove key).1.toList.map (·.shared.handle))
          disk := (service.stock.forget key).2 }) := by
  -- The memory is dealt with first and the file then.
  simp only [invalidate, removeEntry_eq, removeFile_eq]
  rfl

end Service

namespace Session

/-- A request changes the service and leaves the cache. -/
theorem perform_get {session : Session} (live : session.live = true) (request : Request) :
    session.perform (.get request) = ⟨(session.service.request request).1, true⟩ :=
  -- There is a cache to ask.
  if_pos live

/-- A request that is made while there is a cache is served. -/
theorem perform_serves {session : Session} (live : session.live = true)
    (idle : session.service.Idle) (request : Request) :
    ∃ answer, session.answer? request = some answer ∧
      (session.perform (.get request)).service.Idle ∧
      session.service.stock.Serves request answer
        (session.perform (.get request)).service.stock := by
  -- The request goes through all its steps at once.
  obtain ⟨after, answer, ends, quiet, serves⟩ := Service.request_serves idle request
  refine ⟨answer, by simp [answer?, live, ends, Phase.answer?], ?_⟩
  rw [perform_get live, ends]
  exact ⟨quiet, serves⟩

/-- A request that is answered is served by the cache that is there. -/
theorem serves_of_answered {session : Session} (idle : session.service.Idle) {request : Request}
    {answer : Answer} (answered : session.answer? request = some answer) :
    session.live = true ∧ (session.perform (.get request)).service.Idle ∧
      session.service.stock.Serves request answer
        (session.perform (.get request)).service.stock := by
  -- Without a cache there would be no answer, and with one there is only this answer.
  cases live : session.live with
  | false => simp [answer?, live] at answered
  | true =>
    obtain ⟨other, same, quiet, serves⟩ := perform_serves live idle request
    obtain rfl := Option.some.inj (same.symm.trans answered)
    exact ⟨rfl, quiet, serves⟩

/-- What there is after a directory was used. -/
theorem settle_useDirectory (service : Service) (directory : Path) :
    (settle (service.useDirectory directory)).live = (service.stock.opened directory).1 ∧
      (settle (service.useDirectory directory)).service.stock =
        (service.stock.opened directory).2 ∧
      (service.Idle → (settle (service.useDirectory directory)).service.Idle) := by
  have disk : service.stock.disk = service.disk := rfl
  unfold Service.useDirectory Stock.opened
  rw [disk]
  cases made : service.disk.files.makeDirectories directory with
  | mk result files =>
    cases result with
    | ok => exact ⟨rfl, rfl, fun idle => ⟨idle.table, idle.flights⟩⟩
    | error fault =>
      -- Without its directory the cache is given up.
      refine ⟨rfl, Service.stock_close _, fun idle => ?_⟩
      exact Service.Idle.close ⟨idle.table, idle.flights⟩

/-- What there is after a deed that is no request. -/
theorem use_changed (service : Service) {deed : Deed} (other : ∀ request, deed ≠ .get request) :
    (use service deed).live = (service.stock.changed deed).1 ∧
      (use service deed).service.stock = (service.stock.changed deed).2 ∧
      (service.Idle → (use service deed).service.Idle) := by
  cases deed with
  | get request => exact absurd rfl (other request)
  | flush =>
    refine ⟨rfl, service.stock_flush, fun idle => ?_⟩
    simp only [use, Service.flush, Service.releaseEntries_eq]
    exact ⟨idle.table, idle.flights⟩
  | invalidate key =>
    rw [use, Service.invalidate_eq]
    exact ⟨rfl, rfl, fun idle => ⟨idle.table, idle.flights⟩⟩
  | setOptions options => exact ⟨rfl, rfl, fun idle => ⟨idle.table, idle.flights⟩⟩
  | setLimit limit => exact ⟨rfl, rfl, fun idle => ⟨idle.table, idle.flights⟩⟩
  | setDirectory directory => exact settle_useDirectory service directory
  | renew compiler options memoryLimit directory? =>
    -- The old cache is given up before there is a directory for the new one.
    let renewed := service.close.withCache
      { compiler := compiler, options := options, memoryLimit := memoryLimit }
    have stock : renewed.stock = service.stock.renewed compiler options memoryLimit := by
      rw [Stock.renewed, ← service.stock_close]
      rfl
    cases directory? with
    | none => exact ⟨rfl, stock, fun idle => ⟨rfl, idle.close.flights⟩⟩
    | some directory =>
      obtain ⟨live, opened, quiet⟩ := settle_useDirectory renewed directory
      rw [stock] at live opened
      exact ⟨live, opened, fun idle => quiet ⟨rfl, idle.close.flights⟩⟩
  | drop => exact ⟨rfl, service.stock_close, Service.Idle.close⟩

end Session

end ShaderBuild
