import ShaderBuild.Proofs.Cache.Deeds
import ShaderBuild.Proofs.Cache.Recency

/-! What deeds show depends on the settings, the queue in memory and the disk only. -/

namespace ShaderBuild

/-- What of a cache decides about later answers, and what is counted of the use of the memory. -/
structure Sight where
  setting : Setting
  queue : Queue
  disk : Disk
  hits : Nat
  evictions : Nat

namespace Sight

/-- What is found on the disk for a request, and the disk after the look. -/
def look (sight : Sight) (request : Request) : Option Bytecode × Disk :=
  sight.disk.search (sight.setting.diskPath? (sight.setting.keyOf request))

/-- What is to be seen when a module has been put in memory. -/
def put (sight : Sight) (request : Request) (bytecode : Bytecode) : Sight :=
  let key := sight.setting.keyOf request
  let left := sight.queue.room sight.setting.memoryLimit bytecode.byteLength
  { sight with
    queue := left.renew key bytecode
    disk :=
      if (sight.look request).1.isSome then (sight.look request).2
      else (sight.look request).2.store bytecode (sight.setting.diskPath? key)
    evictions := sight.evictions + (sight.queue.length - left.length) }

/-- How a request ends, and what is to be seen after it. -/
def serve (sight : Sight) (request : Request) : CompileOutcome × Sight :=
  match sight.queue.lookup (sight.setting.keyOf request) with
  | some bytecode =>
    (.finished (.ok bytecode),
      { sight with
        queue := sight.queue.renew (sight.setting.keyOf request) bytecode
        hits := sight.hits + 1 })
  | none =>
    match sight.setting.due sight.disk request with
    | .finished (.ok bytecode) => (.finished (.ok bytecode), sight.put request bytecode)
    | outcome => (outcome, { sight with disk := (sight.look request).2 })

/-- A request whose module is in memory ends with it, and the module goes to the back. -/
theorem serve_of_queued (sight : Sight) (request : Request) {bytecode : Bytecode}
    (queued : sight.queue.lookup (sight.setting.keyOf request) = some bytecode) :
    sight.serve request =
      (.finished (.ok bytecode),
        { sight with
          queue := sight.queue.renew (sight.setting.keyOf request) bytecode
          hits := sight.hits + 1 }) := by
  -- The queue is asked first.
  unfold serve
  rw [queued]

/-- A request that fails ends as it is due, and is seen on the disk at most. -/
theorem serve_of_failure (sight : Sight) (request : Request)
    (absent : sight.queue.lookup (sight.setting.keyOf request) = none)
    (fails : ∀ bytecode, sight.setting.due sight.disk request ≠ .finished (.ok bytecode)) :
    sight.serve request =
      (sight.setting.due sight.disk request, { sight with disk := (sight.look request).2 }) := by
  -- The key is not in the queue, and what is due is no module.
  unfold serve
  rw [absent]
  cases due : sight.setting.due sight.disk request with
  | panicked message => rfl
  | finished result =>
    cases result with
    | error failure => rfl
    | ok bytecode => exact absurd due (fails bytecode)

/-- A request with a module that is new in memory ends with it. -/
theorem serve_of_module (sight : Sight) (request : Request) {bytecode : Bytecode}
    (absent : sight.queue.lookup (sight.setting.keyOf request) = none)
    (due : sight.setting.due sight.disk request = .finished (.ok bytecode)) :
    sight.serve request = (.finished (.ok bytecode), sight.put request bytecode) := by
  -- The key is not in the queue, and what is due is the module.
  unfold serve
  rw [absent]
  simp only [due]

end Sight

namespace Stock

/-- What is to be seen of a cache. -/
def sight (stock : Stock) : Sight :=
  ⟨stock.setting, stock.shelf.queue, stock.disk, stock.stats.hits, stock.stats.evictions⟩

variable {stock after : Stock} {request : Request} {answer : Answer}

/-- A request leaves the memory dated. -/
theorem Serves.dated (serves : stock.Serves request answer after) (dated : stock.shelf.Dated) :
    after.shelf.Dated := by
  -- A look gives a new stamp at most, and a kept module has the newest one.
  cases serves with
  | hit found => exact dated.touch _
  | failed absent due fails handles => exact dated.touch _
  | kept absent due => exact ((dated.touch _).room _ _).insert _ _

/-- A key without a module in memory has none in the queue. -/
theorem lookup_queue_of_absent (dated : stock.shelf.Dated) {key : Fingerprint}
    (absent : stock.shelf.held? key = none) : stock.sight.queue.lookup key = none := by
  -- The queue has the modules of the memory.
  show stock.shelf.queue.lookup key = none
  rw [dated.lookup_queue, absent]
  rfl

/-- What is seen of a request that fails. -/
theorem sight_missed (absent : stock.shelf.held? (stock.setting.keyOf request) = none)
    (heap : Heap) (failures : Nat) :
    sight { stock.missed request with
        heap := heap
        stats := { stock.counted request with failures := failures } } =
      { stock.sight with disk := (stock.look request).2 } := by
  -- A look that finds nothing leaves the order, and failures are not to be seen.
  have queue : (stock.missed request).shelf.queue = stock.shelf.queue :=
    Shelf.queue_touch_of_absent absent
  obtain ⟨hits, evictions⟩ := stock.counted_eq request
  simp only [sight, queue, hits, evictions]
  rfl

/-- What is seen of a request that has its module. -/
theorem sight_made (absent : stock.shelf.held? (stock.setting.keyOf request) = none)
    (bytecode : Bytecode) :
    (stock.made request bytecode).sight =
      { stock.sight with
        disk :=
          if (stock.look request).1.isSome then (stock.look request).2
          else (stock.look request).2.store bytecode
            (stock.setting.diskPath? (stock.setting.keyOf request)) } := by
  -- A look that finds nothing leaves the order.
  have queue : (stock.made request bytecode).shelf.queue = stock.shelf.queue :=
    Shelf.queue_touch_of_absent absent
  obtain ⟨hits, evictions⟩ := stock.counted_eq request
  simp only [sight, queue]
  simp only [made, missed, hits, evictions]

/-- What is seen of a module that is put in memory. -/
theorem sight_put (dated : stock.shelf.Dated) (key : Fingerprint) (shared : Shared) :
    let left := stock.sight.queue.room stock.sight.setting.memoryLimit shared.bytecode.byteLength
    (stock.put key shared).sight =
      { stock.sight with
        queue := left.renew key shared.bytecode
        evictions := stock.sight.evictions + (stock.sight.queue.length - left.length) } := by
  -- The entries that made room are as many as the queue has become shorter by.
  let made := stock.shelf.room stock.setting.memoryLimit shared.bytecode.byteLength
  have left := dated.queue_room stock.setting.memoryLimit shared.bytecode.byteLength
  have queue : (stock.put key shared).shelf.queue = made.2.queue.renew key shared.bytecode :=
    (dated.room _ _).queue_insert key shared
  have gone : made.1.length = stock.shelf.queue.length - made.2.queue.length :=
    Nat.eq_sub_of_add_eq (dated.toAccounted.length_room _ _)
  simp only [sight, queue, ← left]
  simp only [put, ← gone, made]

/-- What is seen of a request depends only on what was to be seen before. -/
theorem Serves.sight_eq (serves : stock.Serves request answer after) (dated : stock.shelf.Dated) :
    (answer.outcome, after.sight) = stock.sight.serve request := by
  cases serves with
  | @hit shared found =>
    -- What is in memory stands in the queue.
    have queued : stock.sight.queue.lookup (stock.sight.setting.keyOf request) =
        some shared.bytecode := by
      show stock.shelf.queue.lookup _ = _
      rw [dated.lookup_queue]
      exact congrArg _ found
    rw [stock.sight.serve_of_queued request queued]
    simp only [sight, dated.queue_touch found]
    rfl
  | @failed _ heap failures absent due fails handles =>
    -- What is due is no module, since none is answered.
    have refused : ∀ bytecode, stock.due request ≠ .finished (.ok bytecode) :=
      fun bytecode same => fails.outcome_ne bytecode (due.trans same)
    rw [stock.sight.serve_of_failure request (lookup_queue_of_absent dated absent) refused,
      sight_missed absent heap failures, due]
    rfl
  | @kept bytecode absent due =>
    -- The module joins a queue that the look on the disk has left.
    rw [stock.sight.serve_of_module request (lookup_queue_of_absent dated absent) due,
      sight_put (dated.touch _), sight_made absent]
    rfl

/-- What is seen of a cache whose memory was emptied. -/
theorem sight_emptied (stock : Stock) : stock.emptied.sight = { stock.sight with queue := [] } := by
  -- No entries make no queue.
  have queue : stock.emptied.shelf.queue = [] := Shelf.queue_clear _
  simp only [sight, queue]
  rfl

/-- What is seen of a cache that took the place of another one. -/
theorem sight_renewed (stock : Stock) (compiler : Compiler) (options : Options)
    (memoryLimit : Option Nat) :
    (stock.renewed compiler options memoryLimit).sight =
      ⟨⟨compiler, options, memoryLimit, none⟩, [], stock.disk, 0, 0⟩ := by
  -- The new memory has no entries.
  have queue : (stock.renewed compiler options memoryLimit).shelf.queue = [] :=
    Shelf.queue_clear {}
  simp only [sight, queue]
  rfl

/-- What is seen of a cache without some key in memory. -/
theorem sight_dropped (dated : stock.shelf.Dated) (key : Fingerprint) :
    (stock.dropped key).sight =
      { stock.sight with queue := stock.sight.queue.filter (·.1 != key) } := by
  -- The key goes from the queue as it goes from the memory.
  have queue : (stock.dropped key).shelf.queue = stock.shelf.queue.filter (·.1 != key) :=
    dated.queue_remove key
  simp only [sight, queue]
  rfl

/-- Using a directory shows the same wherever the same was to be seen. -/
theorem sight_opened {one two : Stock} (same : one.sight = two.sight) (directory : Path) :
    (one.opened directory).1 = (two.opened directory).1 ∧
      (one.opened directory).2.sight = (two.opened directory).2.sight := by
  have disk : one.disk = two.disk := congrArg Sight.disk same
  -- Whether the directory can be made depends on the disk, which is the same.
  unfold opened
  rw [disk]
  cases made : two.disk.files.makeDirectories directory with
  | mk result files =>
    cases result with
    | error fault =>
      refine ⟨rfl, ?_⟩
      rw [sight_emptied, sight_emptied]
      exact congrArg (fun sight : Sight =>
        { sight with disk := two.disk.withFiles files, queue := [] }) same
    | ok =>
      refine ⟨rfl, ?_⟩
      exact congrArg (fun sight : Sight =>
        { sight with
          setting := { sight.setting with diskDirectory := some directory }
          disk := two.disk.withFiles files }) same

/-- A deed that is no request shows the same wherever the same was to be seen. -/
theorem sight_changed {one two : Stock} (dated : one.shelf.Dated) (dated' : two.shelf.Dated)
    (same : one.sight = two.sight) (deed : Deed) :
    (one.changed deed).1 = (two.changed deed).1 ∧
      (one.changed deed).2.sight = (two.changed deed).2.sight := by
  cases deed with
  | get request => exact ⟨rfl, same⟩
  | flush =>
    refine ⟨rfl, ?_⟩
    rw [changed, changed, sight_emptied, sight_emptied, same]
  | invalidate key =>
    refine ⟨rfl, ?_⟩
    -- The file is looked for in the same place of the same disk.
    have disk : one.forget key = two.forget key := by
      unfold forget
      rw [show one.disk = two.disk from congrArg Sight.disk same,
        show one.setting = two.setting from congrArg Sight.setting same]
    have dropped : (one.dropped key).sight = (two.dropped key).sight := by
      rw [sight_dropped dated, sight_dropped dated', same]
    rw [changed, changed, disk]
    exact congrArg (fun sight : Sight => { sight with disk := (two.forget key).2 }) dropped
  | setOptions options =>
    exact ⟨rfl, congrArg (fun sight : Sight =>
      { sight with setting := { sight.setting with options := options } }) same⟩
  | setLimit limit =>
    exact ⟨rfl, congrArg (fun sight : Sight =>
      { sight with setting := { sight.setting with memoryLimit := some limit } }) same⟩
  | setDirectory directory => exact sight_opened same directory
  | renew compiler options memoryLimit directory? =>
    have renewed : (one.renewed compiler options memoryLimit).sight =
        (two.renewed compiler options memoryLimit).sight := by
      rw [sight_renewed, sight_renewed, show one.disk = two.disk from congrArg Sight.disk same]
    cases directory? with
    | none => exact ⟨rfl, renewed⟩
    | some directory => exact sight_opened renewed directory
  | drop =>
    refine ⟨rfl, ?_⟩
    rw [changed, changed, sight_emptied, sight_emptied, same]

/-- Using a directory leaves the memory dated. -/
theorem dated_opened (dated : stock.shelf.Dated) (directory : Path) :
    (stock.opened directory).2.shelf.Dated := by
  -- The memory is cleared or left alone.
  unfold opened
  split
  · exact .clear _
  · exact dated

/-- A deed that is no request leaves the memory dated. -/
theorem dated_changed (dated : stock.shelf.Dated) (deed : Deed) :
    (stock.changed deed).2.shelf.Dated := by
  -- Deed by deed; a new cache may use a directory at once.
  cases deed with
  | get request | setOptions options | setLimit limit => exact dated
  | flush | drop => exact .clear _
  | invalidate key => exact dated.remove key
  | setDirectory directory => exact dated_opened dated directory
  | renew compiler options memoryLimit directory? =>
    have renewed : (stock.renewed compiler options memoryLimit).shelf.Dated :=
      Shelf.dated_empty 0
    cases directory? with
    | none => exact renewed
    | some directory => exact dated_opened renewed directory

end Stock

end ShaderBuild
