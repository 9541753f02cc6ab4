import Mathlib.Data.List.Basic
import ShaderBuild.Cache.Uses
import ShaderBuild.Proofs.Cache.Counters
import ShaderBuild.Proofs.Cache.Recency

/-! The fewest modules make room for a new one, those that were not used for longest. -/

namespace ShaderBuild

namespace Queue

variable {queue : Queue} {uses : List Fingerprint}

/-- All keys have been used, and each was used later than the one before it in the queue. -/
structure Follows (queue : Queue) (uses : List Fingerprint) : Prop where
  used : ∀ item ∈ queue, item.1 ∈ uses
  later : queue.Pairwise fun one two => uses.idxOf two.1 < uses.idxOf one.1

/-- What stays in a queue stays in order. -/
theorem Follows.sublist (follows : queue.Follows uses) {left : Queue} (fewer : left.Sublist queue) :
    left.Follows uses :=
  ⟨fun item among => follows.used item (fewer.subset among), follows.later.sublist fewer⟩

/-- A key that is used goes to the back. -/
theorem Follows.renew (follows : queue.Follows uses) (key : Fingerprint) (bytecode : Bytecode) :
    (queue.renew key bytecode).Follows (key :: uses) := by
  have rest := follows.sublist (List.filter_sublist (p := (·.1 != key)))
  -- The last use of any other key is now one place further back.
  have back : ∀ item ∈ queue.filter (·.1 != key),
      (key :: uses).idxOf item.1 = uses.idxOf item.1 + 1 := by
    intro item among
    have apart : item.1 ≠ key := by simpa using (List.mem_filter.mp among).2
    exact List.idxOf_cons_ne _ (Ne.symm apart)
  constructor
  case used =>
    intro item among
    rcases List.mem_append.mp among with older | last
    · exact List.mem_cons_of_mem _ (rest.used item older)
    · rw [List.mem_singleton.mp last]
      exact List.mem_cons_self
  case later =>
    refine List.pairwise_append.mpr ⟨?_, List.pairwise_singleton _ _, ?_⟩
    · refine rest.later.imp_of_mem fun among among' later => ?_
      rw [back _ among, back _ among']
      exact Nat.succ_lt_succ later
    · intro item older last among
      rw [List.mem_singleton.mp among, back item older, List.idxOf_cons_self]
      exact Nat.succ_pos _

/-- What is left fits together with a module that is not larger than the limit. -/
theorem total_trim {limit size : Nat} (small : size ≤ limit) (queue : Queue) :
    total (queue.trim limit size) + size ≤ limit := by
  -- Nothing is left, or what is left has been trimmed until it fits.
  by_cases nothing : queue.trim limit size = []
  · rw [nothing]
    exact (Nat.zero_add size).symm ▸ small
  · exact trim_fits nothing

end Queue

namespace Shelf

/-- A queue has all modules in memory, in the order of their last use. -/
structure UsedInOrder (shelf : Shelf) (uses : List Fingerprint) (queue : Queue) : Prop
    extends queue.Follows uses where
  whole : queue.Perm (shelf.entries.map fun entry => (entry.1, entry.2.shared.bytecode))

/-- The modules in memory have one order of last use. -/
theorem UsedInOrder.unique {shelf : Shelf} {uses : List Fingerprint} {one two : Queue}
    (first : shelf.UsedInOrder uses one) (second : shelf.UsedInOrder uses two) : one = two := by
  refine (first.whole.trans second.whole.symm).eq_of_pairwise ?_ first.later second.later
  -- Of two modules one was used last.
  intro item other among among' later earlier
  exact absurd later (Nat.lt_asymm earlier)

/-- Entries go in turn until a module of some size fits under a limit. Which one goes is left open:
none that is there has an older stamp. -/
inductive MakesRoom (limit size : Nat) : Shelf → List Entry → Shelf → Prop where
  /-- The module fits. -/
  | fits {shelf : Shelf} (fits : shelf.resident + size ≤ limit) :
    MakesRoom limit size shelf [] shelf
  /-- Nothing is there that could go. -/
  | empty {shelf : Shelf} (full : limit < shelf.resident + size) (empty : shelf.entries = []) :
    MakesRoom limit size shelf [] shelf
  /-- An entry goes. -/
  | evict {shelf left : Shelf} {key : Fingerprint} {entry : Entry} {evicted : List Entry}
    (full : limit < shelf.resident + size) (among : (key, entry) ∈ shelf.entries)
    (oldest : ∀ other ∈ shelf.entries, entry.lastUsed ≤ other.2.lastUsed)
    (rest : MakesRoom limit size
      ⟨eraseKey key shelf.entries, shelf.resident - entry.size, shelf.clock⟩ evicted left) :
    MakesRoom limit size shelf (entry :: evicted) left

variable {shelf : Shelf} {uses : List Fingerprint} {key : Fingerprint}

/-- An entry without an older one is the one that is found. -/
theorem Dated.oldest?_eq (dated : shelf.Dated) {entry : Entry}
    (among : (key, entry) ∈ shelf.entries)
    (oldest : ∀ other ∈ shelf.entries, entry.lastUsed ≤ other.2.lastUsed) :
    oldest? shelf.entries = some (key, entry) := by
  cases found : oldest? shelf.entries with
  | none =>
    rw [oldest?_eq_none found] at among
    simp at among
  | some other =>
    have there := mem_of_oldest? found
    have same : other.2.lastUsed = entry.lastUsed :=
      Nat.le_antisymm (oldest?_le found _ among) (oldest other there)
    -- A stamp tells its entry.
    by_contra differ
    have apart : Std.Symm fun one two : Fingerprint × Entry => one.2.lastUsed ≠ two.2.lastUsed :=
      ⟨fun _ _ => Ne.symm⟩
    exact dated.apart.forall there among (fun equal => differ (congrArg some equal)) same

/-- The search that takes what it finds first makes room. -/
theorem makesRoom_makeRoom (limit size : Nat) {count : Nat} (shelf : Shelf)
    (accounted : shelf.Accounted) (enough : shelf.entries.length ≤ count) :
    MakesRoom limit size shelf (makeRoom limit size count shelf).1
      (makeRoom limit size count shelf).2 := by
  -- Each round takes out an entry, and there are as many rounds as entries.
  induction count generalizing shelf with
  | zero =>
    have empty := List.length_eq_zero_iff.mp (Nat.le_zero.mp enough)
    rcases Nat.lt_or_ge limit (shelf.resident + size) with full | fits
    · exact .empty full empty
    · exact .fits fits
  | succ count ih =>
    unfold makeRoom
    split
    · rename_i full
      cases evicted : shelf.evictOldest with
      | none => exact .empty full (evictOldest_eq_none evicted)
      | some pair =>
        obtain ⟨entry, left⟩ := pair
        have fewer := (accounted.perm_evictOldest evicted).length_eq
        simp only [List.length_map, List.length_cons] at fewer
        have rest := ih left (accounted.evictOldest evicted) (by omega)
        unfold evictOldest at evicted
        split at evicted
        · simp at evicted
        · rename_i key oldest found
          simp only [Option.some.injEq, Prod.mk.injEq] at evicted
          obtain ⟨rfl, rfl⟩ := evicted
          exact .evict full (mem_of_oldest? found) (oldest?_le found) rest
    · rename_i fits
      exact .fits (Nat.not_lt.mp fits)

/-- However room is made, it is made as by the search. -/
theorem MakesRoom.makeRoom_eq {limit size : Nat} {evicted : List Entry} {left : Shelf}
    (makes : MakesRoom limit size shelf evicted left) (dated : shelf.Dated) {count : Nat}
    (enough : shelf.entries.length ≤ count) :
    makeRoom limit size count shelf = (evicted, left) := by
  induction makes generalizing count with
  | fits fits => exact makeRoom_of_fits fits
  | @empty shelf full empty =>
    have none_ : shelf.evictOldest = none := by
      rw [evictOldest, empty]
      rfl
    cases count with
    | zero => rfl
    | succ count => simp only [makeRoom, if_pos full, none_]
  | @evict shelf left key entry evicted full among oldest rest ih =>
    -- No other entry could have gone.
    have gone : shelf.evictOldest =
        some (entry, ⟨eraseKey key shelf.entries, shelf.resident - entry.size, shelf.clock⟩) := by
      rw [evictOldest, dated.oldest?_eq among oldest]
    have fewer := (dated.toAccounted.perm_evictOldest gone).length_eq
    simp only [List.length_map, List.length_cons] at fewer
    cases count with
    | zero => omega
    | succ count =>
      have rounds : (eraseKey key shelf.entries).length ≤ count := by omega
      simp only [makeRoom, if_pos full, gone, ih (dated.evictOldest gone) rounds]

/-- The memory is dated, and the order of its stamps is that of the last uses. -/
structure Told (shelf : Shelf) (uses : List Fingerprint) : Prop extends shelf.Dated where
  follows : shelf.queue.Follows uses

/-- The queue has the modules in memory, in the order of their last use. -/
theorem Told.usedInOrder (told : shelf.Told uses) : shelf.UsedInOrder uses shelf.queue :=
  -- The queue lists the entries by their stamps, so nothing is lost in it.
  ⟨told.follows, shelf.byAge_perm.map _⟩

/-- The order in an empty memory is that of any uses. -/
theorem told_empty (clock : Nat) (uses : List Fingerprint) : Told ⟨[], 0, clock⟩ uses :=
  ⟨dated_empty clock, by simp [queue, byAge], by simp [queue, byAge]⟩

/-- A look that finds a module is its last use. -/
theorem Told.touch (told : shelf.Told uses) {shared : Shared}
    (found : shelf.held? key = some shared) : (shelf.touch key).2.Told (key :: uses) where
  -- The entry goes to the end of the queue, and its key to the front of the uses.
  toDated := told.toDated.touch key
  follows := by
    rw [told.toDated.queue_touch found]
    exact told.follows.renew key shared.bytecode

/-- A look that finds nothing is no use. -/
theorem Told.touch_of_absent (told : shelf.Told uses) (absent : shelf.held? key = none) :
    (shelf.touch key).2.Told uses where
  -- The queue stays as it is.
  toDated := told.toDated.touch key
  follows := by
    rw [queue_touch_of_absent absent]
    exact told.follows

/-- Putting a module in after room was made is its last use. -/
theorem Told.insert (told : shelf.Told uses) (limit? : Option Nat) (key : Fingerprint)
    (shared : Shared) :
    ((shelf.room limit? shared.bytecode.byteLength).2.insert key shared).2.Told (key :: uses) where
  -- Making room takes entries from the front of the queue, and the new one joins at its end.
  toDated := (told.toDated.room limit? _).insert key shared
  follows := by
    have fewer : shelf.queue.room limit? shared.bytecode.byteLength <:+ shelf.queue :=
      Queue.room_suffix _ _ _
    rw [(told.toDated.room limit? _).queue_insert, told.toDated.queue_room]
    exact (told.follows.sublist fewer.sublist).renew key shared.bytecode

/-- Taking the entry of a key out leaves the order of the others. -/
theorem Told.remove (told : shelf.Told uses) (key : Fingerprint) :
    (shelf.remove key).2.Told uses where
  -- A part of a queue in order is in order.
  toDated := told.toDated.remove key
  follows := by
    rw [told.toDated.queue_remove]
    exact told.follows.sublist List.filter_sublist

/-- How a module of a key is put in memory under a limit: some modules make room for it, and the
others stay. -/
structure Displaces (before after : Shelf) (uses : List Fingerprint) (key : Fingerprint)
    (shared : Shared) (limit : Nat) (dropped kept : Queue) : Prop where
  /-- In the order of their last use those that go come before those that stay. -/
  old : before.UsedInOrder uses (dropped ++ kept)
  /-- Afterwards the new module is the one that was used last. -/
  new : after.UsedInOrder (key :: uses) (kept ++ [(key, shared.bytecode)])
  fits : kept.total + shared.bytecode.byteLength ≤ limit
  /-- Whatever was used last and fits together with the new module stays. -/
  longest : ∀ run : Queue, run <:+ dropped ++ kept →
    run.total + shared.bytecode.byteLength ≤ limit → run <:+ kept
  /-- None goes when all fit. -/
  needed : Queue.total (dropped ++ kept) + shared.bytecode.byteLength ≤ limit → dropped = []
  /-- Room can be made in one way only, in whatever order the entries are looked through. -/
  chosen : ∃ evicted left, before.MakesRoom limit shared.bytecode.byteLength evicted left ∧
    (∀ others left', before.MakesRoom limit shared.bytecode.byteLength others left' →
      others = evicted ∧ left' = left) ∧
    evicted.length = dropped.length ∧ after = (left.insert key shared).2

/-- A module that fits is put in memory in place of no more than is needed. -/
theorem Told.displaces (told : shelf.Told uses) (absent : shelf.held? key = none) {shared : Shared}
    {limit : Nat} (small : shared.bytecode.byteLength ≤ limit) :
    ∃ dropped kept,
      shelf.Displaces
        ((shelf.room (some limit) shared.bytecode.byteLength).2.insert key shared).2 uses key shared
        limit dropped kept ∧
      (shelf.room (some limit) shared.bytecode.byteLength).1.length = dropped.length := by
  have dated : shelf.Dated := told.toDated
  -- What stays is an end of the queue, and the rest of it goes.
  obtain ⟨kept, trimmed⟩ : ∃ kept, kept = shelf.queue.trim limit shared.bytecode.byteLength :=
    ⟨_, rfl⟩
  obtain ⟨dropped, whole⟩ : kept <:+ shelf.queue := trimmed ▸ Queue.trim_suffix _ _ _
  have staying : (shelf.room (some limit) shared.bytecode.byteLength).2.queue = kept :=
    (dated.queue_room _ _).trans trimmed.symm
  have parts : dropped.length + kept.length = shelf.queue.length := by
    rw [← whole, List.length_append]
  have going : (shelf.room (some limit) shared.bytecode.byteLength).1.length = dropped.length := by
    have lengths := dated.toAccounted.length_room (some limit) shared.bytecode.byteLength
    rw [staying] at lengths
    omega
  refine ⟨dropped, kept, ?_, going⟩
  constructor
  case old =>
    rw [whole]
    exact told.usedInOrder
  case new =>
    have after := (told.insert (some limit) key shared).usedInOrder
    -- The key is not in what stays.
    have apart : kept.lookup key = none := by
      rw [← staying, (dated.toAccounted.room _ _).lookup_queue, held?_room_of_none absent]
      rfl
    rw [(dated.room _ _).queue_insert, staying, Queue.renew_of_absent apart] at after
    exact after
  case fits => exact trimmed ▸ Queue.total_trim small shelf.queue
  case longest =>
    intro run suffix fit
    rw [whole] at suffix
    exact trimmed ▸ Queue.suffix_trim suffix fit
  case needed =>
    intro fit
    rw [whole] at fit
    -- The whole queue is then one of the ends that stay.
    have all : shelf.queue <:+ kept := trimmed ▸ Queue.suffix_trim (List.suffix_refl _) fit
    have longer := all.length_le
    exact List.length_eq_zero_iff.mp (by omega)
  case chosen =>
    refine ⟨_, _, makesRoom_makeRoom _ _ shelf dated.toAccounted (Nat.le_refl _),
      fun others left makes => ?_, going, rfl⟩
    have only := makes.makeRoom_eq dated (Nat.le_refl _)
    exact ⟨(congrArg Prod.fst only).symm, (congrArg Prod.snd only).symm⟩

end Shelf

/-- Every step of a request tells the last use of each module in memory. -/
theorem Board.Step.told {job : Job} {phase next : Phase} {board after : Board}
    {uses : List Fingerprint} (step : board.Step job phase next after)
    (told : board.shelf.Told uses) :
    after.shelf.Told ((if phase.uses next then some job.key else none).toList ++ uses) := by
  -- A step uses a module when it finds one or puts one in memory.
  cases step with
  | hit found => exact told.touch found
  | join absent underway => exact told.touch_of_absent absent
  | lead absent free => exact told.touch_of_absent absent
  | settle settles =>
    cases settles with
    | stored fits => exact told.insert _ job.key _
    | refused | failed | panicked => exact told
  | _ => exact told

namespace Custody

/-- What is known of a cache between any two steps of any requests, by somebody who has seen which
keys were used. -/
structure Told (custody : Custody) (uses : List Fingerprint) : Prop where
  orderly : custody.crowd.Orderly
  shelf : custody.board.shelf.Told uses

section Events

variable {custody : Custody} {crowd : Crowd} {uses : List Fingerprint}

/-- Every move tells the last use of each module in memory. -/
theorem told_move (told : crowd.board.shelf.Told uses) (move : Move) :
    (crowd.move move).board.shelf.Told ((crowd.used? move).toList ++ uses) := by
  -- Only the step of a request can use a module.
  cases move with
  | advance thread =>
    cases here : crowd.threads[thread]? with
    | none =>
      -- A thread that is not there does nothing.
      have still : crowd.move (.advance thread) = crowd := by simp [Crowd.move, here]
      have unused : crowd.used? (.advance thread) = none := by simp [Crowd.used?, here]
      rw [still, unused]
      exact told
    | some pair =>
      obtain ⟨job, phase⟩ := pair
      obtain ⟨next, there, step⟩ := Crowd.moved here
      have used : crowd.used? (.advance thread) =
          if phase.uses next then some job.key else none := by
        simp only [Crowd.used?, here, there]
      rw [used]
      exact step.told told
  | flush =>
    have board : (crowd.move .flush).board = crowd.board.withShelf crowd.board.shelf.clear :=
      Service.board_releaseEntries ..
    rw [board]
    exact Shelf.told_empty _ _
  | forget key =>
    have board : (crowd.move (.forget key)).board =
        crowd.board.withShelf (crowd.board.shelf.remove key).2 := Service.removeEntry_board ..
    rw [board]
    exact told.remove key
  | unlink key =>
    have board : (crowd.move (.unlink key)).board = crowd.board := Service.removeFile_board ..
    rw [board]
    exact told
  | join | recast | disturb => exact told

/-- Going on with a directory changes what is set, and if that fails the memory is empty as well. -/
theorem board_settle (service : Service) (directory : Path) :
    ∃ setting : Setting, ∃ shelf : Shelf,
      (Session.settle (service.useDirectory directory)).service.board =
        { service.board with setting := setting, shelf := shelf } ∧
      (shelf = service.board.shelf ∨ shelf = service.board.shelf.clear) := by
  -- The directory is there or was made, or it could not be made.
  unfold Service.useDirectory
  split
  · exact ⟨_, _, Service.board_close _, .inr rfl⟩
  · exact ⟨_, _, rfl, .inl rfl⟩

/-- Other settings leave what is told, and with an empty memory there is nothing to tell. -/
theorem Told.of_settings (told : custody.Told uses) {after : Custody} {setting : Setting}
    {shelf : Shelf} (threads : after.crowd.threads = custody.crowd.threads)
    (board : after.board = { custody.board with setting := setting, shelf := shelf })
    (fewer : shelf = custody.board.shelf ∨ shelf = custody.board.shelf.clear) :
    after.Told uses where
  -- Flights are as before, and the memory is as before or empty.
  orderly := by
    refine told.orderly.of_alike (.of_threads threads) (congrArg Board.inFlight board :)
      (congrArg Board.flights board :) (congrArg Board.nextFlight board :) fun key absent => ?_
    have entries : after.crowd.board.shelf = shelf := congrArg Board.shelf board
    rw [entries]
    rcases fewer with rfl | rfl
    · exact absent
    · exact Shelf.held?_clear _ _
  shelf := by
    rw [board]
    rcases fewer with rfl | rfl
    · exact told.shelf
    · exact Shelf.told_empty _ _

/-- Whatever happens, the last use of each module in memory is told. -/
theorem Told.take (told : custody.Told uses) (event : Event) :
    (custody.take event).Told ((custody.used? event).toList ++ uses) := by
  by_cases live : custody.live = true
  · rw [take_of_live live]
    cases event with
    | move move =>
      have used : custody.used? (.move move) = custody.crowd.used? move := if_pos live
      rw [used]
      exact ⟨told.orderly.move move, told_move told.shelf move⟩
    | setOptions options => exact told.of_settings rfl rfl (.inl rfl)
    | setLimit limit => exact told.of_settings rfl rfl (.inl rfl)
    | setDirectory directory =>
      obtain ⟨setting, shelf, board, fewer⟩ := board_settle custody.crowd.service directory
      exact told.of_settings rfl board fewer
  · -- Without a cache nothing happens.
    have unused : custody.used? event = none := by
      cases event with
      | move move => exact if_neg live
      | _ => rfl
    rw [take_of_closed live, unused]
    exact told

/-- Every run tells the last use of each module in memory. -/
theorem Told.run (told : custody.Told uses) (events : List Event) :
    (custody.run events).Told (custody.uses uses events) := by
  -- One event after the other.
  induction events generalizing custody uses with
  | nil => exact told
  | cons event events ih => exact ih (told.take event)

/-- The uses of two runs, one after the other. -/
theorem uses_append (custody : Custody) (earlier : List Fingerprint) (first second : List Event) :
    custody.uses earlier (first ++ second) =
      (custody.run first).uses (custody.uses earlier first) second := by
  -- Event by event of the first run.
  induction first generalizing custody earlier with
  | nil => rfl
  | cons event first ih => exact ih (custody.take event) _

/-- A new cache that nobody asks yet has nothing to tell. -/
theorem told_of_new {service : Service} (new : service.New) : (of service).Told [] where
  -- The memory is empty.
  orderly := new.orderly
  shelf := by
    show service.cache.shelf.Told []
    rw [new.memory]
    exact Shelf.told_empty _ _

end Events

/-- A leader whose module fits puts it in memory, and its next step has these effects. -/
theorem settled_of_fits {custody : Custody} {thread : Nat} {job : Job} {id : FlightId}
    {shared : Shared} (absent : custody.cache.shelf.held? job.key = none)
    (live : custody.live = true)
    (here : custody.crowd.threads[thread]? = some (job, .produced id (.returned (.ok shared))))
    (fits : custody.cache.setting.Fits shared.bytecode) :
    let after := custody.take (.move (.advance thread))
    let made := custody.cache.shelf.room custody.cache.memoryLimit shared.bytecode.byteLength
    after.crowd.threads[thread]? = some (job, .settled id (.returned (.ok shared))) ∧
      after.cache.shelf = (made.2.insert job.key shared).2 ∧
      after.cache.stats.evictions = custody.cache.stats.evictions + made.1.length := by
  intro after made
  let service := custody.crowd.service
  -- Keeping a module does not look at the table, from which the leader goes first.
  obtain ⟨left, kept, -, -, stock⟩ := Service.keep_of_fits { service with
    cache := { service.cache with inFlight := service.cache.inFlight.filter (·.1 != job.key) } }
    job.key fits absent
  have settled : service.settle job id (.returned (.ok shared)) =
      (left, .settled id (.returned (.ok shared))) := by
    unfold Service.settle
    simp only [kept]
  have moved : after.crowd =
      ⟨left, custody.crowd.threads.set thread (job, .settled id (.returned (.ok shared)))⟩ := by
    show (custody.take (.move (.advance thread))).crowd = _
    rw [take_of_live live]
    simp only [Crowd.move, here, Service.advance]
    rw [show custody.crowd.service.settle job id (.returned (.ok shared)) = _ from settled]
  refine ⟨?_, ?_, ?_⟩
  · rw [moved, List.getElem?_set_self (List.getElem?_eq_some_iff.mp here).1]
  · show after.crowd.service.cache.shelf = _
    rw [moved]
    exact congrArg Stock.shelf stock
  · show after.crowd.service.cache.stats.evictions = _
    rw [moved]
    exact congrArg (fun stock => stock.stats.evictions) stock

/-- A leader whose module fits puts it in memory, and no more goes than is needed. -/
theorem Told.displaces {custody : Custody} {uses : List Fingerprint} (told : custody.Told uses)
    {thread : Nat} {job : Job} {id : FlightId} {shared : Shared} {limit : Nat}
    (live : custody.live = true)
    (here : custody.crowd.threads[thread]? = some (job, .produced id (.returned (.ok shared))))
    (bounded : custody.cache.memoryLimit = some limit)
    (small : shared.bytecode.byteLength ≤ limit) :
    let event := Event.move (.advance thread)
    let after := custody.take event
    after.crowd.threads[thread]? = some (job, .settled id (.returned (.ok shared))) ∧
      custody.used? event = some job.key ∧
      ∃ dropped kept,
        custody.cache.shelf.Displaces after.cache.shelf uses job.key shared limit dropped kept ∧
        after.cache.stats.evictions = custody.cache.stats.evictions + dropped.length := by
  intro event after
  -- The key has a leader, so that it is not in memory.
  have leads : custody.crowd.board.leader? job.key = some id :=
    told.orderly.slot.mpr ⟨thread, job, (Crowd.has_iff_of_here here).mpr ⟨rfl, rfl⟩, rfl⟩
  have absent : custody.cache.shelf.held? job.key = none := told.orderly.absent leads
  have fits : custody.cache.setting.Fits shared.bytecode := fun other bounded' =>
    Option.some.inj (bounded.symm.trans bounded') ▸ small
  obtain ⟨there, entries, evictions⟩ := settled_of_fits absent live here fits
  have used : custody.used? event = some job.key := by
    rw [take_of_live live] at there
    rw [used?, if_pos live, Crowd.used?, here, there]
    rfl
  rw [bounded] at entries evictions
  obtain ⟨dropped, kept, displaced, count⟩ := told.shelf.displaces absent small
  refine ⟨there, used, dropped, kept, ?_, ?_⟩
  · rw [entries]
    exact displaced
  · rw [evictions]
    exact congrArg (_ + ·) count

/-- Requests of any number of threads, flushes, invalidations and changes of the settings, one step
at a time and in any order, from a new cache on: the stamps of what is in memory are apart and not
ahead of the clock, and a leader whose module fits under the limit puts it in memory with its next
step, in place of no more than is needed of what was not used for the longest time. -/
theorem run_displaces {service : Service} (new : service.New) (events : List Event) :
    let custody := (of service).run events
    let uses := (of service).uses [] events
    (custody.cache.shelf.entries.Pairwise fun one two => one.2.lastUsed ≠ two.2.lastUsed) ∧
      (∀ entry ∈ custody.cache.shelf.entries, entry.2.lastUsed ≤ custody.cache.shelf.clock) ∧
      ∀ thread job id shared limit, custody.live = true →
        custody.crowd.threads[thread]? = some (job, .produced id (.returned (.ok shared))) →
        custody.cache.memoryLimit = some limit → shared.bytecode.byteLength ≤ limit →
          let event := Event.move (.advance thread)
          (custody.take event).crowd.threads[thread]? =
              some (job, .settled id (.returned (.ok shared))) ∧
            (of service).uses [] (events ++ [event]) = job.key :: uses ∧
            ∃ dropped kept,
              custody.cache.shelf.Displaces (custody.take event).cache.shelf uses job.key shared
                limit dropped kept ∧
              (custody.take event).cache.stats.evictions =
                custody.cache.stats.evictions + dropped.length := by
  intro custody uses
  have told : custody.Told uses := (told_of_new new).run events
  refine ⟨told.shelf.apart, told.shelf.past, ?_⟩
  intro thread job id shared limit live here bounded small event
  obtain ⟨there, used, displaced⟩ := told.displaces live here bounded small
  refine ⟨there, ?_, displaced⟩
  -- The step comes after all that was done before.
  rw [uses_append]
  show (custody.used? event).toList ++ uses = job.key :: uses
  rw [used]
  rfl

/-- What a leader puts in memory with its next step if it fits. -/
def ready? (custody : Custody) (thread : Nat) : Option (Job × FlightId × Shared) :=
  match custody.crowd.threads[thread]? with
  | some (job, .produced id (.returned (.ok shared))) => some (job, id, shared)
  | _ => none

/-- A leader that has a module is about to settle. -/
theorem ready?_eq_some {custody : Custody} {thread : Nat} {job : Job} {id : FlightId}
    {shared : Shared} (ready : custody.ready? thread = some (job, id, shared)) :
    custody.crowd.threads[thread]? = some (job, .produced id (.returned (.ok shared))) := by
  -- Only one phase is that of a leader with a module.
  unfold ready? at ready
  split at ready
  · rename_i here
    simp only [Option.some.injEq, Prod.mk.injEq] at ready
    obtain ⟨rfl, rfl, rfl⟩ := ready
    exact here
  · simp at ready

/-- What happens to a request until it has its module. -/
def making (name : String) (thread : Nat) : List Event :=
  ([.join ⟨name, "void main() {}"⟩, .advance thread, .advance thread, .advance thread] :
    List Move).map .move

/-- Two modules are put in memory, the first one is found there again, the limit is lowered so that
one of them has to go, and a third request has its module. -/
def lowering : List Event :=
  making "a.vert" 0 ++ [.move (.advance 0)] ++ making "b.vert" 1 ++ [.move (.advance 1)] ++
    [.move (.join ⟨"a.vert", "void main() {}"⟩), .move (.advance 2), .setLimit 8] ++
    making "c.vert" 3

/-- The third module takes the place of the second one, which was not found again. -/
theorem run_displaces_of_lowering :
    let custody := (of (.ofCompiler .curt)).run lowering
    let after := custody.take (.move (.advance 3))
    let key := fun name => ((Service.ofCompiler .curt).jobOf ⟨name, "void main() {}"⟩).key
    let uses := [key "a.vert", key "b.vert", key "a.vert"]
    let module : Bytecode := ⟨[spirvMagic], by simp⟩
    (Service.ofCompiler .curt).New ∧ custody.live = true ∧ custody.cache.memoryLimit = some 8 ∧
      (of (.ofCompiler .curt)).uses [] lowering = uses ∧
      custody.cache.shelf.Displaces after.cache.shelf uses (key "c.vert") ⟨2, module⟩ 8
        [(key "b.vert", module)] [(key "a.vert", module)] := by
  intro custody after key uses module
  have new : (Service.ofCompiler .curt).New := ⟨⟨rfl, rfl⟩, rfl⟩
  let held : Queue := [(key "b.vert", module), (key "a.vert", module)]
  obtain ⟨live, bounded, known, ready, used, later, whole, one⟩ : custody.live = true ∧
      custody.cache.memoryLimit = some 8 ∧ (of (.ofCompiler .curt)).uses [] lowering = uses ∧
      custody.ready? 3 =
        some ((Service.ofCompiler .curt).jobOf ⟨"c.vert", "void main() {}"⟩, 2, ⟨2, module⟩) ∧
      (∀ item ∈ held, item.1 ∈ uses) ∧
      held.Pairwise (fun one two => uses.idxOf two.1 < uses.idxOf one.1) ∧
      held.Perm
        (custody.cache.shelf.entries.map fun entry => (entry.1, entry.2.shared.bytecode)) ∧
      after.cache.stats.evictions = custody.cache.stats.evictions + 1 := by
    decide +kernel
  obtain ⟨-, -, inserts⟩ := run_displaces new lowering
  obtain ⟨-, -, dropped, kept, displaced, count⟩ :=
    inserts 3 _ 2 ⟨2, module⟩ 8 live (ready?_eq_some ready) bounded (by decide)
  rw [known] at displaced
  -- There is one order of last use, and one module goes.
  have parts : dropped ++ kept = held := displaced.old.unique ⟨⟨used, later⟩, whole⟩
  have single : dropped.length = 1 := Nat.add_left_cancel (count.symm.trans one)
  obtain ⟨rfl, rfl⟩ : dropped = [(key "b.vert", module)] ∧ kept = [(key "a.vert", module)] :=
    List.append_inj (parts.trans rfl) single
  exact ⟨new, live, bounded, known, displaced⟩

end Custody

end ShaderBuild
