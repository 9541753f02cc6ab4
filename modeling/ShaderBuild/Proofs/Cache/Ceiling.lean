import ShaderBuild.Cache.Custody
import ShaderBuild.Proofs.Cache.Accounts
import ShaderBuild.Proofs.Cache.InFlight

/-! The memory of a cache under a limit that its owner may change at any time. -/

namespace ShaderBuild

namespace Board

/-- The memory stays accounted for, the limit stays, and the counter is afterwards not above what it
was or not above the limit. -/
structure Tame (before after : Board) : Prop where
  accounted : after.shelf.Accounted
  limit : after.setting.memoryLimit = before.setting.memoryLimit
  resident : after.shelf.resident ≤ before.shelf.resident ∨
    ∀ limit, before.setting.memoryLimit = some limit → after.shelf.resident ≤ limit

variable {job : Job} {phase next : Phase} {board after : Board}

/-- A module that fits is kept under the limit. -/
theorem resident_keep (accounted : board.shelf.Accounted) {shared : Shared}
    (fits : board.setting.Fits shared.bytecode) (key : Fingerprint) {limit : Nat}
    (bounded : board.setting.memoryLimit = some limit) :
    (board.keep key shared).shelf.resident ≤ limit := by
  -- Room is made first, and the module takes up no more than that.
  have made := accounted.room_fits (fits limit bounded)
  rw [← bounded] at made
  exact Nat.le_trans (Shelf.resident_insert_le _ _ _) made

/-- A change that leaves the memory and the limit is tame. -/
theorem Tame.of_same (accounted : board.shelf.Accounted) (shelf : after.shelf = board.shelf)
    (limit : after.setting.memoryLimit = board.setting.memoryLimit) : Tame board after where
  -- The counter is as it was.
  accounted := by
    rw [shelf]
    exact accounted
  limit := limit
  resident := by
    rw [shelf]
    exact Or.inl (Nat.le_refl _)

/-- Emptying the memory is tame. -/
theorem tame_clear (board : Board) : Tame board (board.withShelf board.shelf.clear) where
  -- Of nothing the total size is zero.
  accounted := Shelf.accounted_empty _
  limit := rfl
  resident := Or.inl (Nat.zero_le _)

/-- Taking the entry of a key out is tame. -/
theorem tame_remove (accounted : board.shelf.Accounted) (key : Fingerprint) :
    Tame board (board.withShelf (board.shelf.remove key).2) where
  -- The counter does not rise.
  accounted := accounted.remove key
  limit := rfl
  resident := Or.inl (Shelf.resident_remove_le _ _)

/-- Every step of a request is tame. -/
theorem Step.tame (step : board.Step job phase next after) (accounted : board.shelf.Accounted) :
    Tame board after := by
  -- A look for a key stamps an entry and leaves the counter.
  have touched : ∀ other : Board, other.shelf = (board.shelf.touch job.key).2 →
      other.setting = board.setting → Tame board other := by
    intro other shelf setting
    refine ⟨?_, congrArg Setting.memoryLimit setting, Or.inl (Nat.le_of_eq ?_)⟩
    · rw [shelf]
      exact accounted.touch job.key
    · rw [shelf]
      rfl
  cases step with
  | hit found => exact touched _ rfl rfl
  | join absent underway => exact touched _ rfl rfl
  | lead absent free => exact touched _ rfl rfl
  | settle settles =>
    cases settles with
    | @stored shared fits =>
      -- The one step that puts a module in ends under the limit.
      refine ⟨(accounted.room _ _).insert job.key shared, rfl, Or.inr fun limit bounded => ?_⟩
      exact resident_keep accounted fits job.key bounded
    | refused bounded large => exact .of_same accounted rfl rfl
    | failed => exact .of_same accounted rfl rfl
    | panicked => exact .of_same accounted rfl rfl
  | _ => exact .of_same accounted rfl rfl

/-- A leader that goes on to answer with its module has put it in memory, under the limit. -/
theorem Step.stored {id : FlightId} {shared : Shared}
    (step : board.Step job (.produced id (.returned (.ok shared)))
      (.settled id (.returned (.ok shared))) after)
    (accounted : board.shelf.Accounted) :
    after.shelf.held? job.key = some shared ∧
      ∀ limit, board.setting.memoryLimit = some limit → after.shelf.resident ≤ limit := by
  -- Of the ways to settle only one goes on with a module.
  cases step with
  | settle settles =>
    cases settles with
    | stored fits =>
      exact ⟨held?_keep _ _ _, fun limit bounded => resident_keep accounted fits job.key bounded⟩

end Board

/-- Every move of a crowd is tame. -/
theorem Crowd.move_tame {crowd : Crowd} (accounted : crowd.board.shelf.Accounted) (move : Move) :
    crowd.board.Tame (crowd.move move).board := by
  -- A move is a step of a request, or it empties the memory, or takes one key out, or leaves it.
  cases crowd.move_change move with
  | stepped here threads step => exact step.tame accounted
  | flushed threads board =>
    rw [board]
    exact Board.tame_clear _
  | forgotten threads board =>
    rw [board]
    exact Board.tame_remove accounted _
  | joined threads board | recast threads board | untouched threads board =>
    rw [board]
    exact .of_same accounted rfl rfl

/-- A directory that is used changes neither the memory nor the limit. -/
theorem Service.board_useDirectory (service : Service) (directory : Path) :
    (service.useDirectory directory).2.board.shelf = service.board.shelf ∧
      (service.useDirectory directory).2.board.setting.memoryLimit =
        service.board.setting.memoryLimit := by
  unfold useDirectory
  -- The directory is there or was made, or it could not be made.
  split
  · exact ⟨rfl, rfl⟩
  · exact ⟨rfl, rfl⟩

namespace Custody

/-- What the requests and the owner share. -/
def board (custody : Custody) : Board := custody.crowd.board

/-- What the counter of the memory shows. -/
def resident (custody : Custody) : Nat := custody.cache.shelf.resident

/-- The counter is not above the limit, if there is one. -/
def Under (custody : Custody) : Prop :=
  ∀ limit, custody.cache.memoryLimit = some limit → custody.resident ≤ limit

/-- The thread's next step puts a module in memory, and the thread goes on to answer with it. -/
def Inserts (custody : Custody) (thread : Nat) (key : Fingerprint) (shared : Shared) : Prop :=
  custody.live = true ∧ ∃ job : Job, ∃ id, job.key = key ∧
    custody.crowd.threads[thread]? = some (job, .produced id (.returned (.ok shared))) ∧
    (custody.take (.move (.advance thread))).crowd.threads[thread]? =
      some (job, .settled id (.returned (.ok shared)))

/-- What the counter of the memory tells between any two steps of any requests. -/
structure Accounts (custody : Custody) : Prop where
  /-- The counter shows four bytes for each word of each module in memory. -/
  balanced : custody.resident =
    (custody.cache.shelf.entries.map fun entry => 4 * entry.2.shared.bytecode.wordCount).sum
  /-- It shows at least what an invalidation takes off it. -/
  removing : ∀ key entry, custody.cache.shelf.get? key = some entry →
    entry.size ≤ custody.resident
  /-- It shows at least what the oldest entry takes off it, in each round of making room. -/
  evicting : ∀ limit size rounds entry left,
    let shelf := (Shelf.makeRoom limit size rounds custody.cache.shelf).2
    shelf.evictOldest = some (entry, left) → entry.size ≤ shelf.resident
  /-- It shows at least what an insertion takes off it for the entry before. -/
  replacing : ∀ limit? key shared entry,
    let shelf := (custody.cache.shelf.room limit? shared.bytecode.byteLength).2
    (shelf.insert key shared).1 = some entry →
      entry.size ≤ shelf.resident + shared.bytecode.byteLength
  /-- After an insertion it is not above the limit in force. -/
  inserting : ∀ thread key shared, custody.Inserts thread key shared →
    (custody.take (.move (.advance thread))).cache.shelf.held? key = some shared ∧
      (custody.take (.move (.advance thread))).Under

section Events

variable {custody : Custody}

/-- What happens while there is a cache. -/
theorem take_of_live (live : custody.live = true) (event : Event) :
    custody.take event = match event with
      | .move move => { custody with crowd := custody.crowd.move move }
      | .setOptions options => custody.use (.setOptions options)
      | .setLimit limit => custody.use (.setLimit limit)
      | .setDirectory directory => custody.use (.setDirectory directory) :=
  if_pos live

/-- Nothing happens without a cache. -/
theorem take_of_closed (closed : ¬ custody.live = true) (event : Event) :
    custody.take event = custody :=
  if_neg closed

/-- Going on with a service, or giving its cache up, is tame. -/
theorem tame_settle {service : Service} (accounted : service.board.shelf.Accounted)
    (result : Except Failure Unit) :
    service.board.Tame (Session.settle (result, service)).service.board := by
  -- A cache that could not be set up is given up with an empty memory.
  cases result with
  | ok => exact .of_same accounted rfl rfl
  | error failure =>
    show service.board.Tame service.close.board
    rw [Service.board_close]
    exact Board.tame_clear _

/-- Whatever happens is tame, but for a new limit. -/
theorem take_tame (accounted : custody.board.shelf.Accounted) {event : Event}
    (other : ∀ limit, event ≠ .setLimit limit) :
    custody.board.Tame (custody.take event).board := by
  by_cases live : custody.live = true
  · cases event with
    | move move =>
      rw [take_of_live live]
      exact Crowd.move_tame accounted move
    | setOptions options =>
      rw [take_of_live live]
      exact .of_same accounted rfl rfl
    | setLimit limit => exact absurd rfl (other limit)
    | setDirectory directory =>
      rw [take_of_live live]
      obtain ⟨shelf, limit⟩ := custody.crowd.service.board_useDirectory directory
      have accounted' :
          (custody.crowd.service.useDirectory directory).2.board.shelf.Accounted := by
        rw [shelf]
        exact accounted
      -- The cache goes on with the directory, or is given up.
      have tame := tame_settle accounted' (custody.crowd.service.useDirectory directory).1
      refine ⟨tame.accounted, tame.limit.trans limit, ?_⟩
      have resident := tame.resident
      rw [shelf, limit] at resident
      exact resident
  · rw [take_of_closed live]
    exact .of_same accounted rfl rfl

/-- Whatever happens leaves the memory accounted for. -/
theorem take_accounted (accounted : custody.board.shelf.Accounted) (event : Event) :
    (custody.take event).board.shelf.Accounted := by
  cases event with
  | setLimit limit =>
    -- A new limit leaves the memory alone.
    by_cases live : custody.live = true
    · rw [take_of_live live]
      exact accounted
    · rw [take_of_closed live]
      exact accounted
  | move move => exact (take_tame accounted (by simp)).accounted
  | setOptions options => exact (take_tame accounted (by simp)).accounted
  | setDirectory directory => exact (take_tame accounted (by simp)).accounted

/-- The counter stays under the limit unless a limit is set that is too low already. -/
theorem take_under (accounted : custody.board.shelf.Accounted) (under : custody.Under)
    (event : Event) (high : ∀ limit, event = .setLimit limit → custody.live = true →
      custody.resident ≤ limit) : (custody.take event).Under := by
  -- A tame event leaves the counter lower or under the limit.
  have kept : custody.board.Tame (custody.take event).board → (custody.take event).Under := by
    intro tame limit bounded
    have bounded' : custody.board.setting.memoryLimit = some limit := tame.limit.symm.trans bounded
    rcases tame.resident with lower | below
    · exact Nat.le_trans lower (under limit bounded')
    · exact below limit bounded'
  cases event with
  | setLimit limit =>
    by_cases live : custody.live = true
    · rw [take_of_live live]
      intro limit' bounded
      -- The limit in force is now the one that was set.
      have same : limit = limit' := Option.some.inj bounded
      exact same ▸ high limit rfl live
    · rw [take_of_closed live]
      exact under
  | move move => exact kept (take_tame accounted (by simp))
  | setOptions options => exact kept (take_tame accounted (by simp))
  | setDirectory directory => exact kept (take_tame accounted (by simp))

/-- A memory that is accounted for has a counter that tells what it should. -/
theorem accounts_of_accounted (accounted : custody.board.shelf.Accounted) :
    custody.Accounts where
  balanced := accounted.balanced.trans (Shelf.totalSize_eq_sum _)
  removing := fun key entry found => accounted.size_le (Association.mem_of_lookup found)
  evicting := by
    intro limit size rounds entry left shelf evicted
    -- The rounds before have left the memory accounted for.
    obtain ⟨key, among, -⟩ := Shelf.evictOldest_eq_some evicted
    exact (accounted.makeRoom limit size rounds).size_le among
  replacing := by
    intro limit? key shared entry shelf found
    have covered := (accounted.room limit? shared.bytecode.byteLength).size_le
      (Association.mem_of_lookup found)
    exact Nat.le_trans covered (Nat.le_add_right _ _)
  inserting := by
    rintro thread key shared ⟨live, job, id, rfl, here, there⟩
    rw [take_of_live live] at there ⊢
    obtain ⟨next, there', step⟩ := Crowd.moved here
    -- The step is the one that leads to the answer with the module.
    obtain rfl : next = .settled id (.returned (.ok shared)) := by
      have phases := there'.symm.trans there
      simpa using phases
    obtain ⟨held, under⟩ := step.stored accounted
    refine ⟨held, fun limit bounded => under limit ?_⟩
    exact (congrArg Setting.memoryLimit step.setting).symm.trans bounded

end Events

/-- Every run leaves the memory accounted for. -/
theorem run_accounted {custody : Custody} (accounted : custody.board.shelf.Accounted)
    (events : List Event) : (custody.run events).board.shelf.Accounted := by
  -- Each event leaves it accounted for.
  induction events generalizing custody with
  | nil => exact accounted
  | cons event events ih => exact ih (take_accounted accounted event)

/-- No limit is set, while there is a cache, that is below what the counter shows. -/
def Modest (custody : Custody) (events : List Event) : Prop :=
  ∀ earlier limit later, events = earlier ++ .setLimit limit :: later →
    (custody.run earlier).live = true → (custody.run earlier).resident ≤ limit

/-- Through a run that sets no limit too low the counter stays under the limit. -/
theorem run_under {custody : Custody} (accounted : custody.board.shelf.Accounted)
    (under : custody.Under) (events : List Event) (modest : custody.Modest events) :
    (custody.run events).Under := by
  -- A limit that is modest in the run is modest where it is set.
  induction events generalizing custody with
  | nil => exact under
  | cons event events ih =>
    refine ih (take_accounted accounted event) (take_under accounted under event ?_) ?_
    · rintro limit rfl live
      exact modest [] limit events rfl live
    · -- What comes later in the run comes later in the whole run.
      intro earlier limit later whole live
      exact modest (event :: earlier) limit later (by rw [whole]; rfl) live

/-- The counter of a cache tells the size of what is in memory after every run; an insertion leaves
it under the limit; and so does the whole run if no limit is set that is too low already. -/
theorem run_accounts {service : Service} (new : service.New) (events : List Event) :
    ((of service).run events).Accounts ∧
      ((of service).Modest events → ((of service).run events).Under) := by
  -- A new cache has nothing in memory.
  have accounted : (of service).board.shelf.Accounted := by
    show service.cache.shelf.Accounted
    rw [new.memory]
    exact Shelf.accounted_empty _
  have under : (of service).Under := by
    intro limit bounded
    show service.cache.shelf.resident ≤ limit
    rw [new.memory]
    exact Nat.zero_le _
  exact ⟨accounts_of_accounted (run_accounted accounted events), run_under accounted under events⟩

/-- A limit with room for one module, and two requests: the second module takes the place of the
first. -/
def crowding : List Event :=
  .setLimit 4 :: ([.join ⟨"a.vert", "void main() {}"⟩, .advance 0, .advance 0, .advance 0,
    .advance 0, .join ⟨"b.vert", "void main() {}"⟩, .advance 1, .advance 1, .advance 1,
    .advance 1] : List Move).map .move

/-- The limit of that run is set before anything is in memory. -/
theorem modest_crowding : (of (.ofCompiler .curt)).Modest crowding := by
  intro earlier limit later whole live
  cases earlier with
  | nil => exact Nat.zero_le _
  | cons event earlier =>
    -- No other limit is set.
    have among : Event.setLimit limit ∈ crowding.tail := by
      rw [whole]
      simp
    simp [crowding] at among

/-- After the first five events of that run the first request has its module, and puts it in memory
next. -/
theorem inserts_crowding :
    ((of (.ofCompiler .curt)).run (crowding.take 5)).Inserts 0
      ((Service.ofCompiler .curt).jobOf ⟨"a.vert", "void main() {}"⟩).key
      ⟨0, [spirvMagic], by simp⟩ :=
  -- The five events are run.
  ⟨rfl, (Service.ofCompiler .curt).jobOf ⟨"a.vert", "void main() {}"⟩, 0, rfl, rfl, rfl⟩

/-- Two modules that do not fit under the limit together: the first is put in memory, and after the
whole run the counter is under the limit. -/
theorem run_accounts_of_crowding :
    let start := of (.ofCompiler .curt)
    let first := (Service.ofCompiler .curt).jobOf ⟨"a.vert", "void main() {}"⟩
    (Service.ofCompiler .curt).New ∧ start.Modest crowding ∧
      (start.run (crowding.take 5)).Inserts 0 first.key ⟨0, [spirvMagic], by simp⟩ ∧
      (start.run crowding).Accounts ∧ (start.run crowding).Under := by
  -- The run is modest, so that the counter ends under the limit.
  intro start first
  have new : (Service.ofCompiler .curt).New := ⟨⟨rfl, rfl⟩, rfl⟩
  obtain ⟨accounts, under⟩ := run_accounts new crowding
  exact ⟨new, modest_crowding, inserts_crowding, accounts, under modest_crowding⟩

end Custody

end ShaderBuild
