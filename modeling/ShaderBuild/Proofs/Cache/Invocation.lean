import ShaderBuild.Proofs.Cache.InFlight

/-! The compiler never works twice at a time for one key, nor again without a cause. -/

namespace ShaderBuild

/-- A property that holds at one time and not at a later one ends in between. -/
theorem exists_last_time (holds : Nat → Prop) {first last : Nat} (order : first ≤ last)
    (begins : holds first) (ends : ¬ holds last) :
    ∃ time, first ≤ time ∧ time < last ∧ holds time ∧ ¬ holds (time + 1) := by
  -- Going back from the later time, the first one at which it holds is the one.
  induction order with
  | refl => exact absurd begins ends
  | @step last order ih =>
    by_cases still : holds last
    · exact ⟨last, order, Nat.lt_succ_self last, still, ends⟩
    · obtain ⟨time, after, before, on, off⟩ := ih still
      exact ⟨time, after, Nat.lt_succ_of_lt before, on, off⟩

namespace Crowd

/-- The crowd after so many moves of a run. -/
def atTime (start : Crowd) (moves : List Move) (time : Nat) : Crowd :=
  start.run (moves.take time)

/-- Each time comes from the one before by one move. -/
theorem atTime_succ {start : Crowd} {moves : List Move} {time : Nat} {move : Move}
    (there : moves[time]? = some move) :
    start.atTime moves (time + 1) = (start.atTime moves time).move move := by
  -- The moves up to a time are those up to the one before, and one more.
  rw [atTime, List.take_add_one, there, run_append]
  rfl

/-- Up to the end of a run there is a move at every time. -/
theorem exists_move {moves : List Move} {time last : Nat} {move : Move}
    (there : moves[last]? = some move) (before : time < last) :
    ∃ earlier, moves[time]? = some earlier :=
  -- The earlier time is within the length of the run.
  have bound := (List.getElem?_eq_some_iff.mp there).1
  ⟨_, List.getElem?_eq_getElem (Nat.lt_trans before bound)⟩

/-- No move changes the limit. -/
theorem memoryLimit_move (crowd : Crowd) (move : Move) :
    (crowd.move move).board.setting.memoryLimit = crowd.board.setting.memoryLimit := by
  -- A step leaves all settings, and a compiler that answers in another way leaves the limit.
  cases crowd.move_change move with
  | stepped here threads step => rw [step.setting]
  | joined threads board | flushed threads board | forgotten threads board
  | recast threads board | untouched threads board =>
    have limit := congrArg (fun board : Board => board.setting.memoryLimit) board
    exact limit

/-- No run changes the limit. -/
theorem memoryLimit_run (crowd : Crowd) (moves : List Move) :
    (crowd.run moves).board.setting.memoryLimit = crowd.board.setting.memoryLimit := by
  -- One move after the other.
  induction moves generalizing crowd with
  | nil => rfl
  | cons move moves ih => exact (ih (crowd.move move)).trans (memoryLimit_move crowd move)

/-- At some time of a run a request calls the compiler for a key. -/
structure CallsAt (start : Crowd) (moves : List Move) (key : Fingerprint) (time thread : Nat)
    (job : Job) (id : FlightId) : Prop where
  step : moves[time]? = some (.advance thread)
  before : (start.atTime moves time).threads[thread]? = some (job, .leading id)
  after : (start.atTime moves (time + 1)).threads[thread]? = some (job, .compiling id)
  own : job.key = key

/-- The compiler makes a module of the request that fits under the limit. -/
def Storable (crowd : Crowd) (job : Job) : Prop :=
  ∃ bytecode, crowd.board.setting.outcome job.request = .finished (.ok bytecode) ∧
    crowd.board.setting.Fits bytecode

/-- What the compiler makes of the request is not kept. -/
inductive Fruitless (crowd : Crowd) (job : Job) : Prop where
  | failed {failure : Failure}
    (failed : crowd.board.setting.outcome job.request = .finished (.error failure))
  | panicked {message : String}
    (broke : crowd.board.setting.outcome job.request = .panicked message)
  | large {bytecode : Bytecode} {limit : Nat}
    (compiled : crowd.board.setting.outcome job.request = .finished (.ok bytecode))
    (bounded : crowd.board.setting.memoryLimit = some limit) (large : limit < bytecode.byteLength)

/-- Between two times the compiler comes back to a request with nothing to keep. -/
def Unstored (start : Crowd) (moves : List Move) (early late thread : Nat) (job : Job)
    (id : FlightId) : Prop :=
  ∃ time, early < time ∧ time < late ∧ moves[time]? = some (.advance thread) ∧
    (start.atTime moves time).threads[thread]? = some (job, .compiling id) ∧
    (start.atTime moves time).Fruitless job

/-- A move takes the module of a key out of memory. -/
structure TakesOut (crowd : Crowd) (key : Fingerprint) (shared : Shared) (move : Move) : Prop where
  held : crowd.service.cache.shelf.held? key = some shared
  gone : (crowd.move move).service.cache.shelf.held? key = none
  /-- The memory is flushed, the key is invalidated, or room is made for another key's module. -/
  cause : move = .flush ∨ move = .forget key ∨
    ∃ thread, ∃ job : Job, ∃ id other limit, move = .advance thread ∧ job.key ≠ key ∧
      crowd.threads[thread]? = some (job, .produced id (.returned (.ok other))) ∧
      crowd.service.cache.memoryLimit = some limit

/-- Between two times the module that a request has made is put in memory and then taken out. -/
def Withdrawn (start : Crowd) (moves : List Move) (early late thread : Nat) (job : Job)
    (id : FlightId) : Prop :=
  ∃ stored removed shared move, early < stored ∧ stored < removed ∧ removed < late ∧
    moves[stored]? = some (.advance thread) ∧
    (start.atTime moves stored).threads[thread]? =
      some (job, .produced id (.returned (.ok shared))) ∧
    (start.atTime moves (stored + 1)).service.cache.shelf.held? job.key = some shared ∧
    moves[removed]? = some move ∧
    (start.atTime moves removed).TakesOut job.key shared move

section Turns

variable {crowd : Crowd} {thread : Nat} {job : Job} {id : FlightId} {move : Move}

/-- A request that no longer compiles has what the compiler made. -/
theorem made_of_left (here : crowd.threads[thread]? = some (job, .compiling id))
    (left : (crowd.move move).threads[thread]? ≠ some (job, .compiling id)) :
    move = .advance thread ∧ ∃ made, crowd.board.setting.Makes job.request made ∧
      (crowd.move move).threads[thread]? = some (job, .produced id made) := by
  -- Only its own step takes a request on.
  by_cases own : move = .advance thread
  · subst own
    obtain ⟨next, there, step⟩ := moved here
    generalize (crowd.move (.advance thread)).board = after at step
    cases step with
    | comeBack makes => exact ⟨rfl, _, makes, there⟩
  · exact absurd (stays here own) left

/-- A request that has a module which fits and no longer holds it back has put it in memory. -/
theorem stored_of_left {shared : Shared} (fits : crowd.board.setting.Fits shared.bytecode)
    (here : crowd.threads[thread]? = some (job, .produced id (.returned (.ok shared))))
    (left : (crowd.move move).threads[thread]? ≠
      some (job, .produced id (.returned (.ok shared)))) :
    move = .advance thread ∧ (crowd.move move).board.shelf.held? job.key = some shared := by
  -- Only its own step takes a request on.
  by_cases own : move = .advance thread
  · subst own
    exact ⟨rfl, held_of_fits here fits⟩
  · exact absurd (stays here own) left

/-- A module that is no longer in memory was taken out. -/
theorem Orderly.takesOut_of_left (orderly : crowd.Orderly) {key : Fingerprint} {shared : Shared}
    (held : crowd.board.shelf.held? key = some shared)
    (left : (crowd.move move).board.shelf.held? key ≠ some shared) :
    crowd.TakesOut key shared move := by
  -- A new request, a new compiler and a change of files leave the memory.
  cases crowd.move_change move with
  | joined threads board | recast threads board | untouched threads board =>
    rw [board] at left
    exact absurd held left
  | flushed threads board =>
    refine ⟨held, ?_, Or.inl rfl⟩
    have shelf := congrArg (fun board : Board => board.shelf.held? key) board
    exact shelf.trans (Shelf.held?_clear _ _)
  | @forgotten other _ threads board =>
    have shelf := congrArg (fun board : Board => board.shelf.held? key) board
    have removed := shelf.trans (Shelf.held?_remove crowd.board.shelf other key)
    -- An invalidation of another key leaves this one.
    by_cases same : key = other
    · subst same
      exact ⟨held, removed.trans (if_pos rfl), Or.inr (Or.inl rfl)⟩
    · exact absurd (removed.trans ((if_neg same).trans held)) left
  | @stepped mover one phase next _ here threads step =>
    -- A look for a key takes nothing out.
    have touched : ∀ other, (crowd.board.shelf.touch other).2.held? key = some shared := fun other =>
      (Shelf.held?_touch _ _ _).trans held
    have gone : ∀ board : Board, (crowd.move (.advance mover)).board = board →
        board.shelf.held? key = none → (crowd.move (.advance mover)).service.cache.shelf.held? key =
          none := by
      rintro _ rfl gone
      exact gone
    generalize board : (crowd.move (.advance mover)).board = after at step left
    cases step with
    | hit found => exact absurd (touched _) left
    | join absent underway => exact absurd (touched _) left
    | lead absent free => exact absurd (touched _) left
    | settle settles =>
      cases settles with
      | stored fits =>
        -- A module that is stored is not yet in memory.
        have leads := orderly.slot.mpr ⟨mover, one, (has_iff_of_here here).mpr ⟨rfl, rfl⟩, rfl⟩
        have apart : key ≠ one.key := by
          rintro rfl
          rw [orderly.absent leads] at held
          simp at held
        -- For another key the module stays, or makes room under a limit.
        rcases Board.held?_keep_cases (crowd.board.leave one.key) _ apart with
          same | ⟨none_, limit, bounded⟩
        · exact absurd (same.trans held) left
        · exact ⟨held, gone _ board none_, Or.inr (Or.inr
            ⟨mover, one, _, _, limit, rfl, apart.symm, here, bounded⟩)⟩
      | refused bounded large => exact absurd held left
      | failed => exact absurd held left
      | panicked => exact absurd held left
    | _ => exact absurd held left

end Turns

section History

variable {start : Crowd} {moves : List Move} {key : Fingerprint} {early late first second : Nat}
  {one two : Job} {id other : FlightId}

/-- Two requests that have the compiler at work for one key are the same one. -/
theorem Orderly.compiling_sole {crowd : Crowd} (orderly : crowd.Orderly)
    (here : crowd.threads[first]? = some (one, .compiling id))
    (there : crowd.threads[second]? = some (two, .compiling other)) (same : one.key = two.key) :
    first = second :=
  -- Both lead a flight of the key, which has one leader.
  orderly.sole_of_key ((has_iff_of_here here).mpr ⟨rfl, rfl⟩)
    ((has_iff_of_here there).mpr ⟨rfl, rfl⟩) same

/-- The order of a crowd is there at every time of a run. -/
theorem Orderly.atTime (orderly : start.Orderly) (time : Nat) : (start.atTime moves time).Orderly :=
  orderly.run _

/-- When a request calls the compiler, the requests for its key that came before are through with
theirs, and the key is not in memory. -/
theorem Orderly.alone (orderly : start.Orderly) (calls : start.CallsAt moves key late second two other)
    (first : Nat) (id : FlightId) (own : one.key = key) :
    (start.atTime moves late).threads[first]? ≠ some (one, .compiling id) ∧
      (∀ made, (start.atTime moves late).threads[first]? ≠ some (one, .produced id made)) ∧
      (start.atTime moves late).board.shelf.held? key = none := by
  have order : (start.atTime moves late).Orderly := orderly.atTime late
  -- A request that calls the compiler has its key in the table.
  have slot : (start.atTime moves late).Has Phase.slot? second two other :=
    (has_iff_of_here calls.before).mpr ⟨rfl, rfl⟩
  have same : one.key = two.key := own.trans calls.own.symm
  refine ⟨fun here => ?_, fun made here => ?_, ?_⟩
  · -- The two would be one request, in two phases.
    have sole := order.sole_of_key ((has_iff_of_here here).mpr ⟨rfl, rfl⟩) slot same
    rw [sole, calls.before] at here
    simp at here
  · have sole := order.sole_of_key ((has_iff_of_here here).mpr ⟨rfl, rfl⟩) slot same
    rw [sole, calls.before] at here
    simp at here
  · exact order.absent (order.slot.mpr ⟨second, two, slot, calls.own⟩)

/-- Between two calls of the compiler for a key, what the first one made was not kept, or it was
taken out of memory. -/
theorem Orderly.unstored_or_withdrawn (orderly : start.Orderly)
    (calls : start.CallsAt moves key early first one id)
    (again : start.CallsAt moves key late second two other) (order : early < late) :
    start.Unstored moves early late first one id ∨
      start.Withdrawn moves early late first one id := by
  obtain ⟨compiles, holds, absent⟩ := orderly.alone again first id calls.own
  -- Some time later the compiler comes back.
  obtain ⟨back, after, before, here, left⟩ := exists_last_time
    (fun time => (start.atTime moves time).threads[first]? = some (one, .compiling id))
    order calls.after compiles
  obtain ⟨move, there⟩ := exists_move again.step before
  rw [atTime_succ there] at left
  obtain ⟨rfl, made, makes, produced⟩ := made_of_left here left
  rw [← atTime_succ there] at produced
  -- What it brings back decides: a failure, a breakdown and a large module are not kept.
  cases makes with
  | large compiled bounded large =>
    exact Or.inl ⟨back, after, before, there, here, .large compiled bounded large⟩
  | failure failed => exact Or.inl ⟨back, after, before, there, here, .failed failed⟩
  | breakdown broke => exact Or.inl ⟨back, after, before, there, here, .panicked broke⟩
  | @module shared compiled fits =>
    -- Later still the module is put in memory, under the same limit.
    obtain ⟨kept, after', before', here', left'⟩ := exists_last_time
      (fun time => (start.atTime moves time).threads[first]? =
        some (one, .produced id (.returned (.ok shared)))) before produced (holds _)
    obtain ⟨move', there'⟩ := exists_move again.step before'
    have fits' : (start.atTime moves kept).board.setting.Fits shared.bytecode := by
      intro limit bounded
      refine fits limit ?_
      rw [Crowd.atTime, memoryLimit_run] at bounded ⊢
      exact bounded
    rw [atTime_succ there'] at left'
    obtain ⟨rfl, inMemory⟩ := stored_of_left fits' here' left'
    rw [← atTime_succ there', calls.own] at inMemory
    -- And before the second call it is taken out.
    obtain ⟨removed, after'', before'', here'', left''⟩ := exists_last_time
      (fun time => (start.atTime moves time).board.shelf.held? key = some shared)
      before' inMemory (by rw [absent]; simp)
    obtain ⟨move'', there''⟩ := exists_move again.step before''
    rw [atTime_succ there''] at left''
    have takes := (orderly.atTime removed).takesOut_of_left here'' left''
    refine Or.inr ⟨kept, removed, shared, move'', by omega, by omega, before'', there', here', ?_,
      there'', ?_⟩
    · rw [calls.own]
      exact inMemory
    · rw [calls.own]
      exact takes

/-- A request whose module can be kept is not compiled in vain. -/
theorem Storable.not_fruitless {crowd : Crowd} {job : Job} (storable : crowd.Storable job) :
    ¬ crowd.Fruitless job := by
  obtain ⟨bytecode, compiled, fits⟩ := storable
  intro fruitless
  -- The compiler makes one thing of a request, and the limit is one.
  cases fruitless with
  | failed failed => exact absurd (compiled.symm.trans failed) (by simp)
  | panicked broke => exact absurd (compiled.symm.trans broke) (by simp)
  | large compiled' bounded large =>
    have same := compiled.symm.trans compiled'
    simp only [CompileOutcome.finished.injEq, Except.ok.injEq] at same
    rw [← same] at large
    exact Nat.not_le.mpr large (fits _ bounded)

end History

/-- For one key the compiler never works twice at a time; between two calls what the first one made
was not kept or was taken out again; and for a module that can be kept and stays in memory there is
one call at most. -/
theorem run_compiles_once {service : Service} (idle : service.Idle) (moves : List Move)
    (key : Fingerprint) :
    let start := Crowd.mk service []
    (∀ (time first second : Nat) (one two : Job) (id other : FlightId),
      (start.atTime moves time).threads[first]? = some (one, .compiling id) →
      (start.atTime moves time).threads[second]? = some (two, .compiling other) →
      one.key = key → two.key = key → first = second) ∧
    (∀ early late first second one two id other, start.CallsAt moves key early first one id →
      start.CallsAt moves key late second two other → early < late →
      start.Unstored moves early late first one id ∨
        start.Withdrawn moves early late first one id) ∧
    ((∀ (time thread : Nat) (job : Job) (id : FlightId),
        (start.atTime moves time).threads[thread]? = some (job, .compiling id) →
        job.key = key → (start.atTime moves time).Storable job) →
      (∀ time shared move, moves[time]? = some move →
        ¬ (start.atTime moves time).TakesOut key shared move) →
      ∀ early late first second one two id other, start.CallsAt moves key early first one id →
        start.CallsAt moves key late second two other → early = late) := by
  intro start
  have orderly : start.Orderly := idle.orderly
  have between : ∀ {early late first second one two id other},
      start.CallsAt moves key early first one id → start.CallsAt moves key late second two other →
      early < late → start.Unstored moves early late first one id ∨
        start.Withdrawn moves early late first one id := orderly.unstored_or_withdrawn
  refine ⟨?_, ?_, ?_⟩
  · intro time first second one two id other here there own own'
    exact (orderly.atTime time).compiling_sole here there (own.trans own'.symm)
  · intro early late first second one two id other calls again order
    exact between calls again order
  · intro storable lasts
    -- Neither of two calls can come first.
    have never : ∀ {early late first second one two id other},
        start.CallsAt moves key early first one id →
        start.CallsAt moves key late second two other → ¬ early < late := by
      intro early late first second one two id other calls again order
      -- What was made could be kept, and was never taken out.
      rcases between calls again order with
        ⟨time, -, -, -, here, fruitless⟩ |
        ⟨stored, removed, shared, move, -, -, -, -, -, -, there, out⟩
      · exact (storable time first one id here calls.own).not_fruitless fruitless
      · exact lasts removed shared move there (calls.own ▸ out)
    intro early late first second one two id other calls again
    exact Nat.le_antisymm (Nat.not_lt.mp (never again calls)) (Nat.not_lt.mp (never calls again))

/-- Two requests of one text and a flush: the first one calls the compiler, and so does another one
only after that came to nothing or the flush took the module out. -/
theorem run_compiles_once_of_flush :
    let start := Crowd.mk (Service.ofCompiler .curt) []
    let request : Request := ⟨"a.vert", "void main() {}"⟩
    let job := (Service.ofCompiler .curt).jobOf request
    let moves : List Move := [.join request, .advance 0, .advance 0, .advance 0, .advance 0,
      .advance 0, .flush, .join request, .advance 1, .advance 1]
    start.CallsAt moves job.key 2 0 job 0 ∧
      ∀ late second two other, start.CallsAt moves job.key late second two other → 2 < late →
        start.Unstored moves 2 late 0 job 0 ∨ start.Withdrawn moves 2 late 0 job 0 := by
  -- The first call is at the second move, and the law speaks of any later one.
  intro start request job moves
  have calls : start.CallsAt moves job.key 2 0 job 0 := ⟨rfl, rfl, rfl, rfl⟩
  obtain ⟨-, between, -⟩ :=
    run_compiles_once (Service.idle_ofCompiler .curt) moves job.key
  refine ⟨calls, ?_⟩
  intro late second two other again order
  exact between 2 late 0 second job two 0 other calls again order

end Crowd

end ShaderBuild
