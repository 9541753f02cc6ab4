import ShaderBuild.Proofs.Cache.Board

/-! Every step of a request is a step of the board, and every move of a crowd changes it so. -/

namespace ShaderBuild

namespace Service

/-- A request that arrives finds its key, joins a flight, or leads a new one. -/
theorem arrive_step (service : Service) (job : Job) :
    Board.Step job .arriving service.board (service.arrive job).2 (service.arrive job).1.board := by
  unfold arrive
  split
  · rename_i shared shelf touched
    -- The key has an entry, and the stamp is the only change to the board.
    have found : service.board.shelf.held? job.key = some shared := by
      rw [← Shelf.touch_fst]
      exact congrArg Prod.fst touched
    have stamped : shelf = (service.board.shelf.touch job.key).2 := (congrArg Prod.snd touched).symm
    rw [stamped]
    exact .hit found
  · rename_i shelf touched
    -- The key has no entry, and a look for it turns no stamp that matters.
    have absent : service.board.shelf.held? job.key = none := by
      rw [← Shelf.touch_fst]
      exact congrArg Prod.fst touched
    have stamped : shelf = (service.board.shelf.touch job.key).2 := (congrArg Prod.snd touched).symm
    rw [stamped]
    simp only
    split
    · -- The table has a flight for the key.
      rename_i id underway
      exact .join absent underway
    -- Nobody leads the key, and so this request does.
    · rename_i free
      exact .lead absent free

/-- A leader finds its module on the disk or calls the compiler. -/
theorem lead_step (service : Service) (job : Job) (id : FlightId) :
    Board.Step job (.leading id) service.board (service.lead job id).2
      (service.lead job id).1.board := by
  -- Looking on the disk leaves the board, and so does counting.
  have same := board_loadFromDisk service job
  unfold lead
  cases loaded : service.loadFromDisk job with
  | mk found after =>
    rw [loaded] at same
    cases found with
    | none =>
      have step : Board.Step job (.leading id) service.board (.compiling id) service.board := .call
      -- The board after the look is the one before it.
      rw [← same] at step ⊢
      exact step
    | some bytecode =>
      have step : Board.Step job (.leading id) service.board
          (.produced id (.returned (.ok (after.allocate bytecode).1))) service.board := .load
      rw [← same] at step ⊢
      exact step

/-- A compiler that comes back gives its leader what it made. -/
theorem compile_step (service : Service) (job : Job) (id : FlightId) :
    Board.Step job (.compiling id) service.board (service.compile job id).2
      (service.compile job id).1.board := by
  unfold compile
  simp only
  -- The compiler breaks down, fails, or has a module.
  split
  · rename_i message broke
    exact .comeBack (.breakdown broke)
  · rename_i failure failed
    exact .comeBack (.failure failed)
  · rename_i bytecode compiled
    rcases checkFits_cases service.cache bytecode with
      ⟨passes, fits⟩ | ⟨limit, bounded, large, refuses⟩
    · -- The module goes to the disk and onto the heap, which the board does not show.
      simp only [passes]
      generalize stored :
        (service.noteAll (service.cache.compiler.notes job.request service.cache.options)).storeToDisk
          job bytecode = after
      have same : after.board = service.board := by
        rw [← stored, board_storeToDisk]
        rfl
      have makes : service.board.setting.Makes job.request
          (.returned (.ok (after.allocate bytecode).1)) := .module compiled fits
      have step : Board.Step job (.compiling id) service.board
          (.produced id (.returned (.ok (after.allocate bytecode).1))) service.board :=
        .comeBack makes
      rw [← same] at step ⊢
      exact step
    -- A module that is too large comes back as a failure, and leaves no trace.
    · simp only [refuses]
      exact .comeBack (.large compiled bounded large)

/-- A module is kept in memory if it fits, and refused otherwise. -/
theorem keep_cases (service : Service) (key : Fingerprint) (shared : Shared) :
    (service.board.setting.Fits shared.bytecode ∧ (service.keep key shared).1 = .ok shared ∧
      (service.keep key shared).2.board = service.board.keep key shared) ∨
    ∃ limit, service.board.setting.memoryLimit = some limit ∧
      limit < shared.bytecode.byteLength ∧
      (service.keep key shared).1 = .error (.cacheExhausted shared.bytecode.byteLength limit) ∧
      (service.keep key shared).2.board = service.board := by
  unfold keep
  rcases checkFits_cases service.cache shared.bytecode with
    ⟨passes, fits⟩ | ⟨limit, bounded, large, refuses⟩
  · -- Handles are retained and given up around the change of the shelf.
    refine Or.inl ⟨fits, ?_, ?_⟩
    · simp only [passes]
    · simp only [passes]
      exact board_releaseEntries ..
  · refine Or.inr ⟨limit, bounded, large, ?_, ?_⟩
    · simp only [refuses]
    · simp only [refuses]
      rfl

/-- A leader that settles leaves the table, and its module is kept if it fits. -/
theorem settle_step (service : Service) (job : Job) (id : FlightId) (made : Answer) :
    Board.Step job (.produced id made) service.board (service.settle job id made).2
      (service.settle job id made).1.board := by
  cases made with
  | panicked message => exact .settle .panicked
  | returned result =>
    cases result with
    | error failure => exact .settle .failed
    | ok shared =>
      -- Leaving the table comes first and is all that a refused module changes.
      let left : Service := { service with
        cache := { service.cache with
          inFlight := service.cache.inFlight.filter (·.1 != job.key) } }
      have settled : service.settle job id (.returned (.ok shared)) =
          ((left.keep job.key shared).2, .settled id (.returned (left.keep job.key shared).1)) := rfl
      rw [settled]
      -- The board without the key is where the module is kept or refused.
      rcases keep_cases left job.key shared with
        ⟨fits, kept, board⟩ | ⟨limit, bounded, large, refused, board⟩
      · rw [kept, board]
        exact .settle (.stored fits)
      · rw [refused, board]
        exact .settle (.refused bounded large)

/-- A leader that publishes forgets its flight or tells those who wait. -/
theorem publish_step (service : Service) (job : Job) (id : FlightId) (answer : Answer) :
    Board.Step job (.settled id answer) service.board (service.publish job id answer).2
      (service.publish job id answer).1.board := by
  unfold publish
  simp only
  -- The flight is forgotten if nobody waits for it.
  split
  · rename_i alone
    exact .close alone
  · rename_i awaited
    rw [board_retainAnswer]
    exact .tell awaited

/-- A request that waits hears the outcome, once there is one. -/
theorem follow_step (service : Service) (job : Job) (id : FlightId) :
    Board.Step job (.following id) service.board (service.follow id).2
      (service.follow id).1.board := by
  unfold follow
  -- There is an outcome to hear, or there is none yet.
  split
  · rename_i followers outcome told
    simp only
    split
    · -- The last one gives the flight's own handle up as well.
      rename_i last
      have same : ((service.retainAnswer outcome).dropFlight id |>.releaseAnswer outcome).board =
          service.board.dropFlight id := by
        rw [board_releaseAnswer]
        exact congrArg (Board.dropFlight · id) (board_retainAnswer service outcome)
      rw [same]
      exact .hearLast told last
    -- Others have yet to hear it.
    · rename_i more
      have same : ((service.retainAnswer outcome).setFlight id ⟨followers - 1, some outcome⟩).board =
          service.board.setFlight id ⟨followers - 1, some outcome⟩ :=
        congrArg (Board.setFlight · id _) (board_retainAnswer service outcome)
      rw [same]
      exact .hear told (Nat.not_le.mp more)
  · rename_i silent
    -- An outcome would have been heard.
    refine .wait ?_
    intro flight found
    cases outcome : flight.outcome with
    | none => rfl
    | some outcome_ =>
      exact absurd (found.trans (by cases flight; simp_all)) (silent flight.followers outcome_)

/-- Every step of a request is a step of the board. -/
theorem advance_step (service : Service) (job : Job) (phase : Phase) :
    Board.Step job phase service.board (service.advance job phase).2
      (service.advance job phase).1.board := by
  -- Each phase has a lemma of its own.
  cases phase with
  | arriving => exact arrive_step service job
  | following id => exact follow_step service job id
  | leading id => exact lead_step service job id
  | compiling id => exact compile_step service job id
  | produced id made => exact settle_step service job id made
  | settled id answer => exact publish_step service job id answer
  | answered answer => exact .rest

/-- Taking the entry of a key out is all that the first half of an invalidation does. -/
theorem removeEntry_board (service : Service) (key : Fingerprint) :
    (service.removeEntry key).2.board =
      service.board.withShelf (service.board.shelf.remove key).2 := by
  -- Without an entry the shelf stays as it is.
  unfold removeEntry
  cases found : service.cache.shelf.get? key with
  | none =>
    have removed : service.cache.shelf.remove key = (none, service.cache.shelf) := by
      simp [Shelf.remove, found]
    have same : (service.board.shelf.remove key).2 = service.board.shelf :=
      congrArg Prod.snd removed
    rw [removed, same]
    rfl
  | some entry =>
    have removed : service.cache.shelf.remove key =
        (some entry, (service.cache.shelf.remove key).2) := by
      simp [Shelf.remove, found]
    rw [removed]
    rfl

/-- Removing a file leaves the board. -/
theorem removeFile_board (service : Service) (key : Fingerprint) :
    (service.removeFile key).2.board = service.board := by
  unfold removeFile
  -- There is no directory, or a file goes, or it cannot be removed.
  split
  · rfl
  · split <;> rfl

end Service

namespace Crowd

/-- What the requests of a crowd share. -/
def board (crowd : Crowd) : Board := crowd.service.board

/-- What a move can do. -/
inductive Change (before : Crowd) : Move → Crowd → Prop where
  | joined {request : Request} {after : Crowd}
    (threads : after.threads = before.threads ++ [(before.service.jobOf request, .arriving)])
    (board : after.board = before.board) : Change before (.join request) after
  | stepped {thread : Nat} {job : Job} {phase next : Phase} {after : Crowd}
    (here : before.threads[thread]? = some (job, phase))
    (threads : after.threads = before.threads.set thread (job, next))
    (step : Board.Step job phase before.board next after.board) :
    Change before (.advance thread) after
  | flushed {after : Crowd} (threads : after.threads = before.threads)
    (board : after.board = before.board.withShelf before.board.shelf.clear) :
    Change before .flush after
  | forgotten {key : Fingerprint} {after : Crowd} (threads : after.threads = before.threads)
    (board : after.board = before.board.withShelf (before.board.shelf.remove key).2) :
    Change before (.forget key) after
  /-- The compiler answers in another way. -/
  | recast {compile : Request → Options → CompileOutcome} {after : Crowd}
    (threads : after.threads = before.threads)
    (board : after.board = { before.board with
      setting := { before.board.setting with
        compiler := { before.board.setting.compiler with compile := compile } } }) :
    Change before (.recast compile) after
  /-- At most files change. -/
  | untouched {move : Move} {after : Crowd} (threads : after.threads = before.threads)
    (board : after.board = before.board) : Change before move after

/-- A thread that is there takes a step of the board. -/
theorem move_advance {crowd : Crowd} {thread : Nat} {job : Job} {phase : Phase}
    (here : crowd.threads[thread]? = some (job, phase)) :
    ∃ next, (crowd.move (.advance thread)).threads = crowd.threads.set thread (job, next) ∧
      Board.Step job phase crowd.board next (crowd.move (.advance thread)).board := by
  -- Making the move is taking the step of the thread.
  have moved : crowd.move (.advance thread) =
      ⟨(crowd.service.advance job phase).1,
        crowd.threads.set thread (job, (crowd.service.advance job phase).2)⟩ := by
    simp [Crowd.move, here]
  rw [moved]
  exact ⟨_, rfl, Service.advance_step crowd.service job phase⟩

/-- Every move makes one of these changes. -/
theorem move_change (crowd : Crowd) (move : Move) : crowd.Change move (crowd.move move) := by
  cases move with
  | join request => exact .joined rfl rfl
  | advance thread =>
    cases here : crowd.threads[thread]? with
    | none =>
      -- A thread that is not there does nothing.
      have same : crowd.move (.advance thread) = crowd := by simp [Crowd.move, here]
      rw [same]
      exact .untouched rfl rfl
    | some pair =>
      obtain ⟨next, threads, step⟩ := move_advance here
      exact .stepped here threads step
  | flush => exact .flushed rfl (Service.board_releaseEntries ..)
  | forget key => exact .forgotten rfl (Service.removeEntry_board ..)
  | unlink key => exact .untouched rfl (Service.removeFile_board ..)
  | recast compile => exact .recast rfl rfl
  | disturb files => exact .untouched rfl rfl

/-- A thread that does not move stays where it is. -/
theorem stays {crowd : Crowd} {move : Move} {thread : Nat} {job : Job} {phase : Phase}
    (here : crowd.threads[thread]? = some (job, phase)) (other : move ≠ .advance thread) :
    (crowd.move move).threads[thread]? = some (job, phase) := by
  -- New threads come behind it, and another thread's step changes another place.
  cases crowd.move_change move with
  | joined threads board =>
    rw [threads, List.getElem?_append_left (List.getElem?_eq_some_iff.mp here).1]
    exact here
  | @stepped mover _ _ _ _ _ threads _ =>
    have apart : mover ≠ thread := fun same => other (by rw [same])
    rw [threads, List.getElem?_set_ne apart]
    exact here
  | flushed threads board | forgotten threads board | recast threads board
  | untouched threads board =>
    rw [threads]
    exact here

/-- A thread that moves is where its step leads. -/
theorem moved {crowd : Crowd} {thread : Nat} {job : Job} {phase : Phase}
    (here : crowd.threads[thread]? = some (job, phase)) :
    ∃ next, (crowd.move (.advance thread)).threads[thread]? = some (job, next) ∧
      crowd.board.Step job phase next (crowd.move (.advance thread)).board := by
  obtain ⟨next, threads, step⟩ := move_advance here
  refine ⟨next, ?_, step⟩
  -- The thread is there, and its place takes the new phase.
  rw [threads, List.getElem?_set_self (List.getElem?_eq_some_iff.mp here).1]

/-- A leader whose module fits puts it in memory with its next step. -/
theorem held_of_fits {crowd : Crowd} {thread : Nat} {job : Job} {id : FlightId} {shared : Shared}
    (here : crowd.threads[thread]? = some (job, .produced id (.returned (.ok shared))))
    (fits : crowd.board.setting.Fits shared.bytecode) :
    (crowd.move (.advance thread)).board.shelf.held? job.key = some shared := by
  obtain ⟨next, -, step⟩ := moved here
  generalize (crowd.move (.advance thread)).board = after at step
  cases step with
  | settle settles =>
    cases settles with
    | stored _ => exact Board.held?_keep _ _ _
    -- A module that fits is not refused.
    | refused bounded large => exact absurd (fits _ bounded) (Nat.not_le.mpr large)

end Crowd

end ShaderBuild
