import ShaderBuild.Proofs.Cache.Table

/-! Whoever joins a flight is told what its leader answers. -/

namespace ShaderBuild

/-- Those who wait are told what the leader answers. -/
theorem Board.Settles.told_eq {job : Job} {board after : Board} {made final : Answer}
    {told : Except Failure Shared} (settles : board.Settles job made final told after) :
    told = Service.outcomeFor job final := by
  -- In each ending the two are written down side by side.
  cases settles <;> rfl

namespace Crowd

/-- A published outcome stays as it is until the flight is forgotten. -/
theorem Orderly.outcome_kept {crowd : Crowd} (orderly : crowd.Orderly) {id : FlightId}
    {followers : Nat} {outcome : Except Failure Shared}
    (published : crowd.board.flight? id = some ⟨followers, some outcome⟩) (move : Move) :
    (crowd.move move).board.flight? id = none ∨
      ∃ followers, (crowd.move move).board.flight? id = some ⟨followers, some outcome⟩ := by
  -- A flight that still has a leader is not published.
  have apart : ∀ {thread job own}, crowd.Has Phase.debt? thread job own → id ≠ own := by
    rintro thread job own owes rfl
    obtain ⟨flight, found, silent⟩ := orderly.pending owes
    rw [published, Option.some.injEq] at found
    rw [← found] at silent
    simp at silent
  -- Only a step can change a flight.
  cases crowd.move_change move with
  | joined threads board | flushed threads board | forgotten threads board
  | recast threads board | untouched threads board =>
    have flights := congrArg (fun board : Board => board.flight? id) board
    exact Or.inr ⟨followers, flights.trans published⟩
  | @stepped thread job phase next _ here threads step =>
    generalize (crowd.move (.advance thread)).board = after at step
    cases step with
    | @join _ own absent underway =>
      -- The flight that is joined still has a leader.
      obtain ⟨leader, one, slot, -⟩ := orderly.slot.mp underway
      refine Or.inr ⟨followers, ?_⟩
      rw [Board.flight?_setFlight, if_neg (apart slot.debt)]
      exact published
    | lead absent free =>
      refine Or.inr ⟨followers, ?_⟩
      -- A new flight has a name that no flight had.
      have old := Nat.ne_of_lt (orderly.known published)
      exact (Board.flight?_setFlight _ _ _ _).trans ((if_neg old).trans published)
    | settle settles =>
      have flights := (settles_board settles).2.1
      refine Or.inr ⟨followers, ?_⟩
      simp only [Board.flight?, flights]
      exact published
    | close alone =>
      refine Or.inr ⟨followers, ?_⟩
      rw [Board.flight?_dropFlight, if_neg (apart ((has_iff_of_here here).mpr ⟨rfl, rfl⟩))]
      exact published
    | tell awaited =>
      refine Or.inr ⟨followers, ?_⟩
      rw [Board.flight?_setFlight, if_neg (apart ((has_iff_of_here here).mpr ⟨rfl, rfl⟩))]
      exact published
    | @hear _ own others told' heard more =>
      -- Whoever hears the outcome leaves it to the others.
      by_cases same : id = own
      · subst same
        rw [published, Option.some.injEq, Flight.mk.injEq, Option.some.injEq] at heard
        refine Or.inr ⟨others - 1, ?_⟩
        rw [Board.flight?_setFlight, if_pos rfl, heard.2]
      · refine Or.inr ⟨followers, ?_⟩
        rw [Board.flight?_setFlight, if_neg same]
        exact published
    | @hearLast _ own others told' heard last =>
      -- Only the last one to hear it forgets the flight.
      by_cases same : id = own
      · refine Or.inl ?_
        rw [Board.flight?_dropFlight, if_pos same]
      · refine Or.inr ⟨followers, ?_⟩
        rw [Board.flight?_dropFlight, if_neg same]
        exact published
    | _ => exact Or.inr ⟨followers, published⟩

/-- A leader has settled on an answer, and a request that joined its flight hears what follows from
it: it still waits, or the outcome is there, or it has heard it. -/
inductive Told (crowd : Crowd) (leader : Nat) (one : Job) (thread : Nat) (job : Job) (id : FlightId)
    (final : Answer) : Prop where
  | settled (leads : crowd.threads[leader]? = some (one, .settled id final))
    (waits : crowd.threads[thread]? = some (job, .following id))
  | published {followers : Nat} (leads : crowd.threads[leader]? = some (one, .answered final))
    (waits : crowd.threads[thread]? = some (job, .following id))
    (outcome : crowd.board.flight? id =
      some ⟨followers, some (Service.outcomeFor one final)⟩)
  | heard (leads : crowd.threads[leader]? = some (one, .answered final))
    (hears : crowd.threads[thread]? =
      some (job, .answered (.returned (Service.outcomeFor one final))))

section Bond

variable {crowd : Crowd} {leader thread : Nat} {one job : Job} {id : FlightId}

/-- A request that waits and takes a step still waits, or hears an outcome that is there. -/
theorem follower_moved (waits : crowd.threads[thread]? = some (job, .following id)) :
    ((crowd.move (.advance thread)).threads[thread]? = some (job, .following id) ∧
        ∀ flight, crowd.board.flight? id = some flight → flight.outcome = none) ∨
      ∃ followers outcome, crowd.board.flight? id = some ⟨followers, some outcome⟩ ∧
        (crowd.move (.advance thread)).threads[thread]? =
          some (job, .answered (.returned outcome)) := by
  -- A step of a request that waits is one of three.
  obtain ⟨next, there, step⟩ := moved waits
  generalize (crowd.move (.advance thread)).board = after at step
  cases step with
  | wait silent => exact Or.inl ⟨there, silent⟩
  | hear told more => exact Or.inr ⟨_, _, told, there⟩
  | hearLast told last => exact Or.inr ⟨_, _, told, there⟩

/-- A request that waits for a published flight hears the outcome with its next step. -/
theorem hears_of_published {followers : Nat} {outcome : Except Failure Shared}
    (waits : crowd.threads[thread]? = some (job, .following id))
    (published : crowd.board.flight? id = some ⟨followers, some outcome⟩) :
    (crowd.move (.advance thread)).threads[thread]? = some (job, .answered (.returned outcome)) := by
  -- A flight that is published is not silent, and its outcome is the one that is heard.
  rcases follower_moved waits with ⟨-, silent⟩ | ⟨others, heard, published', hears⟩
  · have none_ := silent _ published
    simp at none_
  · rw [published, Option.some.injEq, Flight.mk.injEq, Option.some.injEq] at published'
    rw [published'.2]
    exact hears

/-- An answered request stays answered. -/
theorem answered_stays {answer : Answer}
    (here : crowd.threads[thread]? = some (job, .answered answer)) (move : Move) :
    (crowd.move move).threads[thread]? = some (job, .answered answer) := by
  by_cases own : move = .advance thread
  · subst own
    obtain ⟨next, there, step⟩ := moved here
    generalize (crowd.move (.advance thread)).board = after at step
    -- The one step of an answered request is to rest.
    cases step
    exact there
  · exact stays here own

/-- A request that waits for a flight with a leader goes on waiting. -/
theorem Orderly.waits_on (orderly : crowd.Orderly) (owes : crowd.Has Phase.debt? leader one id)
    (waits : crowd.threads[thread]? = some (job, .following id)) (move : Move) :
    (crowd.move move).threads[thread]? = some (job, .following id) := by
  by_cases own : move = .advance thread
  · subst own
    rcases follower_moved waits with ⟨still, -⟩ | ⟨followers, outcome, published, -⟩
    · exact still
    · -- The leader has yet to publish.
      obtain ⟨flight, found, silent⟩ := orderly.pending owes
      rw [published, Option.some.injEq] at found
      rw [← found] at silent
      simp at silent
  · exact stays waits own

/-- What a follower is told does not change any more once the leader has settled. -/
theorem Told.move {final : Answer} (orderly : crowd.Orderly)
    (told : crowd.Told leader one thread job id final) (move : Move) :
    (crowd.move move).Told leader one thread job id final := by
  cases told with
  | settled leads waits =>
    have owes : crowd.Has Phase.debt? leader one id := (has_iff_of_here leads).mpr ⟨rfl, rfl⟩
    have still := orderly.waits_on owes waits move
    by_cases own : move = .advance leader
    · -- The leader publishes, and at least one request waits for that.
      subst own
      obtain ⟨next, there, step⟩ := moved leads
      have somebody := waiting_pos_iff.mpr
        ⟨thread, job, (has_iff_of_here waits).mpr ⟨rfl, rfl⟩⟩
      obtain ⟨flight, found, -⟩ := orderly.pending owes
      have tally := orderly.tally found
      generalize board : (crowd.move (.advance leader)).board = after at step
      cases step with
      | close alone =>
        rw [found] at alone
        simp only [Option.getD_some] at alone
        omega
      | tell awaited =>
        have published : (crowd.move (.advance leader)).board.flight? id =
            some { (crowd.board.flight? id).getD {} with
              outcome := some (Service.outcomeFor one final) } := by
          rw [board, Board.flight?_setFlight, if_pos rfl]
        exact .published there still published
    -- Some other request moves, and both stay where they are.
    · exact .settled (stays leads own) still
  | published leads waits outcome =>
    have led := answered_stays leads move
    by_cases own : move = .advance thread
    · subst own
      -- The follower takes its step, and hears what is published.
      exact .heard led (hears_of_published waits outcome)
    · -- The flight is there as long as somebody waits for it.
      have still := stays waits own
      obtain ⟨flight, found, -⟩ :=
        (orderly.move move).awaited ((has_iff_of_here still).mpr ⟨rfl, rfl⟩)
      rcases orderly.outcome_kept outcome move with gone | ⟨followers, kept⟩
      · rw [gone] at found
        simp at found
      · exact .published led still kept
  | heard leads hears => exact .heard (answered_stays leads move) (answered_stays hears move)

/-- What a follower is told does not change through a whole run. -/
theorem Told.run {final : Answer} (orderly : crowd.Orderly)
    (told : crowd.Told leader one thread job id final) (moves : List Move) :
    (crowd.run moves).Told leader one thread job id final := by
  -- One move after the other.
  induction moves generalizing crowd with
  | nil => exact told
  | cons move moves ih => exact ih (orderly.move move) (told.move orderly move)

/-- A leader in the table stays there with its follower, or settles. -/
theorem Orderly.lead_move (orderly : crowd.Orderly) (slot : crowd.Has Phase.slot? leader one id)
    (waits : crowd.threads[thread]? = some (job, .following id)) (move : Move) :
    ((crowd.move move).Has Phase.slot? leader one id ∧
        (crowd.move move).threads[thread]? = some (job, .following id)) ∨
      ∃ made final told, move = .advance leader ∧
        crowd.threads[leader]? = some (one, .produced id made) ∧
        crowd.board.Settles one made final told (crowd.move move).board ∧
        (crowd.move move).Told leader one thread job id final := by
  have still := orderly.waits_on slot.debt waits move
  obtain ⟨phase, leads, has⟩ := slot
  by_cases own : move = .advance leader
  · subst own
    obtain ⟨next, there, step⟩ := moved leads
    generalize board : (crowd.move (.advance leader)).board = after at step
    -- The leader takes its step: it is through with its part of the table, or stays in it.
    cases step with
    | load | call | comeBack makes =>
      exact Or.inl ⟨(has_iff_of_here there).mpr ⟨rfl, has⟩, still⟩
    | settle settles =>
      simp only [Phase.slot?, Option.some.injEq] at has
      subst has
      exact Or.inr ⟨_, _, _, rfl, leads, settles, .settled there still⟩
    | _ => simp [Phase.slot?] at has
  · exact Or.inl ⟨⟨phase, stays leads own, has⟩, still⟩

end Bond

/-- The four ways in which what a leader has made becomes its answer: what it answers, what those who
wait are told, and what becomes of the memory. -/
inductive Ending (before : Crowd) (job : Job) (after : Crowd) :
    Answer → Answer → Except Failure Shared → Prop where
  /-- The module fits under the limit. The leader answers it, all others are told the same, and the
  same is now in memory. -/
  | stored {shared : Shared} (fits : before.board.setting.Fits shared.bytecode)
    (inserted : after.service.cache.shelf.held? job.key = some shared) :
    Ending before job after (.returned (.ok shared)) (.returned (.ok shared)) (.ok shared)
  /-- The module is larger than the limit. Nobody gets it. -/
  | refused {shared : Shared} {limit : Nat} (bounded : before.service.cache.memoryLimit = some limit)
    (large : limit < shared.bytecode.byteLength)
    (unchanged : after.service.cache.shelf = before.service.cache.shelf) :
    Ending before job after (.returned (.ok shared))
      (.returned (.error (.cacheExhausted shared.bytecode.byteLength limit)))
      (.error (.cacheExhausted shared.bytecode.byteLength limit))
  /-- There is no module. All get the same failure. -/
  | failed {failure : Failure} (unchanged : after.service.cache.shelf = before.service.cache.shelf) :
    Ending before job after (.returned (.error failure)) (.returned (.error failure))
      (.error failure)
  /-- The compiler broke down. The leader breaks down as well, and the others are told so. -/
  | panicked {message : String}
    (unchanged : after.service.cache.shelf = before.service.cache.shelf) :
    Ending before job after (.panicked message) (.panicked message)
      (.error (.toolchain job.request.name
        "compiler panicked while other requests were waiting on it"))

/-- A leader that settles ends in one of the four ways. -/
theorem ending_of_settles {job : Job} {before after : Crowd} {made final : Answer}
    {told : Except Failure Shared} (settles : before.board.Settles job made final told after.board) :
    before.Ending job after made final told := by
  -- The shelf is a part of the board.
  have shelf : after.service.cache.shelf = after.board.shelf := rfl
  generalize after.board = board at settles shelf
  cases settles with
  | stored fits => exact .stored fits (by rw [shelf]; exact Board.held?_keep _ _ _)
  | refused bounded large => exact .refused bounded large shelf
  | failed => exact .failed shelf
  | panicked => exact .panicked shelf

/-- Somewhere in a run a leader settles: what it has made becomes its answer, and those who wait for
its flight are to be told. -/
def SettledIn (start : Crowd) (moves : List Move) (leader : Nat) (one : Job) (id : FlightId)
    (final : Answer) (told : Except Failure Shared) : Prop :=
  ∃ earlier later made, moves = earlier ++ .advance leader :: later ∧
    (start.run earlier).threads[leader]? = some (one, .produced id made) ∧
    (start.run earlier).Ending one (start.run (earlier ++ [.advance leader])) made final told

/-- Through a run a leader stays in the table with its follower, or settles and tells it. -/
theorem Orderly.lead_run {start : Crowd} (orderly : start.Orderly) {leader thread : Nat}
    {one job : Job} {id : FlightId} (slot : start.Has Phase.slot? leader one id)
    (waits : start.threads[thread]? = some (job, .following id)) (moves : List Move) :
    ((start.run moves).Has Phase.slot? leader one id ∧
        (start.run moves).threads[thread]? = some (job, .following id)) ∨
      ∃ final told, start.SettledIn moves leader one id final told ∧
        told = Service.outcomeFor one final ∧
        (start.run moves).Told leader one thread job id final := by
  -- The move at which the leader settles splits the run.
  induction moves generalizing start with
  | nil => exact Or.inl ⟨slot, waits⟩
  | cons move moves ih =>
    rcases orderly.lead_move slot waits move with
      ⟨slot, waits⟩ | ⟨made, final, told, rfl, here, settles, hears⟩
    · rcases ih (orderly.move move) slot waits with both | ⟨final, told, settled, same, hears⟩
      · exact Or.inl both
      -- The leader settles later, and this move is one of those before.
      · obtain ⟨earlier, later, made, rfl, here, ending⟩ := settled
        exact Or.inr ⟨final, told, ⟨move :: earlier, later, made, rfl, here, ending⟩, same, hears⟩
    · exact Or.inr ⟨final, told, ⟨[], moves, made, rfl, here, ending_of_settles settles⟩,
        settles.told_eq, hears.run (orderly.move _) moves⟩

/-- The move is the first step of a request for the key. -/
def Arrives (crowd : Crowd) (key : Fingerprint) (move : Move) : Prop :=
  ∃ thread job, move = .advance thread ∧ crowd.threads[thread]? = some (job, .arriving) ∧
    job.key = key

/-- No request for the key arrives in the course of some moves. -/
def NoArrival (key : Fingerprint) : Crowd → List Move → Prop
  | _, [] => True
  | crowd, move :: moves => ¬ crowd.Arrives key move ∧ NoArrival key (crowd.move move) moves

/-- A key that is neither in memory nor in the table. -/
def Free (crowd : Crowd) (key : Fingerprint) : Prop :=
  crowd.board.shelf.held? key = none ∧ crowd.board.leader? key = none

/-- A key that is free stays so until a request for it arrives. -/
theorem Orderly.free_move {crowd : Crowd} (orderly : crowd.Orderly) {key : Fingerprint}
    (free : crowd.Free key) {move : Move} (away : ¬ crowd.Arrives key move) :
    (crowd.move move).Free key := by
  obtain ⟨absent, unled⟩ := free
  cases crowd.move_change move with
  | joined threads board | recast threads board | untouched threads board =>
    rw [Free, board]
    exact ⟨absent, unled⟩
  | flushed threads board =>
    rw [Free, board]
    exact ⟨Shelf.held?_clear _ _, unled⟩
  | forgotten threads board =>
    rw [Free, board]
    refine ⟨(Shelf.held?_remove _ _ _).trans ?_, unled⟩
    rw [absent, ite_self]
  | @stepped thread job phase next _ here threads step =>
    -- A step for the key that begins a flight would be an arrival.
    have arrives : phase = .arriving → job.key ≠ key := by
      rintro rfl same
      exact away ⟨thread, job, rfl, here, same⟩
    have touched : ∀ other, (crowd.board.shelf.touch other).2.held? key = none := fun other =>
      (Shelf.held?_touch _ _ _).trans absent
    rw [Free]
    generalize (crowd.move (.advance thread)).board = after at step
    cases step with
    | hit found => exact ⟨touched _, unled⟩
    | join found underway => exact ⟨touched _, unled⟩
    | lead found none_ =>
      refine ⟨touched _, ?_⟩
      -- The new flight is for another key.
      rw [Board.leader?_open_, if_neg (arrives rfl).symm]
      exact unled
    | settle settles =>
      -- The key of a leader that settles is still in the table.
      obtain ⟨table, flights, names, entries⟩ := settles_board settles
      have leads := orderly.slot.mpr ⟨thread, job, (has_iff_of_here here).mpr ⟨rfl, rfl⟩, rfl⟩
      have apart : key ≠ job.key := by
        rintro rfl
        rw [unled] at leads
        simp at leads
      refine ⟨entries key apart absent, ?_⟩
      rw [table, if_neg apart]
      exact unled
    | _ => exact ⟨absent, unled⟩

/-- A key that is free stays so through moves in which no request for it arrives. -/
theorem Orderly.free_run {crowd : Crowd} (orderly : crowd.Orderly) {key : Fingerprint}
    (free : crowd.Free key) {moves : List Move} (away : NoArrival key crowd moves) :
    (crowd.run moves).Free key := by
  -- One move after the other.
  induction moves generalizing crowd with
  | nil => exact free
  | cons move moves ih =>
    exact ih (orderly.move move) (orderly.free_move free away.1) away.2

/-- The names of flights go up with every move. -/
theorem nextFlight_le_move (crowd : Crowd) (move : Move) :
    crowd.board.nextFlight ≤ (crowd.move move).board.nextFlight := by
  -- Only a step can take a name.
  cases crowd.move_change move with
  | stepped here threads step => exact step.nextFlight_le
  | joined threads board | flushed threads board | forgotten threads board
  | recast threads board | untouched threads board =>
    exact Nat.le_of_eq (congrArg Board.nextFlight board).symm

/-- The names of flights go up through a run. -/
theorem nextFlight_le_run (crowd : Crowd) (moves : List Move) :
    crowd.board.nextFlight ≤ (crowd.run moves).board.nextFlight := by
  -- One move after the other.
  induction moves generalizing crowd with
  | nil => exact Nat.le_refl _
  | cons move moves ih => exact Nat.le_trans (nextFlight_le_move crowd move) (ih (crowd.move move))

/-- A request that arrives for a free key leads the next flight. -/
theorem leads_of_free {crowd : Crowd} {thread : Nat} {job : Job}
    (here : crowd.threads[thread]? = some (job, .arriving)) (free : crowd.Free job.key) :
    (crowd.move (.advance thread)).threads[thread]? =
      some (job, .leading crowd.board.nextFlight) := by
  obtain ⟨next, there, step⟩ := moved here
  generalize (crowd.move (.advance thread)).board = after at step
  -- With neither an entry nor a flight there is one step left.
  cases step with
  | hit found =>
    rw [free.1] at found
    simp at found
  | join absent underway =>
    rw [free.2] at underway
    simp at underway
  | lead absent unled => exact there

/-- A request that joins a flight finds its leader in the table. -/
theorem leader_of_joins {crowd : Crowd} (orderly : crowd.Orderly) {thread : Nat} {job : Job}
    {id : FlightId} (here : crowd.threads[thread]? = some (job, .arriving))
    (joins : (crowd.move (.advance thread)).threads[thread]? = some (job, .following id)) :
    ∃ leader one, one.key = job.key ∧ leader ≠ thread ∧ crowd.Has Phase.slot? leader one id := by
  obtain ⟨next, there, step⟩ := moved here
  rw [joins, Option.some.injEq, Prod.mk.injEq] at there
  obtain ⟨-, rfl⟩ := there
  generalize (crowd.move (.advance thread)).board = after at step
  cases step with
  | join absent underway =>
    obtain ⟨leader, one, slot, own⟩ := orderly.slot.mp underway
    refine ⟨leader, one, own, ?_, slot⟩
    -- A request that has just arrived leads nothing.
    rintro rfl
    have idle := ((has_iff_of_here here).mp slot).2
    simp [Phase.slot?] at idle

/-- A request that arrives for a key with a flight in the table joins that flight. -/
theorem Orderly.joins_of_led {crowd : Crowd} (orderly : crowd.Orderly) {thread : Nat} {job : Job}
    {id : FlightId} (here : crowd.threads[thread]? = some (job, .arriving))
    (led : crowd.board.leader? job.key = some id) :
    (crowd.move (.advance thread)).threads[thread]? = some (job, .following id) := by
  have missing := orderly.absent led
  obtain ⟨next, there, step⟩ := moved here
  generalize (crowd.move (.advance thread)).board = after at step
  -- A key in the table is not in memory, and so there is one step left.
  cases step with
  | hit found =>
    rw [missing] at found
    simp at found
  | join absent underway =>
    rw [led, Option.some.injEq] at underway
    rw [underway]
    exact there
  | lead absent free =>
    rw [led] at free
    simp at free

/-- A leader whose compiler breaks down has no more than the message of that. -/
theorem produced_of_breakdown {crowd : Crowd} {leader : Nat} {one : Job} {id : FlightId}
    {message : String} (here : crowd.threads[leader]? = some (one, .compiling id))
    (broke : crowd.board.setting.outcome one.request = .panicked message) :
    (crowd.move (.advance leader)).threads[leader]? =
      some (one, .produced id (.panicked message)) := by
  obtain ⟨next, there, step⟩ := moved here
  generalize (crowd.move (.advance leader)).board = after at step
  cases step with
  | comeBack makes =>
    -- The compiler comes back in one way only.
    cases makes with
    | breakdown broke' =>
      rw [broke, CompileOutcome.panicked.injEq] at broke'
      rw [broke']
      exact there
    | module compiled fits => exact absurd (broke.symm.trans compiled) (by simp)
    | large compiled bounded large => exact absurd (broke.symm.trans compiled) (by simp)
    | failure failed => exact absurd (broke.symm.trans failed) (by simp)

/-- A leader whose compiler broke down breaks down as well. Nothing comes into memory, and its key is
free. -/
theorem Orderly.breakdown {crowd : Crowd} (orderly : crowd.Orderly) {leader : Nat} {one : Job}
    {id : FlightId} {message : String}
    (here : crowd.threads[leader]? = some (one, .produced id (.panicked message))) :
    (crowd.move (.advance leader)).threads[leader]? = some (one, .settled id (.panicked message)) ∧
      (crowd.move (.advance leader)).service.cache.shelf = crowd.service.cache.shelf ∧
      (crowd.move (.advance leader)).Free one.key := by
  have slot : crowd.Has Phase.slot? leader one id := (has_iff_of_here here).mpr ⟨rfl, rfl⟩
  have absent := orderly.absent (orderly.slot.mpr ⟨leader, one, slot, rfl⟩)
  obtain ⟨next, there, step⟩ := moved here
  have shelf : (crowd.move (.advance leader)).service.cache.shelf =
      (crowd.move (.advance leader)).board.shelf := rfl
  rw [Free, shelf]
  generalize (crowd.move (.advance leader)).board = after at step
  -- A breakdown keeps nothing, and the key was not in memory before.
  cases step with
  | settle settles =>
    cases settles with
    | panicked => exact ⟨there, rfl, absent, by rw [Board.leader?_leave, if_pos rfl]⟩

/-- How a leader and a request that joined its flight stand after a run. Either the leader has not
settled, and the other one waits; or it has settled, and what the other one is told is settled with
it, be it that the leader has yet to publish, that the other one hears it with its next step, or that
it has heard it. -/
def Agreement (start : Crowd) (moves : List Move) (leader : Nat) (one : Job) (thread : Nat) (job : Job)
    (id : FlightId) : Prop :=
  ((start.run moves).Has Phase.slot? leader one id ∧
    (start.run moves).threads[thread]? = some (job, .following id)) ∨
  ∃ final told, start.SettledIn moves leader one id final told ∧
    (((start.run moves).threads[leader]? = some (one, .settled id final) ∧
        (start.run moves).threads[thread]? = some (job, .following id)) ∨
      ((start.run moves).threads[leader]? = some (one, .answered final) ∧
        (start.run moves).threads[thread]? = some (job, .following id) ∧
        (start.run (moves ++ [.advance thread])).threads[thread]? =
          some (job, .answered (.returned told))) ∨
      ((start.run moves).threads[leader]? = some (one, .answered final) ∧
        (start.run moves).threads[thread]? = some (job, .answered (.returned told))))

/-- A follower that hears an outcome with its next step hears what is published. -/
theorem Told.agreement {start : Crowd} {moves : List Move} {leader thread : Nat} {one job : Job}
    {id : FlightId} {final : Answer}
    (told : (start.run moves).Told leader one thread job id final)
    (settled : start.SettledIn moves leader one id final (Service.outcomeFor one final)) :
    start.Agreement moves leader one thread job id := by
  refine Or.inr ⟨final, _, settled, ?_⟩
  cases told with
  | settled leads waits => exact Or.inl ⟨leads, waits⟩
  | published leads waits outcome =>
    refine Or.inr (Or.inl ⟨leads, waits, ?_⟩)
    rw [run_append]
    -- The outcome is there, and so the next step hears it.
    exact hears_of_published waits outcome
  | heard leads hears => exact Or.inr (Or.inr ⟨leads, hears⟩)

/-- Requests that share a compile agree, and a breakdown leaves the key to the next request. -/
theorem coalesced_requests_agree {service : Service} (idle : service.Idle) (early late : List Move) :
    let start := Crowd.mk service []
    (∀ thread job id, (start.run early).threads[thread]? = some (job, .arriving) →
      (start.run (early ++ [.advance thread])).threads[thread]? = some (job, .following id) →
      ∃ leader one, one.key = job.key ∧ (start.run early).Has Phase.slot? leader one id ∧
        start.Agreement (early ++ .advance thread :: late) leader one thread job id) ∧
    (∀ leader one id message, (start.run early).threads[leader]? = some (one, .compiling id) →
      (start.run early).board.setting.outcome one.request = .panicked message →
      (start.run (early ++ [.advance leader])).threads[leader]? =
        some (one, .produced id (.panicked message))) ∧
    ∀ leader one id message,
      (start.run early).threads[leader]? = some (one, .produced id (.panicked message)) →
      let broken := start.run (early ++ [.advance leader])
      broken.threads[leader]? = some (one, .settled id (.panicked message)) ∧
      broken.service.cache.shelf = (start.run early).service.cache.shelf ∧
      (NoArrival one.key broken late → ∀ next two, two.key = one.key →
        (broken.run late).threads[next]? = some (two, .arriving) →
        ∃ fresh, fresh ≠ id ∧
          (broken.run (late ++ [.advance next])).threads[next]? = some (two, .leading fresh)) := by
  intro start
  have orderly : (start.run early).Orderly := idle.orderly.run early
  refine ⟨?_, ?_, ?_⟩
  · intro thread job id here joins
    rw [run_append] at joins
    obtain ⟨leader, one, own, apart, slot⟩ := leader_of_joins orderly here joins
    refine ⟨leader, one, own, slot, ?_⟩
    -- The leader stands still while the other one joins.
    have slot' : ((start.run early).move (.advance thread)).Has Phase.slot? leader one id := by
      obtain ⟨phase, leads, has⟩ := slot
      refine ⟨phase, stays leads ?_, has⟩
      simpa using apart.symm
    -- The run goes on from where the request has joined.
    have whole : start.run (early ++ .advance thread :: late) =
        ((start.run early).move (.advance thread)).run late := run_append ..
    rcases (orderly.move _).lead_run slot' joins late with
      ⟨leads, waits⟩ | ⟨final, told, settled, rfl, hears⟩
    · exact Or.inl ⟨whole ▸ leads, whole ▸ waits⟩
    -- The leader settles in the rest of the run, and so in the whole of it.
    · obtain ⟨earlier, later, made, rfl, there, ending⟩ := settled
      refine Told.agreement (whole ▸ hears)
        ⟨early ++ .advance thread :: earlier, later, made, ?_, ?_, ?_⟩
      · simp
      · rw [run_append]
        exact there
      · rw [List.append_assoc, run_append, run_append]
        exact ending
  · intro leader one id message here broke
    rw [run_append]
    exact produced_of_breakdown here broke
  · intro leader one id message here
    have broken : start.run (early ++ [.advance leader]) =
        (start.run early).move (.advance leader) := run_append ..
    obtain ⟨there, shelf, free⟩ := orderly.breakdown here
    rw [broken]
    refine ⟨there, shelf, ?_⟩
    intro away next two same arrives
    -- The key is free after the breakdown, and nobody has led it since.
    have leads := leads_of_free arrives (same ▸ (orderly.move _).free_run free away)
    have ahead : ((start.run early).move (.advance leader)).run (late ++ [.advance next]) =
        (((start.run early).move (.advance leader)).run late).move (.advance next) := run_append ..
    refine ⟨_, ?_, ahead ▸ leads⟩
    · -- The names of flights only go up.
      have owes : (start.run early).Has Phase.debt? leader one id :=
        (has_iff_of_here here).mpr ⟨rfl, rfl⟩
      have old := orderly.debt_lt owes
      have step := nextFlight_le_move (start.run early) (.advance leader)
      have later := nextFlight_le_run ((start.run early).move (.advance leader)) late
      exact (Nat.ne_of_lt (Nat.lt_of_lt_of_le old (Nat.le_trans step later))).symm

/-- Three requests for a text on which the compiler breaks down: the second one joins the flight of
the first one, which breaks down, and the third one leads a new flight. -/
theorem coalesced_requests_agree_of_empty_source :
    let start := Crowd.mk (Service.ofCompiler .curt) []
    let request : Request := ⟨"a.vert", ""⟩
    let job := (Service.ofCompiler .curt).jobOf request
    let early : List Move := [.join request, .join request, .join request, .advance 0, .advance 0,
      .advance 0]
    (∃ leader one, one.key = job.key ∧ (start.run early).Has Phase.slot? leader one 0 ∧
      start.Agreement (early ++ [.advance 1, .advance 0]) leader one 1 job 0) ∧
    ∃ fresh, fresh ≠ 0 ∧
      ((start.run (early ++ [.advance 0])).run [.advance 0, .advance 2]).threads[2]? =
        some (job, .leading fresh) := by
  intro start request job early
  have idle : (Service.ofCompiler .curt).Idle := Service.idle_ofCompiler .curt
  have orderly : (start.run early).Orderly := idle.orderly.run early
  have produced : (start.run early).threads[0]? = some (job, .produced 0 (.panicked "no source")) :=
    rfl
  have second : (start.run early).threads[1]? = some (job, .arriving) := rfl
  have third : (start.run early).threads[2]? = some (job, .arriving) := rfl
  have led : (start.run early).board.leader? job.key = some 0 := by
    have table : (start.run early).board.inFlight = [(job.key, 0)] := rfl
    rw [Board.leader?, table, List.lookup_cons_self]
  -- The first request breaks down, while the third one has yet to take a step.
  obtain ⟨settled, -, -⟩ := orderly.breakdown produced
  have broken : start.run (early ++ [.advance 0]) = (start.run early).move (.advance 0) :=
    run_append ..
  rw [← broken] at settled
  have waits : (start.run (early ++ [.advance 0])).threads[2]? = some (job, .arriving) := by
    rw [broken]
    exact stays third (by simp)
  have still : ((start.run (early ++ [.advance 0])).run [.advance 0]).threads[2]? =
      some (job, .arriving) := by
    rw [run_single]
    exact stays waits (by simp)
  have joins : (start.run (early ++ [.advance 1])).threads[1]? = some (job, .following 0) := by
    rw [run_append, run_single]
    exact orderly.joins_of_led second led
  have quiet : NoArrival job.key (start.run (early ++ [.advance 0])) [.advance 0] := by
    -- The one move is the publication of the leader.
    refine ⟨?_, trivial⟩
    rintro ⟨thread, other, same, here, -⟩
    cases same
    rw [settled] at here
    simp at here
  obtain ⟨agree, -, next⟩ := coalesced_requests_agree idle early [.advance 0]
  obtain ⟨-, -, leads⟩ := next 0 job 0 "no source" produced
  exact ⟨agree 1 job 0 second joins, leads quiet 2 job rfl still⟩

end Crowd

end ShaderBuild
