import ShaderBuild.Proofs.Cache.Parts

/-! A key is in the table of flights exactly while one leader is under way. -/

namespace ShaderBuild

namespace Crowd

/-- The table, the flights, the leaders and those who wait fit together. -/
structure Orderly (crowd : Crowd) : Prop where
  /-- The table holds the flights of the leaders that have not settled yet, and no others. -/
  slot : ∀ {key id}, crowd.board.leader? key = some id ↔
    ∃ thread job, crowd.Has Phase.slot? thread job id ∧ job.key = key
  /-- A key in the table is not in memory. -/
  absent : ∀ {key id}, crowd.board.leader? key = some id → crowd.board.shelf.held? key = none
  /-- A flight has one leader. -/
  sole : ∀ {id first second one two}, crowd.Has Phase.debt? first one id →
    crowd.Has Phase.debt? second two id → first = second
  /-- A flight with a leader is known and not published. -/
  pending : ∀ {id thread job}, crowd.Has Phase.debt? thread job id →
    ∃ flight, crowd.board.flight? id = some flight ∧ flight.outcome = none
  /-- A flight that is waited for is known, and published or led by a request for the same key. -/
  awaited : ∀ {id thread job}, crowd.Has Phase.wait? thread job id →
    ∃ flight, crowd.board.flight? id = some flight ∧ (flight.outcome = none →
      ∃ leader one, crowd.Has Phase.debt? leader one id ∧ one.key = job.key)
  /-- The names of later flights are free. -/
  known : ∀ {id flight}, crowd.board.flight? id = some flight → id < crowd.board.nextFlight
  /-- A flight knows how many requests wait for it. -/
  tally : ∀ {id flight}, crowd.board.flight? id = some flight → flight.followers = crowd.waiting id

/-- Nobody waits for a flight that is not known. -/
theorem Orderly.waiting_of_unknown {crowd : Crowd} (orderly : crowd.Orderly) {id : FlightId}
    (unknown : crowd.board.flight? id = none) : crowd.waiting id = 0 := by
  -- A request that waited would wait for a known flight.
  rcases Nat.eq_zero_or_pos (crowd.waiting id) with nobody | somebody
  · exact nobody
  · obtain ⟨thread, job, waits⟩ := waiting_pos_iff.mp somebody
    obtain ⟨flight, found, -⟩ := orderly.awaited waits
    rw [unknown] at found
    simp at found

/-- The next flight's name is not in use. -/
theorem Orderly.flight?_next {crowd : Crowd} (orderly : crowd.Orderly) :
    crowd.board.flight? crowd.board.nextFlight = none := by
  -- The names of known flights are smaller.
  cases found : crowd.board.flight? crowd.board.nextFlight with
  | none => rfl
  | some flight => exact absurd (orderly.known found) (Nat.lt_irrefl _)

/-- A request that owes a flight has a flight with a name below the next one. -/
theorem Orderly.debt_lt {crowd : Crowd} (orderly : crowd.Orderly) {thread : Nat} {job : Job}
    {id : FlightId} (owes : crowd.Has Phase.debt? thread job id) : id < crowd.board.nextFlight := by
  -- Its flight is known.
  obtain ⟨flight, found, -⟩ := orderly.pending owes
  exact orderly.known found

/-- A key has one leader in the table. -/
theorem Orderly.sole_of_key {crowd : Crowd} (orderly : crowd.Orderly) {first second : Nat}
    {one two : Job} {id other : FlightId} (slot : crowd.Has Phase.slot? first one id)
    (slot' : crowd.Has Phase.slot? second two other) (same : one.key = two.key) :
    first = second := by
  -- Both have the flight that the table holds for the key.
  have found := orderly.slot.mpr ⟨first, one, slot, same⟩
  have found' := orderly.slot.mpr ⟨second, two, slot', rfl⟩
  rw [found, Option.some.injEq] at found'
  subst found'
  exact orderly.sole slot.debt slot'.debt

section Kept

variable {before after : Crowd}

/-- The table goes on holding the flights of its leaders when neither it nor they change. -/
theorem Orderly.slot_kept (orderly : before.Orderly)
    (slot : ∀ {thread job id}, after.Has Phase.slot? thread job id ↔
      before.Has Phase.slot? thread job id)
    (table : after.board.inFlight = before.board.inFlight) {key : Fingerprint} {id : FlightId} :
    after.board.leader? key = some id ↔
      ∃ thread job, after.Has Phase.slot? thread job id ∧ job.key = key := by
  -- Both sides are as they were before.
  simp only [Board.leader?, table, slot]
  exact orderly.slot

/-- The keys in the table stay out of memory when no entry comes. -/
theorem Orderly.absent_kept (orderly : before.Orderly)
    (table : after.board.inFlight = before.board.inFlight)
    (entries : ∀ key, before.board.shelf.held? key = none → after.board.shelf.held? key = none)
    {key : Fingerprint} {id : FlightId} (found : after.board.leader? key = some id) :
    after.board.shelf.held? key = none := by
  -- A key of the table was in it before, and then it was not in memory.
  simp only [Board.leader?, table] at found
  exact entries key (orderly.absent found)

/-- A flight has one leader when there are no new ones. -/
theorem Orderly.sole_kept (orderly : before.Orderly)
    (debt : ∀ {thread job id}, after.Has Phase.debt? thread job id →
      before.Has Phase.debt? thread job id) {id : FlightId} {first second : Nat} {one two : Job}
    (owes : after.Has Phase.debt? first one id) (owes' : after.Has Phase.debt? second two id) :
    first = second :=
  -- Every debt after the step was one before it.
  orderly.sole (debt owes) (debt owes')

/-- When neither the flights change nor those who owe one or wait for one, order is a matter of the
table. -/
theorem Orderly.of_flights (orderly : before.Orderly)
    (flights : after.board.flights = before.board.flights)
    (next : after.board.nextFlight = before.board.nextFlight)
    (debt : ∀ {thread job id}, after.Has Phase.debt? thread job id ↔
      before.Has Phase.debt? thread job id)
    (wait : ∀ {thread job id}, after.Has Phase.wait? thread job id ↔
      before.Has Phase.wait? thread job id)
    (waiting : ∀ id, after.waiting id = before.waiting id)
    (slot : ∀ {key id}, after.board.leader? key = some id ↔
      ∃ thread job, after.Has Phase.slot? thread job id ∧ job.key = key)
    (absent : ∀ {key id}, after.board.leader? key = some id →
      after.board.shelf.held? key = none) : after.Orderly := by
  -- What is found among the flights now was found there before.
  have flight : ∀ id, after.board.flight? id = before.board.flight? id := by
    intro id
    simp only [Board.flight?, flights]
  refine ⟨slot, absent, orderly.sole_kept debt.mp, ?pending, ?awaited, ?known, ?tally⟩
  case pending =>
    intro id thread job owes
    rw [flight]
    exact orderly.pending (debt.mp owes)
  case awaited =>
    intro id thread job waits
    simp only [flight, debt]
    exact orderly.awaited (wait.mp waits)
  case known =>
    intro id old found
    rw [flight] at found
    rw [next]
    exact orderly.known found
  case tally =>
    intro id old found
    rw [flight] at found
    rw [waiting]
    exact orderly.tally found

/-- When one known flight changes at most, order is a matter of the table and of that flight. -/
theorem Orderly.of_flight (orderly : before.Orderly) {id : FlightId} {known : Flight}
    (found : before.board.flight? id = some known)
    (others : ∀ other, other ≠ id → after.board.flight? other = before.board.flight? other)
    (next : after.board.nextFlight = before.board.nextFlight)
    (debt : ∀ {thread job other}, other ≠ id → (after.Has Phase.debt? thread job other ↔
      before.Has Phase.debt? thread job other))
    (wait : ∀ {thread job other}, other ≠ id → after.Has Phase.wait? thread job other →
      before.Has Phase.wait? thread job other)
    (waiting : ∀ other, other ≠ id → after.waiting other = before.waiting other)
    (slot : ∀ {key id}, after.board.leader? key = some id ↔
      ∃ thread job, after.Has Phase.slot? thread job id ∧ job.key = key)
    (absent : ∀ {key id}, after.board.leader? key = some id → after.board.shelf.held? key = none)
    (sole : ∀ {id first second one two}, after.Has Phase.debt? first one id →
      after.Has Phase.debt? second two id → first = second)
    (pending : ∀ {thread job}, after.Has Phase.debt? thread job id →
      ∃ flight, after.board.flight? id = some flight ∧ flight.outcome = none)
    (awaited : ∀ {thread job}, after.Has Phase.wait? thread job id →
      ∃ flight, after.board.flight? id = some flight ∧ (flight.outcome = none →
        ∃ leader one, after.Has Phase.debt? leader one id ∧ one.key = job.key))
    (tally : ∀ {flight}, after.board.flight? id = some flight →
      flight.followers = after.waiting id) : after.Orderly := by
  -- What holds of another flight held of it before, and nothing that bears on it has changed.
  refine ⟨slot, absent, sole, ?pending, ?awaited, ?known, ?tally⟩
  case pending =>
    intro other thread job owes
    by_cases same : other = id
    · subst same
      exact pending owes
    · rw [others other same]
      exact orderly.pending ((debt same).mp owes)
  case awaited =>
    intro other thread job waits
    by_cases same : other = id
    · subst same
      exact awaited waits
    · simp only [others other same, debt same]
      exact orderly.awaited (wait same waits)
  case known =>
    intro other flight found'
    rw [next]
    by_cases same : other = id
    · rw [same]
      exact orderly.known found
    · rw [others other same] at found'
      exact orderly.known found'
  case tally =>
    intro other flight found'
    by_cases same : other = id
    · subst same
      exact tally found'
    · rw [others other same] at found'
      rw [waiting other same]
      exact orderly.tally found'

/-- Order is kept when no part changes, no flight changes, and no entry comes. -/
theorem Orderly.of_alike (orderly : before.Orderly) (alike : Alike before after)
    (table : after.board.inFlight = before.board.inFlight)
    (flights : after.board.flights = before.board.flights)
    (next : after.board.nextFlight = before.board.nextFlight)
    (entries : ∀ key, before.board.shelf.held? key = none → after.board.shelf.held? key = none) :
    after.Orderly :=
  -- With the same parts the table has the same leaders.
  orderly.of_flights flights next alike.debt alike.wait alike.waiting
    (orderly.slot_kept alike.slot table) (orderly.absent_kept table entries)

end Kept

/-- A thread leads a new flight for a key that is neither in the table nor in memory, and all else is
as before. -/
structure Opens (before after : Crowd) (thread : Nat) (job : Job) : Prop where
  /-- The thread had no part in a flight. -/
  idle : ∀ {part : Phase → Option FlightId} {one id}, part .arriving = none →
    ¬ before.Has part thread one id
  /-- The thread has the parts of a leader in the flight that has the next free name. -/
  parts : ∀ {part : Phase → Option FlightId} {other one id}, after.Has part other one id ↔
    if other = thread then one = job ∧ part (.leading before.board.nextFlight) = some id
    else before.Has part other one id
  /-- As many as before wait for each flight. -/
  waiting : ∀ id, after.waiting id = before.waiting id
  free : before.board.leader? job.key = none
  leader : ∀ key, after.board.leader? key =
    if key = job.key then some before.board.nextFlight else before.board.leader? key
  flight : ∀ id, after.board.flight? id =
    if id = before.board.nextFlight then some {} else before.board.flight? id
  next : after.board.nextFlight = before.board.nextFlight + 1
  absent : before.board.shelf.held? job.key = none
  held : ∀ key, after.board.shelf.held? key = before.board.shelf.held? key

section Steps

variable {before after : Crowd} {thread : Nat} {job : Job}

namespace Opens

/-- A request that leads opens a flight. -/
theorem of_lead (here : before.threads[thread]? = some (job, .arriving))
    (threads : after.threads = before.threads.set thread (job, .leading before.board.nextFlight))
    (absent : before.board.shelf.held? job.key = none)
    (free : before.board.leader? job.key = none)
    (board : after.board =
      (before.board.withShelf (before.board.shelf.touch job.key).2).open_ job.key) :
    Opens before after thread job where
  -- A request that has just arrived has no part in any flight.
  idle := by
    intro part one id none_ has
    have has := (has_iff_of_here here).mp has
    simp [none_] at has
  parts := has_of_stepped here threads
  waiting := waiting_of_unchanged here threads rfl
  free := free
  leader := by
    intro key
    rw [board, Board.leader?_open_]
    rfl
  flight := by
    intro id
    rw [board]
    exact Board.flight?_setFlight _ _ _ _
  next := by rw [board]; rfl
  absent := absent
  held := by
    intro key
    rw [board]
    exact Shelf.held?_touch _ _ _

variable (opens : Opens before after thread job)
include opens

/-- Who has a part in an older flight keeps it. -/
theorem kept {part : Phase → Option FlightId} (none_ : part .arriving = none) {other : Nat}
    {one : Job} {id : FlightId} (has : before.Has part other one id) :
    after.Has part other one id := by
  -- It is not the request that has just arrived, for that had no part.
  have apart : other ≠ thread := fun same => opens.idle none_ (same ▸ has)
  exact opens.parts.mpr (by simpa only [if_neg apart] using has)

/-- The table holds the new flight for its key, and the older ones for theirs. -/
theorem slot (orderly : before.Orderly) {key : Fingerprint} {id : FlightId} :
    after.board.leader? key = some id ↔
      ∃ other one, after.Has Phase.slot? other one id ∧ one.key = key := by
  rw [opens.leader]
  constructor
  · split
    · rename_i own
      intro same
      exact ⟨thread, job, opens.parts.mpr (by simpa [Phase.slot?] using same), own.symm⟩
    · intro found
      obtain ⟨other, one, has, own⟩ := orderly.slot.mp found
      exact ⟨other, one, opens.kept rfl has, own⟩
  · rintro ⟨other, one, has, own⟩
    have has := opens.parts.mp has
    split at has
    · rw [if_pos (by rw [← own, has.1])]
      exact has.2
    · have found := orderly.slot.mpr ⟨other, one, has, own⟩
      -- The key was free, and so an older flight is not its own.
      rw [if_neg (fun this => by rw [this, opens.free] at found; simp at found)]
      exact found

/-- The new flight has one leader, and so have the older ones. -/
theorem sole (orderly : before.Orderly) {id : FlightId} {first second : Nat} {one two : Job}
    (has : after.Has Phase.debt? first one id) (has' : after.Has Phase.debt? second two id) :
    first = second := by
  have has := opens.parts.mp has
  have has' := opens.parts.mp has'
  -- An older leader has an older flight.
  have older : ∀ {other one}, before.Has Phase.debt? other one before.board.nextFlight → False :=
    fun owes => Nat.lt_irrefl _ (orderly.debt_lt owes)
  split at has <;> split at has'
  · rename_i own own'
    rw [own, own']
  · rw [← Option.some.inj has.2] at has'
    exact absurd has' older
  · rw [← Option.some.inj has'.2] at has
    exact absurd has older
  · exact orderly.sole has has'

/-- The new flight is set up without an outcome, and an older one is left as it is. -/
theorem pending (orderly : before.Orderly) {id : FlightId} {other : Nat} {one : Job}
    (has : after.Has Phase.debt? other one id) :
    ∃ flight, after.board.flight? id = some flight ∧ flight.outcome = none := by
  -- The flight is the new one or an older one.
  have has := opens.parts.mp has
  rw [opens.flight]
  split at has
  · exact ⟨{}, by simp [← Option.some.inj has.2], rfl⟩
  · rw [if_neg (Nat.ne_of_lt (orderly.debt_lt has))]
    exact orderly.pending has

/-- Those who wait still wait for an older flight, and it keeps its leader. -/
theorem awaited (orderly : before.Orderly) {id : FlightId} {other : Nat} {one : Job}
    (has : after.Has Phase.wait? other one id) :
    ∃ flight, after.board.flight? id = some flight ∧ (flight.outcome = none →
      ∃ leader two, after.Has Phase.debt? leader two id ∧ two.key = one.key) := by
  have has := opens.parts.mp has
  -- The thread of this step leads, and does not wait.
  split at has
  · simp [Phase.wait?] at has
  · obtain ⟨known, found, led⟩ := orderly.awaited has
    have old : id ≠ before.board.nextFlight := Nat.ne_of_lt (orderly.known found)
    refine ⟨known, by rw [opens.flight, if_neg old]; exact found, ?_⟩
    intro silent
    obtain ⟨leader, two, owes, own⟩ := led silent
    exact ⟨leader, two, opens.kept rfl owes, own⟩

/-- The new flight has the name that was free, and the next free name is one higher. -/
theorem known (orderly : before.Orderly) {id : FlightId} {flight : Flight}
    (found : after.board.flight? id = some flight) : id < after.board.nextFlight := by
  -- The flight is the new one or was known before.
  rw [opens.flight] at found
  rw [opens.next]
  split at found
  · rename_i own
    rw [own]
    exact Nat.lt_succ_self _
  · exact Nat.lt_succ_of_lt (orderly.known found)

/-- Nobody waits for the new flight, which was not known before. -/
theorem tally (orderly : before.Orderly) {id : FlightId} {flight : Flight}
    (found : after.board.flight? id = some flight) : flight.followers = after.waiting id := by
  -- The flight is the new one or was known before.
  rw [opens.waiting]
  rw [opens.flight] at found
  split at found
  · rename_i own
    rw [own, orderly.waiting_of_unknown orderly.flight?_next, ← Option.some.inj found]
  · exact orderly.tally found

/-- A new flight keeps the order. -/
theorem orderly (orderly : before.Orderly) : after.Orderly where
  -- The key of the new flight was not found in memory, which is why it was opened.
  slot := opens.slot orderly
  absent := by
    intro key id found
    rw [opens.held]
    rw [opens.leader] at found
    split at found
    · rename_i own
      rw [own]
      exact opens.absent
    · exact orderly.absent found
  sole := opens.sole orderly
  pending := opens.pending orderly
  awaited := opens.awaited orderly
  known := opens.known orderly
  tally := opens.tally orderly

end Opens

/-- A request that joins a flight keeps the order. -/
theorem Orderly.of_join (orderly : before.Orderly) {id : FlightId}
    (here : before.threads[thread]? = some (job, .arriving))
    (threads : after.threads = before.threads.set thread (job, .following id))
    (underway : before.board.leader? job.key = some id)
    (board : after.board = (before.board.withShelf (before.board.shelf.touch job.key).2).setFlight id
      { (before.board.flight? id).getD {} with
        followers := ((before.board.flight? id).getD {}).followers + 1 }) :
    after.Orderly := by
  -- The flight in the table is known, not published, and led by a request for the same key.
  obtain ⟨leader, one, slot, own⟩ := orderly.slot.mp underway
  have owes := slot.debt
  obtain ⟨known, found, silent⟩ := orderly.pending owes
  -- A request that joins owes no flight, before and after.
  have debt : ∀ {other two id'}, after.Has Phase.debt? other two id' ↔
      before.Has Phase.debt? other two id' := has_of_unchanged here threads rfl
  have flight : ∀ id', after.board.flight? id' =
      if id' = id then some { known with followers := known.followers + 1 }
      else before.board.flight? id' := by
    intro id'
    rw [board, found]
    exact Board.flight?_setFlight _ _ _ _
  have joined := (flight id).trans (if_pos rfl)
  have table : after.board.inFlight = before.board.inFlight := by rw [board]; rfl
  have entries : ∀ key, before.board.shelf.held? key = none →
      after.board.shelf.held? key = none := by
    intro key absent
    rw [board]
    exact (Shelf.held?_touch _ _ _).trans absent
  refine orderly.of_flight found (fun other apart => (flight other).trans (if_neg apart))
    (by rw [board]; rfl) (fun _ => debt) ?wait ?waiting
    (orderly.slot_kept (has_of_unchanged here threads rfl) table)
    (orderly.absent_kept table entries) (orderly.sole_kept debt.mp) ?pending ?awaited ?tally
  case wait =>
    intro other two id' apart waits
    have waits := (has_of_stepped here threads).mp waits
    split at waits
    · exact absurd (Option.some.inj waits.2).symm apart
    · exact waits
  case waiting =>
    intro id' apart
    have counted := waiting_of_stepped here threads id'
    simpa [Phase.wait?, Ne.symm apart] using counted
  case pending =>
    -- The flight that is joined goes on without an outcome.
    exact fun _ => ⟨_, joined, silent⟩
  case awaited =>
    intro other two waits
    have waits := (has_of_stepped here threads).mp waits
    refine ⟨_, joined, fun _ => ?_⟩
    simp only [debt]
    split at waits
    · -- The new one waits for the flight whose leader was just found.
      exact ⟨leader, one, owes, own.trans (by rw [waits.1])⟩
    · obtain ⟨old, found', led⟩ := orderly.awaited waits
      rw [found] at found'
      exact led (by rw [← Option.some.inj found']; exact silent)
  case tally =>
    intro old found'
    -- The flight that is joined counts one more, and that is the new one.
    have counted := waiting_of_stepped here threads id
    simp only [Phase.wait?, reduceCtorEq, if_false, if_true, Nat.add_zero] at counted
    rw [joined] at found'
    rw [← Option.some.inj found', counted, ← orderly.tally found]

/-- A leader that leaves the table keeps the order, whatever becomes of its own key in memory. -/
theorem Orderly.of_settle (orderly : before.Orderly) {id : FlightId} {made final : Answer}
    (here : before.threads[thread]? = some (job, .produced id made))
    (threads : after.threads = before.threads.set thread (job, .settled id final))
    (table : ∀ key, after.board.leader? key =
      if key = job.key then none else before.board.leader? key)
    (flights : after.board.flights = before.board.flights)
    (next : after.board.nextFlight = before.board.nextFlight)
    (entries : ∀ key, key ≠ job.key → before.board.shelf.held? key = none →
      after.board.shelf.held? key = none) : after.Orderly := by
  have slot : before.Has Phase.slot? thread job id := (has_iff_of_here here).mpr ⟨rfl, rfl⟩
  -- Settling leaves the debt of the leader, and nobody begins or stops to wait.
  refine orderly.of_flights flights next (has_of_unchanged here threads rfl)
    (has_of_unchanged here threads rfl) (waiting_of_unchanged here threads rfl) ?slot ?absent
  case slot =>
    intro key id'
    rw [table]
    -- Only the key of this leader goes from the table, and only its slot.
    constructor
    · split
      · simp
      · rename_i apart
        intro found
        obtain ⟨other, one, has, own⟩ := orderly.slot.mp found
        have away : other ≠ thread := by
          rintro rfl
          exact apart (own ▸ congrArg Job.key ((has_iff_of_here here).mp has).1)
        exact ⟨other, one, (has_of_stepped here threads).mpr (by simpa [away] using has), own⟩
    · rintro ⟨other, one, has, own⟩
      have has := (has_of_stepped here threads).mp has
      split at has
      · simp [Phase.slot?] at has
      · rename_i away
        have found := orderly.slot.mpr ⟨other, one, has, own⟩
        rw [if_neg ?_]
        · exact found
        · -- A key has one leader in the table.
          intro same
          exact away (orderly.sole_of_key has slot (own.trans same))
  case absent =>
    intro key id' found
    rw [table] at found
    -- The key in memory, if it is there now, is no longer in the table.
    split at found
    · simp at found
    · rename_i apart
      exact entries key apart (orderly.absent found)

/-- A leader that publishes keeps the order. -/
theorem Orderly.of_publish (orderly : before.Orderly) {id : FlightId} {answer : Answer}
    (here : before.threads[thread]? = some (job, .settled id answer))
    (threads : after.threads = before.threads.set thread (job, .answered answer))
    (table : after.board.inFlight = before.board.inFlight)
    (next : after.board.nextFlight = before.board.nextFlight)
    (entries : after.board.shelf = before.board.shelf)
    (others : ∀ other, other ≠ id → after.board.flight? other = before.board.flight? other)
    (own : after.board.flight? id = none ∧ before.waiting id = 0 ∨
      ∃ outcome, after.board.flight? id = some ⟨before.waiting id, some outcome⟩) :
    after.Orderly := by
  have owes : before.Has Phase.debt? thread job id := (has_iff_of_here here).mpr ⟨rfl, rfl⟩
  -- Whoever owes a flight after the step owed it before, and it is not the one just published.
  have debt : ∀ {other two id'}, after.Has Phase.debt? other two id' →
      before.Has Phase.debt? other two id' ∧ id' ≠ id := by
    intro other two id' has
    have has := (has_of_stepped here threads).mp has
    split at has
    · simp [Phase.debt?] at has
    · rename_i away
      exact ⟨has, fun same => away (orderly.sole (same ▸ has) owes)⟩
  have wait : ∀ {other two id'}, after.Has Phase.wait? other two id' ↔
      before.Has Phase.wait? other two id' := has_of_unchanged here threads rfl
  have waiting : ∀ id', after.waiting id' = before.waiting id' :=
    waiting_of_unchanged here threads rfl
  obtain ⟨known, found, -⟩ := orderly.pending owes
  refine orderly.of_flight found others next ?debt (fun _ => wait.mp) (fun id' _ => waiting id')
    (orderly.slot_kept (has_of_unchanged here threads rfl) table)
    (orderly.absent_kept table fun key absent => entries ▸ absent)
    (orderly.sole_kept fun has => (debt has).1) ?pending ?awaited ?tally
  case debt =>
    intro other two id' apart
    -- The other flights keep their leaders, for the thread of this step owes another one.
    refine ⟨fun has => (debt has).1, fun has => (has_of_stepped here threads).mpr ?_⟩
    rw [if_neg]
    · exact has
    · rintro rfl
      exact apart (Option.some.inj ((has_iff_of_here here).mp has).2).symm
  case pending =>
    -- Nobody owes the flight any more.
    exact fun has => absurd rfl (debt has).2
  case awaited =>
    intro other two waits
    -- A flight that is forgotten has nobody who waits for it.
    rcases own with ⟨-, nobody⟩ | ⟨outcome, told⟩
    · have somebody := waiting_pos_iff.mpr ⟨other, two, wait.mp waits⟩
      omega
    · exact ⟨_, told, fun silent => by simp at silent⟩
  case tally =>
    intro old found'
    rw [waiting]
    -- The published flight counts those who wait, as it did before.
    rcases own with ⟨gone, -⟩ | ⟨outcome, told⟩
    · rw [gone] at found'
      simp at found'
    · rw [told, Option.some.injEq] at found'
      rw [← found']

/-- A request that hears an outcome keeps the order. -/
theorem Orderly.of_hear (orderly : before.Orderly) {id : FlightId} {followers : Nat}
    {outcome : Except Failure Shared}
    (here : before.threads[thread]? = some (job, .following id))
    (threads : after.threads = before.threads.set thread (job, .answered (.returned outcome)))
    (told : before.board.flight? id = some ⟨followers, some outcome⟩)
    (table : after.board.inFlight = before.board.inFlight)
    (next : after.board.nextFlight = before.board.nextFlight)
    (entries : after.board.shelf = before.board.shelf)
    (others : ∀ other, other ≠ id → after.board.flight? other = before.board.flight? other)
    (own : after.board.flight? id = none ∧ followers ≤ 1 ∨
      after.board.flight? id = some ⟨followers - 1, some outcome⟩) :
    after.Orderly := by
  have debt : ∀ {other two id'}, after.Has Phase.debt? other two id' ↔
      before.Has Phase.debt? other two id' := has_of_unchanged here threads rfl
  -- One request less waits for the flight, and it counted all of them.
  have one_less : after.waiting id + 1 = before.waiting id := by
    have counted := waiting_of_stepped here threads id
    simpa [Phase.wait?] using counted
  have tally : followers = before.waiting id := orderly.tally told
  refine orderly.of_flight told others next (fun _ => debt) ?wait ?waiting
    (orderly.slot_kept (has_of_unchanged here threads rfl) table)
    (orderly.absent_kept table fun key absent => entries ▸ absent) (orderly.sole_kept debt.mp)
    ?pending ?awaited ?tally
  case wait =>
    intro other two id' apart waits
    have waits := (has_of_stepped here threads).mp waits
    split at waits
    · simp [Phase.wait?] at waits
    · exact waits
  case waiting =>
    intro id' apart
    have counted := waiting_of_stepped here threads id'
    simpa [Phase.wait?, Ne.symm apart] using counted
  case pending =>
    intro other two has
    -- A flight with a leader has no outcome, and so it is not the one that is heard.
    obtain ⟨old, found, silent⟩ := orderly.pending (debt.mp has)
    rw [told, Option.some.injEq] at found
    rw [← found] at silent
    simp at silent
  case awaited =>
    intro other two waits
    -- Somebody who still waits is one of those whom the flight counts.
    rcases own with ⟨-, last⟩ | left
    · have somebody := waiting_pos_iff.mpr ⟨other, two, waits⟩
      omega
    · exact ⟨_, left, fun silent => by simp at silent⟩
  case tally =>
    intro old found
    -- With one request less the flight counts one less.
    rcases own with ⟨gone, -⟩ | left
    · rw [gone] at found
      simp at found
    · rw [left, Option.some.injEq] at found
      rw [← found]
      show followers - 1 = _
      omega

end Steps

/-- What a settling leader leaves on the board: its key is out of the table, the flights are what
they were, and no key but its own comes into memory. -/
theorem settles_board {job : Job} {board after : Board} {made final : Answer}
    {told : Except Failure Shared} (settles : board.Settles job made final told after) :
    (∀ key, after.leader? key = if key = job.key then none else board.leader? key) ∧
      after.flights = board.flights ∧ after.nextFlight = board.nextFlight ∧
      ∀ key, key ≠ job.key → board.shelf.held? key = none → after.shelf.held? key = none := by
  -- Leaving the table is common to the four endings, and one of them puts a module in memory.
  cases settles with
  | stored fits =>
    exact ⟨Board.leader?_leave board job.key, rfl, rfl, fun key apart absent =>
      Board.held?_keep_of_ne apart absent⟩
  | refused bounded large =>
    exact ⟨Board.leader?_leave board job.key, rfl, rfl, fun key _ absent => absent⟩
  | failed => exact ⟨Board.leader?_leave board job.key, rfl, rfl, fun key _ absent => absent⟩
  | panicked => exact ⟨Board.leader?_leave board job.key, rfl, rfl, fun key _ absent => absent⟩

/-- Every step of a request keeps the order. -/
theorem Orderly.step {before after : Crowd} (orderly : before.Orderly) {thread : Nat} {job : Job}
    {phase next : Phase} (here : before.threads[thread]? = some (job, phase))
    (threads : after.threads = before.threads.set thread (job, next))
    (step : Board.Step job phase before.board next after.board) : after.Orderly := by
  -- Seven kinds of steps give or take no part; the others begin, join, leave or end a flight.
  generalize board : after.board = board at step
  generalize board' : before.board = board' at step
  cases step with
  | hit found =>
    subst board'
    refine orderly.of_alike (.of_stepped here threads rfl rfl rfl) (by rw [board]; rfl)
      (by rw [board]; rfl) (by rw [board]; rfl) fun key absent => ?_
    rw [board]
    exact (Shelf.held?_touch _ _ _).trans absent
  | join absent underway =>
    subst board'
    exact orderly.of_join here threads underway board
  | lead absent free =>
    subst board'
    exact (Opens.of_lead here threads absent free board).orderly orderly
  | load | call | comeBack makes | wait silent | rest =>
    subst board'
    exact orderly.of_alike (.of_stepped here threads rfl rfl rfl) (by rw [board]) (by rw [board])
      (by rw [board]) fun key absent => by rw [board]; exact absent
  | settle settles =>
    subst board' board
    obtain ⟨table, flights, next, entries⟩ := settles_board settles
    exact orderly.of_settle here threads table flights next entries
  | @close _ id answer alone =>
    subst board'
    -- The flight is known and counts those who wait.
    obtain ⟨flight, found, -⟩ := orderly.pending ((has_iff_of_here here).mpr ⟨rfl, rfl⟩)
    rw [found] at alone
    refine orderly.of_publish here threads (by rw [board]; rfl) (by rw [board]; rfl)
      (by rw [board]; rfl) (fun other apart => ?_) (.inl ⟨?_, ?_⟩)
    · rw [board, Board.flight?_dropFlight, if_neg apart]
    · rw [board, Board.flight?_dropFlight, if_pos rfl]
    · rw [← orderly.tally found]
      exact alone
  | @tell _ id answer awaited =>
    subst board'
    obtain ⟨flight, found, -⟩ := orderly.pending ((has_iff_of_here here).mpr ⟨rfl, rfl⟩)
    refine orderly.of_publish here threads (by rw [board]; rfl) (by rw [board]; rfl)
      (by rw [board]; rfl) (fun other apart => ?_) (.inr ⟨Service.outcomeFor job answer, ?_⟩)
    · rw [board, Board.flight?_setFlight, if_neg apart]
    · rw [board, Board.flight?_setFlight, if_pos rfl, ← orderly.tally found, found]
      rfl
  | hear told more =>
    subst board'
    refine orderly.of_hear here threads told (by rw [board]; rfl) (by rw [board]; rfl)
      (by rw [board]; rfl) (fun other apart => ?_) (.inr ?_)
    · rw [board, Board.flight?_setFlight, if_neg apart]
    · rw [board, Board.flight?_setFlight, if_pos rfl]
  | hearLast told last =>
    subst board'
    refine orderly.of_hear here threads told (by rw [board]; rfl) (by rw [board]; rfl)
      (by rw [board]; rfl) (fun other apart => ?_) (.inl ⟨?_, last⟩)
    · rw [board, Board.flight?_dropFlight, if_neg apart]
    · rw [board, Board.flight?_dropFlight, if_pos rfl]

/-- Every move keeps the order. -/
theorem Orderly.move {crowd : Crowd} (orderly : crowd.Orderly) (move : Move) :
    (crowd.move move).Orderly := by
  -- A move is a step, a new request, or takes entries out, or does not touch the board.
  cases crowd.move_change move with
  | joined threads board =>
    exact orderly.of_alike (.of_joined threads) (by rw [board]) (by rw [board]) (by rw [board])
      fun key absent => by rw [board]; exact absent
  | stepped here threads step => exact orderly.step here threads step
  | flushed threads board =>
    exact orderly.of_alike (.of_threads threads) (by rw [board]; rfl) (by rw [board]; rfl)
      (by rw [board]; rfl) fun key _ => by rw [board]; exact Shelf.held?_clear _ _
  | forgotten threads board =>
    refine orderly.of_alike (.of_threads threads) (by rw [board]; rfl) (by rw [board]; rfl)
      (by rw [board]; rfl) fun key absent => ?_
    rw [board]
    refine (Shelf.held?_remove _ _ _).trans ?_
    rw [absent, ite_self]
  | recast threads board =>
    exact orderly.of_alike (.of_threads threads) (by rw [board]) (by rw [board]) (by rw [board])
      fun key absent => by rw [board]; exact absent
  | untouched threads board =>
    exact orderly.of_alike (.of_threads threads) (by rw [board]) (by rw [board]) (by rw [board])
      fun key absent => by rw [board]; exact absent

/-- Moves one after the other. -/
theorem run_append (crowd : Crowd) (first second : List Move) :
    crowd.run (first ++ second) = (crowd.run first).run second :=
  List.foldl_append

/-- A run of one move. -/
theorem run_single (crowd : Crowd) (move : Move) : crowd.run [move] = crowd.move move :=
  rfl

/-- Every run keeps the order. -/
theorem Orderly.run {crowd : Crowd} (orderly : crowd.Orderly) (moves : List Move) :
    (crowd.run moves).Orderly := by
  -- One move after the other.
  induction moves generalizing crowd with
  | nil => exact orderly
  | cons move moves ih => exact ih (orderly.move move)

end Crowd

/-- No request is under way: the table is empty and no flight is waited for. -/
structure Service.Idle (service : Service) : Prop where
  table : service.cache.inFlight = []
  flights : service.flights = []

/-- A cache that has just been made: nothing is in memory, and no request is under way. -/
structure Service.New (service : Service) : Prop extends service.Idle where
  memory : service.cache.shelf = {}

/-- A new cache is idle. -/
theorem Service.idle_ofCompiler (compiler : Compiler) : (Service.ofCompiler compiler).Idle :=
  ⟨rfl, rfl⟩

/-- A service without requests is in order. -/
theorem Service.Idle.orderly {service : Service} (idle : service.Idle) :
    (Crowd.mk service []).Orderly := by
  -- There are no threads and no flights.
  have nobody : ∀ {part : Phase → Option FlightId} {thread job id},
      ¬ (Crowd.mk service []).Has part thread job id := by
    rintro part thread job id ⟨phase, here, -⟩
    simp at here
  have noFlight : ∀ {id flight}, (Crowd.mk service []).board.flight? id ≠ some flight := by
    intro id flight
    simp [Crowd.board, Service.board, Board.flight?, idle.flights]
  have noLeader : ∀ {key id}, (Crowd.mk service []).board.leader? key ≠ some id := by
    intro key id
    simp [Crowd.board, Service.board, Board.leader?, idle.table]
  -- All parts speak of flights or of those who have a part in one.
  constructor
  case slot =>
    intro key id
    constructor
    · intro found
      exact absurd found noLeader
    · rintro ⟨thread, job, has, -⟩
      exact absurd has nobody
  case absent => exact fun found => absurd found noLeader
  case sole => exact fun has => absurd has nobody
  case pending => exact fun has => absurd has nobody
  case awaited => exact fun has => absurd has nobody
  case known => exact fun found => absurd found noFlight
  case tally => exact fun found => absurd found noFlight

end ShaderBuild
