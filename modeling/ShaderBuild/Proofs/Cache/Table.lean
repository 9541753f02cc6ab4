import ShaderBuild.Proofs.Cache.InFlight

/-! The invariant of the table of flights holds after every run of requests. -/

namespace ShaderBuild

namespace Board

variable {job : Job} {phase next : Phase} {board after : Board}

/-- A step makes a request owe a flight only if it owed it before or the flight is new. -/
theorem Step.debt {id : FlightId} (step : board.Step job phase next after)
    (owes : next.debt? = some id) : phase.debt? = some id ∨ id = board.nextFlight := by
  -- Only a request that leads a new flight owes more than before.
  cases step <;> simp_all [Phase.debt?]

/-- A request that publishes owes nothing any more. -/
theorem Step.debt_of_settled {id : FlightId} {answer : Answer}
    (step : board.Step job (.settled id answer) next after) : next.debt? = none := by
  -- After publishing a request is answered, and only leaders owe something.
  cases step <;> rfl

/-- The names of flights go up. -/
theorem Step.nextFlight_le (step : board.Step job phase next after) :
    board.nextFlight ≤ after.nextFlight := by
  -- Only a new flight takes a name.
  cases step with
  | lead absent free => exact Nat.le_succ _
  | settle settles => exact Nat.le_of_eq (Crowd.settles_board settles).2.2.1.symm
  | _ => exact Nat.le_refl _

/-- A key keeps its flight in the table until a request for that key settles. -/
theorem Step.leader {key : Fingerprint} {id : FlightId} (step : board.Step job phase next after)
    (found : board.leader? key = some id) :
    after.leader? key = some id ∨
      job.key = key ∧ ∃ own made, phase = .produced own made := by
  cases step with
  | lead absent free =>
    -- A new flight is for a key that has none.
    refine Or.inl ?_
    rw [leader?_open_, if_neg]
    · exact found
    · rintro rfl
      rw [free] at found
      simp at found
  | settle settles =>
    rw [(Crowd.settles_board settles).1]
    by_cases own : key = job.key
    · exact Or.inr ⟨own.symm, _, _, rfl⟩
    · rw [if_neg own]
      exact Or.inl found
  | _ => exact Or.inl found

end Board

namespace Crowd

/-- The flight is older than the next one, and its leader has published. -/
def Retired (crowd : Crowd) (id : FlightId) : Prop :=
  id < crowd.board.nextFlight ∧ ∀ thread job, ¬ crowd.Has Phase.debt? thread job id

/-- A flight that is retired stays so. -/
theorem Retired.move {crowd : Crowd} {id : FlightId} (retired : crowd.Retired id) (move : Move) :
    (crowd.move move).Retired id := by
  obtain ⟨old, free⟩ := retired
  -- Only new flights are led by requests that led none.
  cases crowd.move_change move with
  | joined threads board =>
    rw [Retired, board]
    exact ⟨old, fun thread one has => free thread one ((has_of_joined threads rfl).mp has)⟩
  | stepped here threads step =>
    refine ⟨Nat.lt_of_lt_of_le old step.nextFlight_le, fun thread one has => ?_⟩
    have has := (has_of_stepped here threads).mp has
    split at has
    -- The thread of the step may begin to owe a flight, but that one is new.
    · rcases step.debt has.2 with owed | new
      · exact free _ _ ((has_iff_of_here here).mpr ⟨rfl, owed⟩)
      · exact Nat.ne_of_lt old new
    · exact free thread one has
  | flushed threads board | forgotten threads board | recast threads board
  | untouched threads board =>
    refine ⟨by rw [board]; exact old, fun thread one has => free thread one ?_⟩
    exact (Alike.of_threads threads).debt.mp has

/-- A flight that is retired stays so through a whole run. -/
theorem Retired.run {crowd : Crowd} {id : FlightId} (retired : crowd.Retired id)
    (moves : List Move) : (crowd.run moves).Retired id := by
  -- One move after the other.
  induction moves generalizing crowd with
  | nil => exact retired
  | cons move moves ih => exact ih (retired.move move)

/-- The thread's next step publishes the flight. -/
def Publishes (crowd : Crowd) (thread : Nat) (id : FlightId) : Prop :=
  ∃ job answer, crowd.threads[thread]? = some (job, .settled id answer)

/-- A flight is retired once its leader has published. -/
theorem Orderly.retired {crowd : Crowd} (orderly : crowd.Orderly) {thread : Nat} {id : FlightId}
    (publishes : crowd.Publishes thread id) : (crowd.move (.advance thread)).Retired id := by
  obtain ⟨job, answer, here⟩ := publishes
  have owes : crowd.Has Phase.debt? thread job id := (has_iff_of_here here).mpr ⟨rfl, rfl⟩
  obtain ⟨next, threads, step⟩ := move_advance here
  refine ⟨Nat.lt_of_lt_of_le (orderly.debt_lt owes) step.nextFlight_le, fun other one has => ?_⟩
  have has := (has_of_stepped here threads).mp has
  -- Whoever still owed the flight would be the leader, who has just published.
  split at has
  · rw [step.debt_of_settled] at has
    simp at has
  · rename_i away
    exact away (orderly.sole has owes)

/-- What holds of the table of flights between any two steps of any requests. -/
structure TableInvariant (crowd : Crowd) : Prop where
  /-- No key is in memory and in the table at once. -/
  apart : ∀ key, ¬ (crowd.service.cache.shelf.contains key = true ∧
    (crowd.service.cache.inFlight.lookup key).isSome = true)
  /-- The table has a flight for a key exactly when a request for the key leads that flight and has
  not settled. -/
  exact : ∀ key id, crowd.service.cache.inFlight.lookup key = some id ↔
    ∃ thread job, crowd.Has Phase.slot? thread job id ∧ job.key = key
  /-- Two such requests for one key are the same one. -/
  single : ∀ {first second one two id other}, crowd.Has Phase.slot? first one id →
    crowd.Has Phase.slot? second two other → one.key = two.key → first = second
  /-- A flight goes from the table only by a step of its own leader, which has what it came for. -/
  removal : ∀ move key id, crowd.service.cache.inFlight.lookup key = some id →
    (crowd.move move).service.cache.inFlight.lookup key ≠ some id →
    ∃ thread, ∃ job : Job, ∃ made, move = .advance thread ∧ job.key = key ∧
      crowd.threads[thread]? = some (job, .produced id made)
  /-- A request that waits for a flight has been told, or the flight's leader has yet to tell it. -/
  awaited : ∀ {thread : Nat} {job : Job} {id}, crowd.threads[thread]? = some (job, .following id) →
    (∃ followers outcome, crowd.service.flight? id = some ⟨followers, some outcome⟩) ∨
      (∃ followers, crowd.service.flight? id = some ⟨followers, none⟩) ∧
      ∃ leader one, crowd.Has Phase.debt? leader one id ∧ one.key = job.key
  /-- A flight that is published is never published again. -/
  once : ∀ {thread id}, crowd.Publishes thread id → ∀ moves later,
    ¬ ((crowd.move (.advance thread)).run moves).Publishes later id
  /-- A module that is put in memory does not take the place of another one. -/
  fresh : ∀ {thread : Nat} {job : Job} {id} {shared : Shared},
    crowd.threads[thread]? = some (job, .produced id (.returned (.ok shared))) →
    ((crowd.service.cache.shelf.room crowd.service.cache.memoryLimit
      shared.bytecode.byteLength).2.insert job.key shared).1 = none

/-- Order is all that the invariant of the table needs. -/
theorem Orderly.tableInvariant {crowd : Crowd} (orderly : crowd.Orderly) :
    crowd.TableInvariant where
  apart := by
    rintro key ⟨inMemory, inTable⟩
    obtain ⟨id, found⟩ := Option.isSome_iff_exists.mp inTable
    have absent : crowd.service.cache.shelf.held? key = none := orderly.absent found
    rw [Shelf.contains_eq, absent] at inMemory
    simp at inMemory
  exact := fun key id => orderly.slot
  single := orderly.sole_of_key
  removal := by
    intro move key id found gone
    have leads : crowd.board.leader? key = some id := found
    -- Only a step changes the table.
    cases crowd.move_change move with
    | stepped here threads step =>
      rcases step.leader leads with kept | ⟨rfl, own, made, rfl⟩
      · exact absurd kept gone
      · -- The leader that settles has the flight that the table holds for its key.
        have mine : crowd.board.leader? _ = some own :=
          orderly.slot.mpr ⟨_, _, (has_iff_of_here here).mpr ⟨rfl, rfl⟩, rfl⟩
        rw [leads, Option.some.injEq] at mine
        subst mine
        exact ⟨_, _, made, rfl, rfl, here⟩
    | joined threads board | flushed threads board | forgotten threads board
    | recast threads board | untouched threads board =>
      have table := congrArg (fun board : Board => board.leader? key) board
      exact absurd (table.trans leads) gone
  awaited := by
    intro thread job id here
    -- The order says who leads a flight without an outcome.
    obtain ⟨⟨followers, outcome⟩, found, led⟩ :=
      orderly.awaited ((has_iff_of_here here).mpr ⟨rfl, rfl⟩)
    cases outcome with
    | some outcome => exact Or.inl ⟨followers, outcome, found⟩
    | none => exact Or.inr ⟨⟨followers, found⟩, led rfl⟩
  once := by
    rintro thread id publishes moves later ⟨job, answer, here⟩
    -- A flight that is retired has no leader who could publish it again.
    have retired := (orderly.retired publishes).run moves
    exact retired.2 later job ((has_iff_of_here here).mpr ⟨rfl, rfl⟩)
  fresh := by
    intro thread job id shared here
    -- The leader's key is in the table, and so not in memory, before and after room is made.
    have leads : crowd.board.leader? job.key = some id :=
      orderly.slot.mpr ⟨thread, job, (has_iff_of_here here).mpr ⟨rfl, rfl⟩, rfl⟩
    have absent : crowd.service.cache.shelf.held? job.key = none := orderly.absent leads
    exact Shelf.held?_eq_none_iff.mp (Shelf.held?_room_of_none absent)

/-- The invariant of the table of flights holds after every run of any requests. -/
theorem run_tableInvariant {service : Service} (idle : service.Idle) (moves : List Move) :
    ((Crowd.mk service []).run moves).TableInvariant := by
  -- The run keeps the order that a service without requests is in.
  have orderly := idle.orderly.run moves
  exact orderly.tableInvariant

/-- Two requests for the same module and a flush between the compile and the insertion. -/
theorem run_tableInvariant_of_flush :
    (Service.ofCompiler .curt).Idle ∧ ((Crowd.mk (Service.ofCompiler .curt) []).run
      [.join ⟨"a.vert", "void main() {}"⟩, .join ⟨"a.vert", "void main() {}"⟩, .advance 0,
        .advance 1, .advance 0, .advance 0, .flush, .advance 0, .advance 0,
        .advance 1]).TableInvariant :=
  ⟨Service.idle_ofCompiler .curt, run_tableInvariant (Service.idle_ofCompiler .curt) _⟩

end Crowd

end ShaderBuild
