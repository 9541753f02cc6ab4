import ShaderBuild.Proofs.Cache.Agreement
import ShaderBuild.Proofs.Cache.Serving

/-! What is found after an invalidation was put there since. -/

namespace ShaderBuild

namespace Crowd

/-- Something happens at a move of a run. -/
def Occurs (event : Crowd → Move → Prop) (start : Crowd) (moves : List Move) : Prop :=
  ∃ earlier move later, moves = earlier ++ move :: later ∧ event (start.run earlier) move

section Occurs

variable {event : Crowd → Move → Prop} {start : Crowd} {move : Move} {moves : List Move}

/-- Nothing happens without moves. -/
theorem not_occurs_nil : ¬ Occurs event start [] := by
  -- There is no move at which it could happen.
  rintro ⟨earlier, move, later, same, -⟩
  simp at same

/-- What happens in a run happens at its first move or after it. -/
theorem occurs_cons_iff :
    Occurs event start (move :: moves) ↔
      event start move ∨ Occurs event (start.move move) moves := by
  -- What comes before the move is empty, or it begins with the first move.
  constructor
  · rintro ⟨earlier, one, later, whole, happens⟩
    cases earlier with
    | nil =>
      obtain ⟨rfl, rfl⟩ := List.cons.inj whole
      exact Or.inl happens
    | cons first earlier =>
      obtain ⟨rfl, rfl⟩ := List.cons.inj whole
      exact Or.inr ⟨earlier, one, later, rfl, happens⟩
  · rintro (happens | ⟨earlier, one, later, rfl, happens⟩)
    · exact ⟨[], move, moves, rfl, happens⟩
    · exact ⟨move :: earlier, one, later, rfl, happens⟩

/-- What happens in the first part of a run happens in the run. -/
theorem Occurs.append (occurs : Occurs event start moves) (rest : List Move) :
    Occurs event start (moves ++ rest) := by
  -- What comes after the move is longer.
  obtain ⟨earlier, one, later, rfl, happens⟩ := occurs
  exact ⟨earlier, one, later ++ rest, by simp, happens⟩

/-- What every move keeps unless something happens is kept by a run, unless that happens in it. -/
theorem occurs_or_kept {kept : Crowd → Prop}
    (step : ∀ crowd move, kept crowd → event crowd move ∨ kept (crowd.move move))
    (begins : kept start) (moves : List Move) :
    Occurs event start moves ∨ kept (start.run moves) := by
  -- One move after the other.
  induction moves generalizing start with
  | nil => exact Or.inr begins
  | cons move moves ih =>
    rw [occurs_cons_iff]
    rcases step start move begins with happens | left
    · exact Or.inl (Or.inl happens)
    · exact (ih left).imp_left Or.inr

end Occurs

/-- A thread takes its first step, in which it looks for its key. -/
def Looks (thread : Nat) (job : Job) (crowd : Crowd) (move : Move) : Prop :=
  move = .advance thread ∧ crowd.threads[thread]? = some (job, .arriving)

/-- A leader puts its module in memory. -/
structure Stores (thread : Nat) (job : Job) (id : FlightId) (shared : Shared) (crowd : Crowd)
    (move : Move) : Prop where
  step : move = .advance thread
  here : crowd.threads[thread]? = some (job, .produced id (.returned (.ok shared)))
  held : (crowd.move move).board.shelf.held? job.key = some shared

/-- The compiler comes back to a request for the key. -/
def ComesBack (key : Fingerprint) (crowd : Crowd) (move : Move) : Prop :=
  ∃ thread job id, move = .advance thread ∧
    crowd.threads[thread]? = some (job, .compiling id) ∧ job.key = key

section Moves

variable {crowd : Crowd} {move : Move} {key : Fingerprint} {thread : Nat} {job : Job}

/-- A module that comes into memory with a move is put there by a leader. -/
theorem held_move {shared : Shared} (held : (crowd.move move).board.shelf.held? key = some shared) :
    crowd.board.shelf.held? key = some shared ∨
      ∃ thread job id, job.key = key ∧ Stores thread job id shared crowd move := by
  -- Only a step of a request brings something into memory.
  cases crowd.move_change move with
  | joined threads board | recast threads board | untouched threads board =>
    rw [board] at held
    exact Or.inl held
  | flushed threads board =>
    rw [board] at held
    exact absurd (held.symm.trans (Shelf.held?_clear _ _)) (by simp)
  | forgotten threads board =>
    rw [board] at held
    have left := (Shelf.held?_remove _ _ _).symm.trans held
    split at left
    · simp at left
    · exact Or.inl left
  | stepped here threads step =>
    rcases step.held held with old | ⟨rfl, id, rfl⟩
    · exact Or.inl old
    · exact Or.inr ⟨_, _, id, rfl, rfl, here, held⟩

/-- A request that leads a flight after a move led it before, or has looked for its key. -/
theorem slot_move {id : FlightId} (slot : (crowd.move move).Has Phase.slot? thread job id) :
    crowd.Has Phase.slot? thread job id ∨ Looks thread job crowd move := by
  cases crowd.move_change move with
  | joined threads board => exact Or.inl ((has_of_joined threads rfl).mp slot)
  | flushed threads board | forgotten threads board | recast threads board
  | untouched threads board => exact Or.inl ((Alike.of_threads threads).slot.mp slot)
  | @stepped mover one phase next _ here threads step =>
    have has := (has_of_stepped here threads).mp slot
    split at has
    · -- Only a look makes a request a leader.
      rename_i own
      subst own
      obtain ⟨rfl, has⟩ := has
      have before : phase.slot? = some id → crowd.Has Phase.slot? thread job id :=
        fun same => (has_iff_of_here here).mpr ⟨rfl, same⟩
      generalize (crowd.move (.advance thread)).board = after at step
      cases step with
      | lead absent free => exact Or.inr ⟨rfl, here⟩
      | load | call | comeBack makes => exact Or.inl (before has)
      | _ => simp [Phase.slot?] at has
    · exact Or.inl has

/-- No move changes the directory. -/
theorem diskDirectory_move (crowd : Crowd) (move : Move) :
    (crowd.move move).service.cache.diskDirectory = crowd.service.cache.diskDirectory := by
  have same : (crowd.move move).board.setting.diskDirectory =
      crowd.board.setting.diskDirectory := by
    -- Every kind of move but a step is told by an equation of boards.
    cases crowd.move_change move with
    | stepped here threads step => rw [step.setting]
    | joined threads board | flushed threads board | forgotten threads board
    | recast threads board | untouched threads board =>
      have directory := congrArg (fun board : Board => board.setting.diskDirectory) board
      exact directory
  exact same

/-- A move brings no file of the key, unless the compiler comes back or other programs change files.
-/
theorem file_move {directory : Path} {bytes : List UInt8}
    (quiet : ¬ ComesBack key crowd move) (alone : ∀ files, move ≠ .disturb files)
    (found : (crowd.move move).service.disk.files.get? (directory.keyPlace key) =
      some (.file bytes)) :
    crowd.service.disk.files.get? (directory.keyPlace key) = some (.file bytes) := by
  cases move with
  | join request | recast compile => exact found
  | flush =>
    have same : crowd.service.flush.disk = crowd.service.disk :=
      Service.disk_releaseEntries _ _
    rwa [← same]
  | forget other =>
    rwa [← crowd.service.disk_removeEntry other]
  | unlink other => exact crowd.service.addsNoFile_removeFile other _ _ found
  | disturb files => exact absurd rfl (alone files)
  | advance thread =>
    cases here : crowd.threads[thread]? with
    | none =>
      have same : crowd.move (.advance thread) = crowd := by simp [Crowd.move, here]
      rwa [same] at found
    | some pair =>
      obtain ⟨job, phase⟩ := pair
      have same : (crowd.move (.advance thread)).service =
          (crowd.service.advance job phase).1 := by simp [Crowd.move, here]
      rw [same] at found
      rcases Service.file_of_advance found with old | ⟨own, ⟨id, rfl⟩, -⟩
      · exact old
      -- The file of the key is written only when the compiler is back.
      · exact absurd ⟨thread, job, id, rfl, here, own.symm⟩ quiet

end Moves

/-- There is nothing of a key, neither in memory nor on the disk, and no request for it has made
anything that it could put there. -/
structure Emptied (crowd : Crowd) (key : Fingerprint) : Prop where
  orderly : crowd.Orderly
  memory : crowd.board.shelf.held? key = none
  file : ∀ directory bytes, crowd.service.cache.diskDirectory = some directory →
    crowd.service.disk.files.get? (directory.keyPlace key) ≠ some (.file bytes)
  unmade : ∀ (thread : Nat) (job : Job) (id : FlightId) (made : Answer),
    crowd.threads[thread]? = some (job, .produced id made) → job.key ≠ key

/-- A thread that makes a request for the key has not been answered: it has yet to look, it leads a
flight, or it follows the one that is in the table. -/
def Unanswered (crowd : Crowd) (key : Fingerprint) (thread : Nat) : Prop :=
  ∀ job phase, crowd.threads[thread]? = some (job, phase) → job.key = key →
    phase = .arriving ∨
      ∃ id, phase.slot? = some id ∨ phase = .following id ∧ crowd.board.leader? key = some id

section Emptied

variable {crowd : Crowd} {key : Fingerprint} {thread : Nat}

/-- A leader of a key that is emptied finds nothing on the disk. -/
theorem Emptied.not_load (emptied : crowd.Emptied key) {job : Job} (own : job.key = key)
    {id : FlightId} {shared : Shared} :
    (crowd.service.lead job id).2 ≠ .produced id (.returned (.ok shared)) := by
  -- What was loaded would stand in the file.
  intro leads
  obtain ⟨directory, bytes, used, stands, -⟩ :=
    Service.file_of_loadFromDisk (Service.loadFromDisk_of_lead leads)
  exact emptied.file directory bytes used (own ▸ stands)

/-- A thread has just arrived, is where it was, or has taken a step. -/
theorem here_before {move : Move} {job : Job} {phase : Phase}
    (here : (crowd.move move).threads[thread]? = some (job, phase)) :
    phase = .arriving ∨ ∃ old, crowd.threads[thread]? = some (job, old) ∧
      (old = phase ∨ move = .advance thread ∧ (crowd.service.advance job old).2 = phase) := by
  cases before : crowd.threads[thread]? with
  | some pair =>
    obtain ⟨one, old⟩ := pair
    by_cases own : move = .advance thread
    · subst own
      have bound := (List.getElem?_eq_some_iff.mp before).1
      simp only [Crowd.move, before, List.getElem?_set_self bound, Option.some.injEq,
        Prod.mk.injEq] at here
      obtain ⟨rfl, stepped⟩ := here
      exact Or.inr ⟨old, rfl, Or.inr ⟨rfl, stepped⟩⟩
    · rw [stays before own, Option.some.injEq, Prod.mk.injEq] at here
      obtain ⟨rfl, rfl⟩ := here
      exact Or.inr ⟨old, rfl, Or.inl rfl⟩
  | none =>
    -- Only a new thread is there afterwards.
    refine Or.inl ?_
    cases crowd.move_change move with
    | joined threads board =>
      have late := List.getElem?_eq_none_iff.mp before
      rw [threads, List.getElem?_append_right late] at here
      have new := List.mem_of_getElem? here
      simp only [List.mem_singleton, Prod.mk.injEq] at new
      exact new.2
    | @stepped mover _ _ _ _ there threads step =>
      have apart : mover ≠ thread := by
        rintro rfl
        rw [before] at there
        simp at there
      rw [threads, List.getElem?_set_ne apart, before] at here
      simp at here
    | flushed threads board | forgotten threads board | recast threads board
    | untouched threads board =>
      rw [threads, before] at here
      simp at here

/-- Until the compiler comes back, no request for a key that is emptied makes anything. -/
theorem Emptied.unmade_move (emptied : crowd.Emptied key) {move : Move}
    (quiet : ¬ ComesBack key crowd move) {job : Job} {id : FlightId} {made : Answer}
    (here : (crowd.move move).threads[thread]? = some (job, .produced id made)) :
    job.key ≠ key := by
  -- The module would have been found on the disk or brought back by the compiler.
  intro own
  rcases here_before here with new | ⟨old, before, rfl | ⟨rfl, stepped⟩⟩
  · simp at new
  · exact emptied.unmade _ _ _ _ before own
  · have step := crowd.service.advance_step job old
    rw [stepped] at step
    generalize (crowd.service.advance job old).1.board = after at step
    cases step with
    | load => exact emptied.not_load own stepped
    | comeBack makes => exact quiet ⟨thread, job, _, rfl, before, own⟩

/-- A key that is emptied stays so until the compiler comes back. -/
theorem Emptied.move (emptied : crowd.Emptied key) {move : Move}
    (quiet : ¬ ComesBack key crowd move) (alone : ∀ files, move ≠ .disturb files) :
    (crowd.move move).Emptied key where
  -- Nobody has a module to put in memory, and no file comes.
  orderly := emptied.orderly.move move
  memory := by
    cases held : (crowd.move move).board.shelf.held? key with
    | none => rfl
    | some shared =>
      rcases held_move held with old | ⟨thread, job, id, own, stores⟩
      · exact absurd (emptied.memory.symm.trans old) (by simp)
      · exact absurd own (emptied.unmade _ _ _ _ stores.here)
  file := by
    intro directory bytes used found
    rw [diskDirectory_move] at used
    exact emptied.file directory bytes used (file_move quiet alone found)
  unmade := fun _ _ _ _ here => emptied.unmade_move quiet here

/-- A flight of a key that is emptied stays in the table. -/
theorem Emptied.leader_move (emptied : crowd.Emptied key) {id : FlightId}
    (found : crowd.board.leader? key = some id) (move : Move) :
    (crowd.move move).board.leader? key = some id := by
  cases crowd.move_change move with
  | stepped here threads step =>
    -- Only a leader that has made something takes its flight out of the table.
    rcases step.leader found with same | ⟨own, flight, made, rfl⟩
    · exact same
    · exact absurd own (emptied.unmade _ _ _ _ here)
  | joined threads board | flushed threads board | forgotten threads board
  | recast threads board | untouched threads board =>
    have table := congrArg (fun board : Board => board.leader? key) board
    exact table.trans found

/-- A flight in the table has no outcome that could be heard. -/
theorem Orderly.silent (orderly : crowd.Orderly) {id : FlightId}
    (found : crowd.board.leader? key = some id) (followers : Nat)
    (outcome : Except Failure Shared) :
    crowd.board.flight? id ≠ some ⟨followers, some outcome⟩ := by
  -- Its leader has yet to publish it.
  intro told
  obtain ⟨leader, job, slot, -⟩ := orderly.slot.mp found
  obtain ⟨flight, known, silent⟩ := orderly.pending slot.debt
  rw [told, Option.some.injEq] at known
  rw [← known] at silent
  simp at silent

/-- A thread for a key that is emptied is not answered by a move. -/
theorem Emptied.unanswered_move (emptied : crowd.Emptied key)
    (unanswered : crowd.Unanswered key thread) (move : Move) :
    (crowd.move move).Unanswered key thread := by
  intro job phase here own
  rcases here_before here with new | ⟨old, before, rfl | ⟨rfl, stepped⟩⟩
  · exact Or.inl new
  · -- Whoever stays where it is follows the same flight.
    rcases unanswered _ _ before own with new | ⟨id, slot | ⟨waits, found⟩⟩
    · exact Or.inl new
    · exact Or.inr ⟨id, Or.inl slot⟩
    · exact Or.inr ⟨id, Or.inr ⟨waits, emptied.leader_move found move⟩⟩
  · have step := crowd.service.advance_step job old
    have same : (crowd.move (.advance thread)).board = (crowd.service.advance job old).1.board := by
      simp [Crowd.board, Crowd.move, before]
    rw [same]
    rw [stepped] at step
    have absent := emptied.memory
    rcases unanswered _ _ before own with rfl | ⟨id, slot | ⟨rfl, found⟩⟩
    · -- A look finds no entry, and so it joins a flight or leads one.
      generalize (crowd.service.advance job .arriving).1.board = after at step
      cases step with
      | hit found =>
        rw [own] at found
        exact absurd (absent.symm.trans found) (by simp)
      | join _ underway => exact Or.inr ⟨_, Or.inr ⟨rfl, own ▸ underway⟩⟩
      | lead _ free => exact Or.inr ⟨_, Or.inl rfl⟩
    · -- A leader has made nothing yet, and does not settle.
      generalize (crowd.service.advance job old).1.board = after at step
      cases step with
      | load | call | comeBack makes => exact Or.inr ⟨id, Or.inl slot⟩
      | settle settles => exact absurd own (emptied.unmade _ _ _ _ before)
      | _ => simp [Phase.slot?] at slot
    · have silent := emptied.orderly.silent found
      generalize (crowd.service.advance job (.following id)).1.board = after at step
      cases step with
      | wait _ => exact Or.inr ⟨id, Or.inr ⟨rfl, found⟩⟩
      | hear told more => exact absurd told (silent _ _)
      | hearLast told last => exact absurd told (silent _ _)

end Emptied

section Runs

variable {start : Crowd} {moves : List Move} {key : Fingerprint}

/-- A request that leads a flight after a run led it before, or has looked for its key. -/
theorem slot_run {thread : Nat} {job : Job} {id : FlightId}
    (slot : (start.run moves).Has Phase.slot? thread job id) :
    start.Has Phase.slot? thread job id ∨ Occurs (Looks thread job) start moves := by
  have step : ∀ crowd move, ¬ crowd.Has Phase.slot? thread job id →
      Looks thread job crowd move ∨ ¬ (crowd.move move).Has Phase.slot? thread job id := by
    intro crowd move away
    by_cases after : (crowd.move move).Has Phase.slot? thread job id
    · exact Or.inl ((slot_move after).resolve_left away)
    · exact Or.inr after
  -- Away from the slot at the start, the thread stays away until it looks.
  by_cases before : start.Has Phase.slot? thread job id
  · exact Or.inl before
  · exact Or.inr ((occurs_or_kept step before moves).resolve_right (not_not_intro slot))

/-- A module that has come into memory was put there by a leader, which led its flight before or has
looked for its key. -/
theorem stored_of_held {shared : Shared} (absent : start.board.shelf.held? key ≠ some shared)
    (held : (start.run moves).board.shelf.held? key = some shared) :
    ∃ thread job id, job.key = key ∧ Occurs (Stores thread job id shared) start moves ∧
      (start.Has Phase.slot? thread job id ∨ Occurs (Looks thread job) start moves) := by
  -- Somewhere in the run the module comes, and only a leader brings it.
  let event : Crowd → Move → Prop := fun crowd move =>
    ∃ thread job id, job.key = key ∧ Stores thread job id shared crowd move
  have step : ∀ crowd move, crowd.board.shelf.held? key ≠ some shared →
      event crowd move ∨ (crowd.move move).board.shelf.held? key ≠ some shared := by
    intro crowd move away
    by_cases after : (crowd.move move).board.shelf.held? key = some shared
    · exact Or.inl ((held_move after).resolve_left away)
    · exact Or.inr after
  obtain ⟨earlier, move, later, rfl, thread, job, id, own, stores⟩ :=
    (occurs_or_kept step absent moves).resolve_right (not_not_intro held)
  refine ⟨thread, job, id, own, ⟨earlier, move, later, rfl, stores⟩, ?_⟩
  exact (slot_run ((has_iff_of_here stores.here).mpr ⟨rfl, rfl⟩)).imp_right fun looks =>
    looks.append _

/-- A key that is free stays so through a run, unless a request for it arrives. -/
theorem Orderly.free_or_arrives (orderly : start.Orderly) (free : start.Free key)
    (moves : List Move) :
    Occurs (Arrives · key ·) start moves ∨ (start.run moves).Orderly ∧ (start.run moves).Free key := by
  -- Move by move, unless one of them is an arrival.
  have step : ∀ (crowd : Crowd) (move : Move), crowd.Orderly ∧ crowd.Free key →
      crowd.Arrives key move ∨ (crowd.move move).Orderly ∧ (crowd.move move).Free key := by
    rintro crowd move ⟨orderly, free⟩
    by_cases arrives : crowd.Arrives key move
    · exact Or.inl arrives
    · exact Or.inr ⟨orderly.move move, orderly.free_move free arrives⟩
  exact occurs_or_kept step ⟨orderly, free⟩ moves

/-- A key that is emptied stays so through a run without other programs, and no thread for it is
answered, unless the compiler comes back. -/
theorem Emptied.run (emptied : start.Emptied key) (alone : ∀ files, .disturb files ∉ moves) :
    Occurs (ComesBack key) start moves ∨ (start.run moves).Emptied key ∧
      ∀ thread, start.Unanswered key thread → (start.run moves).Unanswered key thread := by
  -- Move by move, up to the first one by which the compiler comes back.
  induction moves generalizing start with
  | nil => exact Or.inr ⟨emptied, fun thread unanswered => unanswered⟩
  | cons move moves ih =>
    rw [occurs_cons_iff]
    by_cases back : ComesBack key start move
    · exact Or.inl (Or.inl back)
    · have own : ∀ files, move ≠ .disturb files := fun files same =>
        alone files (List.mem_cons.mpr (Or.inl same.symm))
      have rest : ∀ files, .disturb files ∉ moves := fun files among =>
        alone files (List.mem_cons_of_mem _ among)
      rcases ih (emptied.move back own) rest with occurs | ⟨emptied', kept⟩
      · exact Or.inl (Or.inr occurs)
      · exact Or.inr ⟨emptied', fun thread unanswered =>
          kept thread (emptied.unanswered_move unanswered move)⟩

end Runs

section Free

variable {crowd : Crowd} {key : Fingerprint}

/-- No request leads a flight of a key that is free. -/
theorem Orderly.not_slot_of_free (orderly : crowd.Orderly) (free : crowd.Free key) {thread : Nat}
    {job : Job} {id : FlightId} (own : job.key = key) :
    ¬ crowd.Has Phase.slot? thread job id := by
  -- A leader's flight would be in the table.
  intro slot
  have found := orderly.slot.mpr ⟨thread, job, slot, own⟩
  exact absurd (free.2.symm.trans found) (by simp)

/-- There is nothing of a key that is free when its file is gone. -/
theorem Orderly.emptied_of_free (orderly : crowd.Orderly) (free : crowd.Free key)
    (gone : ∀ directory bytes, crowd.service.cache.diskDirectory = some directory →
      crowd.service.disk.files.get? (directory.keyPlace key) ≠ some (.file bytes)) :
    crowd.Emptied key where
  -- A request that had made something would lead a flight of the key.
  orderly := orderly
  memory := free.1
  file := gone
  unmade := fun _ _ _ _ here own =>
    orderly.not_slot_of_free free own ((has_iff_of_here here).mpr ⟨rfl, rfl⟩)

/-- When a key is invalidated, its entry is gone. -/
theorem held?_forget (crowd : Crowd) (key : Fingerprint) :
    (crowd.move (.forget key)).board.shelf.held? key = none := by
  -- The move takes the key out of the memory.
  have board : (crowd.move (.forget key)).board = _ := Service.removeEntry_board _ key
  rw [board]
  exact (Shelf.held?_remove _ _ _).trans (if_pos rfl)

end Free

/-- A thread that is not there yet or has yet to look. -/
def Ahead (crowd : Crowd) (thread : Nat) : Prop :=
  ∀ job phase, crowd.threads[thread]? = some (job, phase) → phase = .arriving

/-- A thread that has yet to look is not answered. -/
theorem Ahead.unanswered {crowd : Crowd} {thread : Nat} (ahead : crowd.Ahead thread)
    (key : Fingerprint) : crowd.Unanswered key thread :=
  -- To have just arrived is one of the ways to be unanswered.
  fun job phase here _ => Or.inl (ahead job phase here)

/-- A thread that is not answered has no answer. -/
theorem Unanswered.ne_answered {crowd : Crowd} {key : Fingerprint} {thread : Nat}
    (unanswered : crowd.Unanswered key thread) {job : Job} (own : job.key = key)
    (answer : Answer) : crowd.threads[thread]? ≠ some (job, .answered answer) := by
  -- It has just arrived, leads a flight or waits, and none of these is an answer.
  intro here
  rcases unanswered _ _ here own with same | ⟨id, slot | ⟨same, -⟩⟩
  · simp at same
  · simp [Phase.slot?] at slot
  · simp at same

/-- What is found of a key after an invalidation was put in memory since the entry went, by a
request that led a flight then or looked for the key later. When no flight for the key was under way
and none began before the invalidation was over, that request looked after it. And when the file of
the key is gone as well and no other program brings one, nothing is found, and nobody who looks after
the invalidation is answered, until the compiler has come back. -/
theorem invalidation_lasts {service : Service} (idle : service.Idle)
    (earlier during later : List Move) (key : Fingerprint) :
    let removed := ((Crowd.mk service []).run earlier).move (.forget key)
    let returned := (removed.run during).move (.unlink key)
    let now := returned.run later
    (∀ shared, now.service.cache.shelf.held? key = some shared →
      ∃ thread job id, job.key = key ∧
        Occurs (Stores thread job id shared) removed (during ++ .unlink key :: later) ∧
        (removed.Has Phase.slot? thread job id ∨
          Occurs (Looks thread job) removed (during ++ .unlink key :: later))) ∧
    (removed.service.cache.inFlight.lookup key = none →
      ¬ Occurs (Arrives · key ·) removed during →
      (now.service.cache.shelf.contains key = true → ∃ thread job id shared, job.key = key ∧
        Occurs (Stores thread job id shared) returned later ∧
        Occurs (Looks thread job) returned later) ∧
      ((∀ directory bytes, returned.service.cache.diskDirectory = some directory →
          returned.service.disk.files.get? (directory.keyPlace key) ≠ some (.file bytes)) →
        (∀ files, .disturb files ∉ later) → ¬ Occurs (ComesBack key) returned later →
        now.service.cache.shelf.contains key = false ∧
          ∀ (thread : Nat) (job : Job) (answer : Answer), returned.Ahead thread →
            job.key = key → now.threads[thread]? ≠ some (job, .answered answer))) := by
  intro removed returned now
  have orderly : removed.Orderly := (idle.orderly.run earlier).move _
  have absent : removed.board.shelf.held? key = none := held?_forget _ key
  refine ⟨?_, ?_⟩
  · intro shared held
    have whole : now = removed.run (during ++ .unlink key :: later) :=
      (run_append removed during (.unlink key :: later)).symm
    have held' : now.board.shelf.held? key = some shared := held
    rw [whole] at held'
    exact stored_of_held (by simp [absent]) held'
  · intro unled away
    -- The key is free when the invalidation is over, for the second half leaves memory and table.
    obtain ⟨orderly_, free_⟩ :=
      (orderly.free_or_arrives ⟨absent, unled⟩ during).resolve_left away
    have orderly' : returned.Orderly := orderly_.move _
    have board : returned.board = (removed.run during).board := Service.removeFile_board _ key
    have free : returned.Free key := by
      rw [Free, board]
      exact free_
    refine ⟨?_, ?_⟩
    · intro found
      have present : (now.service.cache.shelf.held? key).isSome = true := by
        rw [← Shelf.contains_eq]
        exact found
      obtain ⟨shared, held⟩ := Option.isSome_iff_exists.mp present
      obtain ⟨thread, job, id, own, stores, slot | looks⟩ :=
        stored_of_held (by simp [free.1]) held
      · exact absurd slot (orderly'.not_slot_of_free free own)
      · exact ⟨thread, job, id, shared, own, stores, looks⟩
    · intro gone alone quiet
      obtain ⟨ends, kept⟩ :=
        ((orderly'.emptied_of_free free gone).run alone).resolve_left quiet
      refine ⟨Shelf.contains_eq_false_iff.mpr ends.memory, ?_⟩
      exact fun thread job answer ahead own =>
        (kept thread (ahead.unanswered key)).ne_answered own answer

/-- Some request. -/
def withdrawnRequest : Request := ⟨"a.vert", "void main() {}"⟩

/-- Its key in a cache without options. -/
def withdrawnKey : Fingerprint := (Service.ofCompiler .curt).cache.keyOf withdrawnRequest

/-- A leader that has its module and has yet to put it in memory. -/
def laden : Crowd :=
  (Crowd.mk (Service.ofCompiler .curt) []).run
    [.join withdrawnRequest, .advance 0, .advance 0, .advance 0]

/-- With its next step the leader puts its module in memory. -/
theorem contains_laden :
    (laden.move (.advance 0)).service.cache.shelf.contains withdrawnKey = true := by
  -- Without a limit every module that is about to be kept fits.
  have here : laden.threads[0]? = some (⟨withdrawnRequest, withdrawnKey⟩,
      .produced 0 (.returned (.ok ⟨0, ⟨[spirvMagic], by simp⟩⟩))) := rfl
  have unbounded : laden.board.setting.memoryLimit = none := rfl
  have held : (laden.move (.advance 0)).service.cache.shelf.held? withdrawnKey =
      some ⟨0, ⟨[spirvMagic], by simp⟩⟩ :=
    held_of_fits here fun limit bounded => by simp [unbounded] at bounded
  rw [Shelf.contains_eq, held]
  rfl

/-- A module is put in memory and invalidated, and the next request for it finds nothing. -/
theorem invalidation_lasts_of_reload :
    let earlier : List Move := [.join withdrawnRequest, .advance 0, .advance 0, .advance 0,
      .advance 0, .advance 0]
    let stored := (Crowd.mk (Service.ofCompiler .curt) []).run earlier
    let returned := (stored.move (.forget withdrawnKey)).move (.unlink withdrawnKey)
    let now := returned.run [.join withdrawnRequest, .advance 1]
    (Service.ofCompiler .curt).Idle ∧
      stored.service.cache.shelf.contains withdrawnKey = true ∧
      now.service.cache.shelf.contains withdrawnKey = false ∧
      ∀ (thread : Nat) (job : Job) (answer : Answer), returned.Ahead thread →
        job.key = withdrawnKey → now.threads[thread]? ≠ some (job, .answered answer) := by
  intro earlier stored returned now
  have idle := Service.idle_ofCompiler .curt
  obtain ⟨-, lasts⟩ := invalidation_lasts idle earlier []
    [.join withdrawnRequest, .advance 1] withdrawnKey
  -- The one thread there is has been answered, and so there is no flight.
  have here : (stored.move (.forget withdrawnKey)).threads =
      [(⟨withdrawnRequest, withdrawnKey⟩,
        .answered (.returned (.ok ⟨0, ⟨[spirvMagic], by simp⟩⟩)))] := rfl
  have unled : (stored.move (.forget withdrawnKey)).service.cache.inFlight.lookup withdrawnKey =
      none := by
    have orderly : (stored.move (.forget withdrawnKey)).Orderly :=
      (idle.orderly.run earlier).move _
    refine Option.eq_none_iff_forall_ne_some.mpr fun id found => ?_
    obtain ⟨thread, job, ⟨phase, there, slot⟩, -⟩ := orderly.slot.mp found
    rw [here] at there
    obtain ⟨-, rfl⟩ := Prod.mk.inj (List.mem_singleton.mp (List.mem_of_getElem? there))
    simp [Phase.slot?] at slot
  obtain ⟨-, emptied⟩ := lasts unled not_occurs_nil
  have tierless : returned.service.cache.diskDirectory = none := by
    rw [diskDirectory_move, diskDirectory_move]
    rfl
  have quiet : ¬ Occurs (ComesBack withdrawnKey) returned
      [.join withdrawnRequest, .advance 1] := by
    have arriving : (returned.move (.join withdrawnRequest)).threads[1]? =
        some (returned.service.jobOf withdrawnRequest, .arriving) := rfl
    rw [occurs_cons_iff, occurs_cons_iff]
    rintro (⟨thread, job, id, same, -⟩ | ⟨thread, job, id, same, there, -⟩ | occurs)
    · simp at same
    · obtain rfl := Move.advance.inj same
      rw [arriving] at there
      simp at there
    · exact not_occurs_nil occurs
  obtain ⟨absent, unanswered⟩ := emptied
    (fun directory bytes used => absurd (tierless.symm.trans used) (by simp)) (by simp) quiet
  exact ⟨idle, contains_laden, absent, unanswered⟩

/-- A leader whose compiler works while its key is invalidated. -/
def overtaken : Crowd :=
  (Crowd.mk (Service.ofCompiler .curt) []).run [.join withdrawnRequest, .advance 0, .advance 0,
    .forget withdrawnKey, .unlink withdrawnKey]

/-- A leader that is under way puts its module in memory after an invalidation, though nobody makes
a request any more. -/
theorem invalidation_can_be_lost :
    overtaken.service.cache.shelf.contains withdrawnKey = false ∧
      (overtaken.run [.advance 0, .advance 0]).service.cache.shelf.contains withdrawnKey = true :=
  -- Without an entry and without a directory the invalidation has changed nothing.
  ⟨rfl, contains_laden⟩

end Crowd

end ShaderBuild
