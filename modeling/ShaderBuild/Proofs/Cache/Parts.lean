import ShaderBuild.Proofs.Cache.Step

/-! A step changes the part of its own request in flights only. -/

namespace ShaderBuild

namespace Phase

/-- The flight that a leader has in the table. -/
def slot? : Phase → Option FlightId
  | leading id | compiling id | produced id _ => some id
  | _ => none

/-- The flight that a leader has yet to publish. -/
def debt? : Phase → Option FlightId
  | leading id | compiling id | produced id _ | settled id _ => some id
  | _ => none

/-- The flight whose outcome a request waits for. -/
def wait? : Phase → Option FlightId
  | following id => some id
  | _ => none

/-- A leader in the table has yet to publish. -/
theorem debt?_of_slot? {phase : Phase} {id : FlightId} (slot : phase.slot? = some id) :
    phase.debt? = some id := by
  -- Settling takes the slot away and leaves the debt.
  cases phase <;> simp_all [slot?, debt?]

end Phase

namespace Crowd

/-- A request of the crowd has a part in a flight. -/
def Has (crowd : Crowd) (part : Phase → Option FlightId) (thread : Nat) (job : Job)
    (id : FlightId) : Prop :=
  ∃ phase, crowd.threads[thread]? = some (job, phase) ∧ part phase = some id

/-- The number of requests that wait for a flight. -/
def waiting (crowd : Crowd) (id : FlightId) : Nat :=
  crowd.threads.countP fun thread => thread.2.wait? == some id

section Parts

variable {before after : Crowd} {part : Phase → Option FlightId}

/-- A new request has no part in a flight yet. -/
theorem has_of_joined {job : Job} (threads : after.threads = before.threads ++ [(job, .arriving)])
    (idle : part .arriving = none) {thread : Nat} {one : Job} {id : FlightId} :
    after.Has part thread one id ↔ before.Has part thread one id := by
  -- The one thread that is new has just arrived.
  simp only [Has, threads, List.getElem?_append]
  split
  · exact Iff.rfl
  · rename_i late
    have gone : before.threads[thread]? = none := List.getElem?_eq_none (Nat.not_lt.mp late)
    constructor
    · rintro ⟨phase, here, has⟩
      rcases List.getElem?_singleton .. ▸ here with here
      split at here
      · simp only [Option.some.injEq, Prod.mk.injEq] at here
        rw [← here.2, idle] at has
        simp at has
      · simp at here
    · rintro ⟨phase, here, -⟩
      rw [gone] at here
      simp at here

/-- A step gives the part of its next phase to the thread that takes it, and leaves all others. -/
theorem has_of_stepped {thread : Nat} {job : Job} {phase next : Phase}
    (here : before.threads[thread]? = some (job, phase))
    (threads : after.threads = before.threads.set thread (job, next))
    {other : Nat} {one : Job} {id : FlightId} :
    after.Has part other one id ↔
      if other = thread then one = job ∧ part next = some id else before.Has part other one id := by
  -- The thread is there, and so its place takes the new phase.
  have there : thread < before.threads.length := (List.getElem?_eq_some_iff.mp here).1
  simp only [Has, threads, List.getElem?_set]
  by_cases same : other = thread
  · subst same
    simp only [if_true, there]
    constructor
    · rintro ⟨last, here', has⟩
      simp only [Option.some.injEq, Prod.mk.injEq] at here'
      exact ⟨here'.1.symm, here'.2 ▸ has⟩
    · rintro ⟨rfl, has⟩
      exact ⟨next, rfl, has⟩
  · simp only [if_neg same, if_neg (Ne.symm same)]

/-- A thread has the part of its phase, and no other one. -/
theorem has_iff_of_here {thread : Nat} {job : Job} {phase : Phase}
    (here : before.threads[thread]? = some (job, phase)) {one : Job} {id : FlightId} :
    before.Has part thread one id ↔ one = job ∧ part phase = some id := by
  -- A thread is in one phase at a time.
  simp only [Has, here, Option.some.injEq, Prod.mk.injEq]
  constructor
  · rintro ⟨phase', ⟨rfl, rfl⟩, has⟩
    exact ⟨rfl, has⟩
  · rintro ⟨rfl, has⟩
    exact ⟨phase, ⟨rfl, rfl⟩, has⟩

/-- A step between phases with the same part leaves that part to whoever has it. -/
theorem has_of_unchanged {thread : Nat} {job : Job} {phase next : Phase}
    (here : before.threads[thread]? = some (job, phase))
    (threads : after.threads = before.threads.set thread (job, next))
    (same : part next = part phase) {other : Nat} {one : Job} {id : FlightId} :
    after.Has part other one id ↔ before.Has part other one id := by
  -- What the thread has after the step it had before it.
  rw [has_of_stepped here threads]
  split
  · rename_i this
    rw [this, same, has_iff_of_here here]
  · exact Iff.rfl

end Parts

/-- Somebody waits for a flight exactly when the number of those who wait is not zero. -/
theorem waiting_pos_iff {crowd : Crowd} {id : FlightId} :
    0 < crowd.waiting id ↔ ∃ thread job, crowd.Has Phase.wait? thread job id := by
  -- Counting finds a member of the list, and a member stands at some place.
  simp only [waiting, List.countP_pos_iff]
  constructor
  · rintro ⟨⟨job, phase⟩, among, waits⟩
    obtain ⟨thread, here⟩ := List.getElem?_of_mem among
    exact ⟨thread, job, phase, here, by simpa using waits⟩
  · rintro ⟨thread, job, phase, here, waits⟩
    exact ⟨(job, phase), List.mem_of_getElem? here, by simpa using waits⟩

/-- The number of requests in some phases. -/
def number (crowd : Crowd) (is : Phase → Bool) : Nat :=
  crowd.threads.countP fun thread => is thread.2

/-- A new request has just arrived. -/
theorem number_of_joined {before after : Crowd} {job : Job}
    (threads : after.threads = before.threads ++ [(job, .arriving)]) (is : Phase → Bool) :
    after.number is = before.number is + if is .arriving then 1 else 0 := by
  -- The new thread is counted at the end.
  simp [number, threads, List.countP_append, List.countP_singleton]

/-- A step takes its thread from the phases before it to those after it. -/
theorem number_of_stepped {before after : Crowd} {thread : Nat} {job : Job} {phase next : Phase}
    (here : before.threads[thread]? = some (job, phase))
    (threads : after.threads = before.threads.set thread (job, next)) (is : Phase → Bool) :
    after.number is + (if is phase then 1 else 0) =
      before.number is + if is next then 1 else 0 := by
  -- The thread counts once before the step, if its phase is one of them.
  obtain ⟨there, entry⟩ := List.getElem?_eq_some_iff.mp here
  have counted : is phase = true → 0 < before.number is := fun this =>
    List.countP_pos_iff.mpr ⟨(job, phase), List.mem_of_getElem? here, this⟩
  simp only [number] at counted ⊢
  rw [threads, List.countP_set there]
  simp only [entry]
  split <;> split <;> simp_all

/-- A new request does not wait. -/
theorem waiting_of_joined {before after : Crowd} {job : Job}
    (threads : after.threads = before.threads ++ [(job, .arriving)]) (id : FlightId) :
    after.waiting id = before.waiting id :=
  -- A request that has just arrived is not in the phase of a follower.
  number_of_joined threads fun phase => phase.wait? == some id

/-- A step takes its thread from those who wait before it to those who wait after it. -/
theorem waiting_of_stepped {before after : Crowd} {thread : Nat} {job : Job} {phase next : Phase}
    (here : before.threads[thread]? = some (job, phase))
    (threads : after.threads = before.threads.set thread (job, next)) (id : FlightId) :
    after.waiting id + (if phase.wait? = some id then 1 else 0) =
      before.waiting id + if next.wait? = some id then 1 else 0 := by
  -- Those who wait for the flight are those in some phases.
  have counted := number_of_stepped here threads fun phase => phase.wait? == some id
  simp only [beq_iff_eq] at counted
  exact counted

/-- A step between phases that wait for the same flight, or for none, leaves as many waiting. -/
theorem waiting_of_unchanged {before after : Crowd} {thread : Nat} {job : Job} {phase next : Phase}
    (here : before.threads[thread]? = some (job, phase))
    (threads : after.threads = before.threads.set thread (job, next))
    (same : next.wait? = phase.wait?) (id : FlightId) : after.waiting id = before.waiting id := by
  -- The thread counts after the step as it did before.
  have counted := waiting_of_stepped here threads id
  rw [same] at counted
  omega

/-- A leader in the table has yet to publish. -/
theorem Has.debt {crowd : Crowd} {thread : Nat} {job : Job} {id : FlightId}
    (slot : crowd.Has Phase.slot? thread job id) : crowd.Has Phase.debt? thread job id := by
  -- The phase that leads is one that has yet to publish.
  obtain ⟨phase, there, has⟩ := slot
  exact ⟨phase, there, Phase.debt?_of_slot? has⟩

/-- Two crowds in which the same requests have the same parts. -/
structure Alike (before after : Crowd) : Prop where
  slot : ∀ {thread job id}, after.Has Phase.slot? thread job id ↔ before.Has Phase.slot? thread job id
  debt : ∀ {thread job id}, after.Has Phase.debt? thread job id ↔ before.Has Phase.debt? thread job id
  wait : ∀ {thread job id}, after.Has Phase.wait? thread job id ↔ before.Has Phase.wait? thread job id
  waiting : ∀ id, after.waiting id = before.waiting id

/-- The same threads have the same parts. -/
theorem Alike.of_threads {before after : Crowd} (threads : after.threads = before.threads) :
    Alike before after where
  -- Parts are told by the threads alone.
  slot := by simp only [Has, threads, implies_true]
  debt := by simp only [Has, threads, implies_true]
  wait := by simp only [Has, threads, implies_true]
  waiting := by simp only [Crowd.waiting, threads, implies_true]

/-- A new request has no part in a flight. -/
theorem Alike.of_joined {before after : Crowd} {job : Job}
    (threads : after.threads = before.threads ++ [(job, .arriving)]) : Alike before after where
  -- The phase of a new request has no part of any kind.
  slot := has_of_joined threads rfl
  debt := has_of_joined threads rfl
  wait := has_of_joined threads rfl
  waiting := waiting_of_joined threads

/-- A step between phases with the same part in the same flight changes no parts. -/
theorem Alike.of_stepped {before after : Crowd} {thread : Nat} {job : Job} {phase next : Phase}
    (here : before.threads[thread]? = some (job, phase))
    (threads : after.threads = before.threads.set thread (job, next))
    (slot : next.slot? = phase.slot?) (debt : next.debt? = phase.debt?)
    (wait : next.wait? = phase.wait?) : Alike before after where
  -- Each kind of part is left as it is.
  slot := has_of_unchanged here threads slot
  debt := has_of_unchanged here threads debt
  wait := has_of_unchanged here threads wait
  waiting := waiting_of_unchanged here threads wait

end Crowd

end ShaderBuild
