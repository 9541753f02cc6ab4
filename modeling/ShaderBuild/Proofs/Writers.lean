import ShaderBuild.Files.Writers
import ShaderBuild.Proofs.Sibling

/-! A goal holds what was there at first or the whole of one write, in every order of steps. -/

namespace ShaderBuild

/-- A file of a directory that a call can write and fill a temporary file for: its path and its name
leave room for what is put behind them, and no directory stands there. -/
structure WriteCall.Suits (call : WriteCall) (files : Files) (home : Location) : Prop where
  module : IsModuleName call.name
  targeted : files.target call.goal = .ok (.named (home ++ [call.name]) false)
  free : files.get? (home ++ [call.name]) ≠ some .directory
  fits : call.name.utf8ByteSize + Disk.tailSize ≤ 255
  short : call.goal.text.utf8ByteSize + Disk.tailSize < 4096

/-- The number that a write has drawn and still needs. -/
def Disk.Write.number? : Disk.Write → Option Nat
  | .drew number | .made number | .filled number => some number
  | _ => none

/-- What a write has in its temporary file. -/
def Disk.Write.item? (image : List UInt8) : Disk.Write → Option Item
  | .made _ => some (.file [])
  | .filled _ => some (.file image)
  | _ => none

/-- The steps that a write has left. -/
def Disk.Write.left : Disk.Write → Nat
  | .waiting => 4
  | .drew _ => 3
  | .made _ => 2
  | .filled _ => 1
  | .ended _ => 0

/-- A write without steps left has ended. -/
theorem Disk.Write.exists_ended {write : Disk.Write} (spent : write.left = 0) :
    ∃ result, write = .ended result := by
  -- Every other phase has a step left.
  cases write with
  | ended result => exact ⟨result, rfl⟩
  | _ => simp [left] at spent

/-- The names that a write has yet to draw. -/
def Disk.Write.draws : Disk.Write → Nat
  | .waiting => 1
  | _ => 0

section Suits

variable {call : WriteCall} {disk : Disk} {home : Location} {number : Nat}

/-- Where the temporary file of a call stands. -/
def WriteCall.spot (call : WriteCall) (disk : Disk) (home : Location) (number : Nat) : Location :=
  home ++ [call.name ++ disk.tail number]

/-- The file of a call stands in the directory. -/
theorem WriteCall.Suits.place_goal (suits : call.Suits disk.files home) :
    call.goal.place = home ++ [call.name] :=
  (Files.place_of_target suits.targeted).symm

/-- The path of a temporary file names a place in the directory of its goal. -/
theorem WriteCall.Suits.target_sibling (suits : call.Suits disk.files home)
    (process : disk.process < 2 ^ 32) (drawn : number < 2 ^ 64) :
    disk.files.target (disk.sibling call.goal number) =
      .ok (.named (call.spot disk home number) false) := by
  -- The tail keeps the name and the path within their limits, because the goal left room for it.
  have size := Disk.utf8ByteSize_tail_le process drawn
  have fits := suits.fits
  have short := suits.short
  rw [Disk.sibling_eq]
  refine Files.target_append suits.targeted (fun c => disk.clean_tail number) ?_ ?_ ?_
  · rw [Disk.toList_tail, List.length_append]
    exact Nat.le_add_left_of_le (by decide)
  · rw [String.utf8ByteSize_append]
    omega
  · rw [String.utf8ByteSize_append]
    omega

/-- Calls with different numbers have different temporary files. -/
theorem WriteCall.number_of_spot {other : WriteCall} {another : Nat}
    (same : call.spot disk home number = other.spot disk home another) : number = another := by
  -- The last part of the place is the name, and the name tells the number.
  have names := (List.append_inj' same rfl).2
  exact Disk.number_of_tail (List.cons.inj names).1

end Suits

/-- A place in the directory with the name of a temporary file. -/
def Location.IsTemporaryIn (home place : Location) : Prop :=
  ∃ name, IsTemporary name ∧ place = home ++ [name]

namespace Writers

variable {start : Disk} {home : Location} {writers : Writers}

/-- What stands in a place that is no temporary file's: what the last call has brought there, or else
what stood there in the beginning. -/
def content (writers : Writers) (start : Disk) (place : Location) : Option Item :=
  match writers.landed.find? (·.goal.place == place) with
  | some call => some (.file call.image)
  | none => start.files.get? place

/-- What the calls, the files and the names that were drawn have to do with each other. -/
structure Apart (start : Disk) (home : Location) (writers : Writers) : Prop where
  process : writers.disk.process = start.process
  /-- The names that were drawn fit in the counter. -/
  few : writers.disk.drawn ≤ 2 ^ 64
  /-- Every call is for a file of the directory. -/
  suits : ∀ {thread : Nat} {call : WriteCall} {write : Disk.Write},
    writers.calls[thread]? = some (call, write) → call.Suits start.files home
  /-- A number that is in use has been drawn. -/
  drawn : ∀ {thread : Nat} {call : WriteCall} {write : Disk.Write} {number : Nat},
    writers.calls[thread]? = some (call, write) → write.number? = some number →
    number < writers.disk.drawn
  /-- No two calls use one number. -/
  sole : ∀ {first second : Nat} {one two : WriteCall} {write other : Disk.Write} {number : Nat},
    writers.calls[first]? = some (one, write) → writers.calls[second]? = some (two, other) →
    write.number? = some number → other.number? = some number → first = second
  /-- A call has in its temporary file what it has put there. -/
  own : ∀ {thread : Nat} {call : WriteCall} {write : Disk.Write} {number : Nat},
    writers.calls[thread]? = some (call, write) → write.number? = some number →
    writers.disk.files.get? (call.spot start home number) = write.item? call.image
  /-- A temporary file is that of some call. -/
  owned : ∀ {place : Location}, home.IsTemporaryIn place →
    (writers.disk.files.get? place).isSome = true →
    ∃ (thread : Nat) (call : WriteCall) (write : Disk.Write) (number : Nat),
      writers.calls[thread]? = some (call, write) ∧ write.number? = some number ∧
      place = call.spot start home number
  /-- All other places hold what was brought there last. -/
  rest : ∀ {place : Location}, ¬ home.IsTemporaryIn place →
    writers.disk.files.get? place = writers.content start place
  /-- A call that has ended has brought its file to its goal. -/
  ended : ∀ {thread : Nat} {call : WriteCall} {result : Except FileFault Unit},
    writers.calls[thread]? = some (call, .ended result) →
    result = .ok () ∧ call ∈ writers.landed
  /-- Only calls that have ended have brought their file to its goal. -/
  landed : ∀ {call : WriteCall}, call ∈ writers.landed →
    ∃ thread : Nat, writers.calls[thread]? = some (call, .ended (.ok ()))

/-- A call that has not ended takes a step, which changes no temporary file but its own one. -/
structure Stepped (start : Disk) (home : Location) (writers after : Writers) (thread : Nat)
    (call : WriteCall) (write next : Disk.Write) (number : Nat) : Prop where
  here : writers.calls[thread]? = some (call, write)
  calls : after.calls = writers.calls.set thread (call, next)
  process : after.disk.process = start.process
  few : after.disk.drawn ≤ 2 ^ 64
  later : writers.disk.drawn ≤ after.disk.drawn
  drew : number < after.disk.drawn
  /-- The call used no other number before the step. -/
  before : ∀ other, write.number? = some other → other = number
  /-- The call uses no other number after the step. -/
  behind : ∀ other, next.number? = some other → other = number
  /-- No other call uses the number. -/
  unused : ∀ {other : Nat} {one : WriteCall} {write' : Disk.Write}, other ≠ thread →
    writers.calls[other]? = some (one, write') → write'.number? ≠ some number
  spots : ∀ place, home.IsTemporaryIn place → after.disk.files.get? place =
    if place = call.spot start home number then next.item? call.image
    else writers.disk.files.get? place
  rest : ∀ place, ¬ home.IsTemporaryIn place →
    after.disk.files.get? place = after.content start place
  unfinished : ∀ result, write ≠ .ended result
  /-- The call goes on, or ends with its file at its goal. -/
  landed : (∀ result, next ≠ .ended result) ∧ after.landed = writers.landed ∨
    next = .ended (.ok ()) ∧ after.landed = call :: writers.landed

/-- The number of names that were drawn does not go back. -/
theorem drawn_le_take (writers : Writers) (event : Event) :
    writers.disk.drawn ≤ (writers.take event).disk.drawn := by
  cases event with
  | begin call => exact Nat.le_refl _
  | advance thread =>
    simp only [take]
    split
    · exact Nat.le_refl _
    · rename_i call write _
      -- Only the first step of a call draws a name.
      cases write with
      | waiting => exact Nat.le_succ _
      | drew number | made number =>
        simp only [Disk.advanceWrite]
        split <;> exact Nat.le_refl _
      | filled number =>
        simp only [Disk.advanceWrite]
        split
        · exact Nat.le_refl _
        · split <;> exact Nat.le_refl _
      | ended result => exact Nat.le_refl _
  | read path =>
    simp only [take]
    split <;> exact Nat.le_refl _

/-- The number of names that were drawn does not go back in a run. -/
theorem drawn_le_run (writers : Writers) (events : List Event) :
    writers.disk.drawn ≤ (writers.run events).disk.drawn := by
  -- Induction on the events.
  induction events generalizing writers with
  | nil => exact Nat.le_refl _
  | cons event events ih => exact Nat.le_trans (drawn_le_take writers event) (ih _)

namespace Apart

/-- The goals of calls are no temporary files. -/
theorem goal_not_temporary {call : WriteCall} (suits : call.Suits start.files home) :
    ¬ home.IsTemporaryIn (home ++ [call.name]) := by
  -- A module's name does not end as a temporary one does.
  rintro ⟨name, temporary, same⟩
  obtain rfl : call.name = name := (List.cons.inj (List.append_inj' same rfl).2).1
  exact suits.module.not_isTemporary temporary

/-- The place of a temporary file is one. -/
theorem spot_temporary (call : WriteCall) (start : Disk) (home : Location) (number : Nat) :
    home.IsTemporaryIn (call.spot start home number) :=
  -- The name of its file ends as temporary ones do.
  ⟨_, start.isTemporary_tail call.name number, rfl⟩

/-- A call that has landed was for a file of the directory. -/
theorem suits_of_landed (apart : Apart start home writers) {call : WriteCall}
    (among : call ∈ writers.landed) : call.Suits start.files home := by
  -- The call still stands among the threads, and those all suit the directory.
  obtain ⟨thread, here⟩ := apart.landed among
  exact apart.suits here

/-- Where no temporary file stands there is no new directory. -/
theorem content_ne_directory {place : Location} (free : start.files.get? place ≠ some .directory) :
    writers.content start place ≠ some .directory := by
  -- A place has a file that has landed, or what it had at the start.
  unfold content
  split
  · simp
  · exact free

/-- The directories of the beginning stay. -/
theorem keeps (apart : Apart start home writers)
    (empty : ∀ name, IsTemporary name → start.files.get? (home ++ [name]) = none) :
    start.files.KeepsDirectories writers.disk.files := by
  intro place found
  -- A directory is neither in the place of a temporary file nor in that of a goal.
  have other : ¬ home.IsTemporaryIn place := by
    rintro ⟨name, temporary, rfl⟩
    rw [empty name temporary] at found
    simp at found
  rw [apart.rest other, content]
  cases brought : writers.landed.find? (·.goal.place == place) with
  | none => exact found
  | some call =>
    have suits := apart.suits_of_landed (List.mem_of_find?_eq_some brought)
    have there : call.goal.place = place := by simpa using List.find?_some brought
    rw [← there, suits.place_goal] at found
    exact absurd found suits.free

end Apart

namespace Stepped

variable {after : Writers} {thread : Nat} {call : WriteCall} {write next : Disk.Write}
  {number : Nat} (stepped : Stepped start home writers after thread call write next number)
include stepped

/-- The call is there after the step, in its next phase. -/
theorem mine : after.calls[thread]? = some (call, next) := by
  -- The step writes the call back under its own thread.
  have there : thread < writers.calls.length := (List.getElem?_eq_some_iff.mp stepped.here).1
  rw [stepped.calls, List.getElem?_set_self there]

/-- The other calls stay as they are. -/
theorem others {other : Nat} {one : WriteCall} {write' : Disk.Write} (away : other ≠ thread)
    (found : writers.calls[other]? = some (one, write')) :
    after.calls[other]? = some (one, write') := by
  -- The step writes at one thread only.
  rw [stepped.calls, List.getElem?_set_ne (Ne.symm away)]
  exact found

/-- A call that is there after the step is the one that took it, or was there before. -/
theorem cases_of_after {other : Nat} {one : WriteCall} {write' : Disk.Write}
    (found : after.calls[other]? = some (one, write')) :
    other = thread ∧ one = call ∧ write' = next ∨
      other ≠ thread ∧ writers.calls[other]? = some (one, write') := by
  -- The list was set at the thread that took the step.
  by_cases same : other = thread
  · subst same
    rw [stepped.mine, Option.some.injEq, Prod.mk.injEq] at found
    exact Or.inl ⟨rfl, found.1.symm, found.2.symm⟩
  · rw [stepped.calls, List.getElem?_set_ne (Ne.symm same)] at found
    exact Or.inr ⟨same, found⟩

/-- The number that the call draws or goes on to use is no other call's. -/
theorem sole (apart : Apart start home writers) {first second : Nat} {one two : WriteCall}
    {write' other : Disk.Write} {number' : Nat} (found : after.calls[first]? = some (one, write'))
    (found' : after.calls[second]? = some (two, other)) (uses : write'.number? = some number')
    (uses' : other.number? = some number') : first = second := by
  -- A call that has moved uses the number of the step, and no call that has stayed uses that one.
  rcases stepped.cases_of_after found with ⟨rfl, -, rfl⟩ | ⟨away, found⟩
  · rcases stepped.cases_of_after found' with ⟨rfl, -, -⟩ | ⟨away', found'⟩
    · rfl
    · rw [stepped.behind _ uses] at uses'
      exact absurd uses' (stepped.unused away' found')
  · rcases stepped.cases_of_after found' with ⟨rfl, -, rfl⟩ | ⟨away', found'⟩
    · rw [stepped.behind _ uses'] at uses
      exact absurd uses (stepped.unused away found)
    · exact apart.sole found found' uses uses'

/-- Each call still has in its temporary file what it has put there. -/
theorem own (apart : Apart start home writers) {other : Nat} {one : WriteCall}
    {write' : Disk.Write} {number' : Nat} (found : after.calls[other]? = some (one, write'))
    (uses : write'.number? = some number') :
    after.disk.files.get? (one.spot start home number') = write'.item? one.image := by
  rw [stepped.spots _ (Apart.spot_temporary one start home number')]
  rcases stepped.cases_of_after found with ⟨-, rfl, rfl⟩ | ⟨away, found⟩
  · rw [stepped.behind _ uses, if_pos rfl]
  · -- The temporary file of another call is another one.
    rw [if_neg]
    · exact apart.own found uses
    · intro same
      rw [WriteCall.number_of_spot same] at uses
      exact stepped.unused away found uses

/-- A temporary file is still that of some call. -/
theorem owned (apart : Apart start home writers) {place : Location}
    (temporary : home.IsTemporaryIn place)
    (some_ : (after.disk.files.get? place).isSome = true) :
    ∃ (other : Nat) (one : WriteCall) (write' : Disk.Write) (number' : Nat),
      after.calls[other]? = some (one, write') ∧ write'.number? = some number' ∧
      place = one.spot start home number' := by
  rw [stepped.spots place temporary] at some_
  split at some_
  · rename_i same
    refine ⟨thread, call, next, number, stepped.mine, ?_, same⟩
    -- Only a call with a number has something in its temporary file.
    cases next with
    | made number' => rw [Disk.Write.number?, stepped.behind number' rfl]
    | filled number' => rw [Disk.Write.number?, stepped.behind number' rfl]
    | _ => simp [Disk.Write.item?] at some_
  · rename_i away
    obtain ⟨other, one, write', number', found, uses, spot⟩ := apart.owned temporary some_
    refine ⟨other, one, write', number', stepped.others ?_ found, uses, spot⟩
    rintro rfl
    -- The call that takes the step had no other temporary file.
    rw [stepped.here, Option.some.injEq, Prod.mk.injEq] at found
    obtain ⟨rfl, rfl⟩ := found
    exact away (spot.trans (by rw [stepped.before _ uses]))

/-- What has landed before the step is still there. -/
theorem landed_subset : writers.landed ⊆ after.landed := by
  -- A step lands a call or leaves the landed ones as they are.
  rcases stepped.landed with ⟨-, same⟩ | ⟨-, grown⟩
  · rw [same]
    exact List.Subset.refl _
  · rw [grown]
    exact List.subset_cons_self _ _

/-- A call that has ended has landed. -/
theorem ended (apart : Apart start home writers) {other : Nat} {one : WriteCall}
    {result : Except FileFault Unit} (found : after.calls[other]? = some (one, .ended result)) :
    result = .ok () ∧ one ∈ after.landed := by
  -- The call that took the step ends only by landing; the others had ended before.
  rcases stepped.cases_of_after found with ⟨-, rfl, ends⟩ | ⟨-, found⟩
  · rcases stepped.landed with ⟨goesOn, -⟩ | ⟨lands, grown⟩
    · exact absurd ends.symm (goesOn result)
    · rw [lands, Disk.Write.ended.injEq] at ends
      rw [grown]
      exact ⟨ends, List.mem_cons_self⟩
  · obtain ⟨done, among⟩ := apart.ended found
    exact ⟨done, stepped.landed_subset among⟩

/-- A call that has landed had landed before, or ends with the step. -/
theorem thread_of_landed (apart : Apart start home writers) {one : WriteCall}
    (among : one ∈ after.landed) :
    ∃ other : Nat, after.calls[other]? = some (one, .ended (.ok ())) := by
  have old : one ∈ writers.landed →
      ∃ other : Nat, after.calls[other]? = some (one, .ended (.ok ())) := by
    intro among
    obtain ⟨other, found⟩ := apart.landed among
    refine ⟨other, stepped.others ?_ found⟩
    -- The call that takes the step had not ended.
    rintro rfl
    rw [stepped.here, Option.some.injEq, Prod.mk.injEq] at found
    exact stepped.unfinished _ found.2
  rcases stepped.landed with ⟨-, same⟩ | ⟨lands, grown⟩
  · exact old (same ▸ among)
  · rw [grown, List.mem_cons] at among
    rcases among with rfl | among
    · exact ⟨thread, lands ▸ stepped.mine⟩
    · exact old among

/-- A step of a call leaves the calls apart. -/
theorem apart (apart : Apart start home writers) : Apart start home after where
  -- Each clause is looked at for the call that took the step and for the others.
  process := stepped.process
  few := stepped.few
  suits := by
    intro other one write' found
    rcases stepped.cases_of_after found with ⟨-, rfl, -⟩ | ⟨-, found⟩
    · exact apart.suits stepped.here
    · exact apart.suits found
  drawn := by
    intro other one write' number' found uses
    rcases stepped.cases_of_after found with ⟨-, -, rfl⟩ | ⟨-, found⟩
    · rw [stepped.behind _ uses]
      exact stepped.drew
    · exact Nat.lt_of_lt_of_le (apart.drawn found uses) stepped.later
  sole := stepped.sole apart
  own := stepped.own apart
  owned := stepped.owned apart
  rest := stepped.rest _
  ended := stepped.ended apart
  landed := stepped.thread_of_landed apart

end Stepped

namespace Apart

section Steps

variable {thread : Nat} {call : WriteCall} {write : Disk.Write} {number : Nat}

/-- A call does not find a directory in the place of its temporary file. -/
theorem own_free (apart : Apart start home writers)
    (here : writers.calls[thread]? = some (call, write)) (uses : write.number? = some number) :
    writers.disk.files.get? (call.spot start home number) ≠ some .directory := by
  -- What stands there is what the call has put there, a file if anything.
  rw [apart.own here uses]
  cases write <;> simp [Disk.Write.item?]

/-- The path of a call's temporary file names its place. -/
theorem target_own (apart : Apart start home writers)
    (empty : ∀ name, IsTemporary name → start.files.get? (home ++ [name]) = none)
    (process : start.process < 2 ^ 32) (here : writers.calls[thread]? = some (call, write))
    (uses : write.number? = some number) :
    writers.disk.files.target (writers.disk.sibling call.goal number) =
      .ok (.named (call.spot start home number) false) := by
  -- The path and its directories are as at the start, where the name was free.
  have same : writers.disk.sibling call.goal number = start.sibling call.goal number := by
    rw [Disk.sibling, apart.process, Disk.sibling]
  have few : number < 2 ^ 64 := Nat.lt_of_lt_of_le (apart.drawn here uses) apart.few
  rw [same]
  exact Files.target_of_keeps (apart.keeps empty)
    ((apart.suits here).target_sibling process few)

/-- A call can write to its temporary file. -/
theorem write_own (apart : Apart start home writers)
    (empty : ∀ name, IsTemporary name → start.files.get? (home ++ [name]) = none)
    (process : start.process < 2 ^ 32) (here : writers.calls[thread]? = some (call, write))
    (uses : write.number? = some number) (bytes : List UInt8) :
    writers.disk.files.write (writers.disk.sibling call.goal number) bytes =
      .ok (writers.disk.files.set (call.spot start home number) (.file bytes)) := by
  -- The path leads to the place, and no directory is in the way.
  have targeted := apart.target_own empty process here uses
  have place := Files.place_of_target targeted
  rw [place] at targeted ⊢
  refine Files.write_of_target bytes targeted ?_
  rw [← place]
  exact apart.own_free here uses

/-- A call can bring its temporary file to its goal. -/
theorem rename_own (apart : Apart start home writers)
    (empty : ∀ name, IsTemporary name → start.files.get? (home ++ [name]) = none)
    (process : start.process < 2 ^ 32)
    (here : writers.calls[thread]? = some (call, .filled number)) :
    writers.disk.files.rename (writers.disk.sibling call.goal number) call.goal =
      .ok ((writers.disk.files.erase (call.spot start home number)).set (home ++ [call.name])
        (.file call.image)) := by
  have suits := apart.suits here
  have targeted := apart.target_own empty process here rfl
  have place := Files.place_of_target targeted
  have goal := Files.target_of_keeps (apart.keeps empty) suits.targeted
  have found := apart.own here rfl
  -- Where the goal is there is a file or nothing.
  have free : writers.disk.files.get? (home ++ [call.name]) ≠ some .directory := by
    rw [apart.rest (goal_not_temporary suits)]
    exact content_ne_directory suits.free
  rw [← suits.place_goal] at goal free ⊢
  rw [place] at targeted found ⊢
  exact Files.rename_of_target _ _ (Files.locate_of_target targeted) found goal free

/-- No other call uses the number of a call. -/
theorem unused (apart : Apart start home writers)
    (here : writers.calls[thread]? = some (call, write)) (uses : write.number? = some number)
    {other : Nat} {one : WriteCall} {write' : Disk.Write} (away : other ≠ thread)
    (found : writers.calls[other]? = some (one, write')) : write'.number? ≠ some number :=
  -- Two users of one number would be one call.
  fun uses' => away (apart.sole found here uses' uses)

/-- A call that draws a number has not begun its temporary file. -/
theorem draw (apart : Apart start home writers)
    (here : writers.calls[thread]? = some (call, .waiting))
    (few : writers.disk.drawn + 1 ≤ 2 ^ 64) :
    Apart start home { writers with
      disk := { writers.disk with drawn := writers.disk.drawn + 1 }
      calls := writers.calls.set thread (call, .drew writers.disk.drawn) } := by
  have unused : ∀ {other : Nat} {one : WriteCall} {write' : Disk.Write},
      writers.calls[other]? = some (one, write') → write'.number? ≠ some writers.disk.drawn :=
    fun found uses => Nat.lt_irrefl _ (apart.drawn found uses)
  exact Stepped.apart {
    here := here
    calls := rfl
    process := apart.process
    few := few
    later := Nat.le_succ _
    drew := Nat.lt_succ_self _
    before := by simp [Disk.Write.number?]
    behind := by simp [Disk.Write.number?]
    unused := fun _ => unused
    spots := by
      intro place temporary
      split
      · rename_i same
        -- Whoever had filled that place would use the number.
        cases filled : writers.disk.files.get? place with
        | none => rfl
        | some item =>
          obtain ⟨other, one, write', number', found, uses, spot⟩ :=
            apart.owned temporary (by rw [filled]; rfl)
          rw [WriteCall.number_of_spot (spot.symm.trans same)] at uses
          exact absurd uses (unused found)
      · rfl
    rest := fun _ => apart.rest
    unfinished := by simp
    landed := Or.inl ⟨by simp, rfl⟩ } apart

/-- A call that writes to its temporary file changes nothing else. -/
theorem fill (apart : Apart start home writers) {next : Disk.Write} {bytes : List UInt8}
    (here : writers.calls[thread]? = some (call, write)) (uses : write.number? = some number)
    (goesOn : next.number? = some number) (item : next.item? call.image = some (.file bytes)) :
    Apart start home { writers with
      disk := writers.disk.withFiles
        (writers.disk.files.set (call.spot start home number) (.file bytes))
      calls := writers.calls.set thread (call, next) } := by
  have unfixed := Files.isFixed_eq_false (apart.own_free here uses)
  have changed : ∀ place,
      (writers.disk.files.set (call.spot start home number) (.file bytes)).get? place =
        if place = call.spot start home number then some (.file bytes)
        else writers.disk.files.get? place := fun place => Files.get?_set unfixed place
  exact Stepped.apart {
    here := here
    calls := rfl
    process := apart.process
    few := apart.few
    later := Nat.le_refl _
    drew := apart.drawn here uses
    before := by simp [uses]
    behind := by simp [goesOn]
    unused := apart.unused here uses
    spots := by
      intro place temporary
      rw [item]
      exact changed place
    rest := by
      intro place other
      -- The place is not that of a temporary file.
      have away : place ≠ call.spot start home number :=
        fun same => other (same ▸ spot_temporary call start home number)
      exact (changed place).trans ((if_neg away).trans (apart.rest other))
    unfinished := by
      rintro result rfl
      simp [Disk.Write.number?] at uses
    landed := by
      refine Or.inl ⟨?_, rfl⟩
      rintro result rfl
      simp [Disk.Write.number?] at goesOn } apart

/-- A call that brings its file to its goal leaves no temporary file. -/
theorem land (apart : Apart start home writers)
    (here : writers.calls[thread]? = some (call, .filled number)) :
    Apart start home { writers with
      disk := writers.disk.withFiles ((writers.disk.files.erase (call.spot start home number)).set
        (home ++ [call.name]) (.file call.image))
      calls := writers.calls.set thread (call, .ended (.ok ()))
      landed := call :: writers.landed } := by
  have suits := apart.suits here
  have free : writers.disk.files.get? (home ++ [call.name]) ≠ some .directory := by
    rw [apart.rest (goal_not_temporary suits)]
    exact content_ne_directory suits.free
  have changed : ∀ place, ((writers.disk.files.erase (call.spot start home number)).set
      (home ++ [call.name]) (.file call.image)).get? place =
      if place = home ++ [call.name] then some (.file call.image)
      else if place = call.spot start home number then none
      else writers.disk.files.get? place := by
    intro place
    rw [Files.get?_set (Files.isFixed_eq_false free),
      Files.get?_erase (Files.isFixed_eq_false (apart.own_free here rfl))]
  exact Stepped.apart {
    here := here
    calls := rfl
    process := apart.process
    few := apart.few
    later := Nat.le_refl _
    drew := apart.drawn here rfl
    before := by simp [Disk.Write.number?, eq_comm]
    behind := by simp [Disk.Write.number?]
    unused := apart.unused here rfl
    spots := by
      intro place temporary
      have away : place ≠ home ++ [call.name] :=
        fun same => goal_not_temporary suits (same ▸ temporary)
      exact (changed place).trans (if_neg away)
    rest := by
      intro place other
      have away : place ≠ call.spot start home number :=
        fun same => other (same ▸ spot_temporary call start home number)
      refine (changed place).trans ?_
      rw [content, List.find?_cons, suits.place_goal]
      -- The goal has what this call has brought, and the other places what they had.
      split
      · rename_i own
        simp [own]
      · rename_i apart_
        have unlike : (home ++ [call.name] == place) = false := by
          simpa using Ne.symm apart_
        simp only [unlike]
        rw [apart.rest other, content]
    unfinished := by simp
    landed := Or.inr ⟨rfl, rfl⟩ } apart

/-- Each step of a call leaves the calls apart. -/
theorem advance (apart : Apart start home writers)
    (empty : ∀ name, IsTemporary name → start.files.get? (home ++ [name]) = none)
    (process : start.process < 2 ^ 32)
    (few : (writers.take (.advance thread)).disk.drawn ≤ 2 ^ 64) :
    Apart start home (writers.take (.advance thread)) := by
  -- The step of each phase is one of the three kinds above, and an ended call takes none.
  cases here : writers.calls[thread]? with
  | none =>
    have same : writers.take (.advance thread) = writers := by simp [take, here]
    rw [same]
    exact apart
  | some pair =>
    obtain ⟨call, write⟩ := pair
    cases write with
    | waiting =>
      simp only [take, here, Disk.advanceWrite, Disk.Write.lands] at few ⊢
      exact apart.draw here few
    | drew number =>
      have wrote := apart.write_own empty process here rfl []
      simp only [take, here, Disk.advanceWrite, Disk.Write.lands, wrote]
      exact apart.fill here rfl rfl rfl
    | made number =>
      have wrote := apart.write_own empty process here rfl call.image
      simp only [take, here, Disk.advanceWrite, Disk.Write.lands, wrote]
      exact apart.fill here rfl rfl rfl
    | filled number =>
      have renamed := apart.rename_own empty process here
      simp only [take, here, Disk.advanceWrite, Disk.Write.lands, renamed]
      exact apart.land here
    | ended result =>
      have same : writers.calls.set thread (call, .ended result) = writers.calls := by
        obtain ⟨bound, entry⟩ := List.getElem?_eq_some_iff.mp here
        rw [← entry]
        exact List.set_getElem_self bound
      simp only [take, here, Disk.advanceWrite, Disk.Write.lands, same]
      exact apart

/-- A new call has no temporary file yet. -/
theorem begin (apart : Apart start home writers) {call : WriteCall}
    (suits : call.Suits start.files home) : Apart start home (writers.take (.begin call)) := by
  have calls : (writers.take (.begin call)).calls = writers.calls ++ [(call, .waiting)] := rfl
  have old : ∀ {thread : Nat} {one : WriteCall} {write : Disk.Write},
      writers.calls[thread]? = some (one, write) →
      (writers.calls ++ [(call, Disk.Write.waiting)])[thread]? = some (one, write) := by
    intro thread one write here
    rw [List.getElem?_append_left (List.getElem?_eq_some_iff.mp here).1]
    exact here
  -- A call that is not new was there before, and the new one waits.
  have known : ∀ {thread : Nat} {one : WriteCall} {write : Disk.Write},
      (writers.calls ++ [(call, Disk.Write.waiting)])[thread]? = some (one, write) →
      writers.calls[thread]? = some (one, write) ∨ one = call ∧ write = .waiting := by
    intro thread one write here
    rw [List.getElem?_append] at here
    split at here
    · exact Or.inl here
    · have among := List.mem_singleton.mp (List.mem_of_getElem? here)
      exact Or.inr (Prod.mk.inj among)
  have quiet : ∀ {write : Disk.Write} {number : Nat}, write = .waiting →
      write.number? ≠ some number := by
    rintro write number rfl
    simp [Disk.Write.number?]
  constructor
  case process => exact apart.process
  case few => exact apart.few
  case suits =>
    intro thread one write here
    rcases known here with here | ⟨rfl, -⟩
    · exact apart.suits here
    · exact suits
  case drawn =>
    intro thread one write number here uses
    rcases known here with here | ⟨-, waits⟩
    · exact apart.drawn here uses
    · exact absurd uses (quiet waits)
  case sole =>
    intro first second one two write other number here there uses uses'
    rcases known here with here | ⟨-, waits⟩
    · rcases known there with there | ⟨-, waits⟩
      · exact apart.sole here there uses uses'
      · exact absurd uses' (quiet waits)
    · exact absurd uses (quiet waits)
  case own =>
    intro thread one write number here uses
    rcases known here with here | ⟨-, waits⟩
    · exact apart.own here uses
    · exact absurd uses (quiet waits)
  case owned =>
    intro place temporary some_
    obtain ⟨thread, one, write, number, here, rest⟩ := apart.owned temporary some_
    exact ⟨thread, one, write, number, old here, rest⟩
  case rest => exact apart.rest
  case ended =>
    intro thread one result here
    rcases known here with here | ⟨-, waits⟩
    · exact apart.ended here
    · simp at waits
  case landed =>
    intro one among
    obtain ⟨thread, here⟩ := apart.landed among
    exact ⟨thread, old here⟩

/-- A reader changes nothing. -/
theorem read (apart : Apart start home writers) (path : Path) :
    Apart start home (writers.take (.read path)) := by
  -- A reader that succeeds is recorded, and the record is part of no clause.
  cases found : writers.disk.files.read path with
  | ok bytes =>
    simp only [take, found]
    exact ⟨apart.process, apart.few, apart.suits, apart.drawn, apart.sole, apart.own, apart.owned,
      apart.rest, apart.ended, apart.landed⟩
  | error fault =>
    simp only [take, found]
    exact apart

end Steps

/-- Every event leaves the calls apart. -/
theorem take (apart : Apart start home writers)
    (empty : ∀ name, IsTemporary name → start.files.get? (home ++ [name]) = none)
    (process : start.process < 2 ^ 32) {event : Event}
    (suits : ∀ call, event = .begin call → call.Suits start.files home)
    (few : (writers.take event).disk.drawn ≤ 2 ^ 64) : Apart start home (writers.take event) := by
  -- One case for each event.
  cases event with
  | begin call => exact apart.begin (suits call rfl)
  | advance thread => exact apart.advance empty process few
  | read path => exact apart.read path

/-- Before the first call nothing is there to be kept apart. -/
theorem first (start : Disk) {home : Location}
    (empty : ∀ name, IsTemporary name → start.files.get? (home ++ [name]) = none)
    (few : start.drawn ≤ 2 ^ 64) : Apart start home { disk := start } where
  process := rfl
  few := few
  suits := by simp
  drawn := by simp
  sole := by simp
  own := by simp
  -- A temporary file that stands there would have been there before the first call.
  owned := by
    rintro place ⟨name, temporary, rfl⟩ some_
    rw [empty name temporary] at some_
    simp at some_
  rest := by simp [content]
  ended := by simp
  landed := by simp

end Apart

/-- A call that has landed has done so in every later state. -/
theorem landed_take {call : WriteCall} (among : call ∈ writers.landed) (event : Event) :
    call ∈ (writers.take event).landed := by
  -- Only a step of a call can add to the landed ones.
  cases event with
  | begin other => exact among
  | advance thread =>
    simp only [take]
    split
    · exact among
    · simp only
      split
      · exact List.mem_cons_of_mem _ among
      · exact among
  | read path =>
    simp only [take]
    split <;> exact among

/-- A file of the directory holds what it held in the beginning, or the whole of what a call for it
has brought there. -/
def Whole (writers : Writers) (start : Disk) (place : Location) (item? : Option Item) : Prop :=
  item? = start.files.get? place ∨
    ∃ call ∈ writers.landed, call.goal.place = place ∧ item? = some (.file call.image)

/-- What was whole is so in every later state. -/
theorem Whole.take {place : Location} {item? : Option Item}
    (whole : writers.Whole start place item?) (event : Event) :
    (writers.take event).Whole start place item? := by
  -- A call that has landed stays so, whatever it has brought.
  rcases whole with same | ⟨call, among, there, brought⟩
  · exact Or.inl same
  · exact Or.inr ⟨call, landed_take among event, there, brought⟩

/-- In every state the files of the directory are whole. -/
theorem Apart.whole (apart : Apart start home writers) {place : Location}
    (other : ¬ home.IsTemporaryIn place) :
    writers.Whole start place (writers.disk.files.get? place) := by
  rw [apart.rest other, content]
  -- The last call that has brought its file there counts.
  cases brought : writers.landed.find? (·.goal.place == place) with
  | none => exact Or.inl rfl
  | some call =>
    exact Or.inr ⟨call, List.mem_of_find?_eq_some brought,
      by simpa using List.find?_some brought, rfl⟩

/-- What readers have read of the files of the directory was whole. -/
def Told (start : Disk) (home : Location) (writers : Writers) : Prop :=
  ∀ path bytes, (path, bytes) ∈ writers.readings → ¬ home.IsTemporaryIn path.place →
    writers.Whole start path.place (some (.file bytes))

/-- Each event leaves what readers have read, and what is read next is whole. -/
theorem Told.take (told : Told start home writers) (apart : Apart start home writers)
    (event : Event) : Told start home (writers.take event) := by
  intro path bytes among other
  have old : (path, bytes) ∈ writers.readings →
      (writers.take event).Whole start path.place (some (.file bytes)) :=
    fun among => (told path bytes among other).take event
  -- Only a reader adds to what was read, and what it reads is whole at that time.
  cases event with
  | begin call => exact old among
  | advance thread =>
    refine old ?_
    simp only [Writers.take] at among
    split at among <;> exact among
  | read path' =>
    cases found : writers.disk.files.read path' with
    | error fault =>
      refine old ?_
      simp only [Writers.take, found] at among
      exact among
    | ok bytes' =>
      have grown : (path, bytes) ∈ (path', bytes') :: writers.readings := by
        simp only [Writers.take, found] at among
        exact among
      rcases List.mem_cons.mp grown with new | among
      · obtain ⟨rfl, rfl⟩ := Prod.mk.inj new
        rw [← Files.get?_of_read found]
        exact (apart.whole other).take _
      · exact old among

/-- In every run the calls stay apart, and readers read whole files. -/
theorem run_apart (apart : Apart start home writers) (told : Told start home writers)
    (empty : ∀ name, IsTemporary name → start.files.get? (home ++ [name]) = none)
    (process : start.process < 2 ^ 32) (events : List Event)
    (suits : ∀ call, .begin call ∈ events → call.Suits start.files home)
    (few : (writers.run events).disk.drawn ≤ 2 ^ 64) :
    Apart start home (writers.run events) ∧ Told start home (writers.run events) := by
  -- One event after the other.
  induction events generalizing writers with
  | nil => exact ⟨apart, told⟩
  | cons event events ih =>
    have few' : (writers.take event).disk.drawn ≤ 2 ^ 64 :=
      Nat.le_trans (drawn_le_run (writers.take event) events) few
    have first : ∀ call, event = .begin call → call.Suits start.files home := by
      rintro call rfl
      exact suits call List.mem_cons_self
    exact ih (apart.take empty process first few') (told.take apart event)
      (fun call among => suits call (List.mem_cons_of_mem _ among)) few

/-- With each step of its own a call comes closer to its end, and only the first step draws a name.
-/
theorem Apart.left_advance (apart : Apart start home writers)
    (empty : ∀ name, IsTemporary name → start.files.get? (home ++ [name]) = none)
    (process : start.process < 2 ^ 32) {thread : Nat} {call : WriteCall} {write : Disk.Write}
    (here : writers.calls[thread]? = some (call, write)) :
    ∃ next, (writers.take (.advance thread)).calls[thread]? = some (call, next) ∧
      next.left = write.left - 1 ∧ next.draws = 0 ∧
      (writers.take (.advance thread)).disk.drawn = writers.disk.drawn + write.draws := by
  have there : thread < writers.calls.length := (List.getElem?_eq_some_iff.mp here).1
  have placed : ∀ next, (writers.calls.set thread (call, next))[thread]? = some (call, next) :=
    fun next => List.getElem?_set_self there
  -- No step of a call fails, for its temporary file is its own.
  cases write with
  | waiting =>
    refine ⟨.drew writers.disk.drawn, ?_, rfl, rfl, ?_⟩
    · simp only [Writers.take, here, Disk.advanceWrite, placed]
    · simp only [Writers.take, here, Disk.advanceWrite]
      rfl
  | drew number =>
    have wrote := apart.write_own empty process here rfl []
    refine ⟨.made number, ?_, rfl, rfl, ?_⟩
    · simp only [Writers.take, here, Disk.advanceWrite, wrote, placed]
    · simp only [Writers.take, here, Disk.advanceWrite, wrote]
      rfl
  | made number =>
    have wrote := apart.write_own empty process here rfl call.image
    refine ⟨.filled number, ?_, rfl, rfl, ?_⟩
    · simp only [Writers.take, here, Disk.advanceWrite, wrote, placed]
    · simp only [Writers.take, here, Disk.advanceWrite, wrote]
      rfl
  | filled number =>
    have renamed := apart.rename_own empty process here
    refine ⟨.ended (.ok ()), ?_, rfl, rfl, ?_⟩
    · simp only [Writers.take, here, Disk.advanceWrite, renamed, placed]
    · simp only [Writers.take, here, Disk.advanceWrite, renamed]
      rfl
  | ended result =>
    refine ⟨.ended result, ?_, rfl, rfl, ?_⟩
    · simp only [Writers.take, here, Disk.advanceWrite, placed]
    · simp only [Writers.take, here, Disk.advanceWrite]
      rfl

/-- A call that takes all the steps that it has left ends, and succeeds. -/
theorem Apart.ends (apart : Apart start home writers)
    (empty : ∀ name, IsTemporary name → start.files.get? (home ++ [name]) = none)
    (process : start.process < 2 ^ 32) {thread steps : Nat} {call : WriteCall} {write : Disk.Write}
    (here : writers.calls[thread]? = some (call, write)) (enough : write.left ≤ steps)
    (few : writers.disk.drawn + write.draws ≤ 2 ^ 64) :
    (writers.run (List.replicate steps (.advance thread))).calls[thread]? =
      some (call, .ended (.ok ())) := by
  -- Step by step.
  induction steps generalizing writers write with
  | zero =>
    obtain ⟨result, rfl⟩ := Disk.Write.exists_ended (Nat.le_zero.mp enough)
    obtain ⟨rfl, -⟩ := apart.ended here
    exact here
  | succ steps ih =>
    obtain ⟨next, there, closer, quiet, drawn⟩ := apart.left_advance empty process here
    refine ih (apart.advance empty process (drawn ▸ few)) there (by omega) ?_
    rw [quiet, drawn]
    exact few

/-- Writes of modules to files of one directory, for whatever files, from whatever caches of a
process, and with their steps in whatever order, and readers beside them; in the beginning there is
no temporary file, and no directory where a module is to go. Every call succeeds, and does so as
soon as it has taken its four steps. At every time each module's file holds what it held in the
beginning or the whole image of the words of a call for it that has ended, and so does whatever a
reader has read of it. When all calls have ended each file that was written holds the image of the
call that was the last one to be moved there, and no temporary file is left. -/
theorem run_without_collision {start : Disk} {home : Location}
    (empty : ∀ name, IsTemporary name → start.files.get? (home ++ [name]) = none)
    (process : start.process < 2 ^ 32) (events : List Event)
    (suits : ∀ call, .begin call ∈ events → call.Suits start.files home)
    (few : (Writers.run { disk := start } events).disk.drawn < 2 ^ 64) :
    let after := Writers.run { disk := start } events
    (∀ (thread : Nat) (call : WriteCall) (write : Disk.Write),
      after.calls[thread]? = some (call, write) →
      (∀ result, write = .ended result → result = .ok ()) ∧
        (after.run (List.replicate 4 (.advance thread))).calls[thread]? =
          some (call, .ended (.ok ()))) ∧
    (∀ name, IsModuleName name →
      after.Whole start (home ++ [name]) (after.disk.files.get? (home ++ [name]))) ∧
    (∀ path bytes name, (path, bytes) ∈ after.readings → IsModuleName name →
      path.place = home ++ [name] → after.Whole start (home ++ [name]) (some (.file bytes))) ∧
    (∀ call ∈ after.landed, ∃ thread : Nat, after.calls[thread]? = some (call, .ended (.ok ()))) ∧
    ((∀ thread ∈ after.calls, ∃ result, thread.2 = .ended result) →
      (∀ thread ∈ after.calls, ∃ last,
        after.landed.find? (·.goal.place == thread.1.goal.place) = some last ∧
        after.disk.files.get? thread.1.goal.place = some (.file last.image)) ∧
      ∀ name, IsTemporary name → after.disk.files.get? (home ++ [name]) = none) := by
  intro after
  have early : start.drawn ≤ 2 ^ 64 :=
    Nat.le_trans (drawn_le_run { disk := start } events) (Nat.le_of_lt few)
  obtain ⟨apart, told⟩ : Apart start home after ∧ Told start home after :=
    run_apart (.first start empty early) (by simp [Told]) empty process events suits
      (Nat.le_of_lt few)
  have module : ∀ {name : String}, IsModuleName name → ¬ home.IsTemporaryIn (home ++ [name]) := by
    rintro name module ⟨other, temporary, same⟩
    obtain rfl : name = other := (List.cons.inj (List.append_inj' same rfl).2).1
    exact module.not_isTemporary temporary
  refine ⟨?_, ?_, ?_, fun call => apart.landed, ?_⟩
  · intro thread call write here
    refine ⟨?_, ?_⟩
    · rintro result rfl
      exact (apart.ended here).1
    · -- One more name may be drawn, and there is one left.
      have room : after.disk.drawn + write.draws ≤ 2 ^ 64 := by
        have one : write.draws ≤ 1 := by cases write <;> simp [Disk.Write.draws]
        exact Nat.le_trans (Nat.add_le_add_left one _) few
      have four : write.left ≤ 4 := by cases write <;> simp [Disk.Write.left]
      exact apart.ends empty process here four room
  · intro name named
    exact apart.whole (module named)
  · intro path bytes name among named there
    rw [← there]
    exact told path bytes among (there ▸ module named)
  · intro ended
    refine ⟨?_, ?_⟩
    · rintro ⟨call, write⟩ among
      obtain ⟨thread, here⟩ := List.getElem?_of_mem among
      obtain ⟨result, rfl⟩ := ended _ among
      have other : ¬ home.IsTemporaryIn call.goal.place := by
        rw [(apart.suits here).place_goal]
        exact module (apart.suits here).module
      -- The call itself has been moved there, and so there is a last one.
      have some_ : (after.landed.find? (·.goal.place == call.goal.place)).isSome = true :=
        List.find?_isSome.mpr ⟨call, (apart.ended here).2, by simp⟩
      obtain ⟨last, brought⟩ := Option.isSome_iff_exists.mp some_
      refine ⟨last, brought, ?_⟩
      rw [apart.rest other, content, brought]
    · intro name temporary
      cases found : after.disk.files.get? (home ++ [name]) with
      | none => rfl
      | some item =>
        -- Whoever had a temporary file would not have ended.
        obtain ⟨thread, call, write, number, here, uses, -⟩ :=
          apart.owned ⟨name, temporary, rfl⟩ (by rw [found]; rfl)
        obtain ⟨result, rfl⟩ := ended _ (List.mem_of_getElem? here)
        simp [Disk.Write.number?] at uses

/-- A directory without files. -/
def oneDirectory : Disk :=
  { files := ⟨[(["d"], .directory)]⟩ }

/-- A call for the one file of that directory. -/
def callOf (word : UInt32) : WriteCall :=
  ⟨⟨"d"⟩, "module.spv", [spirvMagic, word]⟩

/-- There is room for the file in the directory. -/
theorem suits_callOf (word : UInt32) : (callOf word).Suits oneDirectory.files ["d"] where
  -- Everything about the call is computed from its fixed path.
  module := by
    show IsModuleName "module.spv"
    exact ⟨⟨"module".toList, by decide⟩, by decide⟩
  targeted := by
    show oneDirectory.files.target (Path.join ⟨"d"⟩ "module.spv") =
      .ok (.named ["d", "module.spv"] false)
    rfl
  free := by
    show oneDirectory.files.get? ["d", "module.spv"] ≠ some .directory
    decide
  fits := by
    show "module.spv".utf8ByteSize + Disk.tailSize ≤ 255
    decide
  short := by
    show (Path.join ⟨"d"⟩ "module.spv").text.utf8ByteSize + Disk.tailSize < 4096
    decide +kernel

/-- Two calls for one file, of which the second one overtakes the first one. -/
theorem run_without_collision_of_overtaking :
    let events : List Event := [.begin (callOf 1), .begin (callOf 2), .advance 0, .advance 0,
      .advance 1, .advance 1, .advance 1, .advance 1, .read (callOf 1).goal, .advance 0, .advance 0]
    let after := Writers.run { disk := oneDirectory } events
    after.readings = [((callOf 1).goal, (callOf 2).image)] ∧
      after.disk.files.get? (callOf 1).goal.place = some (.file (callOf 1).image) ∧
      ∀ name, IsTemporary name → after.disk.files.get? (["d"] ++ [name]) = none := by
  intro events after
  have empty : ∀ name, IsTemporary name →
      oneDirectory.files.get? (["d"] ++ [name]) = none := by
    intro name temporary
    simp [oneDirectory, Files.get?, Location.isFixed, Location.root]
  have begun : ∀ call, .begin call ∈ events → call.Suits oneDirectory.files ["d"] := by
    intro call among
    simp only [events, List.mem_cons, Event.begin.injEq, reduceCtorEq, List.not_mem_nil,
      or_false] at among
    rcases among with rfl | rfl
    · exact suits_callOf 1
    · exact suits_callOf 2
  obtain ⟨-, -, -, done, last⟩ :=
    run_without_collision empty (by decide) events begun (by decide +kernel)
  have same : Writers.run { disk := oneDirectory } events = after := rfl
  rw [same] at done last
  have landed : after.landed = [callOf 1, callOf 2] := by decide +kernel
  have readings : after.readings = [((callOf 1).goal, (callOf 2).image)] := by decide +kernel
  have spent : after.calls.all (·.2.left == 0) = true := by decide +kernel
  -- From here on only these facts about the run count.
  clear_value after
  have ended : ∀ thread ∈ after.calls, ∃ result, thread.2 = .ended result := by
    rintro ⟨call, write⟩ among
    have none_ : write.left = 0 := by simpa using List.all_eq_true.mp spent _ among
    exact Disk.Write.exists_ended none_
  obtain ⟨files, left⟩ := last ended
  refine ⟨readings, ?_, left⟩
  obtain ⟨thread, here⟩ := done (callOf 1) (by rw [landed]; simp)
  obtain ⟨final, brought, found⟩ := files _ (List.mem_of_getElem? here)
  rw [landed, List.find?_cons_of_pos (by simp), Option.some.injEq] at brought
  rw [← brought] at found
  exact found

end Writers

end ShaderBuild
