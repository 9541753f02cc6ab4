import ShaderBuild.Cache.Record
import ShaderBuild.Proofs.Cache.Ceiling
import ShaderBuild.Proofs.Cache.Deeds

/-! The counters of a cache agree with the record of somebody who watches it. -/

namespace ShaderBuild

namespace Phase

/-- A request that no counter shows yet. -/
def isArriving : Phase → Bool
  | .arriving => true
  | _ => false

/-- A miss of which it is not known yet whether the disk has its module. -/
def isLeading : Phase → Bool
  | .leading _ => true
  | _ => false

end Phase

/-- The counters of a cache and the number of its entries. -/
structure Figures where
  stats : Stats
  entries : Nat

/-- The counters of the cache of a service and the number of its entries. -/
def Service.figures (service : Service) : Figures :=
  ⟨service.cache.stats, service.cache.shelf.size⟩

/-- What one step of a request does to the figures, when the compiler would end on it like this. -/
inductive Figures.Step (outcome : CompileOutcome) : Phase → Figures → Phase → Figures → Prop where
  /-- The key is in memory. -/
  | hit {figures : Figures} {answer : Answer} :
    Step outcome .arriving figures (.answered answer)
      { figures with stats := { figures.stats with hits := figures.stats.hits + 1 } }
  /-- Another request compiles the key. -/
  | join {figures : Figures} {id : FlightId} :
    Step outcome .arriving figures (.following id)
      { figures with stats := { figures.stats with coalesced := figures.stats.coalesced + 1 } }
  /-- The request is the first for its key. -/
  | lead {figures : Figures} {id : FlightId} :
    Step outcome .arriving figures (.leading id)
      { figures with stats := { figures.stats with misses := figures.stats.misses + 1 } }
  /-- The module is on the disk. -/
  | load {figures : Figures} {id : FlightId} {answer : Answer} :
    Step outcome (.leading id) figures (.produced id answer)
      { figures with stats := { figures.stats with diskHits := figures.stats.diskHits + 1 } }
  /-- The compiler is called. -/
  | call {figures : Figures} {id : FlightId} :
    Step outcome (.leading id) figures (.compiling id)
      { figures with
        stats := { figures.stats with compilations := figures.stats.compilations + 1 } }
  /-- The compiler comes back. -/
  | comeBack {figures : Figures} {id : FlightId} {answer : Answer} :
    Step outcome (.compiling id) figures (.produced id answer)
      { figures with
        stats := { figures.stats with
          failures := figures.stats.failures + if outcome.isFailure then 1 else 0 } }
  /-- The module is put in memory, and some entries have made room for it. -/
  | keep {figures : Figures} {id : FlightId} {made : Answer} {shared : Shared}
    {evicted entries : Nat} (balance : entries + evicted = figures.entries + 1) :
    Step outcome (.produced id made) figures (.settled id (.returned (.ok shared)))
      ⟨{ figures.stats with evictions := figures.stats.evictions + evicted }, entries⟩
  /-- There is no module to be put in memory, or it is too large. -/
  | fail {figures : Figures} {id : FlightId} {made final : Answer}
    (fails : (Phase.settled id final).isGranted = false) :
    Step outcome (.produced id made) figures (.settled id final) figures
  /-- The leader is answered. -/
  | publish {figures : Figures} {id : FlightId} {answer : Answer} :
    Step outcome (.settled id answer) figures (.answered answer) figures
  /-- A request goes on to wait. -/
  | wait {figures : Figures} {id : FlightId} :
    Step outcome (.following id) figures (.following id) figures
  /-- A request that has waited is answered. -/
  | hear {figures : Figures} {id : FlightId} {answer : Answer} :
    Step outcome (.following id) figures (.answered answer) figures
  /-- A request that is answered stays so. -/
  | rest {figures : Figures} {answer : Answer} :
    Step outcome (.answered answer) figures (.answered answer) figures

/-- Whatever a step counts in one place it counts in another one, or it brings its request from one
phase to the next, or it lets it see. -/
structure Figures.Conserved (outcome : CompileOutcome) (phase next : Phase)
    (before after : Figures) : Prop where
  calls : after.stats.hits + after.stats.misses + after.stats.coalesced +
      (if next.isArriving then 1 else 0) =
    before.stats.hits + before.stats.misses + before.stats.coalesced +
      if phase.isArriving then 1 else 0
  misses : after.stats.diskHits + after.stats.compilations + (if next.isLeading then 1 else 0) +
      before.stats.misses =
    before.stats.diskHits + before.stats.compilations + (if phase.isLeading then 1 else 0) +
      after.stats.misses
  invocations : after.stats.compilations =
    before.stats.compilations + if next.isCompiling then 1 else 0
  failures : after.stats.failures = before.stats.failures + (phase.seen outcome).errors
  entries : after.entries + after.stats.evictions =
    before.entries + before.stats.evictions + if next.isGranted then 1 else 0

/-- Every step of the figures conserves what they show together. -/
theorem Figures.Step.conserved {outcome : CompileOutcome} {phase next : Phase}
    {before after : Figures} (step : Figures.Step outcome phase before next after) :
    Figures.Conserved outcome phase next before after := by
  -- In each case the phases are known, and the counters differ as the case says.
  cases step with
  | @keep _ _ _ _ evicted entries balance =>
    refine ⟨rfl, rfl, rfl, rfl, ?_⟩
    show entries + (before.stats.evictions + evicted) = before.entries + before.stats.evictions + 1
    omega
  | fail fails =>
    refine ⟨rfl, rfl, rfl, rfl, ?_⟩
    rw [fails]
    rfl
  | hit | join | lead | load | call =>
    constructor
    all_goals
      simp only [Phase.isArriving, Phase.isLeading, Phase.isCompiling, Phase.isGranted, Phase.seen,
        Bool.false_and, Bool.false_eq_true, if_true, if_false]
    all_goals omega
  | comeBack | publish | wait | hear | rest => exact ⟨rfl, rfl, rfl, rfl, rfl⟩

namespace Shelf

/-- Stamps leave the number of entries. -/
theorem size_touch (shelf : Shelf) (key : Fingerprint) : (shelf.touch key).2.size = shelf.size :=
  List.length_map _

/-- What made room and what is left are as many as there were. -/
theorem Accounted.size_room {shelf : Shelf} (accounted : shelf.Accounted) (limit? : Option Nat)
    (size : Nat) :
    (Shelf.room limit? size shelf).2.size + (Shelf.room limit? size shelf).1.length = shelf.size := by
  -- The entries that go and those that stay are all there were, in some order.
  have together := (accounted.perm_room limit? size).length_eq
  simp only [List.length_map, List.length_append] at together
  show (Shelf.room limit? size shelf).2.entries.length + _ = shelf.entries.length
  omega

/-- A module of a key without an entry is one entry more. -/
theorem size_insert_of_absent {shelf : Shelf} {key : Fingerprint}
    (absent : shelf.held? key = none) (shared : Shared) :
    (shelf.insert key shared).2.size = shelf.size + 1 := by
  -- No older entry of the key is dropped.
  have same : eraseKey key shelf.entries = shelf.entries :=
    eraseKey_of_absent (held?_eq_none_iff.mp absent)
  show ((key, _) :: eraseKey key shelf.entries).length = shelf.entries.length + 1
  rw [same, List.length_cons]

/-- Taking the entry of a key out leaves no more entries than there were. -/
theorem size_remove_le (shelf : Shelf) (key : Fingerprint) :
    (shelf.remove key).2.size ≤ shelf.size := by
  -- A filtered list is not longer.
  unfold Shelf.remove
  split
  · exact Nat.le_refl _
  · exact List.length_filter_le _ _

end Shelf

namespace Service

/-- A request that arrives is counted as a hit, as a follower, or as a miss. -/
theorem arrive_figures (service : Service) (job : Job) (outcome : CompileOutcome) :
    Figures.Step outcome .arriving service.figures (service.arrive job).2
      (service.arrive job).1.figures := by
  -- A look for a key leaves the number of entries.
  have same : (service.withShelf (service.cache.shelf.touch job.key).2).figures = service.figures :=
    congrArg (Figures.mk _) (Shelf.size_touch _ _)
  rw [← same]
  unfold arrive
  split
  · rename_i shared shelf touched
    rw [touched]
    exact .hit
  · rename_i shelf touched
    rw [touched]
    simp only
    split
    · exact .join
    · exact .lead

/-- A leader is counted as one that finds its module on the disk or as one that compiles. -/
theorem lead_figures (service : Service) (job : Job) (id : FlightId) (outcome : CompileOutcome) :
    Figures.Step outcome (.leading id) service.figures (service.lead job id).2
      (service.lead job id).1.figures := by
  -- The look on the disk changes the disk and makes notes.
  obtain ⟨notes, loaded⟩ := service.loadFromDisk_eq job
  unfold lead
  rw [loaded]
  cases (service.disk.search (service.cache.diskPath? job.key)).1 with
  | none => exact .call
  | some bytecode => exact .load

/-- A compiler that comes back with a failure is counted, and one that breaks down is not. -/
theorem compile_figures (service : Service) (job : Job) (id : FlightId) :
    Figures.Step (service.cache.compiler.compile job.request service.cache.options)
      (.compiling id) service.figures (service.compile job id).2
      (service.compile job id).1.figures := by
  unfold compile
  simp only
  split
  · rename_i message broke
    rw [broke]
    exact .comeBack
  · rename_i failure failed
    rw [failed]
    exact .comeBack
  · rename_i bytecode compiled
    rw [compiled]
    -- A module that is too large is no failure of the compiler.
    split
    · exact .comeBack
    · obtain ⟨notes, stored⟩ := (service.noteAll
        (service.cache.compiler.notes job.request service.cache.options)).storeToDisk_eq job bytecode
      simp only [stored]
      exact .comeBack

/-- A module that is kept is one entry more, and each entry that makes room for it is one less. -/
theorem keep_figures (service : Service) (key : Fingerprint) (shared : Shared)
    (accounted : service.cache.shelf.Accounted) (absent : service.cache.shelf.held? key = none)
    (outcome : CompileOutcome) (made : Answer) (id : FlightId) :
    Figures.Step outcome (.produced id made) service.figures
      (.settled id (.returned (service.keep key shared).1))
      (service.keep key shared).2.figures := by
  rcases checkFits_cases service.cache shared.bytecode with ⟨-, fits⟩ | ⟨limit, bounded, large, -⟩
  · obtain ⟨after, kept, -, -, stock⟩ := service.keep_of_fits key fits absent
    rw [kept]
    let room := service.cache.shelf.room service.cache.memoryLimit shared.bytecode.byteLength
    have stats : after.cache.stats =
        { service.cache.stats with
          evictions := service.cache.stats.evictions + room.1.length } :=
      congrArg Stock.stats stock
    have shelf : after.cache.shelf = (room.2.insert key shared).2 := congrArg Stock.shelf stock
    -- What makes room is taken out of the entries, and the module has no entry yet.
    have balance : after.cache.shelf.size + room.1.length = service.cache.shelf.size + 1 := by
      have fewer : room.2.size + room.1.length = service.cache.shelf.size :=
        accounted.size_room _ _
      have more : (room.2.insert key shared).2.size = room.2.size + 1 :=
        Shelf.size_insert_of_absent (Shelf.held?_room_of_none absent) shared
      rw [shelf, more]
      omega
    have step : Figures.Step outcome (.produced id made) service.figures
        (.settled id (.returned (.ok shared)))
        ⟨{ service.cache.stats with
          evictions := service.cache.stats.evictions + room.1.length }, after.cache.shelf.size⟩ :=
      .keep balance
    show Figures.Step outcome _ _ _ ⟨after.cache.stats, after.cache.shelf.size⟩
    rw [stats]
    exact step
  · rw [service.keep_of_large key bounded large]
    exact .fail rfl

/-- A leader that settles on a module puts it in memory if it fits. -/
theorem settle_figures (service : Service) (job : Job) (id : FlightId) (made : Answer)
    (accounted : service.cache.shelf.Accounted)
    (absent : service.cache.shelf.held? job.key = none) (outcome : CompileOutcome) :
    Figures.Step outcome (.produced id made) service.figures (service.settle job id made).2
      (service.settle job id made).1.figures := by
  cases made with
  | panicked message => exact .fail rfl
  | returned result =>
    cases result with
    | error failure => exact .fail rfl
    | ok shared =>
      -- Leaving the table of flights changes no figure.
      let left : Service := { service with
        cache := { service.cache with
          inFlight := service.cache.inFlight.filter (·.1 != job.key) } }
      exact left.keep_figures job.key shared accounted absent outcome _ id

/-- A leader that is answered changes no figure. -/
theorem publish_figures (service : Service) (job : Job) (id : FlightId) (answer : Answer)
    (outcome : CompileOutcome) :
    Figures.Step outcome (.settled id answer) service.figures (service.publish job id answer).2
      (service.publish job id answer).1.figures := by
  -- Publishing wakes followers, and counts nothing.
  have same : (service.publish job id answer).1.figures = service.figures := by
    unfold publish
    simp only
    split
    · rfl
    · cases outcomeFor job answer <;> rfl
  rw [same]
  exact .publish

/-- A request that waits changes no figure. -/
theorem follow_figures (service : Service) (id : FlightId) (outcome : CompileOutcome) :
    Figures.Step outcome (.following id) service.figures (service.follow id).2
      (service.follow id).1.figures := by
  unfold follow
  split
  · rename_i followers told _
    -- Handles are retained and given up, and the flight may go.
    cases told <;> simp only <;> split <;> exact .hear
  · exact .wait

/-- Every step of a request is a step of the figures. -/
theorem advance_figures (service : Service) (job : Job) (phase : Phase)
    (accounted : service.cache.shelf.Accounted)
    (absent : ∀ id, phase.slot? = some id → service.cache.shelf.held? job.key = none) :
    Figures.Step (service.cache.compiler.compile job.request service.cache.options) phase
      service.figures (service.advance job phase).2 (service.advance job phase).1.figures := by
  -- Each phase has a lemma of its own.
  cases phase with
  | arriving => exact arrive_figures service job _
  | following id => exact follow_figures service id _
  | leading id => exact lead_figures service job id _
  | compiling id => exact compile_figures service job id
  | produced id made => exact settle_figures service job id made accounted (absent id rfl) _
  | settled id answer => exact publish_figures service job id answer _
  | answered answer => exact .rest

/-- A module that is kept changes the count of evictions at most. -/
theorem keep_stats (service : Service) (key : Fingerprint) (shared : Shared) :
    ∃ evictions, (service.keep key shared).2.cache.stats =
      { service.cache.stats with evictions := evictions } := by
  -- An older module of the key may be released, which only concerns the heap.
  unfold keep
  split
  · exact ⟨_, rfl⟩
  · simp only [releaseEntries_eq]
    exact ⟨_, rfl⟩

/-- A leader that settles changes the count of evictions at most. -/
theorem settle_stats (service : Service) (job : Job) (id : FlightId) (made : Answer) :
    ∃ evictions, (service.settle job id made).1.cache.stats =
      { service.cache.stats with evictions := evictions } := by
  -- Only a module is kept; a failure and a breakdown are passed on.
  cases made with
  | panicked message => exact ⟨_, rfl⟩
  | returned result =>
    cases result with
    | error failure => exact ⟨_, rfl⟩
    | ok shared =>
      let left : Service := { service with
        cache := { service.cache with
          inFlight := service.cache.inFlight.filter (·.1 != job.key) } }
      exact left.keep_stats job.key shared

end Service

/-- The failures that are counted or will be when the compiler comes back, less those that the calls
so far come to, when the compiler fails or does not. -/
def Phase.failureBalance (phase : Phase) (fails : Bool) (stats : Stats) : Int :=
  if fails then
    (stats.failures + if phase.isCompiling then 1 else 0 : Nat) - stats.compilations
  else stats.failures

/-- A step that conserves the figures keeps the balance of failures. -/
theorem Figures.Conserved.failureBalance {outcome : CompileOutcome} {phase next : Phase}
    {before after : Figures} (conserved : Figures.Conserved outcome phase next before after)
    (fails : Bool) (same : outcome.isFailure = fails) :
    next.failureBalance fails after.stats = phase.failureBalance fails before.stats := by
  -- Calls and failures rise together if the compiler fails, and failures not at all otherwise.
  have calls := conserved.invocations
  have failures := conserved.failures
  simp only [Phase.seen, same] at failures
  cases fails with
  | false =>
    simp only [Bool.and_false, Bool.false_eq_true, if_false, Nat.add_zero] at failures
    simp [Phase.failureBalance, failures]
  | true =>
    simp only [Bool.and_true] at failures
    simp only [Phase.failureBalance, if_true, calls, failures]
    omega

namespace Service

/-- Every step of a request keeps the balance of failures. -/
theorem advance_failureBalance (service : Service) (job : Job) (phase : Phase) {fails : Bool}
    (same : (service.cache.setting.outcome job.request).isFailure = fails) :
    (service.advance job phase).2.failureBalance fails
        (service.advance job phase).1.cache.stats =
      phase.failureBalance fails service.cache.stats := by
  let outcome := service.cache.setting.outcome job.request
  cases phase with
  | arriving => exact (service.arrive_figures job outcome).conserved.failureBalance fails same
  | following id => exact (service.follow_figures id outcome).conserved.failureBalance fails same
  | leading id => exact (service.lead_figures job id outcome).conserved.failureBalance fails same
  | compiling id => exact (service.compile_figures job id).conserved.failureBalance fails same
  | settled id answer =>
    exact (service.publish_figures job id answer outcome).conserved.failureBalance fails same
  | produced id made =>
    -- What settles counts evictions only, and these may be of any number here.
    obtain ⟨evictions, stats⟩ := service.settle_stats job id made
    have quiet : (service.settle job id made).2.isCompiling = false := by
      unfold settle
      split <;> rfl
    show (service.settle job id made).2.failureBalance fails _ = _
    rw [show (service.advance job (.produced id made)).1.cache.stats = _ from stats]
    simp only [Phase.failureBalance, quiet]
    rfl
  | answered answer => rfl

/-- All steps of a request together keep the balance of failures. -/
theorem proceed_failureBalance (job : Job) (steps : Nat) (service : Service) (phase : Phase)
    {fails : Bool} (same : (service.cache.setting.outcome job.request).isFailure = fails) :
    (proceed job steps service phase).2.failureBalance fails
        (proceed job steps service phase).1.cache.stats =
      phase.failureBalance fails service.cache.stats := by
  -- One step after the other, under the same settings.
  induction steps generalizing service phase with
  | zero => rfl
  | succ steps ih =>
    have setting : (service.advance job phase).1.cache.setting = service.cache.setting :=
      (service.advance_step job phase).setting
    exact (ih _ _ (setting ▸ same)).trans (service.advance_failureBalance job phase same)

/-- Of a request that is answered a failure is counted exactly if it called the compiler and the
compiler fails. -/
theorem request_failures {service after : Service} {request : Request} {answer : Answer}
    (ends : service.request request = (after, .answered answer)) :
    after.cache.stats.failures + (if (service.cache.setting.outcome request).isFailure then
        service.cache.stats.compilations else 0) =
      service.cache.stats.failures + (if (service.cache.setting.outcome request).isFailure then
        after.cache.stats.compilations else 0) := by
  -- Each step keeps the balance, and an answered request is not compiling any more.
  have kept := proceed_failureBalance (service.jobOf request) 5 service .arriving rfl
  have ends' : proceed (service.jobOf request) 5 service .arriving = (after, .answered answer) :=
    ends
  rw [ends'] at kept
  have own : (service.jobOf request).request = request := rfl
  simp only [Phase.failureBalance, Phase.isCompiling, own, Bool.false_eq_true, if_false,
    Nat.add_zero] at kept
  split
  · rename_i fails
    rw [if_pos fails, if_pos fails] at kept
    omega
  · rename_i succeeds
    rw [if_neg succeeds, if_neg succeeds] at kept
    omega

end Service

/-- It does not matter which of three records are put together first. -/
theorem Record.add_assoc (first second third : Record) :
    (first.add second).add third = first.add (second.add third) := by
  simp [Record.add, Nat.add_assoc]

/-- Nothing seen adds nothing. -/
theorem Record.empty_add (record : Record) : Record.add {} record = record := by
  simp [Record.add]

namespace Crowd

/-- The counters of the cache of a crowd and the number of its entries. -/
def figures (crowd : Crowd) : Figures := crowd.service.figures

/-- The figures, the record and the requests under way fit together. -/
structure Balanced (crowd : Crowd) (record : Record) : Prop where
  /-- Each request has been counted once, unless it has only just arrived. -/
  calls : crowd.figures.stats.hits + crowd.figures.stats.misses + crowd.figures.stats.coalesced +
    crowd.number Phase.isArriving = record.calls
  /-- Each miss has been counted once more, unless it has yet to look on the disk. -/
  misses : crowd.figures.stats.diskHits + crowd.figures.stats.compilations +
    crowd.number Phase.isLeading = crowd.figures.stats.misses
  /-- Each compile has been seen to end, unless the compiler is still at work. -/
  invocations : record.invocations + crowd.number Phase.isCompiling =
    crowd.figures.stats.compilations
  /-- Each failure that was seen has been counted. -/
  failures : crowd.figures.stats.failures = record.errors
  /-- Each module that was put in memory is there, or has been counted or seen to go; and its
  leader has been answered, unless that is its next step. -/
  entries : crowd.figures.entries + crowd.figures.stats.evictions + record.removed =
    record.granted + crowd.number Phase.isGranted

section Moves

variable {crowd after : Crowd} {record : Record}

/-- A new request is one call and one request that has just arrived. -/
theorem Balanced.join (balanced : crowd.Balanced record) {job : Job}
    (threads : after.threads = crowd.threads ++ [(job, .arriving)])
    (figures : after.figures = crowd.figures) : after.Balanced (record.add { calls := 1 }) := by
  -- The newcomer is the one request more, and it has passed no counter.
  have number := number_of_joined threads
  constructor
  all_goals simp only [figures, number, Record.add, Phase.isArriving, Phase.isLeading,
    Phase.isCompiling, Phase.isGranted]
  case calls => exact congrArg (· + 1) balanced.calls
  case misses => exact balanced.misses
  case invocations => exact balanced.invocations
  case failures => exact balanced.failures
  case entries => exact balanced.entries

/-- Entries that are taken out are seen to go. -/
theorem Balanced.lose (balanced : crowd.Balanced record) {removed : Nat}
    (threads : after.threads = crowd.threads) (stats : after.figures.stats = crowd.figures.stats)
    (fewer : after.figures.entries + removed = crowd.figures.entries) :
    after.Balanced (record.add { removed := removed }) := by
  -- No request takes a step, so that only the equation of the entries is new.
  have number : after.number = crowd.number := by
    funext is
    rw [Crowd.number, threads, Crowd.number]
  constructor
  all_goals simp only [stats, number, Record.add]
  case calls => exact balanced.calls
  case misses => exact balanced.misses
  case invocations => exact balanced.invocations
  case failures => exact balanced.failures
  case entries =>
    have entries := balanced.entries
    omega

/-- A step of a request keeps the balance. -/
theorem Balanced.step (balanced : crowd.Balanced record) {outcome : CompileOutcome} {thread : Nat}
    {job : Job} {phase next : Phase} (here : crowd.threads[thread]? = some (job, phase))
    (threads : after.threads = crowd.threads.set thread (job, next))
    (step : Figures.Step outcome phase crowd.figures next after.figures) :
    after.Balanced (record.add (phase.seen outcome)) := by
  -- What a step adds to one side of an equation it adds to the other.
  obtain ⟨calls, misses, invocations, failures, entries⟩ := step.conserved
  have number := number_of_stepped here threads
  constructor
  case calls =>
    have arriving := number Phase.isArriving
    have before := balanced.calls
    show _ = record.calls + 0
    omega
  case misses =>
    have leading := number Phase.isLeading
    have before := balanced.misses
    omega
  case invocations =>
    have compiling := number Phase.isCompiling
    have before := balanced.invocations
    show record.invocations + (if phase.isCompiling then 1 else 0) + _ = _
    omega
  case failures =>
    rw [failures, balanced.failures]
    rfl
  case entries =>
    have granted := number Phase.isGranted
    have before := balanced.entries
    show _ + (record.removed + 0) = record.granted + (if phase.isGranted then 1 else 0) + _
    omega

end Moves

/-- A crowd in order whose memory is accounted for. -/
structure Sane (crowd : Crowd) : Prop where
  orderly : crowd.Orderly
  accounted : crowd.board.shelf.Accounted

/-- Every move leaves a crowd in order and its memory accounted for. -/
theorem Sane.move {crowd : Crowd} (sane : crowd.Sane) (move : Move) : (crowd.move move).Sane :=
  -- Moves keep the order of the crowd and the sum of the memory independently.
  ⟨sane.orderly.move move, (move_tame sane.accounted move).accounted⟩

/-- A new cache that nobody asks yet is in order. -/
theorem sane_of_new {service : Service} (new : service.New) : (Crowd.mk service []).Sane where
  -- Nothing is in memory yet.
  orderly := new.orderly
  accounted := by
    show service.cache.shelf.Accounted
    rw [new.memory]
    exact Shelf.accounted_empty _

/-- A crowd that has nothing in memory, no requests and no counts is balanced. -/
theorem balanced_of_new {service : Service} (new : service.New)
    (fresh : service.cache.stats = {}) : (Crowd.mk service []).Balanced {} := by
  -- All figures are zero.
  have empty : (Crowd.mk service []).figures = ⟨{}, 0⟩ := by
    rw [figures, Service.figures, fresh, new.memory]
    rfl
  constructor <;> rw [empty] <;> rfl

section Runs

variable {crowd : Crowd} {record : Record}

/-- The record of a step is that of its thread, and the step is one of the figures. -/
theorem Sane.figures_move (sane : crowd.Sane) {thread : Nat} {job : Job} {phase : Phase}
    (here : crowd.threads[thread]? = some (job, phase)) :
    ∃ outcome next, crowd.seen (.advance thread) = phase.seen outcome ∧
      (crowd.move (.advance thread)).threads = crowd.threads.set thread (job, next) ∧
      Figures.Step outcome phase crowd.figures next (crowd.move (.advance thread)).figures := by
  have moved : crowd.move (.advance thread) =
      ⟨(crowd.service.advance job phase).1,
        crowd.threads.set thread (job, (crowd.service.advance job phase).2)⟩ := by
    simp [Crowd.move, here]
  -- A request with a place in the table is for a key that is not in memory.
  have absent : ∀ id, phase.slot? = some id → crowd.service.cache.shelf.held? job.key = none :=
    fun id slot => sane.orderly.absent
      (sane.orderly.slot.mpr ⟨thread, job, (has_iff_of_here here).mpr ⟨rfl, slot⟩, rfl⟩)
  let cache := crowd.service.cache
  refine ⟨cache.compiler.compile job.request cache.options,
    (crowd.service.advance job phase).2, ?_, ?_, ?_⟩
  · simp only [seen, here]
    rfl
  · rw [moved]
  · rw [moved]
    exact crowd.service.advance_figures job phase sane.accounted absent

/-- Every move keeps the balance. -/
theorem Balanced.move (balanced : crowd.Balanced record) (sane : crowd.Sane) (move : Move) :
    (crowd.move move).Balanced (record.add (crowd.seen move)) := by
  -- What goes is what there was and is not there any more.
  have lost : ∀ move : Move, (crowd.move move).figures.entries ≤ crowd.figures.entries →
      (crowd.move move).figures.entries + crowd.lost move = crowd.figures.entries :=
    fun _ fewer => Nat.add_sub_cancel' fewer
  cases move with
  | join request => exact balanced.join rfl rfl
  | advance thread =>
    cases here : crowd.threads[thread]? with
    | none =>
      -- A thread that is not there does nothing and lets nothing see.
      have moved : crowd.move (.advance thread) = crowd := by simp [Crowd.move, here]
      have nothing : crowd.seen (.advance thread) = {} := by simp [seen, here]
      rw [moved, nothing]
      exact balanced
    | some pair =>
      obtain ⟨outcome, next, seen, threads, step⟩ := sane.figures_move here
      rw [seen]
      exact balanced.step here threads step
  | flush =>
    have stock := crowd.service.stock_flush
    have entries : (crowd.move .flush).figures.entries = 0 :=
      congrArg (fun stock : Stock => stock.shelf.size) stock
    have stats : (crowd.move .flush).figures.stats = crowd.figures.stats :=
      congrArg Stock.stats stock
    exact balanced.lose rfl stats (lost _ (by omega))
  | forget key =>
    have removed := crowd.service.removeEntry_eq key
    have entries : (crowd.move (.forget key)).figures.entries =
        (crowd.service.cache.shelf.remove key).2.size :=
      congrArg (fun pair => pair.2.cache.shelf.size) removed
    have stats : (crowd.move (.forget key)).figures.stats = crowd.figures.stats :=
      congrArg (fun pair => pair.2.cache.stats) removed
    refine balanced.lose rfl stats (lost _ ?_)
    rw [entries]
    exact Shelf.size_remove_le _ _
  | unlink key =>
    have figures : (crowd.move (.unlink key)).figures = crowd.figures :=
      congrArg (fun pair => pair.2.figures) (crowd.service.removeFile_eq key)
    exact balanced.lose rfl (congrArg _ figures) (congrArg Figures.entries figures)
  | recast compile => exact balanced.lose rfl rfl rfl
  | disturb files => exact balanced.lose rfl rfl rfl

/-- Every run keeps the balance. -/
theorem Balanced.run (balanced : crowd.Balanced record) (sane : crowd.Sane) (moves : List Move) :
    (crowd.run moves).Balanced (record.add (crowd.record moves)) := by
  -- One move after the other.
  induction moves generalizing crowd record with
  | nil => exact balanced
  | cons move moves ih =>
    have after := ih (balanced.move sane move) (sane.move move)
    rw [Record.add_assoc] at after
    exact after

end Runs

/-- All requests of a crowd are answered. -/
def Answered (crowd : Crowd) : Prop :=
  ∀ thread ∈ crowd.threads, thread.2.answer?.isSome = true

instance (crowd : Crowd) : Decidable crowd.Answered :=
  inferInstanceAs (Decidable (∀ thread ∈ crowd.threads, _))

/-- When all requests are answered none is in a phase without an answer. -/
theorem Answered.number_eq_zero {crowd : Crowd} (answered : crowd.Answered) {is : Phase → Bool}
    (open_ : ∀ phase : Phase, is phase = true → phase.answer? = none) : crowd.number is = 0 := by
  -- A request in such a phase would have no answer.
  refine List.countP_eq_zero.mpr fun thread among this => ?_
  have done := answered thread among
  rw [open_ thread.2 this] at done
  simp at done

/-- Requests of any number of threads, flushes and invalidations, one step at a time and in any
order, from a new cache on: whenever all requests are answered, each request is a hit, a miss or a
follower; each miss was answered from the disk or called the compiler; the compiles and the failures
are the calls of the compiler and those that returned an error; and the modules that leaders were
answered with are in memory, or were evicted, or were taken out by a flush or an invalidation. -/
theorem run_counts {service : Service} (new : service.New) (fresh : service.cache.stats = {})
    (moves : List Move) (answered : ((Crowd.mk service []).run moves).Answered) :
    let crowd := (Crowd.mk service []).run moves
    let stats := crowd.service.cache.stats
    let record := (Crowd.mk service []).record moves
    stats.hits + stats.misses + stats.coalesced = record.calls ∧
      stats.misses = stats.diskHits + stats.compilations ∧
      stats.compilations = record.invocations ∧
      stats.failures = record.errors ∧
      crowd.service.cache.shelf.size + stats.evictions + record.removed = record.granted := by
  intro crowd stats record
  have balanced : crowd.Balanced (Record.add {} record) :=
    (balanced_of_new new fresh).run (sane_of_new new) moves
  rw [Record.empty_add] at balanced
  -- No request is between two places where it is counted.
  have arriving : crowd.number Phase.isArriving = 0 :=
    answered.number_eq_zero fun phase => by cases phase <;> simp [Phase.isArriving, Phase.answer?]
  have leading : crowd.number Phase.isLeading = 0 :=
    answered.number_eq_zero fun phase => by cases phase <;> simp [Phase.isLeading, Phase.answer?]
  have compiling : crowd.number Phase.isCompiling = 0 :=
    answered.number_eq_zero fun phase => by cases phase <;> simp [Phase.isCompiling, Phase.answer?]
  have granted : crowd.number Phase.isGranted = 0 :=
    answered.number_eq_zero fun phase => by cases phase <;> simp [Phase.isGranted, Phase.answer?]
  obtain ⟨calls, misses, invocations, failures, entries⟩ := balanced
  rw [arriving] at calls
  rw [leading] at misses
  rw [compiling] at invocations
  rw [granted] at entries
  exact ⟨calls, misses.symm, invocations.symm, failures, entries⟩

/-- Two threads ask for a text at once, a third one asks for it later, and the memory is flushed. -/
theorem run_counts_of_rush :
    let request : Request := ⟨"a.vert", "void main() {}"⟩
    let moves := rush request 2 ++ [.join request, .advance 2, .flush]
    let stats := ((Crowd.mk (Service.ofCompiler .curt) []).run moves).service.cache.stats
    ((Crowd.mk (Service.ofCompiler .curt) []).run moves).Answered ∧
      (Crowd.mk (Service.ofCompiler .curt) []).record moves =
        { calls := 3, invocations := 1, granted := 1, removed := 1 } ∧
      stats.hits + stats.misses + stats.coalesced = 3 ∧ stats.compilations = 1 := by
  -- The record is computed, and the counters follow from it.
  intro request moves stats
  have new : (Service.ofCompiler .curt).New := ⟨⟨rfl, rfl⟩, rfl⟩
  have answered : ((Crowd.mk (Service.ofCompiler .curt) []).run moves).Answered := by
    decide +kernel
  have record : (Crowd.mk (Service.ofCompiler .curt) []).record moves =
      { calls := 3, invocations := 1, granted := 1, removed := 1 } := by
    decide +kernel
  obtain ⟨calls, -, invocations, -⟩ := run_counts new rfl moves answered
  rw [record] at calls invocations
  exact ⟨answered, record, calls, invocations⟩

end Crowd

end ShaderBuild
