import ShaderBuild.Proofs.Cache.Step
import ShaderBuild.Proofs.Cache.Tier
import ShaderBuild.Proofs.Bytecode

/-! A request that no other one disturbs is answered as the compiler ends. -/

namespace ShaderBuild

/-- Everything that the outcome of a compile depends on. -/
structure Inquiry where
  identifier : String
  request : Request
  options : Options

namespace Inquiry

/-- The key under which the outcome is kept. -/
def key (one : Inquiry) : Fingerprint :=
  .compute one.identifier one.request one.options

/-- The job of the request. -/
def job (one : Inquiry) : Job :=
  ⟨one.request, one.key⟩

end Inquiry

/-- What a cache asks of its compiler to answer a request. -/
def Cache.inquiry (cache : Cache) (request : Request) : Inquiry :=
  ⟨cache.compiler.identifier, request, cache.options⟩

/-- The answer that is due when the compiler ends in some way, under a limit, and when the module is
in memory or not. -/
inductive Answer.Due (outcome : CompileOutcome) (limit? : Option Nat) (resident : Bool) :
    Answer → Prop where
  /-- The module of the compiler. -/
  | module {shared : Shared} (compiled : outcome = .finished (.ok shared.bytecode))
    (admitted : resident = true ∨ ∀ limit, limit? = some limit →
      4 * shared.bytecode.wordCount ≤ limit) :
    Due outcome limit? resident (.returned (.ok shared))
  /-- The failure of the compiler. -/
  | failure {failure : Failure} (failed : outcome = .finished (.error failure)) :
    Due outcome limit? resident (.returned (.error failure))
  /-- The breakdown of the compiler. -/
  | breakdown {message : String} (broke : outcome = .panicked message) :
    Due outcome limit? resident (.panicked message)
  /-- There is a module, but it is larger than the limit, and it is not in memory. -/
  | exhausted {bytecode : Bytecode} {limit : Nat} (compiled : outcome = .finished (.ok bytecode))
    (bounded : limit? = some limit) (large : limit < 4 * bytecode.wordCount)
    (absent : resident = false) :
    Due outcome limit? resident
      (.returned (.error (.cacheExhausted (4 * bytecode.wordCount) limit)))

/-- The compilers, the compiles that are asked for, and the directories of a run. -/
structure World where
  toolchain : String → Request → Options → CompileOutcome
  asked : List Inquiry
  directories : List Path
  /-- No module looks like one of the other byte order. -/
  plain : ∀ one ∈ asked, ∀ bytecode,
    toolchain one.identifier one.request one.options = .finished (.ok bytecode) →
    bytecode.words.head? ≠ some turnedMagic
  /-- Different compiles have different keys. -/
  apart : ∀ one ∈ asked, ∀ two ∈ asked, one.key = two.key → one = two

namespace World

/-- How the compiler ends. -/
def outcome (world : World) (one : Inquiry) : CompileOutcome :=
  world.toolchain one.identifier one.request one.options

/-- A file that is read as the module of a compile, or is not read at all. -/
def Holds (world : World) (one : Inquiry) (bytes : List UInt8) : Prop :=
  (∃ failure, wordsOfBytes bytes = .error failure) ∨
    ∃ bytecode, world.outcome one = .finished (.ok bytecode) ∧ bytecode.Image bytes

/-- What a service keeps under a key is what the compiler makes of the compile with that key. -/
structure Sound (world : World) (service : Service) : Prop where
  determined : service.cache.compiler.compile =
    world.toolchain service.cache.compiler.identifier
  known : ∀ directory, service.cache.diskDirectory = some directory → directory ∈ world.directories
  memory : ∀ one ∈ world.asked, ∀ shared, service.cache.shelf.held? one.key = some shared →
    world.outcome one = .finished (.ok shared.bytecode)
  files : ∀ one ∈ world.asked, ∀ directory ∈ world.directories, ∀ bytes,
    service.disk.files.get? (directory.keyPlace one.key) = some (.file bytes) →
    world.Holds one bytes

/-- A readable file of a compile's key gives the module of that compile. -/
theorem outcome_of_holds {world : World} {one : Inquiry} (asked : one ∈ world.asked)
    {bytes : List UInt8} (holds : world.Holds one bytes) {read : Bytecode}
    (found : Bytecode.ofBytes bytes = .ok read) : world.outcome one = .finished (.ok read) := by
  -- A file that is rejected gives no module at all.
  rcases holds with ⟨failure, rejected⟩ | ⟨bytecode, compiled, image⟩
  · simp [Bytecode.ofBytes, rejected] at found
  -- An image can be read in one byte order only, for the module is none with its bytes turned.
  · rw [Bytecode.ofBytes_image image (world.plain one asked bytecode compiled) found]
    exact compiled

/-- What is kept stays right while less of it is there. -/
theorem Sound.mono {world : World} {before after : Service} (sound : world.Sound before)
    (compiler : after.cache.compiler = before.cache.compiler)
    (known : ∀ directory, after.cache.diskDirectory = some directory →
      directory ∈ world.directories)
    (memory : ∀ key shared, after.cache.shelf.held? key = some shared →
      before.cache.shelf.held? key = some shared)
    (files : before.disk.files.AddsNoFile after.disk.files) : world.Sound after where
  -- All that is there now was there before, where it was right.
  determined := by
    rw [compiler]
    exact sound.determined
  known := known
  memory := fun one asked shared held => sound.memory one asked shared (memory _ _ held)
  files := fun one asked directory used bytes found =>
    sound.files one asked directory used bytes (files _ _ found)

end World

/-- A module that comes into memory with a step is the one that the request has. -/
theorem Board.Step.held {job : Job} {phase next : Phase} {board after : Board}
    (step : board.Step job phase next after) {key : Fingerprint} {shared : Shared}
    (held : after.shelf.held? key = some shared) :
    board.shelf.held? key = some shared ∨
      key = job.key ∧ ∃ id, phase = .produced id (.returned (.ok shared)) := by
  -- A look into memory changes stamps, and no module.
  have touched : ∀ other, (board.shelf.touch other).2.held? key = board.shelf.held? key :=
    fun other => Shelf.held?_touch _ _ _
  cases step with
  | hit found => exact Or.inl ((touched _).symm.trans held)
  | join absent underway => exact Or.inl ((touched _).symm.trans held)
  | lead absent free => exact Or.inl ((touched _).symm.trans held)
  -- Only a leader that settles brings a module into memory.
  | settle settles =>
    cases settles with
    | stored fits =>
      by_cases own : key = job.key
      · subst own
        rw [Board.held?_keep, Option.some.injEq] at held
        exact Or.inr ⟨rfl, _, by rw [held]⟩
      · -- Another key's module stays, or goes to make room.
        rcases Board.held?_keep_cases (board.leave job.key) _ own with same | ⟨gone, -⟩
        · exact Or.inl (same.symm.trans held)
        · rw [gone] at held
          simp at held
    | _ => exact Or.inl held
  | _ => exact Or.inl held

/-- What a leader that meets nobody has when it comes to settle: what is due, or a module that was on
the disk and may be larger than the limit. -/
def Answer.Made (outcome : CompileOutcome) (limit? : Option Nat) (made : Answer) : Prop :=
  made.Due outcome limit? false ∨
    ∃ shared, made = .returned (.ok shared) ∧ outcome = .finished (.ok shared.bytecode)

/-- A request that is alone, between its steps. -/
inductive Alone (one : Inquiry) (outcome : CompileOutcome) (resident : Bool) (service : Service) :
    Phase → Prop where
  | arriving (free : service.cache.inFlight = [])
    (here : resident = service.cache.shelf.contains one.key) :
    Alone one outcome resident service .arriving
  | leading {id : FlightId} (table : service.cache.inFlight = [(one.key, id)])
    (absent : resident = false) : Alone one outcome resident service (.leading id)
  | compiling {id : FlightId} (table : service.cache.inFlight = [(one.key, id)])
    (absent : resident = false) : Alone one outcome resident service (.compiling id)
  | produced {id : FlightId} {made : Answer} (table : service.cache.inFlight = [(one.key, id)])
    (absent : resident = false) (has : made.Made outcome service.cache.memoryLimit) :
    Alone one outcome resident service (.produced id made)
  | settled {id : FlightId} {final : Answer} (free : service.cache.inFlight = [])
    (due : final.Due outcome service.cache.memoryLimit resident) :
    Alone one outcome resident service (.settled id final)
  | answered {final : Answer} (free : service.cache.inFlight = [])
    (due : final.Due outcome service.cache.memoryLimit resident) :
    Alone one outcome resident service (.answered final)

/-- How many steps a request that is alone has yet to take at most. -/
def Phase.left : Phase → Nat
  | arriving => 5
  | leading _ => 4
  | compiling _ => 3
  | produced _ _ => 2
  | settled _ _ => 1
  | following _ | answered _ => 0

section Steps

variable {world : World} {one : Inquiry} {resident : Bool} {service : Service} {phase : Phase}

/-- A step of a request that is alone keeps what is in memory and on the disk right. -/
theorem World.Sound.advance (sound : world.Sound service) (asked : one ∈ world.asked)
    (own : service.cache.setting.outcome one.request = world.outcome one)
    (alone : Alone one (world.outcome one) resident service phase) :
    world.Sound (service.advance one.job phase).1 := by
  -- Of the step only what it does to the board matters, and for files what it writes.
  have step := service.advance_step one.job phase
  have setting : (service.advance one.job phase).1.cache.setting = service.cache.setting :=
    step.setting
  have compiler := congrArg Setting.compiler setting
  have directory := congrArg Setting.diskDirectory setting
  constructor
  case determined =>
    have same : (service.advance one.job phase).1.cache.compiler = service.cache.compiler := compiler
    rw [same]
    exact sound.determined
  case known =>
    intro used found
    exact sound.known used (directory.symm.trans found)
  case memory =>
    intro two asked' shared held
    rcases step.held held with old | ⟨same, id, rfl⟩
    · exact sound.memory two asked' shared old
    · -- The module that comes in is the request's own.
      have equal : two = one := world.apart two asked' one asked same
      subst equal
      -- Only a request that has something settles, and what it has is due or comes from the disk.
      cases alone with
      | produced table absent has =>
        rcases has with due | ⟨found, same_, compiled⟩
        · cases due with
          | module compiled admitted => exact compiled
        · cases same_
          exact compiled
  case files =>
    intro two asked' used among bytes found
    rcases Service.file_of_advance found with old | ⟨same, -, bytecode, compiled, rfl⟩
    · exact sound.files two asked' used among bytes old
    · -- The file that is new is the image of the request's own module.
      have equal : two = one := world.apart two asked' one asked same
      subst equal
      exact Or.inr ⟨bytecode, own.symm.trans compiled, Or.inl rfl⟩

/-- Nothing leads a flight for a key while the table is empty. -/
theorem Service.leader?_of_free (free : service.cache.inFlight = []) (key : Fingerprint) :
    service.board.leader? key = none := by
  -- The table of the board is that of the service.
  have table : service.board.inFlight = [] := free
  rw [Board.leader?, table]
  rfl

/-- A request that is alone and arrives finds its module in memory or leads a flight. -/
theorem World.Sound.alone_arrive (sound : world.Sound service) (asked : one ∈ world.asked)
    (free : service.cache.inFlight = [])
    (here : resident = service.cache.shelf.contains one.key) :
    Alone one (world.outcome one) resident (service.arrive one.job).1 (service.arrive one.job).2 ∧
      (service.arrive one.job).2.left ≤ 4 := by
  have step := service.arrive_step one.job
  have unled := Service.leader?_of_free free one.job.key
  have table : (service.arrive one.job).1.cache.inFlight =
      (service.arrive one.job).1.board.inFlight := rfl
  generalize (service.arrive one.job).2 = next at step ⊢
  generalize (service.arrive one.job).1.board = after at step table
  cases step with
  -- A hit answers with what is in memory, and that is right.
  | @hit _ shared found =>
    have resident_ : resident = true := by
      have held : service.cache.shelf.held? one.key = some shared := found
      rw [here, Shelf.contains_eq, held]
      rfl
    refine ⟨.answered (table.trans free) ?_, Nat.zero_le _⟩
    exact .module (sound.memory one asked shared found) (Or.inl resident_)
  -- With an empty table there is nothing to join.
  | join absent underway =>
    rw [unled] at underway
    simp at underway
  -- What is not in memory is led, and the new flight is alone in the table.
  | lead absent free_ =>
    have absent_ : resident = false := by
      have held : service.cache.shelf.held? one.key = none := absent
      rw [here, Shelf.contains_eq, held]
      rfl
    have alone : (one.key, service.board.nextFlight) :: service.board.inFlight =
        [(one.key, service.board.nextFlight)] := congrArg (_ :: ·) free
    exact ⟨.leading (table.trans alone) absent_, Nat.le_refl _⟩

/-- A leader that is alone finds its module on the disk or calls the compiler. -/
theorem World.Sound.alone_lead (sound : world.Sound service) (asked : one ∈ world.asked)
    {id : FlightId} (table : service.cache.inFlight = [(one.key, id)]) (absent : resident = false) :
    Alone one (world.outcome one) resident (service.lead one.job id).1
        (service.lead one.job id).2 ∧ (service.lead one.job id).2.left ≤ 3 := by
  have step := service.lead_step one.job id
  have same : (service.lead one.job id).1.cache.inFlight =
      (service.lead one.job id).1.board.inFlight := rfl
  -- A module that comes from the disk was read from a file of the key.
  have found : ∀ shared, (service.lead one.job id).2 = .produced id (.returned (.ok shared)) →
      world.outcome one = .finished (.ok shared.bytecode) := by
    intro shared loads
    obtain ⟨directory, bytes, used, stands, read_⟩ :=
      Service.file_of_loadFromDisk (Service.loadFromDisk_of_lead loads)
    have holds := sound.files one asked directory (sound.known directory used) bytes stands
    exact World.outcome_of_holds asked holds read_
  generalize (service.lead one.job id).2 = next at step found ⊢
  generalize (service.lead one.job id).1.board = after at step same
  cases step with
  | @load _ _ shared =>
    refine ⟨.produced (same.trans table) absent (Or.inr ⟨shared, rfl, found shared rfl⟩), ?_⟩
    exact Nat.le_succ _
  | call => exact ⟨.compiling (same.trans table) absent, Nat.le_refl _⟩

/-- A leader that is alone has what is due when the compiler comes back. -/
theorem alone_compile (own : service.cache.setting.outcome one.request = world.outcome one)
    {id : FlightId} (table : service.cache.inFlight = [(one.key, id)]) (absent : resident = false) :
    Alone one (world.outcome one) resident (service.compile one.job id).1
        (service.compile one.job id).2 ∧ (service.compile one.job id).2.left ≤ 2 := by
  have step := service.compile_step one.job id
  have same : (service.compile one.job id).1.cache.inFlight =
      (service.compile one.job id).1.board.inFlight := rfl
  have limit : (service.compile one.job id).1.cache.memoryLimit = service.cache.memoryLimit :=
    congrArg Setting.memoryLimit step.setting
  generalize (service.compile one.job id).2 = next at step ⊢
  generalize (service.compile one.job id).1.board = after at step same
  cases step with
  | comeBack makes =>
    refine ⟨.produced (same.trans table) absent ?_, Nat.le_refl _⟩
    rw [limit]
    -- Each way in which the compiler comes back is due, for nothing is in memory.
    cases makes with
    | module compiled fits => exact Or.inr ⟨_, rfl, own.symm.trans compiled⟩
    | large compiled bounded large =>
      exact Or.inl (.exhausted (own.symm.trans compiled) bounded large rfl)
    | failure failed => exact Or.inl (.failure (own.symm.trans failed))
    | breakdown broke => exact Or.inl (.breakdown (own.symm.trans broke))

/-- A leader that is alone and settles has what is due. -/
theorem alone_settle {outcome : CompileOutcome} {id : FlightId} {made : Answer}
    (table : service.cache.inFlight = [(one.key, id)]) (absent : resident = false)
    (has : made.Made outcome service.cache.memoryLimit) :
    Alone one outcome resident (service.settle one.job id made).1
        (service.settle one.job id made).2 ∧ (service.settle one.job id made).2.left ≤ 1 := by
  have step := service.settle_step one.job id made
  have same : (service.settle one.job id made).1.cache.inFlight =
      (service.settle one.job id made).1.board.inFlight := rfl
  have limit : (service.settle one.job id made).1.cache.memoryLimit = service.cache.memoryLimit :=
    congrArg Setting.memoryLimit step.setting
  -- The flight was the only one in the table.
  have left : (service.board.leave one.key).inFlight = [] := by
    have shared : service.board.inFlight = [(one.key, id)] := table
    rw [Board.leave, shared]
    simp
  subst absent
  -- The answer is due under the limit from before the step, which is the limit after it.
  have ends : ∀ {final : Answer}, (service.settle one.job id made).1.cache.inFlight = [] →
      final.Due outcome service.cache.memoryLimit false →
      Alone one outcome false (service.settle one.job id made).1 (.settled id final) ∧
        (Phase.settled id final).left ≤ 1 := by
    intro final free due
    rw [← limit] at due
    exact ⟨.settled free due, Nat.le_refl _⟩
  generalize (service.settle one.job id made).2 = next at step ⊢
  generalize (service.settle one.job id made).1.board = after at step same
  cases step with
  | settle settles =>
    cases settles with
    | @stored shared fits =>
      refine ends (same.trans left) ?_
      rcases has with due | ⟨found, same_, compiled⟩
      · exact due
      · -- A module from the disk is due as well, for it fits.
        cases same_
        exact .module compiled (Or.inr fits)
    | @refused shared bound bounded large =>
      refine ends (same.trans left) ?_
      -- Wherever the module comes from, it is too large.
      rcases has with due | ⟨found, same_, compiled⟩
      · cases due with
        | module compiled admitted => exact .exhausted compiled bounded large rfl
      · cases same_
        exact .exhausted compiled bounded large rfl
    | failed =>
      refine ends (same.trans left) ?_
      rcases has with due | ⟨found, same_, -⟩
      · exact due
      · simp at same_
    | panicked =>
      refine ends (same.trans left) ?_
      rcases has with due | ⟨found, same_, -⟩
      · exact due
      · simp at same_

/-- A leader that is alone publishes and has its answer. -/
theorem alone_publish {outcome : CompileOutcome} {id : FlightId} {final : Answer}
    (free : service.cache.inFlight = [])
    (due : final.Due outcome service.cache.memoryLimit resident) :
    Alone one outcome resident (service.publish one.job id final).1
        (service.publish one.job id final).2 ∧
      (service.publish one.job id final).2.left ≤ 0 := by
  have step := service.publish_step one.job id final
  have same : (service.publish one.job id final).1.cache.inFlight =
      (service.publish one.job id final).1.board.inFlight := rfl
  have limit : (service.publish one.job id final).1.cache.memoryLimit = service.cache.memoryLimit :=
    congrArg Setting.memoryLimit step.setting
  rw [← limit] at due
  -- Both ends of the step become variables, so that its cases can be taken.
  generalize (service.publish one.job id final).2 = next at step ⊢
  generalize (service.publish one.job id final).1.board = after at step same
  cases step with
  | close nobody => exact ⟨.answered (same.trans free) due, Nat.le_refl _⟩
  | tell awaited => exact ⟨.answered (same.trans free) due, Nat.le_refl _⟩

/-- A step of a request that is alone leads on, and what it is answered in the end is due. -/
theorem World.Sound.alone_advance (sound : world.Sound service) (asked : one ∈ world.asked)
    (own : service.cache.setting.outcome one.request = world.outcome one)
    (alone : Alone one (world.outcome one) resident service phase) :
    Alone one (world.outcome one) resident (service.advance one.job phase).1
        (service.advance one.job phase).2 ∧
      (service.advance one.job phase).2.left ≤ phase.left - 1 := by
  cases alone with
  -- Each phase has its own step. One that waits for another request does not occur.
  | arriving free here => exact sound.alone_arrive asked free here
  | leading table absent => exact sound.alone_lead asked table absent
  | compiling table absent => exact alone_compile own table absent
  | produced table absent has => exact alone_settle table absent has
  | settled free due => exact alone_publish free due
  | answered free due => exact ⟨.answered free due, Nat.le_refl _⟩

/-- A request that is alone has its answer after as many steps as it takes at most. -/
theorem World.Sound.alone_proceed (steps : Nat) (asked : one ∈ world.asked)
    (sound : world.Sound service)
    (own : service.cache.setting.outcome one.request = world.outcome one)
    (alone : Alone one (world.outcome one) resident service phase) (enough : phase.left ≤ steps) :
    ∃ final, (Service.proceed one.job steps service phase).2 = .answered final ∧
      final.Due (world.outcome one) service.cache.memoryLimit resident ∧
      world.Sound (Service.proceed one.job steps service phase).1 ∧
      (Service.proceed one.job steps service phase).1.cache.inFlight = [] := by
  -- Each step brings the answer nearer, and none changes the limit.
  induction steps generalizing service phase with
  | zero =>
    -- Only a request that has its answer has no steps left.
    cases alone with
    | answered free due => exact ⟨_, rfl, due, sound, free⟩
    | _ => simp [Phase.left] at enough
  | succ steps ih =>
    obtain ⟨alone', nearer⟩ := sound.alone_advance asked own alone
    have setting : (service.advance one.job phase).1.cache.setting = service.cache.setting :=
      (service.advance_step one.job phase).setting
    have own' : (service.advance one.job phase).1.cache.setting.outcome one.request =
        world.outcome one := by
      rw [setting]
      exact own
    have limit : (service.advance one.job phase).1.cache.memoryLimit = service.cache.memoryLimit :=
      congrArg Setting.memoryLimit setting
    have enough' : (service.advance one.job phase).2.left ≤ steps := by omega
    rw [← limit]
    exact ih (sound.advance asked own alone) own' alone' enough'

/-- A request to a service that is at rest is answered as it is due, and leaves the service at rest.
-/
theorem World.Sound.request {request : Request} (sound : world.Sound service)
    (asked : service.cache.inquiry request ∈ world.asked) (free : service.cache.inFlight = []) :
    ∃ final, (service.request request).2 = .answered final ∧
      final.Due (service.cache.compiler.compile request service.cache.options)
        service.cache.memoryLimit (service.cache.shelf.contains (service.cache.keyOf request)) ∧
      world.Sound (service.request request).1 ∧ (service.request request).1.cache.inFlight = [] := by
  -- What the compiler of the cache does is what is known of it.
  have own : service.cache.compiler.compile request service.cache.options =
      world.outcome (service.cache.inquiry request) := by
    rw [sound.determined]
    rfl
  rw [own]
  exact World.Sound.alone_proceed 5 asked sound own (.arriving free rfl) (Nat.le_refl _)

end Steps

end ShaderBuild
