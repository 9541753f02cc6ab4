import ShaderBuild.Cache.Session
import ShaderBuild.Proofs.Cache.Serving

/-! A cache in the hands of one owner cannot be told from its compiler under its limit. -/

namespace ShaderBuild

/-- What is seen of an answer, whatever handle it comes with. -/
def Answer.outcome : Answer → CompileOutcome
  | .returned (.ok shared) => .finished (.ok shared.bytecode)
  | .returned (.error failure) => .finished (.error failure)
  | .panicked message => .panicked message

/-- What an outcome becomes under a limit. A module that is too large is refused, unless it is in
memory. -/
def CompileOutcome.under (limit? : Option Nat) (resident : Bool) : CompileOutcome → CompileOutcome
  | .finished (.ok bytecode) =>
    match limit? with
    | none => .finished (.ok bytecode)
    | some limit =>
      if limit < 4 * bytecode.wordCount ∧ resident = false then
        .finished (.error (.cacheExhausted (4 * bytecode.wordCount) limit))
      else .finished (.ok bytecode)
  | outcome => outcome

/-- An answer that is due shows what becomes of the outcome under the limit. -/
theorem Answer.Due.outcome_eq {outcome : CompileOutcome} {limit? : Option Nat} {resident : Bool}
    {answer : Answer} (due : answer.Due outcome limit? resident) :
    answer.outcome = outcome.under limit? resident := by
  -- One case for each kind of answer.
  cases due with
  | module compiled admitted =>
    rw [compiled]
    cases limit? with
    | none => rfl
    | some limit =>
      -- The module is in memory, or it is not too large.
      rw [CompileOutcome.under, if_neg]
      · rfl
      · rintro ⟨large, absent⟩
        rcases admitted with present | fits
        · rw [absent] at present
          simp at present
        · exact Nat.not_le.mpr large (fits limit rfl)
  | failure failed => rw [failed]; rfl
  | breakdown broke => rw [broke]; rfl
  | exhausted compiled bounded large absent =>
    rw [compiled, bounded, CompileOutcome.under, if_pos ⟨large, absent⟩]
    rfl

/-- The compilers that something brings in. -/
def Deed.compilers : Deed → List Compiler
  | .renew compiler _ _ _ => [compiler]
  | _ => []

/-- The directories that something brings in. -/
def Deed.directories : Deed → List Path
  | .setDirectory directory => [directory]
  | .renew _ _ _ directory? => directory?.toList
  | _ => []

namespace Session

/-- What the compiler is asked for, if it is asked at all. -/
def asks (session : Session) : Deed → List Inquiry
  | .get request => if session.live then [session.service.cache.inquiry request] else []
  | _ => []

/-- What the compilers are asked for in the course of a run. -/
def inquiries : Session → List Deed → List Inquiry
  | _, [] => []
  | session, deed :: deeds => session.asks deed ++ (session.perform deed).inquiries deeds

/-- The compilers of a run. -/
def compilers (session : Session) (deeds : List Deed) : List Compiler :=
  session.service.cache.compiler :: deeds.flatMap Deed.compilers

/-- The directories of a run. -/
def directories (session : Session) (deeds : List Deed) : List Path :=
  session.service.cache.diskDirectory.toList ++ deeds.flatMap Deed.directories

/-- The cache is new: nothing is in memory, and no request is under way. -/
structure Fresh (session : Session) : Prop where
  memory : session.service.cache.shelf = {}
  table : session.service.cache.inFlight = []

/-- What a run must be able to rely on. -/
structure Reliable (toolchain : String → Request → Options → CompileOutcome) (start : Session)
    (deeds : List Deed) : Prop where
  /-- The name of a compiler tells how it ends on every request under all options. -/
  determined : ∀ compiler ∈ start.compilers deeds,
    compiler.compile = toolchain compiler.identifier
  /-- No module begins with the magic number with its bytes turned round. -/
  plain : ∀ one ∈ start.inquiries deeds, ∀ bytecode,
    toolchain one.identifier one.request one.options = .finished (.ok bytecode) →
    bytecode.words.head? ≠ some turnedMagic
  /-- Different compiles have different keys. -/
  apart : ∀ one ∈ start.inquiries deeds, ∀ two ∈ start.inquiries deeds, one.key = two.key → one = two
  /-- A file of a compile's key is unreadable or holds the module in one of the byte orders. -/
  files : ∀ one ∈ start.inquiries deeds, ∀ directory ∈ start.directories deeds, ∀ bytes,
    start.service.disk.files.get? (directory.keyPlace one.key) = some (.file bytes) →
    (∃ failure, wordsOfBytes bytes = .error failure) ∨ ∃ bytecode,
      toolchain one.identifier one.request one.options = .finished (.ok bytecode) ∧
      bytecode.Image bytes

end Session

/-- What is kept is right, and no request is under way. -/
structure World.Ready (world : World) (service : Service) : Prop where
  sound : world.Sound service
  free : service.cache.inFlight = []

namespace World

variable {world : World} {service : Service}

/-- A service stays ready while its settings stay and less is kept. -/
theorem Ready.of_withShelf {after : Service} (ready : world.Ready service) {shelf : Shelf}
    (board : after.board = service.board.withShelf shelf)
    (memory : ∀ key shared, shelf.held? key = some shared →
      service.cache.shelf.held? key = some shared)
    (files : service.disk.files.AddsNoFile after.disk.files) : world.Ready after where
  sound := by
    -- The board shows the settings, the memory and the table.
    have compiler : after.cache.compiler = service.cache.compiler :=
      congrArg (fun board : Board => board.setting.compiler) board
    have directory : after.cache.diskDirectory = service.cache.diskDirectory :=
      congrArg (fun board : Board => board.setting.diskDirectory) board
    have held : after.cache.shelf = shelf := congrArg Board.shelf board
    refine ready.sound.mono compiler ?_ ?_ files
    · rw [directory]
      exact ready.sound.known
    · rw [held]
      exact memory
  free := by
    have table : after.cache.inFlight = service.cache.inFlight := congrArg Board.inFlight board
    rw [table]
    exact ready.free

/-- A service whose memory was emptied is ready. -/
theorem Ready.of_clear {after : Service} (ready : world.Ready service)
    (board : after.board = service.board.withShelf service.cache.shelf.clear)
    (disk : after.disk = service.disk) : world.Ready after := by
  -- An empty memory holds only the modules that it should, because it holds none.
  refine ready.of_withShelf board ?_ ?_
  · intro key shared held
    rw [Shelf.held?_clear] at held
    simp at held
  · rw [disk]
    exact .refl _

/-- A flush leaves a service ready. -/
theorem Ready.flush (ready : world.Ready service) : world.Ready service.flush :=
  -- The memory is emptied as its handles are given up.
  ready.of_clear (Service.board_releaseEntries _ _) (Service.disk_releaseEntries _ _)

/-- A cache that is given up leaves a service ready. -/
theorem Ready.close (ready : world.Ready service) : world.Ready service.close :=
  -- A cache that is given up empties its memory as well.
  ready.of_clear service.board_close service.disk_close

/-- An invalidation leaves a service ready. -/
theorem Ready.invalidate (ready : world.Ready service) (key : Fingerprint) :
    world.Ready (service.invalidate key).2 := by
  -- The entry goes first, and then the file.
  have forgotten : world.Ready (service.removeEntry key).2 := by
    refine ready.of_withShelf (service.removeEntry_board key) ?_ ?_
    · intro other shared held
      rw [Shelf.held?_remove] at held
      split at held
      · simp at held
      · exact held
    · rw [service.disk_removeEntry key]
      exact .refl _
  have same : (service.invalidate key).2 = ((service.removeEntry key).2.removeFile key).2 := rfl
  rw [same]
  exact forgotten.of_withShelf ((service.removeEntry key).2.removeFile_board key)
    (fun _ _ held => held) ((service.removeEntry key).2.addsNoFile_removeFile key)

/-- A directory that is used leaves a service ready. -/
theorem Ready.useDirectory (ready : world.Ready service) {directory : Path}
    (known : directory ∈ world.directories) :
    world.Ready (service.useDirectory directory).2 := by
  have adds := service.disk.files.addsNoFile_makeDirectories directory
  unfold Service.useDirectory
  -- A directory that cannot be made leaves the settings as they are.
  split
  · rename_i fault files made
    rw [made] at adds
    exact ready.of_withShelf rfl (fun _ _ held => held) adds
  · rename_i files made
    rw [made] at adds
    -- The new setting is a directory whose files are known to be right.
    refine ⟨ready.sound.mono rfl ?_ (fun _ _ held => held) adds, ready.free⟩
    intro used found
    have same : directory = used := Option.some.inj found
    rw [← same]
    exact known

/-- Going on with a service that is ready, or giving its cache up, leaves it ready. -/
theorem Ready.settle {result : Except Failure Unit} (ready : world.Ready service) :
    world.Ready (Session.settle (result, service)).service := by
  -- After a failure the cache is given up.
  cases result with
  | error failure => exact ready.close
  | ok => exact ready

/-- A new cache is ready. -/
theorem Ready.withCache (ready : world.Ready service) {compiler : Compiler}
    (determined : compiler.compile = world.toolchain compiler.identifier) (options : Options)
    (memoryLimit : Option Nat) : world.Ready (service.withCache
      { compiler := compiler, options := options, memoryLimit := memoryLimit }) where
  sound := by
    -- A new cache keeps nothing in memory and uses no directory yet.
    refine ⟨determined, ?_, ?_, ready.sound.files⟩
    · intro used found
      exact absurd found (by simp [Service.withCache])
    · intro one asked shared held
      exact absurd held (by simp [Service.withCache, Shelf.held?, Shelf.get?])
  free := rfl

/-- What the owner does leaves a service ready. -/
theorem Ready.use (ready : world.Ready service) (deed : Deed)
    (asked : ∀ one ∈ (Session.mk service true).asks deed, one ∈ world.asked)
    (compilers : ∀ compiler ∈ deed.compilers,
      compiler.compile = world.toolchain compiler.identifier)
    (directories : ∀ directory ∈ deed.directories, directory ∈ world.directories) :
    world.Ready (Session.use service deed).service := by
  -- Requests change what is kept; all else takes from it or changes settings.
  cases deed with
  | get request =>
    have asked' : service.cache.inquiry request ∈ world.asked := asked _ (by simp [Session.asks])
    obtain ⟨final, -, -, sound, free⟩ := ready.sound.request asked' ready.free
    exact ⟨sound, free⟩
  | flush => exact ready.flush
  | invalidate key => exact ready.invalidate key
  | setOptions options =>
    exact ⟨ready.sound.mono rfl ready.sound.known (fun _ _ held => held) (.refl _), ready.free⟩
  | setLimit limit =>
    exact ⟨ready.sound.mono rfl ready.sound.known (fun _ _ held => held) (.refl _), ready.free⟩
  | setDirectory directory =>
    exact (ready.useDirectory (directories directory (by simp [Deed.directories]))).settle
  | renew compiler options memoryLimit diskDirectory =>
    -- The cache before is given up, and its place is taken.
    have renewed := ready.close.withCache
      (compilers compiler (by simp [Deed.compilers])) options memoryLimit
    cases diskDirectory with
    | none => exact renewed
    | some directory =>
      exact (renewed.useDirectory (directories directory (by simp [Deed.directories]))).settle
  | drop => exact ready.close

/-- A run of the owner stays within what is known. -/
structure Covers (world : World) (session : Session) (deeds : List Deed) : Prop where
  asked : ∀ one ∈ session.inquiries deeds, one ∈ world.asked
  compilers : ∀ compiler ∈ deeds.flatMap Deed.compilers,
    compiler.compile = world.toolchain compiler.identifier
  directories : ∀ directory ∈ deeds.flatMap Deed.directories, directory ∈ world.directories

/-- The rest of a run stays within what is known. -/
theorem Covers.tail {session : Session} {deed : Deed} {deeds : List Deed}
    (covers : world.Covers session (deed :: deeds)) : world.Covers (session.perform deed) deeds where
  -- Everything that the rest of a run meets is met by the whole run.
  asked := fun one among => covers.asked one (List.mem_append_right _ among)
  compilers := fun compiler among => covers.compilers compiler (List.mem_append_right _ among)
  directories := fun directory among => covers.directories directory (List.mem_append_right _ among)

/-- What the owner does, with a cache or without one, leaves the service ready. -/
theorem Ready.perform {session : Session} (ready : world.Ready session.service) {deed : Deed}
    {deeds : List Deed} (covers : world.Covers session (deed :: deeds)) :
    world.Ready (session.perform deed).service := by
  -- What is done brings in nothing that is not known of the whole run.
  have compilers : ∀ compiler ∈ deed.compilers,
      compiler.compile = world.toolchain compiler.identifier := fun compiler among =>
    covers.compilers compiler (List.mem_append_left _ among)
  have directories : ∀ directory ∈ deed.directories, directory ∈ world.directories :=
    fun directory among => covers.directories directory (List.mem_append_left _ among)
  unfold Session.perform
  split
  · rename_i live
    have whole : Session.mk session.service true = session := by
      cases session
      simp only [Session.mk.injEq, true_and]
      exact live.symm
    refine ready.use deed ?_ compilers directories
    rw [whole]
    exact fun one among => covers.asked one (List.mem_append_left _ among)
  -- Without a cache only a new one does anything.
  · split
    · exact ready.use _ (by simp [Session.asks]) compilers directories
    · exact ready

/-- A run of the owner leaves the service ready, and its rest within what is known. -/
theorem Ready.run {session : Session} (ready : world.Ready session.service) {deeds rest : List Deed}
    (covers : world.Covers session (deeds ++ rest)) :
    world.Ready (session.run deeds).service ∧ world.Covers (session.run deeds) rest := by
  -- One thing after the other.
  induction deeds generalizing session with
  | nil => exact ⟨ready, covers⟩
  | cons deed deeds ih => exact ih (ready.perform covers) covers.tail

end World

namespace Session

/-- What a reliable run knows from the start. -/
def Reliable.world {toolchain : String → Request → Options → CompileOutcome} {start : Session}
    {deeds : List Deed} (reliable : Reliable toolchain start deeds) : World where
  toolchain := toolchain
  asked := start.inquiries deeds
  directories := start.directories deeds
  plain := reliable.plain
  apart := reliable.apart

section Run

variable {toolchain : String → Request → Options → CompileOutcome} {start : Session}
  {deeds : List Deed}

/-- A reliable run stays within what it knows. -/
theorem Reliable.covers (reliable : Reliable toolchain start deeds) :
    reliable.world.Covers start deeds where
  -- The world of a reliable run was collected from the run itself.
  asked := fun _ among => among
  compilers := fun compiler among => reliable.determined compiler (List.mem_cons_of_mem _ among)
  directories := fun _ among => List.mem_append_right _ among

/-- A reliable run begins with a service that is ready. -/
theorem Reliable.ready (reliable : Reliable toolchain start deeds) (fresh : start.Fresh) :
    reliable.world.Ready start.service where
  sound := by
    -- Memory is empty, and the files are what the run relies on.
    constructor
    case determined => exact reliable.determined _ List.mem_cons_self
    case known =>
      intro directory used
      refine List.mem_append_left _ ?_
      rw [used]
      exact List.mem_singleton_self directory
    case memory =>
      intro one asked shared held
      rw [fresh.memory] at held
      simp [Shelf.held?, Shelf.get?] at held
    case files => exact reliable.files
  free := fresh.table

/-- Whatever was done with a cache before, a request is answered what its compiler gives under the
settings of that time, but for a module that is larger than the limit and not in memory. -/
theorem run_answers (fresh : start.Fresh) (reliable : Reliable toolchain start deeds)
    (earlier later : List Deed) (request : Request) (whole : deeds = earlier ++ .get request :: later)
    (live : (start.run earlier).live = true) :
    let cache := (start.run earlier).service.cache
    ((start.run earlier).answer? request).map Answer.outcome =
      some ((cache.compiler.compile request cache.options).under cache.memoryLimit
        (cache.shelf.contains (cache.keyOf request))) := by
  intro cache
  subst whole
  -- Whatever was done before leaves the service ready for the request.
  obtain ⟨ready, covers⟩ := (reliable.ready fresh).run reliable.covers
  have asked : cache.inquiry request ∈ reliable.world.asked := by
    refine covers.asked _ (List.mem_append_left _ ?_)
    simp [asks, live, cache]
  -- The request is alone, and so its answer is the one that is due.
  obtain ⟨answer, ends, due, -⟩ := ready.sound.request asked ready.free
  rw [answer?, if_pos live, ends, ← due.outcome_eq]
  rfl

end Run

/-- A request, the file of whose key holds no words. -/
def spoiledRequest : Request := ⟨"a.vert", "void main() {}"⟩

/-- A new cache that is too small for any module, with a spoiled file on its disk. -/
def spoiled : Session where
  service :=
    { cache := { compiler := .curt, memoryLimit := some 3, diskDirectory := some ⟨"cache"⟩ }
      disk :=
        { files := ⟨[(["cache"], .directory),
            (["cache", (Fingerprint.compute "curt" spoiledRequest {}).fileName],
              .file [1, 2, 3])]⟩ } }

/-- A request that is refused, and granted by a larger cache. -/
def enlarging : List Deed :=
  [.get spoiledRequest, .renew .curt {} (some 4) none, .get spoiledRequest]

/-- The only compile that is asked for. -/
theorem inquiries_enlarging {one : Inquiry} (among : one ∈ spoiled.inquiries enlarging) :
    one = ⟨"curt", spoiledRequest, {}⟩ := by
  -- Both requests ask for the same compile.
  have asked : spoiled.inquiries enlarging =
      [⟨"curt", spoiledRequest, {}⟩, ⟨"curt", spoiledRequest, {}⟩] := rfl
  rw [asked] at among
  simpa using among

/-- The run can rely on what it must. -/
theorem reliable_enlarging :
    Reliable (fun _ request options => Compiler.curt.compile request options) spoiled enlarging where
  determined := by
    intro compiler among
    have own : compiler = .curt := by
      simpa [compilers, spoiled, enlarging, Deed.compilers] using among
    rw [own]
  plain := by
    intro one among bytecode compiled
    rw [inquiries_enlarging among] at compiled
    -- The one module there is begins with the magic number.
    have magic : bytecode.words = [spirvMagic] := by
      have finished : Compiler.curt.compile spoiledRequest {} =
          .finished (.ok ⟨[spirvMagic], by simp⟩) := rfl
      have same := finished.symm.trans compiled
      rw [CompileOutcome.finished.injEq, Except.ok.injEq] at same
      rw [← same]
    rw [magic]
    decide
  apart := by
    intro one among two among' same
    rw [inquiries_enlarging among, inquiries_enlarging among']
  files := by
    intro one among directory used bytes found
    rw [inquiries_enlarging among] at found
    -- The one directory there is holds three bytes under the key.
    have cache : directory = ⟨"cache"⟩ := by
      simpa [directories, spoiled, enlarging, Deed.directories] using used
    subst cache
    refine Or.inl ⟨.contractViolation (.byteLength 3), ?_⟩
    have place : Path.keyPlace ⟨"cache"⟩ (Inquiry.key ⟨"curt", spoiledRequest, {}⟩) =
        ["cache", (Fingerprint.compute "curt" spoiledRequest {}).fileName] := rfl
    have spoilt : spoiled.service.disk.files.get?
        ["cache", (Fingerprint.compute "curt" spoiledRequest {}).fileName] =
          some (.file [1, 2, 3]) := by
      simp [spoiled, Files.get?, Location.isFixed, Location.root, List.lookup_cons]
    rw [place, spoilt, Option.some.injEq, Item.file.injEq] at found
    rw [← found]
    rfl

/-- A spoiled file and a limit below any module: the request is refused. A larger cache grants it. -/
theorem run_answers_of_spoiled :
    (spoiled.answer? spoiledRequest).map Answer.outcome =
        some (.finished (.error (.cacheExhausted 4 3))) ∧
      ((spoiled.run [.get spoiledRequest, .renew .curt {} (some 4) none]).answer?
        spoiledRequest).map Answer.outcome = some (.finished (.ok ⟨[spirvMagic], by simp⟩)) := by
  have fresh : spoiled.Fresh := ⟨rfl, rfl⟩
  -- The first request is that of the empty run, and the second one that of the larger cache.
  have refused := run_answers fresh reliable_enlarging [] _ spoiledRequest rfl rfl
  have granted := run_answers fresh reliable_enlarging
    [.get spoiledRequest, .renew .curt {} (some 4) none] _ spoiledRequest rfl rfl
  exact ⟨refused, granted⟩

end Session

end ShaderBuild
