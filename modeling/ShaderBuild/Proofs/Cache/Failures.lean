import ShaderBuild.Proofs.Cache.ObservableState

/-! Requests that fail leave nothing behind, whether or not they are made again. -/

namespace ShaderBuild

/-- Between deeds no request is under way, and the memory is dated. -/
structure Service.Calm (service : Service) : Prop where
  idle : service.Idle
  dated : service.stock.shelf.Dated

/-- A new cache is calm. -/
theorem Service.New.calm {service : Service} (new : service.New) : service.Calm where
  -- The memory is empty, so that it has no stamps to be in order.
  idle := new.toIdle
  dated := by
    show service.cache.shelf.Dated
    rw [new.memory]
    exact Shelf.dated_empty 0

/-- Two services between deeds of which the same is to be seen. -/
structure Service.Twins (one two : Service) : Prop where
  calm : one.Calm
  calm' : two.Calm
  sight : one.stock.sight = two.stock.sight

namespace Service

variable {one two : Service}

/-- Twins answer a request in the same way and stay twins. -/
theorem Twins.request (twins : one.Twins two) (request : Request) :
    ∃ answer answer', (one.request request).2 = .answered answer ∧
      (two.request request).2 = .answered answer' ∧ answer.outcome = answer'.outcome ∧
      (one.request request).1.Twins (two.request request).1 := by
  -- Each answers what is seen of it, and the same is to be seen of both.
  obtain ⟨after, answer, ends, idle, serves⟩ := request_serves twins.calm.idle request
  obtain ⟨after', answer', ends', idle', serves'⟩ := request_serves twins.calm'.idle request
  have seen := serves.sight_eq twins.calm.dated
  have seen' := serves'.sight_eq twins.calm'.dated
  rw [twins.sight, ← seen', Prod.mk.injEq] at seen
  refine ⟨answer, answer', by rw [ends], by rw [ends'], seen.1, ?_⟩
  rw [ends, ends']
  exact ⟨⟨idle, serves.dated twins.calm.dated⟩, ⟨idle', serves'.dated twins.calm'.dated⟩, seen.2⟩

/-- What is in memory stands in the queue. -/
theorem Calm.contains_eq {service : Service} (calm : service.Calm) (key : Fingerprint) :
    service.cache.shelf.contains key = (service.stock.sight.queue.lookup key).isSome := by
  -- The queue has the same keys as the memory.
  show _ = (service.stock.shelf.queue.lookup key).isSome
  rw [calm.dated.lookup_queue, Option.isSome_map]
  exact Shelf.contains_eq _ _

/-- Twins find the same keys in memory. -/
theorem Twins.contains (twins : one.Twins two) (key : Fingerprint) :
    one.cache.shelf.contains key = two.cache.shelf.contains key := by
  -- Both calm memories have what the common sight of them has.
  rw [twins.calm.contains_eq, twins.calm'.contains_eq, twins.sight]

/-- Twins tell the same of an invalidation. -/
theorem Twins.invalidate (twins : one.Twins two) (key : Fingerprint) :
    (one.invalidate key).1 = (two.invalidate key).1 := by
  -- Whether the key was in memory and whether its file goes are both to be seen.
  have disk : one.stock.forget key = two.stock.forget key := by
    unfold Stock.forget
    rw [show one.stock.disk = two.stock.disk from congrArg Sight.disk twins.sight,
      show one.stock.setting = two.stock.setting from congrArg Sight.setting twins.sight]
  rw [invalidate_eq, invalidate_eq, Shelf.isSome_remove, Shelf.isSome_remove, twins.contains, disk]

end Service

/-- A request that does not find its key in memory has the counters of its look on the disk. -/
theorem Stock.Serves.counts {stock after : Stock} {request : Request} {answer : Answer}
    (serves : stock.Serves request answer after)
    (absent : stock.shelf.held? (stock.setting.keyOf request) = none) :
    after.stats.misses = (stock.counted request).misses ∧
      after.stats.diskHits = (stock.counted request).diskHits ∧
      after.stats.compilations = (stock.counted request).compilations := by
  -- A hit would have found the key; the other two ways count alike.
  cases serves with
  | hit found =>
    rw [absent] at found
    simp at found
  | failed => exact ⟨rfl, rfl, rfl⟩
  | kept => exact ⟨rfl, rfl, rfl⟩

/-- What is seen of a deed when it is done: how a request ends, and whether an invalidation finds
anything. -/
inductive Reply where
  | ended (outcome : CompileOutcome)
  | forgot (found : Bool)
  | done

namespace Session

/-- What a deed shows. Without a cache it shows nothing. -/
def reply (session : Session) : Deed → Reply
  | .get request => (session.answer? request).elim .done fun answer => .ended answer.outcome
  | .invalidate key =>
    if session.live then .forgot (session.service.invalidate key).1 else .done
  | _ => .done

/-- What is in memory, the module that was used longest ago first. -/
def memory (session : Session) : Queue :=
  session.service.cache.shelf.queue

/-- What a deed takes out of the memory, to make room or for good. -/
def taken (session : Session) (deed : Deed) : Queue :=
  session.memory.filter fun entry =>
    !(session.perform deed).service.cache.shelf.contains entry.1

/-- The counters of the cache. -/
def stats (session : Session) : Stats := session.service.cache.stats

/-- Two sessions of which the same is to be seen. -/
structure Twins (one two : Session) : Prop where
  live : one.live = two.live
  service : one.service.Twins two.service

/-- A request that is made there fails. -/
def Fails (session : Session) (request : Request) : Prop :=
  ∃ answer, session.answer? request = some answer ∧ answer.Fails

/-- The file of a request's key, if there is one that can be read, holds a module. -/
def Legible (session : Session) (request : Request) : Prop :=
  ∀ path bytes, session.service.cache.diskPath? (session.service.cache.keyOf request) = some path →
    session.service.disk.files.read path = .ok bytes →
      ∃ bytecode, Bytecode.ofBytes bytes = .ok bytecode

/-- The file of a request's key is there and holds a module. -/
def Finds (session : Session) (request : Request) : Prop :=
  ∃ path bytes bytecode,
    session.service.cache.diskPath? (session.service.cache.keyOf request) = some path ∧
    session.service.disk.files.read path = .ok bytes ∧ Bytecode.ofBytes bytes = .ok bytecode

/-- A request that is made there looks on the disk, and calls the compiler unless it finds a module.
-/
structure Consults (session : Session) (request : Request) : Prop where
  looks : ∃ id, (Service.proceed (session.service.jobOf request) 1 session.service .arriving).2 =
    .leading id
  misses : (session.perform (.get request)).stats.misses = session.stats.misses + 1
  found : session.Finds request →
    (session.perform (.get request)).stats.diskHits = session.stats.diskHits + 1 ∧
      (session.perform (.get request)).stats.compilations = session.stats.compilations
  calls : ¬ session.Finds request →
    (∃ id, (Service.proceed (session.service.jobOf request) 2 session.service .arriving).2 =
      .compiling id) ∧
    (session.perform (.get request)).stats.diskHits = session.stats.diskHits ∧
      (session.perform (.get request)).stats.compilations = session.stats.compilations + 1

/-- Two sessions that show the same: whether there is a cache, the settings, what is in memory, its
size, how often it was hit and made room, and the disk. -/
structure Alike (one two : Session) : Prop where
  live : one.live = two.live
  setting : one.service.cache.setting = two.service.cache.setting
  memory : one.memory = two.memory
  resident : one.service.cache.shelf.resident = two.service.cache.shelf.resident
  hits : one.stats.hits = two.stats.hits
  evictions : one.stats.evictions = two.stats.evictions
  disk : one.service.disk = two.service.disk

section Twins

variable {one two : Session}

/-- Sessions of which the same is to be seen are alike. -/
theorem Twins.alike (twins : one.Twins two) : one.Alike two where
  live := twins.live
  setting := congrArg Sight.setting twins.service.sight
  memory := congrArg Sight.queue twins.service.sight
  resident := by
    have queue : one.memory = two.memory := congrArg Sight.queue twins.service.sight
    -- Both counters show the size of the queue.
    calc one.service.cache.shelf.resident = Queue.total one.memory :=
          twins.service.calm.dated.resident_eq
      _ = Queue.total two.memory := by rw [queue]
      _ = two.service.cache.shelf.resident := twins.service.calm'.dated.resident_eq.symm
  hits := congrArg Sight.hits twins.service.sight
  evictions := congrArg Sight.evictions twins.service.sight
  disk := congrArg Sight.disk twins.service.sight

/-- Twins of twins are twins. -/
theorem Twins.trans {three : Session} (twins : one.Twins two) (others : two.Twins three) :
    one.Twins three where
  -- What is seen of all three is the same.
  live := twins.live.trans others.live
  service :=
    ⟨twins.service.calm, others.service.calm', twins.service.sight.trans others.service.sight⟩

/-- Whatever is done with the caches of twins, they stay twins. -/
theorem twins_use {one two : Service} (twins : one.Twins two) (deed : Deed) :
    (use one deed).Twins (use two deed) := by
  -- A request depends on what is to be seen, and so does every other deed.
  by_cases asks : ∃ request, deed = .get request
  · obtain ⟨request, rfl⟩ := asks
    obtain ⟨answer, answer', -, -, -, after⟩ := twins.request request
    exact ⟨rfl, after⟩
  · have other : ∀ request, deed ≠ .get request := fun request same => asks ⟨request, same⟩
    obtain ⟨live, stock, quiet⟩ := use_changed one other
    obtain ⟨live', stock', quiet'⟩ := use_changed two other
    obtain ⟨same, sight⟩ :=
      Stock.sight_changed twins.calm.dated twins.calm'.dated twins.sight deed
    refine ⟨by rw [live, live', same], ⟨⟨quiet twins.calm.idle, ?_⟩,
      ⟨quiet' twins.calm'.idle, ?_⟩, by rw [stock, stock', sight]⟩⟩
    · rw [stock]
      exact Stock.dated_changed twins.calm.dated deed
    · rw [stock']
      exact Stock.dated_changed twins.calm'.dated deed

/-- Whatever is done, twins stay twins. -/
theorem Twins.perform (twins : one.Twins two) (deed : Deed) :
    (one.perform deed).Twins (two.perform deed) := by
  unfold Session.perform
  rw [twins.live]
  split
  · exact twins_use twins.service deed
  -- Without a cache only a new one does anything.
  · split
    · exact twins_use twins.service _
    · exact twins

/-- Twins show the same of what is done. -/
theorem Twins.reply (twins : one.Twins two) (deed : Deed) : one.reply deed = two.reply deed := by
  -- Of the deeds only a request and an invalidation are answered.
  cases deed with
  | get request =>
    obtain ⟨answer, answer', ends, ends', same, -⟩ := twins.service.request request
    simp only [Session.reply, answer?, twins.live, ends, ends', Phase.answer?]
    split
    · exact congrArg Reply.ended same
    · rfl
  | invalidate key =>
    simp only [Session.reply, twins.live, twins.service.invalidate key]
  | _ => rfl

/-- The same goes from the memory of twins. -/
theorem Twins.taken (twins : one.Twins two) (deed : Deed) : one.taken deed = two.taken deed := by
  -- The two queues are the same before the deed, and the same keys are left after it.
  have queue : one.memory = two.memory := congrArg Sight.queue twins.service.sight
  unfold Session.taken
  rw [queue]
  refine List.filter_congr fun entry _ => ?_
  rw [(twins.perform deed).service.contains]

end Twins

section Failing

variable {session : Session} {request : Request}

/-- A look that meets no file without a module leaves the disk. -/
theorem Legible.look_eq (legible : session.Legible request) :
    (session.service.stock.look request).2 = session.service.stock.disk :=
  -- Only files that are no modules are taken away by a look.
  Disk.search_of_legible legible

/-- A request that fails does not find its key in memory, and then it has looked on the disk and
called the compiler at most. -/
theorem Fails.missed (calm : session.service.Calm) (fails : session.Fails request) :
    session.live = true ∧
      session.service.stock.shelf.held? (session.service.stock.setting.keyOf request) = none ∧
      (session.perform (.get request)).service.Calm ∧
      ∃ heap failures, (session.perform (.get request)).service.stock =
        { session.service.stock.missed request with
          heap := heap
          stats := { session.service.stock.counted request with failures := failures } } := by
  obtain ⟨answer, answered, fails⟩ := fails
  obtain ⟨live, idle, serves⟩ := serves_of_answered calm.idle answered
  have calm' : (session.perform (.get request)).service.Calm :=
    ⟨idle, serves.dated calm.dated⟩
  refine ⟨live, ?_⟩
  generalize (session.perform (.get request)).service.stock = left at serves ⊢
  -- With a module in memory or put there the request would not have failed.
  cases serves with
  | @hit shared found => exact absurd rfl (fails shared)
  | @kept bytecode absent due => exact absurd rfl (fails _)
  | @failed _ heap failures absent due _ handles => exact ⟨absent, calm', heap, failures, rfl⟩

/-- A request fails when no module is in memory and none is due. -/
theorem fails_of_due (idle : session.service.Idle) (live : session.live = true)
    (absent : session.service.stock.shelf.held?
      (session.service.stock.setting.keyOf request) = none)
    (due : ∀ bytecode, session.service.stock.due request ≠ .finished (.ok bytecode)) :
    session.Fails request := by
  -- Of the three ways to be served only a failure is left.
  obtain ⟨answer, answered, -, serves⟩ := perform_serves live idle request
  refine ⟨answer, answered, ?_⟩
  generalize (session.perform (.get request)).service.stock = left at serves
  cases serves with
  | hit found =>
    rw [absent] at found
    simp at found
  | failed _ _ fails => exact fails
  | kept _ module => exact absurd module (due _)

/-- A request that fails and meets no file without a module leaves all that is to be seen. -/
theorem Fails.twins (calm : session.service.Calm) (fails : session.Fails request)
    (legible : session.Legible request) : (session.perform (.get request)).Twins session := by
  -- The memory and the disk show what they have shown before.
  obtain ⟨live, absent, after, heap, failures, stock⟩ := fails.missed calm
  refine ⟨?_, after, calm, ?_⟩
  · rw [perform_get live, live]
  · rw [stock, Stock.sight_missed absent, legible.look_eq]
    rfl

/-- A request that does not find its key in memory looks on the disk, and calls the compiler unless
it finds a module. -/
theorem consults_of_absent (idle : session.service.Idle) (live : session.live = true)
    (absent : session.service.stock.shelf.held?
      (session.service.stock.setting.keyOf request) = none) : session.Consults request := by
  -- The first step leads a flight, and the second one looks on the disk.
  let job := session.service.jobOf request
  obtain ⟨led, id, arrives, leads, begun⟩ := Service.arrive_lead job idle absent
  have search : led.stock.search job.key = session.service.stock.look request := by
    rw [begun]
    rfl
  have finds : session.Finds request ↔ (session.service.stock.look request).1.isSome :=
    Disk.isSome_search_iff.symm
  obtain ⟨answer, -, -, serves⟩ := perform_serves live idle request
  have counts := serves.counts absent
  have looks : (Service.proceed job 1 session.service .arriving).2 = .leading id := by
    simp only [Service.proceed, Service.advance, arrives]
  constructor
  case looks => exact ⟨id, looks⟩
  case misses =>
    refine counts.1.trans ?_
    unfold Stock.counted
    split <;> rfl
  case found =>
    intro found
    obtain ⟨bytecode, loaded⟩ := Option.isSome_iff_exists.mp (finds.mp found)
    rw [Stock.counted_of_found loaded] at counts
    exact counts.2
  case calls =>
    intro missing
    have loaded : (session.service.stock.look request).1 = none := by
      rw [finds, Option.isSome_iff_ne_none, not_not] at missing
      exact missing
    rw [Stock.counted_of_missing loaded] at counts
    obtain ⟨called, calls, -⟩ := Service.lead_compile leads (search ▸ loaded)
    refine ⟨⟨id, ?_⟩, counts.2⟩
    show (Service.proceed job 2 session.service .arriving).2 = .compiling id
    simp only [Service.proceed, Service.advance, arrives, calls]

/-- A request that failed looks on the disk again, and calls the compiler again unless it finds a
module. -/
theorem Fails.consults (calm : session.service.Calm) (fails : session.Fails request) :
    (session.perform (.get request)).Consults request := by
  -- The key is in memory no more than before.
  obtain ⟨live, absent, after, heap, failures, stock⟩ := fails.missed calm
  refine consults_of_absent after.idle ?_ ?_
  · rw [perform_get live]
  · rw [stock]
    exact (Shelf.held?_touch _ _ _).trans absent

end Failing

/-- The deeds of a run, some of which are marked. -/
def allDeeds (steps : List (Deed × Bool)) : List Deed := steps.map (·.1)

/-- The deeds of a run without those that are marked. -/
def keptDeeds (steps : List (Deed × Bool)) : List Deed := (steps.filter (!·.2)).map (·.1)

/-- Each deed that is marked is a request that fails where it stands, and the file of its key, if
there is one that can be read, holds a module then. -/
def Spares (start : Session) (steps : List (Deed × Bool)) : Prop :=
  ∀ earlier deed later, steps = earlier ++ (deed, true) :: later →
    ∃ request, deed = .get request ∧ (start.run (allDeeds earlier)).Fails request ∧
      (start.run (allDeeds earlier)).Legible request

/-- The rest of a run can be spared what the run can be spared. -/
theorem Spares.tail {start : Session} {deed : Deed} {marked : Bool} {steps : List (Deed × Bool)}
    (spares : start.Spares ((deed, marked) :: steps)) : (start.perform deed).Spares steps := by
  -- A place of the rest is a place of the whole, one step later.
  intro earlier other later whole
  exact spares ((deed, marked) :: earlier) other later (by rw [whole]; rfl)

/-- The beginning of a run can be spared what the run can be spared. -/
theorem Spares.left {start : Session} {earlier later : List (Deed × Bool)}
    (spares : start.Spares (earlier ++ later)) : start.Spares earlier := by
  -- A place of the beginning is a place of the whole.
  intro first deed rest whole
  exact spares first deed (rest ++ later) (by rw [whole]; simp)

/-- A run with failing requests and the run without them show the same. -/
theorem Twins.run {one two : Session} (twins : one.Twins two) {steps : List (Deed × Bool)}
    (spares : one.Spares steps) :
    (one.run (allDeeds steps)).Twins (two.run (keptDeeds steps)) := by
  induction steps generalizing one two with
  | nil => exact twins
  | cons step steps ih =>
    obtain ⟨deed, marked⟩ := step
    cases marked with
    | false => exact ih (twins.perform deed) spares.tail
    | true =>
      -- Only the first run makes the request, and it shows nothing.
      obtain ⟨request, rfl, fails, legible⟩ := spares [] deed steps rfl
      have spared := fails.twins twins.service.calm legible
      exact ih (spared.trans twins) spares.tail

/-- Requests that fail can be left out of a run. At every place of the run the two sessions are
alike, and what is kept shows the same and takes the same out of the memory. Whether or not it is
left out, a request that fails leaves no flight behind, and when it is made again it consults the
disk and the compiler again. -/
theorem run_without_failures {service : Service} (new : service.New) {steps : List (Deed × Bool)}
    (spares : Spares ⟨service, true⟩ steps) {earlier later : List (Deed × Bool)}
    (whole : steps = earlier ++ later) :
    let full := (Session.mk service true).run (allDeeds earlier)
    let spared := (Session.mk service true).run (keptDeeds earlier)
    full.Alike spared ∧ ∀ deed marked others, later = (deed, marked) :: others →
      (marked = false → full.reply deed = spared.reply deed ∧ full.taken deed = spared.taken deed) ∧
      (∀ request, deed = .get request → full.Fails request →
        (full.perform deed).service.Idle ∧ (full.perform deed).Consults request) := by
  -- A session is its own twin at the start, and the two stay twins along the run.
  subst whole
  have start : (Session.mk service true).Twins ⟨service, true⟩ := ⟨rfl, new.calm, new.calm, rfl⟩
  have twins := start.run spares.left
  intro full spared
  refine ⟨twins.alike, fun deed marked others _ => ⟨fun _ => ?_, ?_⟩⟩
  · exact ⟨twins.reply deed, twins.taken deed⟩
  · rintro request rfl fails
    obtain ⟨-, -, after, -⟩ := fails.missed twins.service.calm
    exact ⟨after.idle, fails.consults twins.service.calm⟩

/-- A new cache with room for one small module, and an empty directory for its files. -/
def cramped : Service where
  cache := { compiler := .curt, memoryLimit := some 4, diskDirectory := some ⟨"cache"⟩ }
  disk := { files := ⟨[(["cache"], .directory)]⟩ }

/-- A request that breaks its compiler down, and two others of which the second makes the first go.
-/
def squeezing : List (Deed × Bool) :=
  [(.get ⟨"a.vert", ""⟩, true), (.get ⟨"b.vert", "void main() {}"⟩, false),
    (.get ⟨"c.vert", "void main() {}"⟩, false)]

/-- The empty directory has no file of a key. -/
theorem unread_cramped {key : Fingerprint} {path : Path} {bytes : List UInt8}
    (used : cramped.cache.diskPath? key = some path) :
    cramped.disk.files.read path ≠ .ok bytes := by
  -- A file of a key would stand in the directory, where nothing does.
  intro read_
  have stands := Files.get?_of_read read_
  obtain ⟨directory, same, rfl⟩ := Cache.diskPath?_eq_some used
  obtain rfl : ⟨"cache"⟩ = directory := Option.some.inj same
  rw [Path.place_join_fileName] at stands
  have place : Path.keyPlace ⟨"cache"⟩ key = ["cache", key.fileName] := rfl
  rw [place] at stands
  simp [cramped, Files.get?, Location.isFixed, Location.root, List.lookup_cons] at stands

/-- The first request of that run fails, and the file of its key is not there. -/
theorem spares_squeezing : Spares ⟨cramped, true⟩ squeezing := by
  intro earlier deed later whole
  cases earlier with
  | cons step earlier =>
    -- No other step is marked.
    have among : (deed, true) ∈ squeezing.tail := by
      rw [whole]
      simp
    simp [squeezing] at among
  | nil =>
    obtain ⟨same, -⟩ := List.cons.inj whole
    obtain rfl : Deed.get ⟨"a.vert", ""⟩ = deed := (Prod.mk.inj same).1
    refine ⟨_, rfl, fails_of_due ⟨rfl, rfl⟩ rfl rfl fun bytecode => ?_, ?_⟩
    · have missing : (cramped.stock.look ⟨"a.vert", ""⟩).1 = none := by
        refine Option.not_isSome_iff_eq_none.mp fun found => ?_
        obtain ⟨path, bytes, -, used, read_, -⟩ := Disk.isSome_search_iff.mp found
        exact unread_cramped used read_
      have broke : cramped.stock.setting.outcome ⟨"a.vert", ""⟩ = .panicked "no source" := rfl
      show cramped.stock.due ⟨"a.vert", ""⟩ ≠ _
      rw [Stock.due_of_missing missing, broke]
      simp [CompileOutcome.under]
    · exact fun path bytes used read_ => absurd read_ (unread_cramped used)

/-- The request that breaks the compiler down fails and leaves no flight behind. The last one shows
the same without it, and takes the same out of the memory. -/
theorem run_without_failures_of_squeezing :
    let start := Session.mk cramped true
    let full := start.run (allDeeds (squeezing.take 2))
    let spared := start.run (keptDeeds (squeezing.take 2))
    let last : Deed := .get ⟨"c.vert", "void main() {}"⟩
    cramped.New ∧ start.Spares squeezing ∧ start.Fails ⟨"a.vert", ""⟩ ∧
      (start.perform (.get ⟨"a.vert", ""⟩)).Consults ⟨"a.vert", ""⟩ ∧ full.Alike spared ∧
      full.reply last = spared.reply last ∧ full.taken last = spared.taken last := by
  intro start full spared last
  have new : cramped.New := ⟨⟨rfl, rfl⟩, rfl⟩
  obtain ⟨request, same, fails, -⟩ := spares_squeezing [] _ _ rfl
  obtain rfl : ⟨"a.vert", ""⟩ = request := Deed.get.inj same
  -- One place is before the first request, and the other one before the last.
  obtain ⟨-, first⟩ := run_without_failures new spares_squeezing (List.nil_append squeezing).symm
  obtain ⟨alike, next⟩ := run_without_failures new spares_squeezing
    (List.take_append_drop 2 squeezing).symm
  obtain ⟨-, consults⟩ := (first _ true _ rfl).2 _ rfl fails
  obtain ⟨reply, taken⟩ := (next last false [] rfl).1 rfl
  exact ⟨new, spares_squeezing, fails, consults, alike, reply, taken⟩

end Session

end ShaderBuild
