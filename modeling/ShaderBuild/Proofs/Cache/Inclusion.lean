import Mathlib.Data.Fintype.Pigeonhole
import ShaderBuild.Proofs.Cache.Failures

/-! More room never loses a hit when requests with the same key end in the same way. -/

namespace ShaderBuild

/-- Each key stands in the queue once. -/
theorem Shelf.Accounted.distinct_queue {shelf : Shelf} (accounted : shelf.Accounted) :
    (shelf.queue.map (·.1)).Nodup := by
  -- The queue has the entries of the memory in another order.
  rw [Shelf.queue, List.map_map]
  exact (shelf.byAge_perm.map _).nodup_iff.mpr accounted.distinct

/-- What is asked of a compiler under some options: the key of a request tells how the compiler ends
on it, and no module is larger than a limit. -/
structure Compiler.Suits (compiler : Compiler) (options : Options) (asked : List Request)
    (limit : Nat) : Prop where
  decided : ∀ one ∈ asked, ∀ two ∈ asked,
    Fingerprint.compute compiler.identifier one options =
      Fingerprint.compute compiler.identifier two options →
    compiler.compile one options = compiler.compile two options
  fits : ∀ one ∈ asked, ∀ bytecode, compiler.compile one options = .finished (.ok bytecode) →
    bytecode.byteLength ≤ limit

/-- The settings of a cache without a disk tier. -/
def Setting.bare (compiler : Compiler) (options : Options) (limit? : Option Nat) : Setting :=
  ⟨compiler, options, limit?, none⟩

/-- The modules that are made fit under a limit that is at least as large. -/
theorem Compiler.Suits.fits_wide {compiler : Compiler} {options : Options} {asked : List Request}
    {tight : Nat} (suits : compiler.Suits options asked tight) {wide? : Option Nat}
    (wider : ∀ wide, wide? = some wide → tight ≤ wide) {request : Request}
    (among : request ∈ asked) {bytecode : Bytecode}
    (made : compiler.compile request options = .finished (.ok bytecode)) :
    (Setting.bare compiler options wide?).Fits bytecode :=
  -- The modules fit under the tighter limit already.
  fun wide bounded => (suits.fits request among bytecode made).trans (wider wide bounded)

namespace Sight

variable {sight small large : Sight} {request : Request} {bytecode : Bytecode}

/-- No request changes what the owner has set. -/
theorem setting_serve (sight : Sight) (request : Request) :
    (sight.serve request).2.setting = sight.setting := by
  -- In none of the ways are the settings touched.
  unfold serve
  split
  · rfl
  · split <;> rfl

section Bare

variable {compiler : Compiler} {options : Options} {limit? : Option Nat}

/-- The compiler and its options make the key of a request. -/
theorem keyOf_of_bare (bare : sight.setting = .bare compiler options limit?) (request : Request) :
    sight.setting.keyOf request = .compute compiler.identifier request options := by
  -- The limit and the disk are no part of a key.
  rw [bare]
  rfl

/-- Without a disk tier it is due how the compiler ends, as far as the limit allows. -/
theorem due_of_bare (bare : sight.setting = .bare compiler options limit?) (request : Request) :
    sight.setting.due sight.disk request =
      (compiler.compile request options).under limit? false := by
  -- Without a directory a look finds nothing.
  rw [bare]
  rfl

/-- What is seen of a request that finds its module in memory. -/
theorem serve_found (bare : sight.setting = .bare compiler options limit?)
    (found : sight.queue.lookup (.compute compiler.identifier request options) = some bytecode)
    (distinct : (sight.queue.map (·.1)).Nodup) :
    (sight.serve request).2.queue =
        sight.queue.renew (.compute compiler.identifier request options) bytecode ∧
      (sight.serve request).2.hits = sight.hits + 1 ∧
      (sight.serve request).2.evictions + (sight.serve request).2.queue.length =
        sight.evictions + sight.queue.length := by
  -- The module moves to the back of the queue, which is as long as before.
  have own := keyOf_of_bare bare request
  rw [← own] at found ⊢
  rw [sight.serve_of_queued request found]
  exact ⟨rfl, rfl, congrArg _ (Queue.length_renew distinct found)⟩

/-- What is seen of a request whose module is made and fits. -/
theorem serve_made (bare : sight.setting = .bare compiler options limit?)
    (absent : sight.queue.lookup (.compute compiler.identifier request options) = none)
    (made : compiler.compile request options = .finished (.ok bytecode))
    (fits : (Setting.bare compiler options limit?).Fits bytecode) :
    (sight.serve request).2.queue = (sight.queue.room limit? bytecode.byteLength).renew
        (.compute compiler.identifier request options) bytecode ∧
      (sight.serve request).2.hits = sight.hits ∧
      (sight.serve request).2.evictions + (sight.serve request).2.queue.length =
        sight.evictions + sight.queue.length + 1 := by
  have own := keyOf_of_bare bare request
  have limit : sight.setting.memoryLimit = limit? := by
    rw [bare]
    rfl
  have due : sight.setting.due sight.disk request = .finished (.ok bytecode) := by
    rw [due_of_bare bare, made]
    exact fits.under false
  rw [← own] at absent ⊢
  rw [sight.serve_of_module request absent due, ← limit]
  refine ⟨rfl, rfl, ?_⟩
  -- As many modules as the queue has become shorter by have made room, and one has joined.
  have inside := sight.queue.room_suffix sight.setting.memoryLimit bytecode.byteLength
  have shorter := inside.length_le
  simp only [put, Queue.renew_of_absent (Queue.lookup_of_suffix inside absent), List.length_append,
    List.length_singleton]
  omega

/-- What is seen of a request that fails. -/
theorem serve_failed (bare : sight.setting = .bare compiler options limit?)
    (absent : sight.queue.lookup (.compute compiler.identifier request options) = none)
    (fails : ∀ bytecode, compiler.compile request options ≠ .finished (.ok bytecode)) :
    (sight.serve request).2.queue = sight.queue ∧ (sight.serve request).2.hits = sight.hits ∧
      (sight.serve request).2.evictions = sight.evictions := by
  have own := keyOf_of_bare bare request
  have due : ∀ bytecode,
      sight.setting.due sight.disk request ≠ .finished (.ok bytecode) := by
    intro bytecode
    rw [due_of_bare bare]
    -- A failure stays one, whatever the limit.
    cases ends : compiler.compile request options with
    | panicked message => simp [CompileOutcome.under]
    | finished result =>
      cases result with
      | error failure => simp [CompileOutcome.under]
      | ok other => exact absurd ends (fails other)
  rw [← own] at absent
  rw [sight.serve_of_failure request absent due]
  exact ⟨rfl, rfl, rfl⟩

/-- What a request leaves of the queue when there is no disk tier and every module fits. -/
def ask (setting : Setting) (queue : Queue) (request : Request) : Queue :=
  match queue.lookup (setting.keyOf request) with
  | some bytecode => queue.renew (setting.keyOf request) bytecode
  | none =>
    match setting.outcome request with
    | .finished (.ok bytecode) =>
      (queue.room setting.memoryLimit bytecode.byteLength).renew (setting.keyOf request) bytecode
    | _ => queue

/-- The queue is what the request leaves of it. -/
theorem queue_serve (bare : sight.setting = .bare compiler options limit?)
    (distinct : (sight.queue.map (·.1)).Nodup)
    (fits : ∀ bytecode, compiler.compile request options = .finished (.ok bytecode) →
      (Setting.bare compiler options limit?).Fits bytecode) :
    (sight.serve request).2.queue = ask (.bare compiler options limit?) sight.queue request := by
  -- The three ways of a request, each of which was seen above.
  unfold ask
  split
  · rename_i bytecode found
    exact (serve_found bare found distinct).1
  · rename_i absent
    split
    · rename_i bytecode made
      exact (serve_made bare absent made (fits bytecode made)).1
    · rename_i fails
      exact (serve_failed bare absent fails).1

end Bare

/-- What is to be seen of two caches that were asked for the same, the second of which has more
room. -/
structure Within (compiler : Compiler) (options : Options) (asked : List Request)
    (small large : Sight) : Prop where
  /-- The smaller cache has the modules that the larger one has at the back of its queue. -/
  suffix : small.queue <:+ large.queue
  /-- The modules in the queue are what the compiler makes of the requests with their keys. -/
  known : ∀ entry ∈ large.queue, ∀ one ∈ asked,
    Fingerprint.compute compiler.identifier one options = entry.1 →
    compiler.compile one options = .finished (.ok entry.2)
  hits : small.hits ≤ large.hits
  /-- What has joined the queue is in it or has made room. -/
  joined : large.evictions + large.queue.length ≤ small.evictions + small.queue.length

section Serve

variable {compiler : Compiler} {options : Options} {asked : List Request} {tight : Nat}
  {wide? : Option Nat}

/-- A module that goes to the back of the queue is known. -/
theorem Within.known_renew (within : Within compiler options asked small large)
    (suits : compiler.Suits options asked tight) (among : request ∈ asked)
    (made : compiler.compile request options = .finished (.ok bytecode)) {left : Queue}
    (inside : left <:+ large.queue) :
    ∀ entry ∈ left.renew (.compute compiler.identifier request options) bytecode, ∀ one ∈ asked,
      Fingerprint.compute compiler.identifier one options = entry.1 →
      compiler.compile one options = .finished (.ok entry.2) := by
  intro entry there one among' same
  rcases List.mem_append.mp there with old | new
  · exact within.known entry (inside.subset (List.mem_filter.mp old).1) one among' same
  · -- Requests with the key of the new module end as it does.
    rw [List.mem_singleton.mp new] at same ⊢
    exact (suits.decided one among' request among same).trans made

/-- When a module goes to the back of both queues, the smaller one stays the back part of the larger
one. -/
theorem Within.renewed (within : Within compiler options asked small large)
    (suits : compiler.Suits options asked tight) (among : request ∈ asked)
    (made : compiler.compile request options = .finished (.ok bytecode)) {small' large' : Sight}
    {left left' : Queue}
    (queue : small'.queue = left.renew (.compute compiler.identifier request options) bytecode)
    (queue' : large'.queue = left'.renew (.compute compiler.identifier request options) bytecode)
    (part : left <:+ left') (inside : left' <:+ large.queue) (hits : small'.hits ≤ large'.hits)
    (joined : large'.evictions + large'.queue.length ≤ small'.evictions + small'.queue.length) :
    Within compiler options asked small' large' where
  -- What is put at the back of both is the same.
  suffix := by
    rw [queue, queue']
    exact Queue.renew_suffix_renew part
  known := by
    rw [queue']
    exact within.known_renew suits among made inside
  hits := hits
  joined := joined

/-- A request leaves the smaller queue the back part of the larger one, and keeps the counters in
their order. -/
theorem Within.serve (within : Within compiler options asked small large)
    (suits : compiler.Suits options asked tight)
    (wider : ∀ wide, wide? = some wide → tight ≤ wide)
    (setting : small.setting = .bare compiler options (some tight))
    (setting' : large.setting = .bare compiler options wide?)
    (distinct : (small.queue.map (·.1)).Nodup) (distinct' : (large.queue.map (·.1)).Nodup)
    (among : request ∈ asked) :
    Within compiler options asked (small.serve request).2 (large.serve request).2 := by
  let key := Fingerprint.compute compiler.identifier request options
  have same : ∀ limit, some tight = some limit → tight ≤ limit :=
    fun limit bounded => (Option.some.inj bounded).le
  cases found' : large.queue.lookup key with
  | some bytecode =>
    -- The larger cache has the module, and it is what the compiler makes.
    have made := within.known _ (Association.mem_of_lookup found') request among rfl
    obtain ⟨queue', hits', joined'⟩ := serve_found setting' found' distinct'
    cases found : small.queue.lookup key with
    | some other =>
      have made' := within.known _
        (within.suffix.subset (Association.mem_of_lookup found)) request among rfl
      obtain rfl : other = bytecode := by
        rw [made, CompileOutcome.finished.injEq, Except.ok.injEq] at made'
        exact made'.symm
      obtain ⟨queue, hits, joined⟩ := serve_found setting found distinct
      refine within.renewed suits among made queue queue' within.suffix (List.suffix_refl _) ?_ ?_
      · rw [hits, hits']
        exact Nat.succ_le_succ within.hits
      · rw [joined, joined']
        exact within.joined
    | none =>
      -- Only the smaller cache compiles, and the module joins at the back of both.
      obtain ⟨queue, hits, joined⟩ := serve_made setting found made (suits.fits_wide same among made)
      refine within.renewed suits among made queue queue'
        ((small.queue.room_suffix _ _).trans within.suffix) (List.suffix_refl _) ?_ ?_
      · rw [hits, hits']
        exact Nat.le_succ_of_le within.hits
      · rw [joined, joined']
        exact Nat.le_succ_of_le within.joined
  | none =>
    have found : small.queue.lookup key = none := Queue.lookup_of_suffix within.suffix found'
    by_cases makes : ∃ bytecode, compiler.compile request options = .finished (.ok bytecode)
    · -- Both caches compile, and the larger one keeps at least as much beside the module.
      obtain ⟨bytecode, made⟩ := makes
      obtain ⟨queue, hits, joined⟩ := serve_made setting found made (suits.fits_wide same among made)
      obtain ⟨queue', hits', joined'⟩ :=
        serve_made setting' found' made (suits.fits_wide wider among made)
      refine within.renewed suits among made queue queue'
        (Queue.room_suffix_room within.suffix wider _) (large.queue.room_suffix _ _) ?_ ?_
      · rw [hits, hits']
        exact within.hits
      · rw [joined, joined']
        exact Nat.succ_le_succ within.joined
    · -- Both caches fail and keep what they have.
      have fails : ∀ bytecode, compiler.compile request options ≠ .finished (.ok bytecode) :=
        fun bytecode made => makes ⟨bytecode, made⟩
      obtain ⟨queue, hits, evictions⟩ := serve_failed setting found fails
      obtain ⟨queue', hits', evictions'⟩ := serve_failed setting' found' fails
      constructor
      · rw [queue, queue']
        exact within.suffix
      · rw [queue']
        exact within.known
      · rw [hits, hits']
        exact within.hits
      · rw [queue, queue', evictions, evictions']
        exact within.joined

end Serve

end Sight

/-- Every request that is answered is counted once, as a hit or as a miss. -/
theorem Stock.Serves.asked {stock after : Stock} {request : Request} {answer : Answer}
    (serves : stock.Serves request answer after) :
    after.stats.hits + after.stats.misses = stock.stats.hits + stock.stats.misses + 1 := by
  -- What is no hit in memory is counted as a miss, whatever becomes of it.
  have missed : (stock.counted request).misses = stock.stats.misses + 1 := by
    unfold Stock.counted
    split <;> rfl
  have hits := (stock.counted_eq request).1
  cases serves with
  | hit found =>
    show stock.stats.hits + 1 + stock.stats.misses = _
    omega
  | failed absent due fails handles =>
    show (stock.counted request).hits + (stock.counted request).misses = _
    omega
  | kept absent due =>
    show (stock.counted request).hits + (stock.counted request).misses = _
    omega

/-- A new cache without a disk tier. -/
structure Service.Bare (service : Service) (compiler : Compiler) (options : Options)
    (limit? : Option Nat) : Prop extends service.New where
  setting : service.cache.setting = .bare compiler options limit?
  unused : service.cache.stats = {}

/-- What is seen of a new cache without a disk tier. -/
theorem Service.Bare.sight_eq {service : Service} {compiler : Compiler} {options : Options}
    {limit? : Option Nat} (bare : service.Bare compiler options limit?) :
    service.stock.sight = ⟨.bare compiler options limit?, [], service.disk, 0, 0⟩ := by
  -- Nothing is in memory and nothing is counted.
  have queue : service.cache.shelf.queue = [] := by
    rw [bare.memory]
    exact Shelf.queue_clear {}
  simp only [Stock.sight, stock, queue, bare.setting, bare.unused]

namespace Session

variable {session : Session}

/-- A request leaves a cache calm, shows what it must, and is counted once. -/
theorem seen_get (live : session.live = true) (calm : session.service.Calm) (request : Request) :
    let after := session.perform (.get request)
    after.live = true ∧ after.service.Calm ∧
      after.service.stock.sight = (session.service.stock.sight.serve request).2 ∧
      after.stats.hits + after.stats.misses = session.stats.hits + session.stats.misses + 1 := by
  -- The request is served alone.
  intro after
  obtain ⟨answer, -, idle, serves⟩ := perform_serves live calm.idle request
  have lives : after.live = true := congrArg Session.live (perform_get live request)
  exact ⟨lives, ⟨idle, serves.dated calm.dated⟩, congrArg Prod.snd (serves.sight_eq calm.dated),
    serves.asked⟩

/-- After requests the queue is what they leave of it, one after the other. -/
theorem queue_run (session : Session) (requests : List Request) {compiler : Compiler}
    {options : Options} {limit? : Option Nat} (live : session.live = true) (calm : session.service.Calm)
    (setting : session.service.stock.sight.setting = .bare compiler options limit?)
    (fits : ∀ request ∈ requests, ∀ bytecode,
      compiler.compile request options = .finished (.ok bytecode) →
      (Setting.bare compiler options limit?).Fits bytecode) :
    (session.run (requests.map .get)).service.Calm ∧
      (session.run (requests.map .get)).service.stock.sight.queue =
        requests.foldl (Sight.ask (.bare compiler options limit?))
          session.service.stock.sight.queue := by
  induction requests generalizing session with
  | nil => exact ⟨calm, rfl⟩
  | cons request requests ih =>
    -- Each request leaves the session live and calm, which is what the next one asks for.
    obtain ⟨live', calm', seen, -⟩ := seen_get live calm request
    have queue := Sight.queue_serve setting calm.dated.distinct_queue
      (fits request List.mem_cons_self)
    rw [← seen] at queue
    have rest := ih _ live' calm' (by rw [seen, Sight.setting_serve, setting])
      fun other among => fits other (List.mem_cons_of_mem _ among)
    rw [queue] at rest
    exact rest

/-- Two caches that were asked for the same, the second of which has more room. -/
structure Within (compiler : Compiler) (options : Options) (asked : List Request) (tight : Nat)
    (wide? : Option Nat) (small large : Session) : Prop where
  live : small.live = true
  live' : large.live = true
  calm : small.service.Calm
  calm' : large.service.Calm
  setting : small.service.stock.sight.setting = .bare compiler options (some tight)
  setting' : large.service.stock.sight.setting = .bare compiler options wide?
  sight : Sight.Within compiler options asked small.service.stock.sight
    large.service.stock.sight
  counted : small.stats.hits + small.stats.misses = large.stats.hits + large.stats.misses

section Within

variable {compiler : Compiler} {options : Options} {asked : List Request} {tight : Nat}
  {wide? : Option Nat} {small large : Session}

/-- Two caches are asked for the same, and the second one still has what the first one has. -/
theorem Within.get (within : Within compiler options asked tight wide? small large)
    (suits : compiler.Suits options asked tight)
    (wider : ∀ wide, wide? = some wide → tight ≤ wide) {request : Request}
    (among : request ∈ asked) :
    Within compiler options asked tight wide? (small.perform (.get request))
      (large.perform (.get request)) := by
  -- What both caches show is compared, and each of them has counted the request once.
  obtain ⟨live, calm, seen, counted⟩ := seen_get within.live within.calm request
  obtain ⟨live', calm', seen', counted'⟩ := seen_get within.live' within.calm' request
  refine ⟨live, live', calm, calm', ?_, ?_, ?_, ?_⟩
  · rw [seen, Sight.setting_serve]
    exact within.setting
  · rw [seen', Sight.setting_serve]
    exact within.setting'
  · rw [seen, seen']
    exact within.sight.serve suits wider within.setting within.setting'
      within.calm.dated.distinct_queue within.calm'.dated.distinct_queue among
  · rw [counted, counted', within.counted]

/-- The same holds after any number of requests. -/
theorem Within.run (within : Within compiler options asked tight wide? small large)
    (suits : compiler.Suits options asked tight)
    (wider : ∀ wide, wide? = some wide → tight ≤ wide) {requests : List Request}
    (among : requests ⊆ asked) :
    Within compiler options asked tight wide? (small.run (requests.map .get))
      (large.run (requests.map .get)) := by
  -- Request by request.
  induction requests generalizing small large with
  | nil => exact within
  | cons request requests ih =>
    obtain ⟨first, rest⟩ := List.cons_subset.mp among
    exact ih (within.get suits wider first) rest

end Within

/-- Two new caches have the same, which is nothing. -/
theorem within_of_bare {compiler : Compiler} {options : Options} (asked : List Request)
    {tight : Nat} {wide? : Option Nat} {one two : Service}
    (small : one.Bare compiler options (some tight)) (large : two.Bare compiler options wide?) :
    Within compiler options asked tight wide? ⟨one, true⟩ ⟨two, true⟩ := by
  -- Both queues are empty and all counts are zero.
  refine ⟨rfl, rfl, small.toNew.calm, large.toNew.calm, ?_, ?_, ?_, ?_⟩
  · rw [small.sight_eq]
  · rw [large.sight_eq]
  · rw [small.sight_eq, large.sight_eq]
    exact ⟨List.suffix_refl _, by simp, Nat.le_refl _, Nat.le_refl _⟩
  · simp only [stats, small.unused, large.unused]

/-- Of two new caches without a disk tier that are asked for the same, the one with more room, or
with no limit, has all keys that the other one has, after each request. It was hit at least as
often, missed at most as often, and let at most as many modules go. -/
theorem more_room_keeps_more {compiler : Compiler} {options : Options} {asked : List Request}
    {tight : Nat} {wide? : Option Nat} (suits : compiler.Suits options asked tight)
    (wider : ∀ wide, wide? = some wide → tight ≤ wide) {one two : Service}
    (small : one.Bare compiler options (some tight)) (large : two.Bare compiler options wide?)
    {earlier later : List Request} (whole : asked = earlier ++ later) :
    let small := (Session.mk one true).run (earlier.map .get)
    let large := (Session.mk two true).run (earlier.map .get)
    (∀ key, small.service.cache.shelf.contains key = true →
      large.service.cache.shelf.contains key = true) ∧
      small.stats.hits ≤ large.stats.hits ∧ large.stats.misses ≤ small.stats.misses ∧
      large.stats.evictions ≤ small.stats.evictions := by
  intro small' large'
  have among : earlier ⊆ asked := by
    rw [whole]
    exact List.subset_append_left _ _
  have within := (within_of_bare asked small large).run suits wider among
  have hits : small'.stats.hits ≤ large'.stats.hits := within.sight.hits
  have joined : large'.stats.evictions + large'.memory.length ≤
      small'.stats.evictions + small'.memory.length := within.sight.joined
  have shorter : small'.memory.length ≤ large'.memory.length := within.sight.suffix.length_le
  have counted : small'.stats.hits + small'.stats.misses =
      large'.stats.hits + large'.stats.misses := within.counted
  refine ⟨fun key has => ?_, hits, by omega, by omega⟩
  rw [within.calm.contains_eq] at has
  rw [within.calm'.contains_eq]
  -- What stands in a back part of the queue stands in the queue.
  by_contra lacks
  rw [Option.not_isSome_iff_eq_none] at lacks
  rw [Queue.lookup_of_suffix within.sight.suffix lacks] at has
  exact absurd has (by simp)

/-- A new cache in front of a compiler whose modules have one word. -/
def narrow (limit : Nat) : Service :=
  { cache := { compiler := .curt, memoryLimit := some limit } }

/-- Two requests for one module with a breakdown and another module between them. -/
def returning : List Request :=
  [⟨"a.vert", "void main() {}"⟩, ⟨"b.vert", ""⟩, ⟨"c.vert", "void main() {}"⟩,
    ⟨"a.vert", "void main() {}"⟩]

/-- The keys of those requests tell how the compiler ends. -/
theorem suits_returning : Compiler.curt.Suits {} returning 4 where
  decided := by
    -- Only the request without a source breaks the compiler down, and no other one has its key.
    have first : Fingerprint.compute "curt" ⟨"a.vert", "void main() {}"⟩ {} ≠
        .compute "curt" ⟨"b.vert", ""⟩ {} := by decide +kernel
    have last : Fingerprint.compute "curt" ⟨"c.vert", "void main() {}"⟩ {} ≠
        .compute "curt" ⟨"b.vert", ""⟩ {} := by decide +kernel
    simp [returning, Compiler.curt, first, first.symm, last, last.symm]
  fits := by simp [returning, Compiler.curt, Bytecode.byteLength, Bytecode.wordCount]

/-- With room for one module the last request compiles again, and with room for two it is a hit. -/
theorem more_room_keeps_more_of_returning :
    let small := (Session.mk (narrow 4) true).run (returning.map .get)
    let large := (Session.mk (narrow 8) true).run (returning.map .get)
    Compiler.curt.Suits {} returning 4 ∧ (∀ wide, some 8 = some wide → 4 ≤ wide) ∧
      (narrow 4).Bare .curt {} (some 4) ∧ (narrow 8).Bare .curt {} (some 8) ∧
      (∀ key, small.service.cache.shelf.contains key = true →
        large.service.cache.shelf.contains key = true) ∧
      small.stats.hits ≤ large.stats.hits ∧ large.stats.misses ≤ small.stats.misses ∧
      large.stats.evictions ≤ small.stats.evictions := by
  -- Modules of the compiler have one word, so that four bytes are room for one of them.
  intro small large
  have wider : ∀ wide, some 8 = some wide → 4 ≤ wide := by simp
  have bare : ∀ limit, (narrow limit).Bare .curt {} (some limit) :=
    fun limit => ⟨⟨⟨rfl, rfl⟩, rfl⟩, rfl, rfl⟩
  exact ⟨suits_returning, wider, bare 4, bare 8,
    more_room_keeps_more suits_returning wider (bare 4) (bare 8) (List.append_nil returning).symm⟩

end Session

section Clash

/-- There are more texts of any name than keys, so that two of different length share one. -/
theorem Fingerprint.exists_shared_length (compilerId name : String) (options : Options) :
    ∃ one two : Nat, one ≠ two ∧
      compute compilerId ⟨name, .ofList (.replicate (one + 1) 'a')⟩ options =
        compute compilerId ⟨name, .ofList (.replicate (two + 1) 'a')⟩ options := by
  -- Keys are numbers of 128 bits, and there are infinitely many lengths.
  have finite : Finite Fingerprint := by
    refine Finite.of_injective (fun key => key.bits.toFin) fun one two same => ?_
    cases one
    cases two
    exact congrArg _ (BitVec.toFin_inj.mp same)
  exact Finite.exists_ne_map_eq_of_infinite
    fun length => compute compilerId ⟨name, .ofList (.replicate (length + 1) 'a')⟩ options

/-- Two requests share a key. -/
theorem Fingerprint.exists_shared (compilerId : String) (options : Options) :
    ∃ one two : Request, one ≠ two ∧
      compute compilerId one options = compute compilerId two options := by
  -- Texts of different length are different.
  obtain ⟨one, two, differ, same⟩ := exists_shared_length compilerId "" options
  refine ⟨_, _, fun equal => differ ?_, same⟩
  have source := congrArg (fun request => request.source.toList.length) equal
  simpa using source

/-- A module with zeros after its first word. -/
def Bytecode.padded (zeros : Nat) : Bytecode where
  words := spirvMagic :: List.replicate zeros 0
  nonempty := List.cons_ne_nil _ _

/-- A compiler that makes a module of three words for one request, breaks down on another one, and
makes a module of one word for all others. -/
def Compiler.torn (large broken : Request) : Compiler where
  identifier := "torn"
  compile := fun request _ =>
    if request = large then .finished (.ok (.padded 2))
    else if request = broken then .panicked "torn"
    else .finished (.ok (.padded 0))
  notes := fun _ _ => []

/-- The request on which that compiler breaks down has the key of the large module. -/
structure Clash (large broken one two : Request) : Prop where
  shared : Fingerprint.compute "torn" broken {} = .compute "torn" large {}
  differ : broken ≠ large
  first : Fingerprint.compute "torn" one {} ≠ .compute "torn" large {}
  second : Fingerprint.compute "torn" two {} ≠ .compute "torn" large {}
  apart : Fingerprint.compute "torn" one {} ≠ .compute "torn" two {}

namespace Clash

variable {large broken one two : Request}

/-- There are such requests. -/
theorem exists_clash : ∃ large broken one two, Clash large broken one two := by
  obtain ⟨broken, large, differ, shared⟩ := Fingerprint.exists_shared "torn" {}
  -- Of three requests with different keys, at most one has the key that is shared.
  have ab : Fingerprint.compute "torn" ⟨"a", ""⟩ {} ≠ .compute "torn" ⟨"b", ""⟩ {} := by
    decide +kernel
  have ac : Fingerprint.compute "torn" ⟨"a", ""⟩ {} ≠ .compute "torn" ⟨"c", ""⟩ {} := by
    decide +kernel
  have bc : Fingerprint.compute "torn" ⟨"b", ""⟩ {} ≠ .compute "torn" ⟨"c", ""⟩ {} := by
    decide +kernel
  by_cases a : Fingerprint.compute "torn" ⟨"a", ""⟩ {} = .compute "torn" large {}
  · exact ⟨large, broken, ⟨"b", ""⟩, ⟨"c", ""⟩, shared, differ,
      fun same => ab (a.trans same.symm), fun same => ac (a.trans same.symm), bc⟩
  · by_cases b : Fingerprint.compute "torn" ⟨"b", ""⟩ {} = .compute "torn" large {}
    · exact ⟨large, broken, ⟨"a", ""⟩, ⟨"c", ""⟩, shared, differ, a,
        fun same => bc (b.trans same.symm), ac⟩
    · exact ⟨large, broken, ⟨"a", ""⟩, ⟨"b", ""⟩, shared, differ, a, b, ab⟩

/-- The compiler makes one word of the two other requests. -/
theorem plain (clash : Clash large broken one two) :
    (one ≠ large ∧ one ≠ broken) ∧ two ≠ large ∧ two ≠ broken := by
  -- A request with another key is another request.
  have other : ∀ request, .compute "torn" request {} ≠ Fingerprint.compute "torn" large {} →
      request ≠ large ∧ request ≠ broken := fun request apart =>
    ⟨fun same => apart (same ▸ rfl), fun same => apart (same ▸ clash.shared)⟩
  exact ⟨other one clash.first, other two clash.second⟩

/-- Only the smaller cache keeps the module of the one request. The larger one finds a module for the
request on which the compiler breaks down, and keeps that instead. -/
theorem queues (clash : Clash large broken one two) :
    let left := fun limit => [large, one, broken, two].foldl
      (Sight.ask (.bare (.torn large broken) {} (some limit))) []
    let key := Fingerprint.compute "torn" one {}
    ((left 12).lookup key).isSome = true ∧ ((left 16).lookup key).isSome = false := by
  -- Both runs are computed, with the keys that are shared and those that differ.
  obtain ⟨⟨_, _⟩, _, _⟩ := clash.plain
  constructor <;>
    simp [Sight.ask, Setting.bare, Setting.keyOf, Setting.outcome, Compiler.torn, Queue.room,
      Queue.trim, Queue.total, Queue.renew, Bytecode.byteLength, Bytecode.wordCount,
      Bytecode.padded, List.lookup_cons, beq_eq_decide, clash.shared, clash.differ, clash.first,
      clash.first.symm, clash.second, clash.second.symm, clash.apart, clash.apart.symm, *]

end Clash

/-- When a request has the key of a module and does not end with it, a larger cache can lack a key
that a smaller one has. -/
theorem Session.more_room_can_keep_less :
    ¬ ∀ (compiler : Compiler) (options : Options) (asked : List Request) (tight wide : Nat),
      (∀ request ∈ asked, ∀ bytecode,
        compiler.compile request options = .finished (.ok bytecode) →
        bytecode.byteLength ≤ tight) →
      tight ≤ wide → ∀ one two : Service, one.Bare compiler options (some tight) →
      two.Bare compiler options (some wide) → ∀ key,
      ((Session.mk one true).run (asked.map .get)).service.cache.shelf.contains key = true →
      ((Session.mk two true).run (asked.map .get)).service.cache.shelf.contains key = true := by
  intro keeps
  obtain ⟨large, broken, one, two, clash⟩ := Clash.exists_clash
  let compiler := Compiler.torn large broken
  let service : Nat → Service := fun limit =>
    { cache := { compiler := compiler, memoryLimit := some limit } }
  have bare : ∀ limit, (service limit).Bare compiler {} (some limit) :=
    fun limit => ⟨⟨⟨rfl, rfl⟩, rfl⟩, rfl, rfl⟩
  -- No module has more than three words.
  have fits : ∀ request, ∀ bytecode, compiler.compile request {} = .finished (.ok bytecode) →
      bytecode.byteLength ≤ 12 := by
    intro request bytecode made
    simp only [compiler, Compiler.torn] at made
    split at made
    · simp only [CompileOutcome.finished.injEq, Except.ok.injEq] at made
      rw [← made]
      decide
    · split at made
      · simp at made
      · simp only [CompileOutcome.finished.injEq, Except.ok.injEq] at made
        rw [← made]
        decide
  -- What is in memory is what the requests leave of the empty queue.
  have contains : ∀ limit, 12 ≤ limit → ∀ key,
      ((Session.mk (service limit) true).run
        ([large, one, broken, two].map .get)).service.cache.shelf.contains key =
      (([large, one, broken, two].foldl (Sight.ask (.bare compiler {} (some limit))) []).lookup
        key).isSome := by
    intro limit enough key
    obtain ⟨calm, queue⟩ := Session.queue_run ⟨service limit, true⟩
      [large, one, broken, two] rfl (bare limit).toNew.calm
      (congrArg Sight.setting (bare limit).sight_eq) fun request _ bytecode made bound bounded => by
        rw [← Option.some.inj bounded]
        exact (fits request bytecode made).trans enough
    rw [calm.contains_eq, queue, (bare limit).sight_eq]
  obtain ⟨has, lacks⟩ := clash.queues
  have lost := keeps compiler {} [large, one, broken, two] 12 16 (fun request _ => fits request)
    (by decide) (service 12) (service 16) (bare 12) (bare 16) (.compute "torn" one {})
  rw [contains 12 (Nat.le_refl _), contains 16 (by decide)] at lost
  exact absurd (lost has) (by rw [lacks]; decide)

end Clash

end ShaderBuild
