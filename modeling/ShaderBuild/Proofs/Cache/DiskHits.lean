import ShaderBuild.Proofs.Cache.Forgetting
import ShaderBuild.Proofs.Cache.Reordering

/-! A disk hit is counted before the module is held against the limit. -/

namespace ShaderBuild

namespace Stock

variable {stock after : Stock} {request : Request} {answer : Answer} {bytecode : Bytecode}

/-- A look that finds a module leaves the disk. -/
theorem look_of_found (found : (stock.look request).1 = some bytecode) :
    (stock.look request).2 = stock.disk := by
  -- Without a directory there is nothing to remove, and with one a file that holds a module stays.
  unfold look search at found ⊢
  cases used : stock.setting.diskPath? (stock.setting.keyOf request) with
  | none => rfl
  | some path =>
    rw [used] at found
    exact (Disk.holds_of_search found).2

/-- A request whose module is on the disk leaves the disk. -/
theorem Serves.disk_of_found (serves : stock.Serves request answer after)
    (found : (stock.look request).1 = some bytecode) : after.disk = stock.disk := by
  -- Memory is asked before the disk, and a module from the disk is not written again.
  cases serves with
  | hit own => rfl
  | failed absent due fails handles => exact look_of_found found
  | @kept module absent due =>
    show (stock.made request module).disk = _
    simp only [made, found, Option.isSome_some, if_true]
    exact look_of_found found

/-- A request that fails leaves the modules in memory. -/
theorem Serves.held?_of_fails (serves : stock.Serves request answer after) (fails : answer.Fails)
    (key : Fingerprint) : after.shelf.held? key = stock.shelf.held? key := by
  -- Neither a hit nor a kept module fails, and a failure only renews a stamp.
  cases serves with
  | hit found => exact absurd rfl (fails _)
  | failed absent due fails handles => exact Shelf.held?_touch _ _ _
  | kept absent due => exact absurd rfl (fails _)

end Stock

/-- The module in the file of a key, when a directory is used. -/
theorem Service.filed?_eq_some_iff {service : Service} {directory : Path} {key : Fingerprint}
    {bytecode : Bytecode} (used : service.cache.diskDirectory = some directory) :
    service.filed? key = some bytecode ↔
      service.disk.Holds (directory.join key.fileName) bytecode := by
  -- What the look finds is what the file holds.
  have path := diskPath?_of_used used key
  constructor
  · intro filed
    rw [← search_eq_filed?, path] at filed
    exact (Disk.holds_of_search filed).1
  · intro holds
    rw [← search_eq_filed?, path, holds.search_eq]

namespace Session

variable {session : Session} {compiler : Compiler} {options : Options} {directory : Path}
  {request : Request} {key : Fingerprint} {bytecode : Bytecode} {limit : Nat}

/-- There is a cache with a compiler and options, it works in a directory, and no request is under
way. Its limit may be any. -/
structure Works (session : Session) (compiler : Compiler) (options : Options) (directory : Path) :
    Prop where
  live : session.live = true
  idle : session.service.Idle
  compiler : session.service.cache.compiler = compiler
  options : session.service.cache.options = options
  tier : session.service.cache.diskDirectory = some directory

/-- The key of a request is not in memory, but its file holds a module. -/
structure Filed (session : Session) (request : Request) (bytecode : Bytecode) : Prop where
  absent : session.service.cache.shelf.contains (session.service.cache.keyOf request) = false
  filed : session.service.filed? (session.service.cache.keyOf request) = some bytecode

/-- How a request is answered, whether that counts as a disk hit, and what is left on the disk. -/
inductive Tells (session : Session) (request : Request) (answer : Answer) : Prop where
  /-- The key is in memory. -/
  | hit {shared : Shared}
    (found : session.service.cache.shelf.held? (session.service.cache.keyOf request) = some shared)
    (answered : answer = .returned (.ok shared))
    (disk : (session.perform (.get request)).service.disk = session.service.disk)
    (count : (session.perform (.get request)).stats.diskHits = session.stats.diskHits)
  /-- The module in the file is answered. -/
  | loaded {shared : Shared} (filed : session.Filed request shared.bytecode)
    (fits : session.service.cache.setting.Fits shared.bytecode)
    (answered : answer = .returned (.ok shared))
    (disk : (session.perform (.get request)).service.disk = session.service.disk)
    (count : (session.perform (.get request)).stats.diskHits = session.stats.diskHits + 1)
  /-- The module in the file is larger than the limit. It has been counted before that is seen. -/
  | refused {bytecode : Bytecode} {limit : Nat} (filed : session.Filed request bytecode)
    (bounded : session.service.cache.memoryLimit = some limit)
    (large : limit < bytecode.byteLength)
    (answered : answer = .returned (.error (.cacheExhausted bytecode.byteLength limit)))
    (disk : (session.perform (.get request)).service.disk = session.service.disk)
    (count : (session.perform (.get request)).stats.diskHits = session.stats.diskHits + 1)
  /-- The compiler is called. -/
  | called
    (absent : session.service.cache.shelf.contains (session.service.cache.keyOf request) = false)
    (missing : session.service.filed? (session.service.cache.keyOf request) = none)
    (count : (session.perform (.get request)).stats.diskHits = session.stats.diskHits)

/-- Every request is answered in one of these ways. -/
theorem Works.tells (works : session.Works compiler options directory) (request : Request) :
    ∃ answer, session.answer? request = some answer ∧
      session.service.stock.Serves request answer
        (session.perform (.get request)).service.stock ∧ session.Tells request answer := by
  obtain ⟨answer, answered, -, serves⟩ := perform_serves works.live works.idle request
  refine ⟨answer, answered, serves, ?_⟩
  let key := session.service.cache.keyOf request
  cases held : session.service.cache.shelf.held? key with
  | some shared =>
    obtain ⟨same, stock⟩ := serves.of_held held
    exact .hit held same (congrArg Stock.disk stock)
      (congrArg (fun after : Stock => after.stats.diskHits) stock)
  | none =>
    have absent : session.service.cache.shelf.contains key = false :=
      Shelf.contains_eq_false_iff.mpr held
    obtain ⟨ends, -, count, -⟩ := Service.counts_of_serves serves held
    cases filed : session.service.filed? key with
    | none =>
      rw [filed] at count
      exact .called absent filed count
    | some bytecode =>
      have found : (session.service.stock.look request).1 = some bytecode :=
        (session.service.search_eq_filed? key).trans filed
      have disk := serves.disk_of_found found
      rw [filed] at count
      rw [Service.comesTo, filed] at ends
      -- What was found is held against the limit only now.
      rcases Service.checkFits_cases session.service.cache bytecode with
        ⟨-, fits⟩ | ⟨limit, bounded, large, -⟩
      · have fits' : session.service.cache.setting.Fits bytecode := fits
        obtain ⟨shared, same, rfl⟩ := Service.eq_of_outcome_ok (ends.trans (fits'.under false))
        exact .loaded ⟨absent, filed⟩ fits same disk count
      · rw [bounded] at ends
        simp only at ends
        rw [CompileOutcome.under_of_large large] at ends
        exact .refused ⟨absent, filed⟩ bounded large (Service.eq_of_outcome_error ends) disk count

/-- A module that only the file holds is counted, and then it is the answer or is too large. -/
theorem Tells.of_filed {answer : Answer} (tells : session.Tells request answer)
    (filed : session.Filed request bytecode) :
    (session.perform (.get request)).stats.diskHits = session.stats.diskHits + 1 ∧
      (session.perform (.get request)).service.disk = session.service.disk ∧
      (session.service.cache.setting.Fits bytecode ∧
          (∃ shared, answer = .returned (.ok shared) ∧ shared.bytecode = bytecode) ∨
        ∃ limit, session.service.cache.memoryLimit = some limit ∧ limit < bytecode.byteLength ∧
          answer = .returned (.error (.cacheExhausted bytecode.byteLength limit))) := by
  -- The file holds one module, so that the two ways with a file speak of the same one.
  cases tells with
  | hit found => simp [Shelf.contains_eq_false_iff.mp filed.absent] at found
  | @loaded shared other fits answered disk count =>
    obtain rfl := Option.some.inj (other.filed.symm.trans filed.filed)
    exact ⟨count, disk, Or.inl ⟨fits, shared, answered, rfl⟩⟩
  | refused other bounded large answered disk count =>
    obtain rfl := Option.some.inj (other.filed.symm.trans filed.filed)
    exact ⟨count, disk, Or.inr ⟨_, bounded, large, answered⟩⟩
  | called _ missing => simp [filed.filed] at missing

/-- No other request is counted. -/
theorem Tells.of_unfiled {answer : Answer} (tells : session.Tells request answer)
    (unfiled : ∀ bytecode, ¬ session.Filed request bytecode) :
    (session.perform (.get request)).stats.diskHits = session.stats.diskHits := by
  -- Both ways that count need a file with a module.
  cases tells with
  | hit _ _ _ count | called _ _ count => exact count
  | loaded filed | refused filed => exact absurd filed (unfiled _)

/-- The cache works as before when a request has been made. -/
theorem Works.perform (works : session.Works compiler options directory) (request : Request) :
    (session.perform (.get request)).Works compiler options directory := by
  -- A request leaves the settings and no flight.
  obtain ⟨answer, -, idle, serves⟩ := perform_serves works.live works.idle request
  have same : (session.perform (.get request)).service.cache.setting =
      session.service.cache.setting := serves.setting_eq
  refine ⟨?_, idle, ?_, ?_, ?_⟩
  · rw [perform_get works.live]
  · exact (congrArg Setting.compiler same).trans works.compiler
  · exact (congrArg Setting.options same).trans works.options
  · exact (congrArg Setting.diskDirectory same).trans works.tier

/-- A request writes a module to the file of a key: the key is not in memory and there is no module
in its file, and the compiler makes one that fits and reads so. -/
structure Writes (session : Session) (request : Request) (key : Fingerprint)
    (bytecode : Bytecode) : Prop where
  own : session.service.cache.keyOf request = key
  absent : session.service.cache.shelf.contains key = false
  missing : session.service.filed? key = none
  fits : session.service.cache.setting.Fits bytecode
  answered : ∃ shared, session.answer? request = some (.returned (.ok shared)) ∧
    session.service.cache.setting.outcome request = .finished (.ok shared.bytecode) ∧
    shared.bytecode.reread = some bytecode

/-- A module that the file of a key holds after a request was there before, or the request has
written it. -/
theorem Works.origin (works : session.Works compiler options directory)
    (holds : (session.perform (.get request)).service.disk.Holds (directory.join key.fileName)
      bytecode) :
    session.service.disk.Holds (directory.join key.fileName) bytecode ∨
      session.Writes request key bytecode := by
  obtain ⟨answer, answered, serves, tells⟩ := works.tells request
  cases tells with
  | hit _ _ disk | loaded _ _ _ disk | refused _ _ _ _ disk => exact Or.inl (disk ▸ holds)
  | called absent missing =>
    have footprint := Service.footprint_of_serves works.tier serves
    have place := directory.place_join_fileName key
    have directories : session.service.disk.files.SameDirectories
        (session.perform (.get request)).service.disk.files := serves.sameDirectories
    have before : (session.perform (.get request)).service.disk.files.get?
          (directory.keyPlace key) = session.service.disk.files.get? (directory.keyPlace key) →
        session.service.disk.Holds (directory.join key.fileName) bytecode := fun same =>
      holds.of_keeps directories.symm.keeps (place ▸ same.symm)
    obtain ⟨bytes, read_, module⟩ := holds
    have stands := Files.get?_of_read read_
    rw [place] at stands
    by_cases own : session.service.cache.keyOf request = key
    · subst own
      rcases footprint.own with unchanged | ⟨-, gone⟩ | ⟨shared, rfl, image⟩
      · exact Or.inl (before unchanged)
      · rw [gone] at stands
        simp at stands
      · -- The file holds the image of what is answered.
        rw [image, Option.some.injEq, Item.file.injEq] at stands
        have reread : shared.bytecode.reread = some bytecode := by
          rw [← Bytecode.toOption_ofBytes_bytesOfWords, stands, module]
          rfl
        have unseen : (session.service.stock.look request).1 = none :=
          (session.service.search_eq_filed? _).trans missing
        obtain ⟨-, compiled, fits⟩ :=
          serves.stored (Shelf.contains_eq_false_iff.mp absent) unseen
        refine Or.inr ⟨rfl, absent, missing, fun limit bounded => ?_, shared, answered, compiled,
          reread⟩
        exact Bytecode.byteLength_reread reread ▸ fits limit bounded
    · -- The file of another key is as it was, or it is gone.
      have away : ∀ another, another = session.service.cache.keyOf request →
          directory.keyPlace key ≠ directory.keyPlace another := by
        rintro another rfl same
        exact own (Path.key_of_keyPlace same).symm
      rcases footprint.elsewhere.elsewhere _ away with
        unchanged | ⟨-, -, -, -, -, -, -, -, gone⟩
      · exact Or.inl (before unchanged)
      · rw [gone] at stands
        simp at stands

/-- A module that is too large is refused, and the cache is as before but for one more disk hit. -/
theorem Works.refuses (works : session.Works compiler options directory)
    (filed : session.Filed request bytecode)
    (bounded : session.service.cache.memoryLimit = some limit)
    (large : limit < bytecode.byteLength) :
    session.answer? request =
        some (.returned (.error (.cacheExhausted bytecode.byteLength limit))) ∧
      (session.perform (.get request)).Filed request bytecode ∧
      (session.perform (.get request)).service.cache.memoryLimit = some limit ∧
      (session.perform (.get request)).stats.diskHits = session.stats.diskHits + 1 := by
  -- The file is found, and so nothing but its size keeps the module from being loaded.
  obtain ⟨answer, answered, serves, tells⟩ := works.tells request
  obtain ⟨count, disk, ⟨fits, -⟩ | ⟨limit', bounded', -, refused⟩⟩ := tells.of_filed filed
  · exact absurd (fits limit bounded) (Nat.not_le.mpr large)
  · obtain rfl := Option.some.inj (bounded'.symm.trans bounded)
    have setting : (session.perform (.get request)).service.cache.setting =
        session.service.cache.setting := serves.setting_eq
    have key : (session.perform (.get request)).service.cache.keyOf request =
        session.service.cache.keyOf request := congrArg (·.keyOf request) setting
    have fails : answer.Fails := by simp [Answer.Fails, refused]
    refine ⟨refused ▸ answered, ⟨?_, ?_⟩, ?_, count⟩
    · rw [key]
      exact Shelf.contains_eq_false_iff.mpr ((serves.held?_of_fails fails _).trans
        (Shelf.contains_eq_false_iff.mp filed.absent))
    · rw [key, Service.filed?_eq_some_iff (works.perform request).tier, disk,
        ← Service.filed?_eq_some_iff works.tier]
      exact filed.filed
    · exact (congrArg Setting.memoryLimit setting).trans bounded

end Session

namespace Commons

variable {commons : Commons} {compiler : Compiler} {options : Options} {directory : Path}
  {index : Nat} {session : Session} {request : Request} {key : Fingerprint} {bytecode : Bytecode}
  {limit : Nat}

/-- The owners make requests, one after the other. -/
def asked (commons : Commons) (requests : List (Nat × Request)) : Commons :=
  commons.run (requests.map fun turn => (turn.1, .get turn.2))

/-- The disk hits that the cache of an owner has counted. -/
def diskHits? (commons : Commons) (index : Nat) : Option Nat :=
  (commons.session? index).map (·.stats.diskHits)

/-- Every owner has a cache with the same compiler and options, and all work in one directory. -/
def Shares (commons : Commons) (compiler : Compiler) (options : Options) (directory : Path) :
    Prop :=
  ∀ session ∈ commons.sessions, session.Works compiler options directory

/-- A request that was made has written a module to the file of a key. -/
def Wrote (start : Commons) (directory : Path) (requests : List (Nat × Request))
    (key : Fingerprint) (bytecode : Bytecode) : Prop :=
  ∃ earlier later maker request writer, requests = earlier ++ (maker, request) :: later ∧
    (start.asked earlier).session? maker = some writer ∧ writer.Writes request key bytecode ∧
    ((start.asked earlier).perform (maker, .get request)).disk.Holds
      (directory.join key.fileName) bytecode

/-- A request that was made to a cache with a larger limit, or without one, has written a module to
the file of a key that is larger than some limit. -/
def Outgrown (start : Commons) (directory : Path) (requests : List (Nat × Request))
    (key : Fingerprint) (limit : Nat) : Prop :=
  ∃ bytecode, start.Wrote directory requests key bytecode ∧ limit < bytecode.byteLength

/-- Requests that are made after others. -/
theorem asked_append (commons : Commons) (first second : List (Nat × Request)) :
    commons.asked (first ++ second) = (commons.asked first).asked second := by
  -- A run over both lists is a run over one after the other.
  rw [asked, List.map_append, run_append]
  rfl

/-- After a turn its owner has counted what it has. -/
theorem diskHits?_perform_self (there : commons.session? index = some session)
    (request : Request) : (commons.perform (index, .get request)).diskHits? index =
      some (session.perform (.get request)).stats.diskHits := by
  -- The owner's session after the turn is the one that has made the request.
  rw [diskHits?, session?_perform_self there]
  rfl

/-- The owner of a cache works with it whatever others have left on the disk. -/
theorem Shares.works (shares : commons.Shares compiler options directory)
    (there : commons.session? index = some session) :
    session.Works compiler options directory := by
  -- Only the disk is put in from outside, and it is no part of what makes a cache work.
  rw [session?, Option.map_eq_some_iff] at there
  obtain ⟨own, found, rfl⟩ := there
  have works := shares own (List.mem_of_getElem? found)
  exact ⟨works.live, ⟨works.idle.table, works.idle.flights⟩, works.compiler, works.options,
    works.tier⟩

/-- What the file of a key holds for one of the owners it holds for all. -/
theorem Shares.filed?_iff (shares : commons.Shares compiler options directory)
    (there : commons.session? index = some session) :
    session.service.filed? key = some bytecode ↔
      commons.disk.Holds (directory.join key.fileName) bytecode := by
  -- All owners work with the common disk and in the one directory.
  rw [Service.filed?_eq_some_iff (shares.works there).tier, disk_of_session? there]

/-- All caches work as before when a request has been made. -/
theorem Shares.perform (shares : commons.Shares compiler options directory) (index : Nat)
    (request : Request) :
    (commons.perform (index, .get request)).Shares compiler options directory := by
  -- The one cache works on, and the others are not touched.
  cases there : commons.session? index with
  | none =>
    simp only [Commons.perform, there]
    exact shares
  | some session =>
    rw [perform_eq there]
    intro other among
    rcases List.mem_or_eq_of_mem_set among with old | rfl
    · exact shares other old
    · exact (shares.works there).perform request

/-- All caches work as before when requests have been made. -/
theorem Shares.asked (shares : commons.Shares compiler options directory)
    (requests : List (Nat × Request)) :
    (commons.asked requests).Shares compiler options directory := by
  -- Turn by turn.
  induction requests generalizing commons with
  | nil => exact shares
  | cons turn requests ih => exact ih (shares.perform turn.1 turn.2)

/-- A module that the file of a key holds after a turn was there before, or the turn has written it.
-/
theorem origin_of_perform (shares : commons.Shares compiler options directory)
    (holds : (commons.perform (index, .get request)).disk.Holds (directory.join key.fileName)
      bytecode) :
    commons.disk.Holds (directory.join key.fileName) bytecode ∨
      ∃ writer, commons.session? index = some writer ∧ writer.Writes request key bytecode := by
  -- A turn of nobody leaves the disk; otherwise the law is that of the one session.
  cases there : commons.session? index with
  | none =>
    simp only [perform, there] at holds
    exact Or.inl holds
  | some session =>
    rw [perform_eq there] at holds
    rw [← disk_of_session? there]
    exact ((shares.works there).origin holds).imp_right fun writes => ⟨session, rfl, writes⟩

/-- A module that the file of a key holds in the end was there in the beginning, or one of the
requests has written it. -/
theorem origin_of_asked (shares : commons.Shares compiler options directory)
    (requests : List (Nat × Request))
    (holds : (commons.asked requests).disk.Holds (directory.join key.fileName) bytecode) :
    commons.disk.Holds (directory.join key.fileName) bytecode ∨
      commons.Wrote directory requests key bytecode := by
  induction requests generalizing commons with
  | nil => exact Or.inl holds
  | cons turn requests ih =>
    -- The induction is on the requests from the front: what the later ones leave was there after
    -- the first one, or one of them wrote it.
    rcases ih (shares.perform turn.1 turn.2) holds with
      before | ⟨earlier, later, maker, request, writer, rfl, rest⟩
    · refine (origin_of_perform shares before).imp_right ?_
      rintro ⟨writer, there, writes⟩
      exact ⟨[], requests, turn.1, turn.2, writer, rfl, there, writes, before⟩
    · exact Or.inr ⟨turn :: earlier, later, maker, request, writer, rfl, rest⟩

/-- A module that was written is still there after all requests. -/
theorem Wrote.holds {requests : List (Nat × Request)}
    (wrote : commons.Wrote directory requests key bytecode)
    (shares : commons.Shares compiler options directory) :
    (commons.asked requests).disk.Holds (directory.join key.fileName) bytecode := by
  -- The requests that come after the write are no invalidations, so that the module lasts.
  obtain ⟨earlier, later, maker, request, writer, rfl, -, -, holds⟩ := wrote
  have shares' := (shares.asked earlier).perform maker request
  have kept : ∀ turn ∈ later.map fun turn => (turn.1, Deed.get turn.2),
      turn.2 ≠ .invalidate key := by
    intro turn among
    obtain ⟨asked, -, rfl⟩ := List.mem_map.mp among
    simp
  have idle : ((commons.asked earlier).perform (maker, .get request)).Idle :=
    fun session among => (shares' session among).idle
  rw [asked_append]
  exact (holds_run idle holds kept).2.1

/-- A request whose module is too large is refused again and again, and every time one more disk hit
is counted. -/
theorem refused_again (shares : commons.Shares compiler options directory)
    (there : commons.session? index = some session) (filed : session.Filed request bytecode)
    (bounded : session.service.cache.memoryLimit = some limit)
    (large : limit < bytecode.byteLength) (times : Nat) :
    ∃ later, (commons.asked (List.replicate times (index, request))).session? index = some later ∧
      later.answer? request =
        some (.returned (.error (.cacheExhausted bytecode.byteLength limit))) ∧
      later.stats.diskHits = session.stats.diskHits + times := by
  -- After each refusal the session is as before, but for one more disk hit.
  induction times generalizing commons session with
  | zero => exact ⟨session, there, ((shares.works there).refuses filed bounded large).1, rfl⟩
  | succ times ih =>
    obtain ⟨-, filed', bounded', count⟩ := (shares.works there).refuses filed bounded large
    obtain ⟨later, there', refused, count'⟩ := ih (shares.perform index request)
      (session?_perform_self there _) filed' bounded'
    refine ⟨later, there', refused, ?_⟩
    rw [count', count, Nat.add_right_comm]
    rfl

/-- How a request is answered, and what disk hits are counted for it. -/
structure Tally (commons : Commons) (index : Nat) (session : Session) (request : Request)
    (answer : Answer) : Prop where
  /-- The other caches count none. -/
  others : ∀ other, other ≠ index →
    (commons.perform (index, .get request)).diskHits? other = commons.diskHits? other
  /-- One is counted when the key is not in memory but its file holds a module. -/
  counted : ∀ bytecode, session.Filed request bytecode →
    (commons.perform (index, .get request)).diskHits? index = some (session.stats.diskHits + 1)
  /-- Else none is. -/
  uncounted : (∀ bytecode, ¬ session.Filed request bytecode) →
    (commons.perform (index, .get request)).diskHits? index = some session.stats.diskHits
  /-- A module that is counted is the answer if it fits. -/
  loaded : ∀ bytecode, session.Filed request bytecode →
    session.service.cache.setting.Fits bytecode →
      ∃ shared, answer = .returned (.ok shared) ∧ shared.bytecode = bytecode
  /-- If it does not fit it is refused, and is so when the request is repeated; it is counted every
  time. -/
  refused : ∀ bytecode limit, session.Filed request bytecode →
    session.service.cache.memoryLimit = some limit → limit < bytecode.byteLength →
      answer = .returned (.error (.cacheExhausted bytecode.byteLength limit)) ∧
      ∀ times, ∃ later,
        (commons.asked (List.replicate times (index, request))).session? index = some later ∧
          later.answer? request =
            some (.returned (.error (.cacheExhausted bytecode.byteLength limit))) ∧
          later.stats.diskHits = session.stats.diskHits + times

/-- Every request is answered, and every one is counted so. -/
theorem Shares.tally (shares : commons.Shares compiler options directory)
    (there : commons.session? index = some session) (request : Request) :
    ∃ answer, session.answer? request = some answer ∧
      commons.Tally index session request answer := by
  -- Only the cache that was asked counts, and what it counts depends on what it has on the disk.
  have works := shares.works there
  obtain ⟨answer, answered, -, tells⟩ := works.tells request
  have own := diskHits?_perform_self there request
  refine ⟨answer, answered, ?_⟩
  constructor
  case others =>
    intro other apart
    rw [diskHits?, diskHits?, session?_perform_of_ne (Ne.symm apart), Option.map_map]
    rfl
  case counted => exact fun bytecode filed => (tells.of_filed filed).1 ▸ own
  case uncounted => exact fun unfiled => tells.of_unfiled unfiled ▸ own
  case loaded =>
    intro bytecode filed fits
    rcases (tells.of_filed filed).2.2 with ⟨-, same⟩ | ⟨limit, bounded, large, -⟩
    · exact same
    · exact absurd (fits limit bounded) (Nat.not_le.mpr large)
  case refused =>
    intro bytecode limit filed bounded large
    obtain ⟨refused, -⟩ := works.refuses filed bounded large
    exact ⟨Option.some.inj (answered.symm.trans refused),
      refused_again shares there filed bounded large⟩

/-- What a disk hit is after some requests, as long as no module has outgrown the limit. -/
structure Earned (start : Commons) (directory : Path) (requests : List (Nat × Request))
    (index : Nat) (session : Session) (request : Request) (answer : Answer) : Prop where
  /-- A cache counts one for a module that is answered from the disk. -/
  grows : ((start.asked requests).perform (index, .get request)).diskHits? index ≠
      (start.asked requests).diskHits? index →
    (∃ shared, session.Filed request shared.bytecode ∧ answer = .returned (.ok shared)) ∨
      ∃ limit, session.service.cache.memoryLimit = some limit ∧
        start.Outgrown directory requests (session.service.cache.keyOf request) limit
  /-- A request that is answered that the memory is exhausted is counted nowhere. -/
  exhausted : ∀ required limit, answer = .returned (.error (.cacheExhausted required limit)) →
    (∀ other, ((start.asked requests).perform (index, .get request)).diskHits? other =
      (start.asked requests).diskHits? other) ∨
    session.service.cache.memoryLimit = some limit ∧
      start.Outgrown directory requests (session.service.cache.keyOf request) limit
  /-- A module that has outgrown the limit is refused, and is counted all the same. -/
  outgrown : ∀ limit, session.service.cache.memoryLimit = some limit →
    session.service.cache.shelf.contains (session.service.cache.keyOf request) = false →
    start.Outgrown directory requests (session.service.cache.keyOf request) limit →
      (∃ required, answer = .returned (.error (.cacheExhausted required limit))) ∧
        ((start.asked requests).perform (index, .get request)).diskHits? index =
          some (session.stats.diskHits + 1)

/-- What is counted as a disk hit when caches with one compiler and the same options share a
directory that holds no module but those they write. -/
theorem disk_hits_earned {start : Commons} (shares : start.Shares compiler options directory)
    (vacant : ∀ (key : Fingerprint) (bytecode : Bytecode),
      ¬ start.disk.Holds (directory.join key.fileName) bytecode)
    (requests : List (Nat × Request)) (request : Request)
    (there : (start.asked requests).session? index = some session) :
    ∃ answer, session.answer? request = some answer ∧
      (start.asked requests).Tally index session request answer ∧
      start.Earned directory requests index session request answer := by
  have shares' := shares.asked requests
  obtain ⟨answer, answered, tally⟩ := shares'.tally there request
  refine ⟨answer, answered, tally, ?_⟩
  have before : (start.asked requests).diskHits? index = some session.stats.diskHits := by
    rw [diskHits?, there]
    rfl
  have outgrown : ∀ limit, session.service.cache.memoryLimit = some limit →
      session.service.cache.shelf.contains (session.service.cache.keyOf request) = false →
      start.Outgrown directory requests (session.service.cache.keyOf request) limit →
        (∃ required, answer = .returned (.error (.cacheExhausted required limit))) ∧
          ((start.asked requests).perform (index, .get request)).diskHits? index =
            some (session.stats.diskHits + 1) := by
    rintro limit bounded absent ⟨bytecode, wrote, large⟩
    have filed : session.Filed request bytecode :=
      ⟨absent, (shares'.filed?_iff there).mpr (wrote.holds shares)⟩
    obtain ⟨refused, -⟩ := tally.refused bytecode limit filed bounded large
    exact ⟨⟨_, refused⟩, tally.counted bytecode filed⟩
  by_cases filed : ∃ bytecode, session.Filed request bytecode
  · obtain ⟨bytecode, filed⟩ := filed
    rcases Service.checkFits_cases session.service.cache bytecode with
      ⟨-, fits⟩ | ⟨limit, bounded, large, -⟩
    · obtain ⟨shared, same, rfl⟩ := tally.loaded bytecode filed fits
      refine ⟨fun _ => Or.inl ⟨shared, filed, same⟩, fun _ _ ends => ?_, outgrown⟩
      simp [same] at ends
    · -- What the file holds has been written by one of the requests.
      have wrote := (origin_of_asked shares requests
        ((shares'.filed?_iff there).mp filed.filed)).resolve_left (vacant _ _)
      refine ⟨fun _ => Or.inr ⟨limit, bounded, bytecode, wrote, large⟩,
        fun required limit' ends => ?_, outgrown⟩
      rw [(tally.refused bytecode limit filed bounded large).1] at ends
      simp only [Answer.returned.injEq, Except.error.injEq, Failure.cacheExhausted.injEq] at ends
      exact Or.inr (ends.2 ▸ ⟨bounded, bytecode, wrote, large⟩)
  · -- Without a module in the file alone nothing is counted at all.
    have same := (tally.uncounted (not_exists.mp filed)).trans before.symm
    refine ⟨fun differs => absurd same differs, fun _ _ _ => Or.inl fun other => ?_, outgrown⟩
    by_cases own : other = index
    · exact own ▸ same
    · exact tally.others other own

/-- The owner of a new cache with room for three bytes. -/
def narrow : Session where
  service :=
    { cache := { compiler := .curt, memoryLimit := some 3, diskDirectory := some ⟨"cache"⟩ } }

/-- Two owners that share an empty directory. The cache of the first one has no limit. -/
def uneven : Commons where
  disk := { files := ⟨[(["cache"], .directory)]⟩ }
  sessions := [neighbour, narrow]

/-- Both have a new cache of one compiler. -/
theorem shares_uneven : uneven.Shares .curt {} ⟨"cache"⟩ := by
  -- There are two sessions, and both are new.
  intro session among
  have own : session = neighbour ∨ session = narrow := by simpa [uneven] using among
  rcases own with rfl | rfl
  · exact ⟨rfl, ⟨rfl, rfl⟩, rfl, rfl, rfl⟩
  · exact ⟨rfl, ⟨rfl, rfl⟩, rfl, rfl, rfl⟩

/-- The empty directory holds no module. -/
theorem vacant_uneven (key : Fingerprint) (bytecode : Bytecode) :
    ¬ uneven.disk.Holds ((⟨"cache"⟩ : Path).join key.fileName) bytecode := by
  -- A file that holds a module can be read, and none can.
  rintro ⟨bytes, read_, -⟩
  have used : Session.cramped.cache.diskPath? key =
      some ((⟨"cache"⟩ : Path).join key.fileName) := rfl
  exact Session.unread_cramped used read_

/-- The second owner after the first one has made the request. -/
def narrowed : Session := narrow.onDisk (uneven.asked [(0, mendedRequest)]).disk

/-- Then the file of the key holds the module. -/
theorem filed_narrowed : narrowed.Filed mendedRequest ⟨[spirvMagic], by simp⟩ :=
  ⟨rfl, by decide +kernel⟩

/-- The second owner's request is refused and counted as a disk hit. -/
theorem refused_module_counted :
    uneven.Shares .curt {} ⟨"cache"⟩ ∧
      (∀ (key : Fingerprint) (bytecode : Bytecode),
        ¬ uneven.disk.Holds ((⟨"cache"⟩ : Path).join key.fileName) bytecode) ∧
      (uneven.asked [(0, mendedRequest)]).session? 1 = some narrowed ∧
      narrowed.answer? mendedRequest = some (.returned (.error (.cacheExhausted 4 3))) ∧
      (uneven.asked [(0, mendedRequest)]).diskHits? 1 = some 0 ∧
      (uneven.asked [(0, mendedRequest), (1, mendedRequest)]).diskHits? 1 = some 1 := by
  -- The file of the first owner is too large for the second one.
  have works : narrowed.Works .curt {} ⟨"cache"⟩ := ⟨rfl, ⟨rfl, rfl⟩, rfl, rfl, rfl⟩
  have there : (uneven.asked [(0, mendedRequest)]).session? 1 = some narrowed := rfl
  obtain ⟨refused, -, -, count⟩ := works.refuses filed_narrowed rfl (by decide)
  have counted := diskHits?_perform_self there mendedRequest
  rw [count] at counted
  exact ⟨shares_uneven, vacant_uneven, there, refused, rfl, counted⟩

/-- The law at the second owner's request, which comes after one that has written the module. -/
theorem disk_hits_earned_of_uneven :
    uneven.Shares .curt {} ⟨"cache"⟩ ∧
      (∀ (key : Fingerprint) (bytecode : Bytecode),
        ¬ uneven.disk.Holds ((⟨"cache"⟩ : Path).join key.fileName) bytecode) ∧
      (uneven.asked [(0, mendedRequest)]).session? 1 = some narrowed ∧
      ∃ answer, narrowed.answer? mendedRequest = some answer ∧
        (uneven.asked [(0, mendedRequest)]).Tally 1 narrowed mendedRequest answer ∧
        uneven.Earned ⟨"cache"⟩ [(0, mendedRequest)] 1 narrowed mendedRequest answer :=
  -- The general law, at the second owner's turn.
  ⟨shares_uneven, vacant_uneven, rfl,
    disk_hits_earned shares_uneven vacant_uneven [(0, mendedRequest)] mendedRequest rfl⟩

end Commons

end ShaderBuild
