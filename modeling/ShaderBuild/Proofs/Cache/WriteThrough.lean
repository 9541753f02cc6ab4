import ShaderBuild.Cache.Commons
import ShaderBuild.Proofs.Cache.Lasting

/-! A module that was not in memory is in the file of its key after its request. -/

namespace ShaderBuild

/-- The modules of a compiler begin with the magic number. -/
def Compiler.Marked (compiler : Compiler) : Prop :=
  ∀ request options bytecode, compiler.compile request options = .finished (.ok bytecode) →
    bytecode.words.head? = some spirvMagic

/-- Only a module that fits comes through a limit. -/
theorem CompileOutcome.of_under {outcome : CompileOutcome} {limit? : Option Nat}
    {bytecode : Bytecode} (module : outcome.under limit? false = .finished (.ok bytecode)) :
    outcome = .finished (.ok bytecode) ∧
      ∀ limit, limit? = some limit → bytecode.byteLength ≤ limit := by
  cases outcome with
  | panicked message => simp [under] at module
  | finished result =>
    cases result with
    | error failure => simp [under] at module
    | ok other =>
      cases limit? with
      | none => exact ⟨module, by simp⟩
      | some limit =>
        -- A module that is too large would have failed.
        by_cases large : limit < other.byteLength
        · rw [under_of_large large] at module
          simp at module
        · have fits : ¬ (limit < 4 * other.wordCount ∧ false = false) := fun both => large both.1
          rw [under, if_neg fits] at module
          simp only [finished.injEq, Except.ok.injEq] at module
          subst module
          exact ⟨rfl, fun bound same => Option.some.inj same ▸ Nat.not_lt.mp large⟩

/-- After a thing of this kind a cache may work in another directory. -/
def Deed.Leaves (directory : Path) : Deed → Prop
  | .setDirectory other => other ≠ directory
  | .renew .. => True
  | _ => False

namespace Stock

variable {stock after : Stock} {request : Request} {answer : Answer} {directory : Path}
  {key : Fingerprint} {bytecode : Bytecode}

/-- A cache works in a directory, and has no other module than one in memory under a key. -/
structure Recalls (stock : Stock) (directory : Path) (key : Fingerprint) (bytecode : Bytecode) :
    Prop where
  tier : stock.setting.diskDirectory = some directory
  memory : ∀ shared, stock.shelf.held? key = some shared → shared.bytecode = bytecode

/-- The file of a key in the directory that is used. -/
theorem diskPath?_of_tier {setting : Setting} (tier : setting.diskDirectory = some directory)
    (key : Fingerprint) : setting.diskPath? key = some (directory.join key.fileName) := by
  -- The directory is the one that the path is built in.
  rw [Setting.diskPath?, tier]
  rfl

/-- What a request has to look for is searched in the file of its key. -/
theorem look_of_tier (tier : stock.setting.diskDirectory = some directory) (request : Request) :
    stock.look request =
      stock.disk.search (some (directory.join (stock.setting.keyOf request).fileName)) := by
  -- The path of the key is the one in the directory that is used.
  rw [look, search, diskPath?_of_tier tier]

/-- Without a file that holds words a look finds no module. -/
theorem look_of_illegible (tier : stock.setting.diskDirectory = some directory)
    (illegible : ∀ bytes, stock.disk.files.get?
        (directory.keyPlace (stock.setting.keyOf request)) = some (.file bytes) →
      ∃ failure, Bytecode.ofBytes bytes = .error failure) :
    (stock.look request).1 = none := by
  -- A module that the look finds would have been read from a file at the place of the key.
  refine Option.not_isSome_iff_eq_none.mp fun found => ?_
  rw [look_of_tier tier] at found
  obtain ⟨path, read, bytecode, same, read_, module⟩ := Disk.isSome_search_iff.mp found
  have there := Files.get?_of_read read_
  rw [← Option.some.inj same, Path.place_join_fileName] at there
  obtain ⟨failure, wrong⟩ := illegible read there
  rw [wrong] at module
  simp at module

/-- A file that holds a module holds it after every request. -/
theorem Serves.holds (serves : stock.Serves request answer after)
    (holds : stock.disk.Holds (directory.join key.fileName) bytecode) :
    after.disk.Holds (directory.join key.fileName) bytecode := by
  have looked : (stock.look request).2.Holds (directory.join key.fileName) bytecode :=
    holds.search _
  cases serves with
  | hit found => exact holds
  | failed absent due fails handles => exact looked
  | @kept written absent due =>
    show (stock.made request written).disk.Holds _ _
    unfold made
    split
    · exact looked
    · rename_i missing
      rw [Option.not_isSome_iff_eq_none] at missing
      -- Without a directory nothing is written.
      cases tier : stock.setting.diskDirectory with
      | none =>
        rw [Setting.diskPath?, tier]
        exact looked
      | some other =>
        rw [look_of_tier tier] at missing ⊢
        rw [diskPath?_of_tier tier]
        exact holds.store missing

/-- A file that holds a module holds it when a directory is used. -/
theorem holds_opened (holds : stock.disk.Holds (directory.join key.fileName) bytecode)
    (other : Path) :
    (stock.opened other).2.disk.Holds (directory.join key.fileName) bytecode := by
  -- A directory may be made only in part; what was there before stays in either case.
  have extends_ := stock.disk.files.extends_makeDirectories other
  unfold opened
  split
  · rename_i fault files made
    rw [made] at extends_
    exact holds.of_extends extends_
  · rename_i files made
    rw [made] at extends_
    exact holds.of_extends extends_

/-- A file that holds a module holds it after every deed but an invalidation of its key. -/
theorem holds_changed (holds : stock.disk.Holds (directory.join key.fileName) bytecode)
    {deed : Deed} (kept : deed ≠ .invalidate key) :
    (stock.changed deed).2.disk.Holds (directory.join key.fileName) bytecode := by
  -- Of these deeds only an invalidation and the use of a directory reach the disk.
  cases deed with
  | get request | flush | setOptions options | setLimit limit | drop => exact holds
  | invalidate another =>
    have apart : another ≠ key := fun same => kept (congrArg Deed.invalidate same)
    show (stock.forget another).2.Holds _ _
    rw [forget]
    cases tier : stock.setting.diskDirectory with
    | none =>
      rw [Setting.diskPath?, tier]
      exact holds
    | some other =>
      rw [diskPath?_of_tier tier]
      exact holds.forget apart
  | setDirectory other => exact holds_opened holds other
  | renew compiler options memoryLimit other? =>
    have renewed : (stock.renewed compiler options memoryLimit).disk.Holds
        (directory.join key.fileName) bytecode := holds
    cases other? with
    | none => exact renewed
    | some other => exact holds_opened renewed other

/-- What is in memory when a module has been put in. -/
theorem held?_put (stock : Stock) (key other : Fingerprint) (shared : Shared) :
    (stock.put key shared).shelf.held? other =
      if other = key then some shared
      else (Shelf.room stock.setting.memoryLimit shared.bytecode.byteLength
        stock.shelf).2.held? other :=
  -- The module is put in after room was made.
  Shelf.held?_insert _ _ _ _

/-- What a request puts in memory under a key is the module that the file of the key holds. -/
theorem Serves.recalls (serves : stock.Serves request answer after)
    (recalls : stock.Recalls directory key bytecode)
    (holds : stock.disk.Holds (directory.join key.fileName) bytecode) :
    after.Recalls directory key bytecode := by
  cases serves with
  | hit found =>
    refine ⟨recalls.tier, fun shared held => recalls.memory shared ?_⟩
    exact (Shelf.held?_touch _ _ _).symm.trans held
  | failed absent due fails handles =>
    refine ⟨recalls.tier, fun shared held => recalls.memory shared ?_⟩
    exact (Shelf.held?_touch _ _ _).symm.trans held
  | @kept module absent due =>
    refine ⟨recalls.tier, fun shared held => ?_⟩
    rw [held?_put] at held
    split at held
    · -- The module is new in memory, and so it is what was found on the disk.
      rename_i own
      have found : (stock.look request).1 = some bytecode := by
        rw [look_of_tier recalls.tier, ← own, holds.search_eq]
      rw [due_of_found found] at due
      obtain ⟨same, -⟩ := CompileOutcome.of_under due
      simp only [CompileOutcome.finished.injEq, Except.ok.injEq] at same
      rw [← Option.some.inj held, same]
    · -- What is in memory of another key has made room at most.
      refine recalls.memory shared ?_
      rcases Shelf.held?_room stock.setting.memoryLimit module.byteLength
        (stock.made request module).shelf key with gone | same
      · exact absurd (gone.symm.trans held) (by simp)
      · exact (Shelf.held?_touch _ _ _).symm.trans (same.symm.trans held)

/-- Whatever is done with a cache in the directory, it has no other module in memory under the key,
unless it may work elsewhere then. -/
theorem recalls_changed (recalls : stock.Recalls directory key bytecode) {deed : Deed}
    (stays : ¬ deed.Leaves directory) (live : (stock.changed deed).1 = true) :
    (stock.changed deed).2.Recalls directory key bytecode := by
  cases deed with
  | get request | setOptions options | setLimit limit => exact ⟨recalls.tier, recalls.memory⟩
  | flush =>
    refine ⟨recalls.tier, fun shared held => ?_⟩
    exact absurd (held.symm.trans (Shelf.held?_clear _ _)) (by simp)
  | drop => exact absurd live (by simp [changed])
  | invalidate another =>
    refine ⟨recalls.tier, fun shared held => recalls.memory shared ?_⟩
    have held : (stock.shelf.remove another).2.held? key = some shared := held
    rw [Shelf.held?_remove] at held
    split at held
    · simp at held
    · exact held
  | setDirectory other =>
    obtain rfl : other = directory := Decidable.byContradiction stays
    simp only [changed, opened] at live ⊢
    -- A directory that cannot be made leaves no cache.
    split at live
    · exact absurd live (by simp)
    · exact ⟨rfl, recalls.memory⟩
  | renew compiler options memoryLimit other? => exact absurd trivial stays

/-- A new cache in the directory has nothing in memory. -/
theorem recalls_renewed (stock : Stock) (compiler : Compiler) (options : Options)
    (memoryLimit : Option Nat)
    (live : (stock.changed (.renew compiler options memoryLimit (some directory))).1 = true) :
    (stock.changed (.renew compiler options memoryLimit (some directory))).2.Recalls directory key
      bytecode := by
  -- A cache that is live was built over the directory, and it was built empty.
  simp only [changed, opened] at live ⊢
  split at live
  · exact absurd live (by simp)
  · exact ⟨rfl, fun shared held => absurd held (by simp [renewed, Shelf.held?, Shelf.get?])⟩

/-- What is answered after a miss is what is in memory under the key then. -/
theorem Serves.recalls_answer {shared : Shared}
    (serves : stock.Serves request (.returned (.ok shared)) after)
    (absent : stock.shelf.held? (stock.setting.keyOf request) = none)
    (tier : stock.setting.diskDirectory = some directory) :
    after.Recalls directory (stock.setting.keyOf request) shared.bytecode := by
  -- Of the three ways to serve a request only the last one ends a miss with a module.
  cases serves with
  | hit found => exact absurd (absent.symm.trans found) (by simp)
  | failed _ _ fails => exact absurd rfl (fails shared)
  | kept =>
    refine ⟨tier, fun shared held => ?_⟩
    rw [held?_put, if_pos rfl] at held
    rw [← Option.some.inj held]

/-- A module that is answered and was not in memory was due, and it was kept. -/
theorem Serves.kept_of_absent {shared : Shared}
    (serves : stock.Serves request (.returned (.ok shared)) after)
    (absent : stock.shelf.held? (stock.setting.keyOf request) = none) :
    stock.due request = .finished (.ok shared.bytecode) ∧
      after.disk = (stock.made request shared.bytecode).disk := by
  -- A hit was in memory, and a failure answers no module.
  cases serves with
  | hit held => exact absurd (absent.symm.trans held) (by simp)
  | failed _ _ fails => exact absurd rfl (fails shared)
  | kept _ due => exact ⟨due, rfl⟩

/-- A module that was not in memory but on the disk is the one that was found there, and the disk
stays as the look has left it. -/
theorem Serves.loaded {shared : Shared}
    (serves : stock.Serves request (.returned (.ok shared)) after)
    (absent : stock.shelf.held? (stock.setting.keyOf request) = none)
    (found : (stock.look request).1 = some bytecode) :
    after.disk = (stock.look request).2 ∧ shared.bytecode = bytecode ∧
      stock.setting.Fits shared.bytecode := by
  -- What was found is what is due, so the answer has its words and nothing is written.
  obtain ⟨due, left⟩ := serves.kept_of_absent absent
  rw [due_of_found found] at due
  obtain ⟨same, fits⟩ := CompileOutcome.of_under due
  simp only [CompileOutcome.finished.injEq, Except.ok.injEq] at same
  refine ⟨?_, same.symm, fits⟩
  rw [left, ← same, made_of_found found]
  rfl

/-- A module that was found neither in memory nor on the disk is the one that the compiler makes, and
it is written to the file of the key. -/
theorem Serves.stored {shared : Shared}
    (serves : stock.Serves request (.returned (.ok shared)) after)
    (absent : stock.shelf.held? (stock.setting.keyOf request) = none)
    (missing : (stock.look request).1 = none) :
    after.disk = (stock.look request).2.store shared.bytecode
        (stock.setting.diskPath? (stock.setting.keyOf request)) ∧
      stock.setting.outcome request = .finished (.ok shared.bytecode) ∧
      stock.setting.Fits shared.bytecode := by
  -- With nothing found the compiler's module is due, and it is the one that is written.
  obtain ⟨due, left⟩ := serves.kept_of_absent absent
  rw [due_of_missing missing] at due
  obtain ⟨compiled, fits⟩ := CompileOutcome.of_under due
  refine ⟨?_, compiled, fits⟩
  rw [left, made_of_missing missing]

/-- A module that is answered and was not in memory is held by the file of its key, and is what is
in memory then. It fits under the limit. -/
theorem Serves.through {shared : Shared}
    (serves : stock.Serves request (.returned (.ok shared)) after)
    (absent : stock.shelf.held? (stock.setting.keyOf request) = none)
    (tier : stock.setting.diskDirectory = some directory)
    (accepts : stock.disk.Accepts (directory.join (stock.setting.keyOf request).fileName))
    (marked : stock.setting.compiler.Marked) :
    let path := directory.join (stock.setting.keyOf request).fileName
    after.disk.Holds path shared.bytecode ∧
      after.Recalls directory (stock.setting.keyOf request) shared.bytecode ∧
      stock.setting.Fits shared.bytecode := by
  intro path
  have recalls := serves.recalls_answer absent tier
  have looked := look_of_tier tier request
  cases found : (stock.look request).1 with
  | some other =>
    -- The file held the module before, and so it does now.
    obtain ⟨left, rfl, fits⟩ := serves.loaded absent found
    rw [looked] at found left
    obtain ⟨holds, same⟩ := Disk.holds_of_search found
    rw [left, same]
    exact ⟨holds, recalls, fits⟩
  | none =>
    -- The compiler made the module, and it was written.
    obtain ⟨written, compiled, fits⟩ := serves.stored absent found
    rw [diskPath?_of_tier tier, looked] at written
    rw [written]
    exact ⟨Disk.holds_of_store (accepts.search _) (marked _ _ _ compiled), recalls, fits⟩

/-- A request whose key is not in memory is answered with the module that is due. -/
theorem Serves.of_due (serves : stock.Serves request answer after)
    (absent : stock.shelf.held? (stock.setting.keyOf request) = none)
    (due : stock.due request = .finished (.ok bytecode)) :
    answer = .returned (.ok ⟨stock.heap.next, bytecode⟩) ∧
      after.stats.compilations = (stock.counted request).compilations := by
  -- A hit contradicts the miss, and a failure contradicts the module that is due.
  cases serves with
  | hit held => exact absurd (absent.symm.trans held) (by simp)
  | failed _ ends fails => exact absurd (ends.trans due) (fails.outcome_ne bytecode)
  | @kept module _ own =>
    rw [due] at own
    simp only [CompileOutcome.finished.injEq, Except.ok.injEq] at own
    exact ⟨by rw [own], rfl⟩

/-- A request whose key has a module in memory or on the disk is answered with it, if it fits, and
does not call the compiler. -/
theorem Serves.recall (serves : stock.Serves request answer after)
    (recalls : stock.Recalls directory (stock.setting.keyOf request) bytecode)
    (holds : stock.disk.Holds (directory.join (stock.setting.keyOf request).fileName) bytecode)
    (fits : stock.setting.Fits bytecode) :
    (∃ shared, answer = .returned (.ok shared) ∧ shared.bytecode = bytecode) ∧
      after.stats.compilations = stock.stats.compilations ∧
      after.stats.hits + after.stats.diskHits = stock.stats.hits + stock.stats.diskHits + 1 := by
  -- The file has the module, and so a look finds it where the memory has nothing.
  have found : (stock.look request).1 = some bytecode := by
    rw [look_of_tier recalls.tier, holds.search_eq]
  have due : stock.due request = .finished (.ok bytecode) := by
    rw [due_of_found found, fits.under]
  cases serves with
  | @hit shared own =>
    refine ⟨⟨shared, rfl, recalls.memory shared own⟩, rfl, ?_⟩
    exact Nat.add_right_comm _ 1 _
  | failed _ ends fails => exact absurd (ends.trans due) (fails.outcome_ne bytecode)
  | @kept module absent own =>
    rw [due] at own
    simp only [CompileOutcome.finished.injEq, Except.ok.injEq] at own
    subst own
    have counted := counted_of_found found
    refine ⟨⟨_, rfl, rfl⟩, ?_, ?_⟩
    · show (stock.counted request).compilations = _
      rw [counted]
    · show (stock.counted request).hits + (stock.counted request).diskHits = _
      rw [counted]
      rfl

end Stock

namespace Session

variable {session : Session} {directory : Path} {key : Fingerprint} {bytecode : Bytecode}

/-- Without a cache only a new one does anything. -/
theorem perform_of_closed (closed : session.live = false) {deed : Deed}
    (other : ∀ compiler options memoryLimit directory?,
      deed ≠ .renew compiler options memoryLimit directory?) : session.perform deed = session := by
  -- Each deed but a new cache asks first whether there is one.
  cases deed with
  | renew compiler options memoryLimit directory? =>
    exact absurd rfl (other compiler options memoryLimit directory?)
  | _ => simp [perform, closed]

/-- A deed makes a request, changes what the cache has, or does nothing without a cache. -/
theorem perform_cases (idle : session.service.Idle) (deed : Deed) :
    (session.perform deed).service.Idle ∧
      (session.perform deed = session ∨
        (∃ request answer, session.live = true ∧
          session.answer? request = some answer ∧ deed = .get request ∧
          session.service.stock.Serves request answer (session.perform deed).service.stock) ∨
        ((session.perform deed).live = (session.service.stock.changed deed).1 ∧
          (session.perform deed).service.stock = (session.service.stock.changed deed).2)) := by
  -- Where there is no cache only a renewal does something.
  cases live : session.live with
  | true =>
    have used : session.perform deed = use session.service deed := if_pos live
    by_cases asks : ∃ request, deed = .get request
    · obtain ⟨request, rfl⟩ := asks
      obtain ⟨answer, answered, idle', serves⟩ := perform_serves live idle request
      exact ⟨idle', Or.inr (Or.inl ⟨request, answer, rfl, answered, rfl, serves⟩)⟩
    · obtain ⟨lives, stock, quiet⟩ :=
        use_changed session.service fun request same => asks ⟨request, same⟩
      rw [used]
      exact ⟨quiet idle, Or.inr (Or.inr ⟨lives, stock⟩)⟩
  | false =>
    cases deed with
    | renew compiler options memoryLimit directory? =>
      have used : session.perform (.renew compiler options memoryLimit directory?) =
          use session.service (.renew compiler options memoryLimit directory?) := by
        simp [perform, live]
      obtain ⟨lives, stock, quiet⟩ := use_changed session.service
        (by simp : ∀ request, Deed.renew compiler options memoryLimit directory? ≠ .get request)
      rw [used]
      exact ⟨quiet idle, Or.inr (Or.inr ⟨lives, stock⟩)⟩
    | get | flush | invalidate | setOptions | setLimit | setDirectory | drop =>
      rw [perform_of_closed live (by simp)]
      exact ⟨idle, Or.inl rfl⟩

/-- A request whose key is not in memory is answered with the module that is due. -/
theorem answer_of_due {request : Request} (idle : session.service.Idle)
    (live : session.live = true)
    (absent : session.service.stock.shelf.held? (session.service.stock.setting.keyOf request) =
      none) (due : session.service.stock.due request = .finished (.ok bytecode)) :
    ∃ handle, session.answer? request = some (.returned (.ok ⟨handle, bytecode⟩)) := by
  -- The answer is decided by how the stock serves the request.
  obtain ⟨answer, answered, -, serves⟩ := perform_serves live idle request
  obtain ⟨rfl, -⟩ := serves.of_due absent due
  exact ⟨session.service.stock.heap.next, answered⟩

/-- A file that holds a module holds it whatever is done, but for an invalidation of its key. -/
theorem holds_perform (idle : session.service.Idle)
    (holds : session.service.disk.Holds (directory.join key.fileName) bytecode) {deed : Deed}
    (kept : deed ≠ .invalidate key) :
    (session.perform deed).service.disk.Holds (directory.join key.fileName) bytecode := by
  -- A deed changes nothing, serves a request, or is one of the others, which the stock performs.
  have before : session.service.stock.disk.Holds (directory.join key.fileName) bytecode := holds
  show (session.perform deed).service.stock.disk.Holds _ _
  rcases (perform_cases idle deed).2 with same | ⟨_, _, -, -, -, serves⟩ | ⟨-, stock⟩
  · rw [same]
    exact before
  · exact serves.holds before
  · rw [stock]
    exact Stock.holds_changed before kept

/-- When there is a cache, it works in the directory and has no other module in memory. -/
def Recalls (session : Session) (directory : Path) (key : Fingerprint) (bytecode : Bytecode) :
    Prop :=
  session.live = true → session.service.stock.Recalls directory key bytecode

/-- Whatever is done with a cache in the directory, it has no other module in memory, unless it may
work elsewhere then. -/
theorem Recalls.perform (recalls : session.Recalls directory key bytecode)
    (idle : session.service.Idle)
    (holds : session.service.disk.Holds (directory.join key.fileName) bytecode) {deed : Deed}
    (stays : ¬ deed.Leaves directory) :
    (session.perform deed).Recalls directory key bytecode := by
  cases live : session.live with
  | true =>
    rcases (perform_cases idle deed).2 with same | ⟨_, _, -, -, -, serves⟩ | ⟨lives, stock⟩
    · rw [same]
      exact recalls
    · exact fun _ => serves.recalls (recalls live) holds
    · intro there
      rw [stock]
      exact Stock.recalls_changed (recalls live) stays (lives.symm.trans there)
  | false =>
    -- There is no cache, and none is set up.
    rw [perform_of_closed live fun _ _ _ _ renews => stays (by rw [renews]; trivial)]
    exact recalls

/-- A new cache that works in the directory has nothing in memory. -/
theorem recalls_renewed (session : Session) (compiler : Compiler) (options : Options)
    (memoryLimit : Option Nat) :
    (session.perform (.renew compiler options memoryLimit (some directory))).Recalls directory key
      bytecode := by
  -- A new cache is taken whether or not there was one before.
  have used : session.perform (.renew compiler options memoryLimit (some directory)) =
      use session.service (.renew compiler options memoryLimit (some directory)) := by
    unfold perform
    split <;> rfl
  obtain ⟨lives, stock, -⟩ := use_changed session.service
    (by simp : ∀ request,
      Deed.renew compiler options memoryLimit (some directory) ≠ .get request)
  intro live
  rw [used] at live ⊢
  rw [stock]
  exact Stock.recalls_renewed _ compiler options memoryLimit (lives.symm.trans live)

/-- A request is answered with some words, from memory or from the disk, and the compiler is not
called. -/
structure Recites (session : Session) (request : Request) (words : List UInt32) : Prop where
  answer : ∃ shared, session.answer? request = some (.returned (.ok shared)) ∧
    shared.bytecode.words = words
  compilations : (session.perform (.get request)).service.cache.stats.compilations =
    session.service.cache.stats.compilations
  hits : (session.perform (.get request)).service.cache.stats.hits +
      (session.perform (.get request)).service.cache.stats.diskHits =
    session.service.cache.stats.hits + session.service.cache.stats.diskHits + 1

/-- A cache in the directory recites the module that the file of a key holds, if it fits. -/
theorem recites {request : Request} (idle : session.service.Idle) (live : session.live = true)
    (recalls : session.service.stock.Recalls directory (session.service.cache.keyOf request)
      bytecode)
    (holds : session.service.disk.Holds
      (directory.join (session.service.cache.keyOf request).fileName) bytecode)
    (fits : session.service.cache.setting.Fits bytecode) :
    session.Recites request bytecode.words := by
  -- Memory may have the module already; if not, the file gives it. Neither asks the compiler.
  obtain ⟨answer, answered, -, serves⟩ := perform_serves live idle request
  obtain ⟨⟨shared, same, module⟩, compilations, hits⟩ := serves.recall recalls holds fits
  exact ⟨⟨shared, same ▸ answered, congrArg Bytecode.words module⟩, compilations, hits⟩

end Session

namespace Commons

variable {commons : Commons} {directory : Path} {key : Fingerprint} {bytecode : Bytecode}

/-- No owner has a request under way. -/
def Idle (commons : Commons) : Prop :=
  ∀ session ∈ commons.sessions, session.service.Idle

/-- Between turns no owner has a request under way. -/
theorem Idle.session (idle : commons.Idle) {index : Nat} {session : Session}
    (there : commons.session? index = some session) : session.service.Idle := by
  -- An owner's session is its own part with the common disk put in.
  rw [session?, Option.map_eq_some_iff] at there
  obtain ⟨own, found, rfl⟩ := there
  have quiet := idle own (List.mem_of_getElem? found)
  exact ⟨quiet.table, quiet.flights⟩

/-- All owners work with one disk. -/
theorem disk_of_session? {index : Nat} {session : Session}
    (there : commons.session? index = some session) : session.service.disk = commons.disk := by
  -- The disk was put in when the session was taken out.
  rw [session?, Option.map_eq_some_iff] at there
  obtain ⟨own, -, rfl⟩ := there
  rfl

/-- What is done in a turn is done by its owner. -/
theorem perform_eq {index : Nat} {session : Session}
    (there : commons.session? index = some session) (deed : Deed) :
    commons.perform (index, deed) =
      ⟨(session.perform deed).service.disk, commons.sessions.set index (session.perform deed)⟩ := by
  simp only [perform, there]

/-- After its turn an owner has what it has done. -/
theorem session?_perform_self {index : Nat} {session : Session}
    (there : commons.session? index = some session) (deed : Deed) :
    (commons.perform (index, deed)).session? index = some (session.perform deed) := by
  -- The turn writes the session back under its own index.
  have inside : index < commons.sessions.length := by
    rw [session?, Option.map_eq_some_iff] at there
    obtain ⟨own, found, -⟩ := there
    exact (List.getElem?_eq_some_iff.mp found).1
  rw [perform_eq there, session?, List.getElem?_set_self inside]
  rfl

/-- In a turn of another owner only the disk changes. -/
theorem session?_perform_of_ne {index other : Nat} (apart : index ≠ other) (deed : Deed) :
    (commons.perform (index, deed)).session? other =
      (commons.session? other).map (·.onDisk (commons.perform (index, deed)).disk) := by
  -- An index without an owner leaves all as it was; otherwise the list is set at another place.
  cases there : commons.session? index with
  | none =>
    have same : commons.perform (index, deed) = commons := by
      simp only [perform, there]
    rw [same, session?, Option.map_map]
    rfl
  | some session =>
    rw [perform_eq there, session?, session?, List.getElem?_set_ne apart, Option.map_map]
    rfl

/-- A turn leaves no request under way. -/
theorem Idle.perform (idle : commons.Idle) (turn : Nat × Deed) : (commons.perform turn).Idle := by
  -- Only the owner whose turn it is can differ, and its deed ends without a request under way.
  cases there : commons.session? turn.1 with
  | none =>
    simp only [Commons.perform, there]
    exact idle
  | some session =>
    rw [perform_eq there]
    intro other among
    rcases List.mem_or_eq_of_mem_set among with old | rfl
    · exact idle other old
    · exact (Session.perform_cases (idle.session there) turn.2).1

/-- The cache of an owner, if there is one, works in the directory and has no other module in
memory. -/
def Recalls (commons : Commons) (index : Nat) (directory : Path) (key : Fingerprint)
    (bytecode : Bytecode) : Prop :=
  ∀ session, commons.session? index = some session → session.Recalls directory key bytecode

/-- A file that holds a module holds it after a turn, but for an invalidation of its key. -/
theorem holds_perform (idle : commons.Idle)
    (holds : commons.disk.Holds (directory.join key.fileName) bytecode) {turn : Nat × Deed}
    (kept : turn.2 ≠ .invalidate key) :
    (commons.perform turn).disk.Holds (directory.join key.fileName) bytecode := by
  -- The disk after the turn is the one of the owner whose turn it was.
  cases there : commons.session? turn.1 with
  | none =>
    simp only [perform, there]
    exact holds
  | some session =>
    rw [perform_eq there]
    exact Session.holds_perform (idle.session there) (disk_of_session? there ▸ holds) kept

/-- An owner that does not leave the directory has no other module in memory after a turn. -/
theorem Recalls.perform {index : Nat} (recalls : commons.Recalls index directory key bytecode)
    (idle : commons.Idle)
    (holds : commons.disk.Holds (directory.join key.fileName) bytecode) {turn : Nat × Deed}
    (stays : turn.1 = index → ¬ turn.2.Leaves directory) :
    (commons.perform turn).Recalls index directory key bytecode := by
  obtain ⟨acting, deed⟩ := turn
  intro after there
  -- The turn is the owner's own, or it changes nothing of the owner but the disk.
  by_cases own : acting = index
  · subst own
    cases before : commons.session? acting with
    | none =>
      simp only [Commons.perform, before] at there
      simp at there
    | some session =>
      rw [session?_perform_self before] at there
      obtain rfl := Option.some.inj there
      exact (recalls session before).perform (idle.session before)
        (disk_of_session? before ▸ holds) (stays rfl)
  · rw [session?_perform_of_ne own, Option.map_eq_some_iff] at there
    obtain ⟨session, before, rfl⟩ := there
    exact fun live => ⟨(recalls session before live).tier, (recalls session before live).memory⟩

/-- When a request does not find its key in memory and is answered with a module, the file of the
key holds that module after the turn, and its owner has no other one in memory. It fits under the
limit. -/
theorem through (idle : commons.Idle) {maker : Nat} {session : Session}
    (there : commons.session? maker = some session) {request : Request} {shared : Shared}
    (tier : session.service.cache.diskDirectory = some directory)
    (accepts : session.service.disk.Accepts
      (directory.join (session.service.cache.keyOf request).fileName))
    (marked : session.service.cache.compiler.Marked)
    (missed : session.service.cache.shelf.contains (session.service.cache.keyOf request) = false)
    (answered : session.answer? request = some (.returned (.ok shared))) :
    let key := session.service.cache.keyOf request
    let after := commons.perform (maker, .get request)
    after.disk.Holds (directory.join key.fileName) shared.bytecode ∧
      after.Recalls maker directory key shared.bytecode ∧
      session.service.cache.setting.Fits shared.bytecode := by
  -- The request is a miss of the maker's own session; the disk that it leaves is the common one.
  intro key after
  obtain ⟨-, -, serves⟩ := Session.serves_of_answered (idle.session there) answered
  obtain ⟨holds, recalls, fits⟩ :=
    serves.through (Shelf.contains_eq_false_iff.mp missed) tier accepts marked
  refine ⟨?_, ?_, fits⟩
  · rw [show after = _ from perform_eq there _]
    exact holds
  · intro own there'
    rw [session?_perform_self there] at there'
    rw [← Option.some.inj there']
    exact fun _ => recalls

/-- A file that holds a module holds it after any turns without an invalidation of its key, and an
owner that has not left the directory has no other module in memory. -/
theorem holds_run (idle : commons.Idle)
    (holds : commons.disk.Holds (directory.join key.fileName) bytecode)
    {turns : List (Nat × Deed)} (kept : ∀ turn ∈ turns, turn.2 ≠ .invalidate key) :
    (commons.run turns).Idle ∧
      (commons.run turns).disk.Holds (directory.join key.fileName) bytecode ∧
      ∀ index, commons.Recalls index directory key bytecode →
        (∀ turn ∈ turns, turn.1 = index → ¬ turn.2.Leaves directory) →
        (commons.run turns).Recalls index directory key bytecode := by
  -- Induction on the turns: the file, the idle owners and what they recall are kept by each turn.
  induction turns generalizing commons with
  | nil => exact ⟨idle, holds, fun _ recalls _ => recalls⟩
  | cons turn turns ih =>
    obtain ⟨kept, rest⟩ := List.forall_mem_cons.mp kept
    obtain ⟨idle', holds', recalls'⟩ :=
      ih (idle.perform turn) (holds_perform idle holds kept) rest
    refine ⟨idle', holds', fun index recalls stays => ?_⟩
    obtain ⟨stay, stays⟩ := List.forall_mem_cons.mp stays
    exact recalls' index (recalls.perform idle holds stay) stays

/-- Any turns leave no request under way. -/
theorem Idle.run (idle : commons.Idle) (turns : List (Nat × Deed)) : (commons.run turns).Idle := by
  -- Induction on the turns.
  induction turns generalizing commons with
  | nil => exact idle
  | cons turn turns ih => exact ih (idle.perform turn)

/-- One turn comes after the other. -/
theorem run_append (commons : Commons) (first second : List (Nat × Deed)) :
    commons.run (first ++ second) = (commons.run first).run second :=
  List.foldl_append

/-- A cache that has worked in the directory all along: the one of the owner that made the request,
or one that was set up in the directory since. -/
def Settled (directory : Path) (maker : Nat) (turns : List (Nat × Deed)) (index : Nat) : Prop :=
  (index = maker ∧ ∀ turn ∈ turns, turn.1 = index → ¬ turn.2.Leaves directory) ∨
  ∃ first compiler options memoryLimit rest,
    turns = first ++ (index, .renew compiler options memoryLimit (some directory)) :: rest ∧
      ∀ turn ∈ rest, turn.1 = index → ¬ turn.2.Leaves directory

/-- A settled cache has no other module in memory than the one on the disk. -/
theorem recalls_of_settled (idle : commons.Idle)
    (holds : commons.disk.Holds (directory.join key.fileName) bytecode)
    {turns : List (Nat × Deed)} (kept : ∀ turn ∈ turns, turn.2 ≠ .invalidate key) {maker : Nat}
    (recalls : commons.Recalls maker directory key bytecode) {index : Nat}
    (settled : Settled directory maker turns index) :
    (commons.run turns).Recalls index directory key bytecode := by
  rcases settled with ⟨rfl, stays⟩ | ⟨first, compiler, options, memoryLimit, rest, rfl, stays⟩
  · exact (holds_run idle holds kept).2.2 _ recalls stays
  · -- The cache is new in the middle of the run.
    have before := fun turn among => kept turn (List.mem_append_left _ among)
    have after := fun turn among =>
      kept turn (List.mem_append_right _ (List.mem_cons_of_mem _ among))
    obtain ⟨idle', holds', -⟩ := holds_run idle holds before
    let renewal : Deed := .renew compiler options memoryLimit (some directory)
    have other : (index, renewal).2 ≠ .invalidate key := by simp [renewal]
    have holds'' := holds_perform idle' holds' other
    have fresh : ((commons.run first).perform (index, renewal)).Recalls index directory key
        bytecode := by
      intro session there
      cases owner : (commons.run first).session? index with
      | none =>
        simp only [perform, owner] at there
        simp at there
      | some old =>
        rw [session?_perform_self owner] at there
        rw [← Option.some.inj there]
        exact old.recalls_renewed compiler options memoryLimit
    rw [run_append]
    exact (holds_run (idle'.perform _) holds'' after).2.2 index fresh stays

/-- What is answered without the memory goes through to the disk and lasts there. When a request
does not find its key in memory and is answered with a module, the file of the key holds that
module, whatever it held before. It does so until the key is invalidated, and as long a cache in the
directory with the same limit answers every request of the key with that module and does not call
the compiler. -/
theorem module_lasts {start : Commons} (idle : start.Idle) {earlier later : List (Nat × Deed)}
    {maker : Nat} {before : Session} {request : Request} {directory : Path} {shared : Shared}
    (there : (start.run earlier).session? maker = some before)
    (tier : before.service.cache.diskDirectory = some directory)
    (accepts : before.service.disk.Accepts
      (directory.join (before.service.cache.keyOf request).fileName))
    (marked : before.service.cache.compiler.Marked)
    (missed : before.service.cache.shelf.contains (before.service.cache.keyOf request) = false)
    (answered : before.answer? request = some (.returned (.ok shared)))
    (kept : ∀ turn ∈ later, turn.2 ≠ .invalidate (before.service.cache.keyOf request)) :
    let key := before.service.cache.keyOf request
    let final := start.run (earlier ++ (maker, .get request) :: later)
    (∃ bytes, final.disk.files.read (directory.join key.fileName) = .ok bytes ∧
      wordsOfBytes bytes = .ok shared.bytecode.words) ∧
      ∀ index next again, Settled directory maker later index →
        final.session? index = some next → next.live = true →
        next.service.cache.keyOf again = key →
        next.service.cache.memoryLimit = before.service.cache.memoryLimit →
        next.Recites again shared.bytecode.words := by
  intro key final
  have quiet := idle.run earlier
  have idle' := quiet.perform (maker, .get request)
  -- The file holds the module after the request, and the memory has no other one.
  obtain ⟨holds, recalls, fits⟩ := through quiet there tier accepts marked missed answered
  -- Nothing that is done later changes that.
  have whole : final = ((start.run earlier).perform (maker, .get request)).run later :=
    run_append start earlier _
  obtain ⟨idle'', holds', -⟩ := holds_run idle' holds kept
  rw [← whole] at idle'' holds'
  refine ⟨?_, ?_⟩
  · obtain ⟨bytes, read_, module⟩ := holds'
    exact ⟨bytes, read_, Bytecode.ofBytes_eq_ok_iff.mp module⟩
  · intro index next again settled there' lives own limit
    have recalls' := recalls_of_settled idle' holds kept recalls settled
    rw [← whole] at recalls'
    have known : next.service.stock.Recalls directory (next.service.cache.keyOf again)
        shared.bytecode := own ▸ recalls' next there' lives
    have held : next.service.disk.Holds
        (directory.join (next.service.cache.keyOf again).fileName) shared.bytecode := by
      rw [own, disk_of_session? there']
      exact holds'
    exact Session.recites (idle''.session there') lives known held fun bound bounded =>
      fits bound (limit.symm.trans bounded)

/-- A request, the file of whose key is spoiled. -/
def mendedRequest : Request := ⟨"a.vert", "void main() {}"⟩

/-- The owner of a new cache that works in a directory. -/
def neighbour : Session where
  service := { cache := { compiler := .curt, diskDirectory := some ⟨"cache"⟩ } }

/-- Two owners, and a spoiled file in the directory of both. -/
def neighbours : Commons where
  disk :=
    { files := ⟨[(["cache"], .directory),
        (["cache", (Fingerprint.compute "curt" mendedRequest {}).fileName], .file [1, 2, 3])]⟩ }
  sessions := [neighbour, neighbour]

/-- Both go on, and the first one sets up another cache. -/
def goingOn : List (Nat × Deed) :=
  [(1, .get ⟨"b.vert", "void main() {}"⟩), (0, .flush), (1, .get mendedRequest),
    (0, .renew .curt {} none (some ⟨"cache"⟩))]

/-- The spoiled file can be written. -/
theorem accepts_neighbours : neighbours.disk.Accepts
    ((⟨"cache"⟩ : Path).join (Fingerprint.compute "curt" mendedRequest {}).fileName) :=
  -- Whether a disk accepts a file does not depend on the bytes, so none are tried.
  Disk.accepts_of_isOk [] (by decide +kernel)

/-- The first owner finds nothing in the spoiled file. -/
theorem missing_neighbours :
    ((neighbour.onDisk neighbours.disk).service.stock.look mendedRequest).1 = none := by
  -- The file of the key holds three bytes, which are no words.
  have tier : (neighbour.onDisk neighbours.disk).service.stock.setting.diskDirectory =
      some ⟨"cache"⟩ := rfl
  refine Stock.look_of_illegible tier fun bytes stands => ?_
  have files : (neighbour.onDisk neighbours.disk).service.stock.disk.files =
      neighbours.disk.files := rfl
  have key : (neighbour.onDisk neighbours.disk).service.stock.setting.keyOf mendedRequest =
      .compute "curt" mendedRequest {} := rfl
  have place : Path.keyPlace ⟨"cache"⟩ (Fingerprint.compute "curt" mendedRequest {}) =
      ["cache", (Fingerprint.compute "curt" mendedRequest {}).fileName] := rfl
  rw [files, key, place] at stands
  have spoiled : [1, 2, 3] = bytes := by
    simpa [neighbours, Files.get?, Location.isFixed, Location.root, List.lookup_cons] using stands
  exact ⟨.contractViolation (.byteLength 3), spoiled ▸ rfl⟩

/-- The first owner is answered with the module that the compiler makes. -/
theorem answer_neighbours : ∃ handle, (neighbour.onDisk neighbours.disk).answer? mendedRequest =
    some (.returned (.ok ⟨handle, ⟨[spirvMagic], by simp⟩⟩)) := by
  -- Nothing was found, so what is due is what the compiler makes, and that is computed.
  refine Session.answer_of_due ⟨rfl, rfl⟩ rfl rfl ?_
  rw [Stock.due_of_missing missing_neighbours]
  rfl

/-- The spoiled file is mended by the first request, and holds the module while both go on. -/
theorem module_lasts_of_spoiled : ∃ shared,
    let before := neighbour.onDisk neighbours.disk
    let key := before.service.cache.keyOf mendedRequest
    let final := neighbours.run ((0, .get mendedRequest) :: goingOn)
    neighbours.Idle ∧ (neighbours.run []).session? 0 = some before ∧
      before.service.cache.diskDirectory = some ⟨"cache"⟩ ∧
      before.service.disk.Accepts ((⟨"cache"⟩ : Path).join key.fileName) ∧
      before.service.cache.compiler.Marked ∧ before.service.cache.shelf.contains key = false ∧
      before.answer? mendedRequest = some (.returned (.ok shared)) ∧
      (∀ turn ∈ goingOn, turn.2 ≠ .invalidate key) ∧
      (∃ bytes, final.disk.files.read ((⟨"cache"⟩ : Path).join key.fileName) = .ok bytes ∧
        wordsOfBytes bytes = .ok shared.bytecode.words) ∧
      ∀ index next again, Settled ⟨"cache"⟩ 0 goingOn index →
        final.session? index = some next → next.live = true →
        next.service.cache.keyOf again = key → next.service.cache.memoryLimit = none →
        next.Recites again shared.bytecode.words := by
  -- The name of the key's file is long, so the fingerprint is kept folded up in each fact.
  obtain ⟨handle, answered⟩ := answer_neighbours
  let before := neighbour.onDisk neighbours.disk
  have idle : neighbours.Idle := by
    intro session among
    have own : session = neighbour := by simpa [neighbours] using among
    rw [own]
    exact ⟨rfl, rfl⟩
  have there : (neighbours.run []).session? 0 = some before := rfl
  have tier : before.service.cache.diskDirectory = some ⟨"cache"⟩ := rfl
  have accepts : before.service.disk.Accepts ((⟨"cache"⟩ : Path).join
      (before.service.cache.keyOf mendedRequest).fileName) := by
    have key : before.service.cache.keyOf mendedRequest =
        .compute "curt" mendedRequest {} := rfl
    rw [key]
    exact accepts_neighbours
  have marked : before.service.cache.compiler.Marked := by
    intro request options bytecode compiled
    have compiled : Compiler.curt.compile request options = .finished (.ok bytecode) := compiled
    simp only [Compiler.curt] at compiled
    split at compiled
    · simp at compiled
    · simp only [CompileOutcome.finished.injEq, Except.ok.injEq] at compiled
      rw [← compiled]
      rfl
  have missed : before.service.cache.shelf.contains
      (before.service.cache.keyOf mendedRequest) = false := rfl
  have kept : ∀ turn ∈ goingOn,
      turn.2 ≠ .invalidate (before.service.cache.keyOf mendedRequest) := by
    simp [goingOn]
  have lasts := module_lasts idle there tier accepts marked missed answered kept
  exact ⟨_, idle, there, tier, accepts, marked, missed, answered, kept, lasts⟩

end Commons

end ShaderBuild
