import ShaderBuild.Proofs.Cache.IndependentFlights
import ShaderBuild.Proofs.Cache.ByteOrder
import ShaderBuild.Proofs.Cache.Invalidation
import ShaderBuild.Proofs.Cache.KeyTier
import ShaderBuild.Proofs.Cache.WriteThrough

/-! A request changes the file of its own key at most, besides its temporary file. -/

namespace ShaderBuild

/-- A change of the disk is confined to the files of some keys in a directory: no other place
changes, unless a file already stood under the name of a temporary one that was drawn meanwhile;
such a file goes. -/
structure Disk.Confined (before : Disk) (directory : Path) (keys : Fingerprint → Prop)
    (after : Disk) : Prop where
  process : after.process = before.process
  drawn : before.drawn ≤ after.drawn
  elsewhere : ∀ place, (∀ key, keys key → place ≠ directory.keyPlace key) →
    after.files.get? place = before.files.get? place ∨
      ∃ key number bytes, keys key ∧ before.drawn ≤ number ∧ number < after.drawn ∧
        place = (before.sibling (directory.join key.fileName) number).place ∧
        before.files.get? place = some (.file bytes) ∧ after.files.get? place = none

namespace Disk

variable {disk middle after : Disk} {directory : Path} {keys more : Fingerprint → Prop}
  {key : Fingerprint}

/-- Without a change there is nothing to confine. -/
theorem Confined.refl (disk : Disk) (directory : Path) (keys : Fingerprint → Prop) :
    disk.Confined directory keys disk :=
  ⟨rfl, Nat.le_refl _, fun _ _ => Or.inl rfl⟩

/-- Two changes that are confined are so together. -/
theorem Confined.trans (one : disk.Confined directory keys middle)
    (two : middle.Confined directory keys after) : disk.Confined directory keys after where
  process := two.process.trans one.process
  drawn := Nat.le_trans one.drawn two.drawn
  elsewhere := by
    intro place other
    have names : ∀ path number, middle.sibling path number = disk.sibling path number := by
      intro path number
      rw [sibling, sibling, one.process]
    -- What has gone does not come back, and what goes later was there from the beginning.
    rcases two.elsewhere place other with
      same | ⟨key, number, bytes, own, from_, below, side, there, gone⟩
    · rcases one.elsewhere place other with same' | ⟨key, number, bytes, own, from_, below, side,
        there, gone⟩
      · exact Or.inl (same.trans same')
      · exact Or.inr ⟨key, number, bytes, own, from_, Nat.lt_of_lt_of_le below two.drawn, side,
          there, same.trans gone⟩
    · rcases one.elsewhere place other with same' | ⟨-, -, -, -, -, -, -, -, gone'⟩
      · exact Or.inr ⟨key, number, bytes, own, Nat.le_trans one.drawn from_, below,
          names _ _ ▸ side, same' ▸ there, gone⟩
      · rw [gone'] at there
        simp at there

/-- A change that is confined to some keys is confined to more. -/
theorem Confined.mono (confined : disk.Confined directory keys after)
    (fewer : ∀ key, keys key → more key) : disk.Confined directory more after where
  -- An exception of one of the keys is one of the others.
  process := confined.process
  drawn := confined.drawn
  elsewhere place other := by
    refine (confined.elsewhere place fun key own => other key (fewer key own)).imp_right ?_
    rintro ⟨key, number, bytes, own, rest⟩
    exact ⟨key, number, bytes, fewer key own, rest⟩

/-- A look changes the file of its key at most, and takes it away only if it can be read and holds
no words. -/
theorem search_leaves (disk : Disk) (directory : Path) (key : Fingerprint) :
    disk.Confined directory (· = key) (disk.search (some (directory.join key.fileName))).2 ∧
      ((disk.search (some (directory.join key.fileName))).2.files.get? (directory.keyPlace key) =
          disk.files.get? (directory.keyPlace key) ∨
        (∃ bytes failure, disk.files.read (directory.join key.fileName) = .ok bytes ∧
          wordsOfBytes bytes = .error failure) ∧
        (disk.search (some (directory.join key.fileName))).2.files.get? (directory.keyPlace key) =
          none) := by
  have place := directory.place_join_fileName key
  rcases disk.search_cases (some (directory.join key.fileName)) with
    same | ⟨path, bytes, failure, files, there, read_, wrong, removed, same⟩
  · rw [same]
    exact ⟨.refl .., Or.inl rfl⟩
  · obtain rfl := Option.some.inj there
    rw [same]
    have changed := Files.get?_of_remove removed
    rw [place] at changed
    refine ⟨⟨rfl, Nat.le_refl _, fun other apart => Or.inl ?_⟩, Or.inr ⟨?_, ?_⟩⟩
    · exact (changed other).trans (if_neg (apart key rfl))
    · -- Words are always a module, since there is at least one.
      cases words : wordsOfBytes bytes with
      | error failure => exact ⟨bytes, failure, read_, words⟩
      | ok words_ =>
        have some_ : words_ ≠ [] := by
          intro none_
          have head := (wordsOfBytes_cases words).1
          rw [none_] at head
          simp at head
        have holds : Bytecode.ofBytes bytes = .ok ⟨words_, some_⟩ :=
          Bytecode.ofBytes_eq_ok_iff.mpr words
        rw [holds] at wrong
        simp at wrong
    · exact (changed _).trans (if_pos rfl)

/-- A look adds no file and draws no name. -/
theorem search_addsNoFile (disk : Disk) (path? : Option Path) :
    disk.files.AddsNoFile (disk.search path?).2.files ∧
      (disk.search path?).2.drawn = disk.drawn := by
  -- A look changes nothing, or it removes one file.
  rcases disk.search_cases path? with same | ⟨path, bytes, failure, files, -, -, -, removed, same⟩
  · rw [same]
    exact ⟨.refl _, rfl⟩
  · rw [same]
    exact ⟨Files.addsNoFile_of_remove removed, rfl⟩

/-- A write changes the file of its key at most, to the image of the module. -/
theorem store_leaves (disk : Disk) (directory : Path) (key : Fingerprint) (bytecode : Bytecode) :
    disk.Confined directory (· = key)
        (disk.store bytecode (some (directory.join key.fileName))) ∧
      ((disk.store bytecode (some (directory.join key.fileName))).files.get?
          (directory.keyPlace key) = disk.files.get? (directory.keyPlace key) ∨
        (disk.store bytecode (some (directory.join key.fileName))).files.get?
          (directory.keyPlace key) = some (.file (bytesOfWords bytecode.words))) := by
  have place := directory.place_join_fileName key
  have apart := disk.sibling_ne_keyPlace directory directory key key disk.drawn
  rw [← place] at apart ⊢
  obtain ⟨files, drew⟩ := disk.store_eq bytecode (directory.join key.fileName)
  have ends := disk.writeAtomically_ends (bytesOfWords bytecode.words) apart
  rw [show (disk.writeAtomically (directory.join key.fileName) (bytesOfWords bytecode.words)).1 =
    disk.store bytecode (some (directory.join key.fileName)) from rfl, drew] at ends
  rw [drew]
  rcases ends with ⟨same, -⟩ | ⟨free, changed⟩
  · exact ⟨⟨rfl, Nat.le_succ _, fun other _ => Or.inl (by rw [same])⟩, Or.inl (by rw [same])⟩
  · refine ⟨⟨rfl, Nat.le_succ _, fun other away => ?_⟩, ?_⟩
    · have elsewhere : ¬ (other = (directory.join key.fileName).place ∧
          disk.files.reaches (directory.join key.fileName) = true ∧
          disk.files.get? (directory.join key.fileName).place ≠ some .directory) :=
        fun both => away key rfl (both.1.trans place)
      rw [changed]
      by_cases side : other = (disk.sibling (directory.join key.fileName) disk.drawn).place
      · rw [if_pos side]
        -- The temporary file is gone, with what stood there before.
        cases stood : disk.files.get? other with
        | none => exact Or.inl rfl
        | some item =>
          cases item with
          | directory => exact absurd (side ▸ stood) free
          | file bytes =>
            exact Or.inr ⟨key, disk.drawn, bytes, rfl, Nat.le_refl _, Nat.lt_succ_self _, side, rfl,
              rfl⟩
      · rw [if_neg side, if_neg elsewhere]
        exact Or.inl rfl
    · rw [changed, if_neg (Ne.symm apart)]
      split
      · exact Or.inr rfl
      · exact Or.inl rfl

end Disk

namespace Service

/-- The bytes of the file of a key, when there is one that can be read. -/
def file? (service : Service) (key : Fingerprint) : Option (List UInt8) :=
  match service.cache.diskPath? key with
  | none => none
  | some path => (service.disk.files.read path).toOption

/-- The module in the file of a key, when the file can be read and holds one. -/
def filed? (service : Service) (key : Fingerprint) : Option Bytecode :=
  (service.file? key).bind fun bytes => (Bytecode.ofBytes bytes).toOption

/-- What a request comes to without the memory and its limit: the module in the file of the key, or
else how the compiler ends. -/
def comesTo (service : Service) (request : Request) : CompileOutcome :=
  match service.filed? (service.cache.keyOf request) with
  | some bytecode => .finished (.ok bytecode)
  | none => service.cache.compiler.compile request service.cache.options

/-- The file of a key in the directory that is used. -/
theorem diskPath?_of_used {service : Service} {directory : Path}
    (used : service.cache.diskDirectory = some directory) (key : Fingerprint) :
    service.cache.diskPath? key = some (directory.join key.fileName) := by
  -- The path is the name of the key in that directory.
  rw [Cache.diskPath?, used]
  rfl

/-- A look finds the module in the file, whether a file without one could be removed or not. -/
theorem search_eq_filed? (service : Service) (key : Fingerprint) :
    (service.disk.search (service.cache.diskPath? key)).1 = service.filed? key := by
  -- Where nothing can be read nothing is found, and otherwise the bytes decide.
  unfold filed? file?
  cases service.cache.diskPath? key with
  | none => rfl
  | some path =>
    cases read_ : service.disk.files.read path with
    | ok bytes =>
      simp only [Disk.search_fst_of_read read_, Except.toOption, Option.bind_some, read_]
    | error fault => simp [Disk.search, read_, Except.toOption]

/-- What is due is what the request comes to under the limit. -/
theorem due_stock (service : Service) (request : Request) :
    service.stock.due request =
      (service.comesTo request).under service.cache.memoryLimit false := by
  -- The look of a stock is that of its service.
  have found : (service.stock.look request).1 = service.filed? (service.cache.keyOf request) :=
    service.search_eq_filed? _
  unfold comesTo
  cases filed : service.filed? (service.cache.keyOf request) with
  | some bytecode => exact Stock.due_of_found (found.trans filed)
  | none => exact Stock.due_of_missing (found.trans filed)

/-- What a request that is answered has done to the disk, and what it is answered there. -/
structure Footprint (service : Service) (directory : Path) (request : Request) (answer : Answer)
    (after : Service) : Prop where
  /-- No place but that of the key's file changes, and no temporary file is left; a file that stood
  under the name of one is gone with it. -/
  elsewhere : service.disk.Confined directory (· = service.cache.keyOf request) after.disk
  /-- The file of the key is as it was; or it could be read, held no words and is gone; or it is the
  image of the module that is the answer. -/
  own : after.disk.files.get? (directory.keyPlace (service.cache.keyOf request)) =
      service.disk.files.get? (directory.keyPlace (service.cache.keyOf request)) ∨
    (∃ bytes failure,
      service.disk.files.read (directory.join (service.cache.keyOf request).fileName) = .ok bytes ∧
        wordsOfBytes bytes = .error failure) ∧
      after.disk.files.get? (directory.keyPlace (service.cache.keyOf request)) = none ∨
    ∃ shared, answer = .returned (.ok shared) ∧
      after.disk.files.get? (directory.keyPlace (service.cache.keyOf request)) =
        some (.file (bytesOfWords shared.bytecode.words))
  /-- A module in memory is the answer, and nothing on the disk changes. -/
  hit : ∀ shared, service.cache.shelf.held? (service.cache.keyOf request) = some shared →
    answer = .returned (.ok shared) ∧ after.disk = service.disk
  /-- Else the answer is what the request comes to under the limit. What is removed and written has
  no part in it. -/
  missed : service.cache.shelf.held? (service.cache.keyOf request) = none →
    answer.outcome = (service.comesTo request).under service.cache.memoryLimit false
  /-- Without a module nothing is written, not even to a temporary file. -/
  failed : answer.Fails →
    service.disk.files.AddsNoFile after.disk.files ∧ after.disk.drawn = service.disk.drawn
  /-- A module that is larger than the limit is refused, and nothing is written. -/
  refused : ∀ bytecode limit,
    service.cache.shelf.held? (service.cache.keyOf request) = none →
    service.comesTo request = .finished (.ok bytecode) →
    service.cache.memoryLimit = some limit → limit < bytecode.byteLength →
      answer = .returned (.error (.cacheExhausted bytecode.byteLength limit)) ∧
        service.disk.files.AddsNoFile after.disk.files ∧ after.disk.drawn = service.disk.drawn

variable {service after : Service} {directory : Path} {request : Request} {answer : Answer}

/-- A failure that is seen was returned. -/
theorem eq_of_outcome_error {failure : Failure}
    (seen : answer.outcome = .finished (.error failure)) : answer = .returned (.error failure) := by
  -- The other two answers are seen as something else.
  cases answer with
  | panicked message => simp [Answer.outcome] at seen
  | returned result =>
    cases result with
    | ok shared => simp [Answer.outcome] at seen
    | error other =>
      simp only [Answer.outcome, CompileOutcome.finished.injEq, Except.error.injEq] at seen
      rw [seen]

/-- A module that is seen was returned. -/
theorem eq_of_outcome_ok {bytecode : Bytecode}
    (seen : answer.outcome = .finished (.ok bytecode)) :
    ∃ shared, answer = .returned (.ok shared) ∧ shared.bytecode = bytecode := by
  -- The other two answers are seen as something else.
  cases answer with
  | panicked message => simp [Answer.outcome] at seen
  | returned result =>
    cases result with
    | ok shared => exact ⟨shared, rfl, by simpa [Answer.outcome] using seen⟩
    | error failure => simp [Answer.outcome] at seen

/-- A request that is served leaves nothing else on the disk. -/
theorem footprint_of_serves (used : service.cache.diskDirectory = some directory)
    (serves : service.stock.Serves request answer after.stock) :
    service.Footprint directory request answer after := by
  let key := service.cache.keyOf request
  have look : service.stock.look request =
      service.disk.search (some (directory.join key.fileName)) := Stock.look_of_tier used request
  have path : service.stock.setting.diskPath? (service.stock.setting.keyOf request) =
      some (directory.join key.fileName) := Stock.diskPath?_of_tier used key
  obtain ⟨looked, searched⟩ := service.disk.search_leaves directory key
  rw [← look] at looked searched
  have ends : after.disk = service.disk ∨ after.disk = (service.stock.look request).2 ∨
      ∃ shared, answer = .returned (.ok shared) ∧ after.disk =
        (service.stock.look request).2.store shared.bytecode (some (directory.join key.fileName)) :=
    path ▸ serves.disk_of_answer
  have missed : service.cache.shelf.held? key = none →
      answer.outcome = (service.comesTo request).under service.cache.memoryLimit false :=
    fun absent => (serves.of_absent absent).trans (service.due_stock request)
  have failed : answer.Fails →
      service.disk.files.AddsNoFile after.disk.files ∧ after.disk.drawn = service.disk.drawn := by
    intro fails
    rcases ends with same | same | ⟨shared, answered, -⟩
    · rw [same]
      exact ⟨.refl _, rfl⟩
    · rw [same]
      exact service.disk.search_addsNoFile _
    · exact absurd answered (fails shared)
  refine ⟨?_, ?_, ?_, missed, failed, ?_⟩
  · -- A look and then a write keep to the file of the key.
    rcases ends with same | same | ⟨shared, -, same⟩
    · exact same ▸ .refl ..
    · exact same ▸ looked
    · obtain ⟨written, -⟩ :=
        (service.stock.look request).2.store_leaves directory key shared.bytecode
      exact same ▸ looked.trans written
  · rcases ends with same | same | ⟨shared, answered, same⟩
    · exact Or.inl (by rw [same])
    · rw [same]
      exact searched.imp_right Or.inl
    · obtain ⟨-, kept | image⟩ :=
        (service.stock.look request).2.store_leaves directory key shared.bytecode
      · -- Nothing could be written, and the look may have removed the file.
        rw [same, kept]
        exact searched.imp_right Or.inl
      · exact Or.inr (Or.inr ⟨shared, answered, same ▸ image⟩)
  · intro shared found
    obtain ⟨answered, stock⟩ := serves.of_held found
    exact ⟨answered, congrArg Stock.disk stock⟩
  · intro bytecode limit absent comes bounded large
    have seen := missed absent
    rw [comes, bounded, CompileOutcome.under_of_large large] at seen
    have answered := eq_of_outcome_error seen
    refine ⟨answered, failed ?_⟩
    rw [answered]
    simp [Answer.Fails]

end Service

namespace Crowd

variable {crowd : Crowd} {directory : Path} {key : Fingerprint}

/-- Some request is for a key. -/
def Asks (crowd : Crowd) (key : Fingerprint) : Prop :=
  ∃ (thread : Nat) (job : Job) (phase : Phase),
    crowd.threads[thread]? = some (job, phase) ∧ job.key = key

/-- A request stays one for its key. -/
theorem Asks.move (asks : crowd.Asks key) (move : Move) : (crowd.move move).Asks key := by
  -- The thread of the request is still there, in its next phase if it has taken the step.
  obtain ⟨thread, job, phase, here, own⟩ := asks
  by_cases steps : move = .advance thread
  · obtain ⟨next, there, -⟩ := moved here
    exact ⟨thread, job, next, steps ▸ there, own⟩
  · exact ⟨thread, job, phase, stays here steps, own⟩

/-- A request stays one for its key in every run. -/
theorem Asks.run (asks : crowd.Asks key) (moves : List Move) : (crowd.run moves).Asks key := by
  -- Move by move.
  induction moves generalizing crowd with
  | nil => exact asks
  | cons move moves ih => exact ih (asks.move move)

end Crowd

end ShaderBuild
