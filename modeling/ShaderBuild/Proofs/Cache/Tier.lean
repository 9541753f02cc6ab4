import ShaderBuild.Cache.Request
import ShaderBuild.Proofs.Cache.Board
import ShaderBuild.Proofs.Cache.KeyFile

/-! A request reads the file of its own key only and leaves images of what it has compiled. -/

namespace ShaderBuild.Service

/-- Giving handles up leaves the disk. -/
theorem disk_releaseEntries (service : Service) (entries : List Entry) :
    (service.releaseEntries entries).disk = service.disk := by
  -- One handle after the other goes.
  induction entries generalizing service with
  | nil => rfl
  | cons entry entries ih => exact ih (service.release entry.shared)

/-- Giving a cache up leaves the disk. -/
theorem disk_close (service : Service) : service.close.disk = service.disk := by
  unfold close
  simp only
  -- Whether the release is noted does not matter.
  split
  · exact disk_releaseEntries _ _
  · exact disk_releaseEntries _ _

/-- One more handle to an answer leaves the disk. -/
theorem disk_retainAnswer (service : Service) (answer : Except Failure Shared) :
    (service.retainAnswer answer).disk = service.disk := by
  -- Handles are counted on the heap.
  cases answer <;> rfl

/-- Giving the handle of an answer up leaves the disk. -/
theorem disk_releaseAnswer (service : Service) (answer : Except Failure Shared) :
    (service.releaseAnswer answer).disk = service.disk := by
  -- Handles are counted on the heap.
  cases answer <;> rfl

/-- Removing an unreadable file adds none. -/
theorem addsNoFile_discardFile (service : Service) (path : Path) (failure : Failure) :
    service.disk.files.AddsNoFile (service.discardFile path failure).disk.files := by
  unfold discardFile
  simp only
  -- The file goes, or it cannot be removed and nothing changes.
  split
  · rename_i files removed
    exact Files.addsNoFile_of_remove removed
  · exact .refl _

/-- Taking an entry out of memory leaves the disk. -/
theorem disk_removeEntry (service : Service) (key : Fingerprint) :
    (service.removeEntry key).2.disk = service.disk := by
  -- The entry is there or it is not; the disk is not looked at either way.
  unfold removeEntry
  split <;> rfl

/-- Removing the file of a key adds no file. -/
theorem addsNoFile_removeFile (service : Service) (key : Fingerprint) :
    service.disk.files.AddsNoFile (service.removeFile key).2.disk.files := by
  unfold removeFile
  split
  · exact .refl _
  -- The file goes, or stays if it cannot be removed.
  · split
    · rename_i files removed
      exact Files.addsNoFile_of_remove removed
    · exact .refl _

/-- Looking on the disk adds no file. -/
theorem addsNoFile_loadFromDisk (service : Service) (job : Job) :
    service.disk.files.AddsNoFile (service.loadFromDisk job).2.disk.files := by
  unfold loadFromDisk
  -- There may be no directory, no file, or a file that holds words; only else it is discarded.
  split
  · exact .refl _
  · split
    · exact .refl _
    · split
      · exact .refl _
      · exact service.addsNoFile_discardFile _ _

/-- A module that is found on the disk is what the file of its key holds. -/
theorem file_of_loadFromDisk {service : Service} {job : Job} {bytecode : Bytecode}
    (found : (service.loadFromDisk job).1 = some bytecode) :
    ∃ directory bytes, service.cache.diskDirectory = some directory ∧
      service.disk.files.get? (directory.keyPlace job.key) = some (.file bytes) ∧
      Bytecode.ofBytes bytes = .ok bytecode := by
  unfold loadFromDisk at found
  -- Without a directory, or without a file, nothing is found.
  split at found
  · simp at found
  · rename_i path there
    obtain ⟨directory, used, rfl⟩ := Cache.diskPath?_eq_some there
    split at found
    · simp at found
    · rename_i bytes read_
      split at found
      -- The words that are found are those of the file at the key.
      · rename_i module read_'
        rw [Option.some.injEq] at found
        have stands := Files.get?_of_read read_
        rw [Path.place_join_fileName] at stands
        exact ⟨directory, bytes, used, stands, found ▸ read_'⟩
      · simp at found

/-- A leader that has its module at once has found it on the disk. -/
theorem loadFromDisk_of_lead {service : Service} {job : Job} {id : FlightId} {shared : Shared}
    (leads : (service.lead job id).2 = .produced id (.returned (.ok shared))) :
    (service.loadFromDisk job).1 = some shared.bytecode := by
  unfold lead at leads
  -- A module is allocated only when one was found.
  cases loaded : service.loadFromDisk job with
  | mk found after =>
    cases found with
    | none => simp [loaded] at leads
    | some bytecode =>
      simp only [loaded, allocate, Phase.produced.injEq, Answer.returned.injEq, Except.ok.injEq,
        true_and] at leads
      rw [← leads]

/-- Storing a module leaves the files of other keys, and that of its key is its image if it changes.
-/
theorem file_of_storeToDisk {service : Service} {job : Job} {bytecode : Bytecode} {directory : Path}
    {key : Fingerprint} {bytes : List UInt8}
    (found : (service.storeToDisk job bytecode).disk.files.get? (directory.keyPlace key) =
      some (.file bytes)) :
    service.disk.files.get? (directory.keyPlace key) = some (.file bytes) ∨
      key = job.key ∧ bytes = bytesOfWords bytecode.words := by
  unfold storeToDisk at found
  split at found
  · exact Or.inl found
  · rename_i path there
    obtain ⟨used, -, rfl⟩ := Cache.diskPath?_eq_some there
    -- Whether the write succeeds or not, its files are the same.
    have wrote : (service.disk.writeAtomically (used.join job.key.fileName)
        (bytesOfWords bytecode.words)).1.files.get? (directory.keyPlace key) =
          some (.file bytes) := by
      split at found
      · rename_i disk stored
        rw [stored]
        exact found
      · rename_i disk fault stored
        rw [stored]
        exact found
    rcases Disk.file_of_writeAtomically wrote with old | sibling | ⟨goal, new⟩
    -- Of the three places that a write can change only the goal is a file of a key.
    · exact Or.inl old
    · exact absurd sibling.symm (Disk.sibling_ne_keyPlace _ _ _ _ _ _)
    · rw [Path.place_join_fileName] at goal
      exact Or.inr ⟨Path.key_of_keyPlace goal, new⟩

/-- Keeping a module in memory leaves the disk. -/
theorem disk_keep (service : Service) (key : Fingerprint) (shared : Shared) :
    (service.keep key shared).2.disk = service.disk := by
  unfold keep
  -- The module is refused, or handles are given up for it.
  split
  · rfl
  · exact disk_releaseEntries ..

/-- Only a leader that looks on the disk or calls the compiler does anything on the disk. -/
theorem disk_advance (service : Service) (job : Job) {phase : Phase}
    (looks : ∀ id, phase ≠ .leading id) (calls : ∀ id, phase ≠ .compiling id) :
    (service.advance job phase).1.disk = service.disk := by
  cases phase with
  | arriving =>
    -- Only the memory, the table and the notes change.
    show (service.arrive job).1.disk = service.disk
    unfold arrive
    split
    · rfl
    · simp only
      split <;> rfl
  | following id =>
    -- Only handles and the flight change.
    show (service.follow id).1.disk = service.disk
    unfold follow
    split
    · simp only
      split
      · rw [disk_releaseAnswer]
        exact disk_retainAnswer ..
      · exact disk_retainAnswer ..
    · rfl
  | leading id => exact absurd rfl (looks id)
  | compiling id => exact absurd rfl (calls id)
  | produced id made =>
    -- Only the memory and the table change.
    cases made with
    | panicked message => rfl
    | returned result =>
      cases result with
      | error failure => rfl
      | ok shared => exact disk_keep ..
  | settled id answer =>
    -- Only the flight and the handles to the outcome change.
    show (service.publish job id answer).1.disk = service.disk
    unfold publish
    simp only
    split
    · rfl
    · exact disk_retainAnswer ..
  | answered answer => rfl

/-- After a step of a request the file of a key is one that was there, or the image of the module
that the compiler has just made. -/
theorem file_of_advance {service : Service} {job : Job} {phase : Phase} {directory : Path}
    {key : Fingerprint} {bytes : List UInt8}
    (found : (service.advance job phase).1.disk.files.get? (directory.keyPlace key) =
      some (.file bytes)) :
    service.disk.files.get? (directory.keyPlace key) = some (.file bytes) ∨
      key = job.key ∧ (∃ id, phase = .compiling id) ∧ ∃ bytecode,
        service.cache.setting.outcome job.request = .finished (.ok bytecode) ∧
        bytes = bytesOfWords bytecode.words := by
  cases phase with
  | leading id =>
    -- A file may be discarded here.
    have adds := service.addsNoFile_loadFromDisk job
    have same : (service.lead job id).1.disk = (service.loadFromDisk job).2.disk := by
      unfold lead
      cases service.loadFromDisk job with
      | mk found after => cases found <;> rfl
    rw [advance, same] at found
    exact Or.inl (adds _ _ found)
  | compiling id =>
    -- Only here the image of a module is written.
    rw [advance] at found
    unfold compile at found
    simp only at found
    split at found
    · exact Or.inl found
    · exact Or.inl found
    · rename_i bytecode compiled
      split at found
      · exact Or.inl found
      · rcases file_of_storeToDisk found with old | ⟨own, new⟩
        · exact Or.inl old
        · exact Or.inr ⟨own, ⟨id, rfl⟩, bytecode, compiled, new⟩
  | arriving | following id | produced id made | settled id answer | answered answer =>
    rw [disk_advance service job (by simp) (by simp)] at found
    exact Or.inl found

end ShaderBuild.Service
