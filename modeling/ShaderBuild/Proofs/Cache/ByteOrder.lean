import ShaderBuild.Proofs.Cache.WriteThrough

/-! What comes back of words that were written to the disk depends on their first word. -/

namespace ShaderBuild

/-- A word is turned round to the magic number when it is the magic number turned round. -/
theorem turned_eq_magic_iff {word : UInt32} : turned word = spirvMagic ↔ word = turnedMagic := by
  -- Turning round twice changes nothing, so that one way tells the other.
  constructor
  · intro same
    rw [← turned_turned word, same]
    rfl
  · rintro rfl
    rfl

namespace Bytecode

/-- The module with the bytes of each word turned round. -/
def turnedRound (bytecode : Bytecode) : Bytecode :=
  ⟨bytecode.words.map turned, by simpa using bytecode.nonempty⟩

/-- What comes back of a module that was written to the disk. -/
def reread (bytecode : Bytecode) : Option Bytecode :=
  if bytecode.words.head? = some spirvMagic then some bytecode
  else if bytecode.words.head? = some turnedMagic then some bytecode.turnedRound
  else none

/-- A module that is turned round has the size that it had. -/
theorem byteLength_turnedRound (bytecode : Bytecode) :
    bytecode.turnedRound.byteLength = bytecode.byteLength := by
  -- The size counts words, and each word stays one.
  simp [turnedRound, byteLength, wordCount]

/-- What comes back has the size of what was written. -/
theorem byteLength_reread {bytecode read : Bytecode} (found : bytecode.reread = some read) :
    read.byteLength = bytecode.byteLength := by
  -- The words are the same or turned round, each of them as long as before.
  unfold reread at found
  split at found
  · rw [← Option.some.inj found]
  · split at found
    · rw [← Option.some.inj found, byteLength_turnedRound]
    · simp at found

/-- What is read of the bytes of a module. -/
theorem toOption_ofBytes_bytesOfWords (bytecode : Bytecode) :
    (ofBytes (bytesOfWords bytecode.words)).toOption = bytecode.reread := by
  obtain ⟨words, nonempty⟩ := bytecode
  cases words with
  | nil => exact absurd rfl nonempty
  | cons word rest =>
    simp only [reread, ofBytes, wordsOfBytes_bytesOfWords, turned_eq_magic_iff, List.head?_cons,
      Option.some.injEq]
    -- The first word decides.
    by_cases magic : word = spirvMagic
    · simp only [if_pos magic]
      rfl
    · by_cases back : word = turnedMagic
      · simp only [if_neg magic, if_pos back]
        rfl
      · simp only [if_neg magic, if_neg back]
        rfl

/-- Another module comes back exactly when the first word is the magic number turned round. -/
theorem reread_other_iff {bytecode : Bytecode} :
    (∃ other, bytecode.reread = some other ∧ other ≠ bytecode) ↔
      bytecode.words.head? = some turnedMagic := by
  have apart : spirvMagic ≠ turnedMagic := by decide
  constructor
  · rintro ⟨other, found, differs⟩
    unfold reread at found
    split at found
    · exact absurd (Option.some.inj found).symm differs
    · split at found
      · assumption
      · simp at found
  · intro head
    have back : bytecode.reread = some bytecode.turnedRound := by
      rw [reread, head, if_neg (by simp [apart.symm]), if_pos rfl]
    refine ⟨_, back, fun same => ?_⟩
    -- The first words are different already.
    have first : bytecode.turnedRound.words.head? = some spirvMagic := by
      simp only [turnedRound, List.head?_map, head, Option.map_some, Option.some.injEq]
      exact turned_eq_magic_iff.mpr rfl
    rw [same, head, Option.some.injEq] at first
    exact apart first.symm

end Bytecode

namespace Disk

variable {disk : Disk} {path : Path}

/-- A look finds what can be read of the bytes that the file holds. -/
theorem search_fst_of_read {bytes : List UInt8} (read_ : disk.files.read path = .ok bytes) :
    (disk.search (some path)).1 = (Bytecode.ofBytes bytes).toOption := by
  unfold search
  simp only [read_]
  cases Bytecode.ofBytes bytes with
  | ok bytecode => rfl
  | error failure =>
    -- A file without a module is no find, whether it can be removed or not.
    simp only
    split <;> rfl

/-- A look finds what comes back of the module that was written to the file. -/
theorem search_fst_of_stored {bytecode : Bytecode}
    (stands : disk.files.read path = .ok (bytesOfWords bytecode.words)) :
    (disk.search (some path)).1 = bytecode.reread := by
  rw [search_fst_of_read stands, Bytecode.toOption_ofBytes_bytesOfWords]

/-- A module that is written stands in its file, byte for byte. -/
theorem read_store (accepts : disk.Accepts path) (bytecode : Bytecode) :
    (disk.store bytecode (some path)).files.read path = .ok (bytesOfWords bytecode.words) :=
  read_writeAtomically (accepts _)

end Disk

namespace Stock

variable {stock after : Stock} {request : Request} {answer : Answer} {path : Path}
  {bytecode : Bytecode}

/-- A request whose module stands on the disk is answered with what comes back of it. When nothing
does, it is answered with what the compiler makes again. -/
theorem Serves.reread (serves : stock.Serves request answer after)
    (absent : stock.shelf.held? (stock.setting.keyOf request) = none)
    (used : stock.setting.diskPath? (stock.setting.keyOf request) = some path)
    (stands : stock.disk.files.read path = .ok (bytesOfWords bytecode.words))
    (compiled : stock.setting.outcome request = .finished (.ok bytecode))
    (fits : stock.setting.Fits bytecode) :
    answer = .returned (.ok ⟨stock.heap.next, bytecode.reread.getD bytecode⟩) ∧
      after.stats.compilations =
        stock.stats.compilations + if bytecode.reread.isSome then 0 else 1 := by
  -- What comes back of the bytes is what the look finds, and so it decides what is due.
  have looked : (stock.look request).1 = bytecode.reread := by
    rw [look, search, used, Disk.search_fst_of_stored stands]
  cases found : bytecode.reread with
  | some read =>
    rw [found] at looked
    have fits' : stock.setting.Fits read := fun limit bounded =>
      (Bytecode.byteLength_reread found).symm ▸ fits limit bounded
    have due : stock.due request = .finished (.ok read) := by
      rw [due_of_found looked, fits'.under]
    obtain ⟨same, counted⟩ := serves.of_due absent due
    refine ⟨same, counted.trans ?_⟩
    rw [counted_of_found looked]
    rfl
  | none =>
    rw [found] at looked
    have due : stock.due request = .finished (.ok bytecode) := by
      rw [due_of_missing looked, compiled, fits.under]
    obtain ⟨same, counted⟩ := serves.of_due absent due
    refine ⟨same, counted.trans ?_⟩
    rw [counted_of_missing looked]
    rfl

end Stock

namespace Service

/-- The first word of a module decides what a cache reads from the file that another cache has
written it to: the module itself, all its words turned round, or nothing. A request is answered with
that, and calls the compiler only when there is nothing. -/
theorem stored_module_returns {writer reader : Service} {job : Job} {bytecode : Bytecode}
    {path : Path} (used : writer.cache.diskPath? job.key = some path)
    (accepts : writer.disk.Accepts path) (same : reader.cache.diskPath? job.key = some path)
    (left : reader.disk.files.read path =
      (writer.storeToDisk job bytecode).disk.files.read path) :
    (reader.loadFromDisk job).1 = bytecode.reread ∧
      ((∃ other, bytecode.reread = some other ∧ other ≠ bytecode) ↔
        bytecode.words.head? = some turnedMagic) ∧
      ∀ request, reader.Idle → reader.cache.keyOf request = job.key →
        reader.cache.shelf.contains job.key = false →
        reader.cache.compiler.compile request reader.cache.options =
          .finished (.ok bytecode) →
        reader.cache.setting.Fits bytecode →
        ∃ after handle, reader.request request =
            (after, .answered (.returned (.ok ⟨handle, bytecode.reread.getD bytecode⟩))) ∧
          after.cache.stats.compilations =
            reader.cache.stats.compilations + if bytecode.reread.isSome then 0 else 1 := by
  -- The reader finds the bytes that the writer has left.
  obtain ⟨notes, stored⟩ := writer.storeToDisk_eq job bytecode
  have stands : reader.disk.files.read path = .ok (bytesOfWords bytecode.words) := by
    rw [left, stored, used]
    exact Disk.read_store accepts bytecode
  refine ⟨?_, Bytecode.reread_other_iff, ?_⟩
  · obtain ⟨notes, loaded⟩ := reader.loadFromDisk_eq job
    rw [loaded, same]
    exact Disk.search_fst_of_stored stands
  · intro request idle key absent compiled fits
    obtain ⟨after, answer, ends, -, serves⟩ := request_serves idle request
    rw [← key] at absent same
    obtain ⟨rfl, compilations⟩ := serves.reread (Shelf.contains_eq_false_iff.mp absent) same stands
      compiled fits
    exact ⟨after, _, ends, compilations⟩

end Service

/-- A module that begins with the magic number turned round. -/
def Bytecode.backward : Bytecode :=
  ⟨[turnedMagic, 1], by simp⟩

/-- That module comes back as another one. -/
theorem Bytecode.reread_backward :
    Bytecode.backward.reread = some ⟨[spirvMagic, 0x01000000], by simp⟩ := by
  -- The bytes of its first word, lowest first, are those of the magic number, highest first.
  decide

/-- A compiler that makes no other module. -/
def Compiler.backward : Compiler where
  identifier := "backward"
  compile := fun _ _ => .finished (.ok .backward)
  notes := fun _ _ => []

namespace Service

/-- Some request. -/
def backwardRequest : Request := ⟨"a.vert", "void main() {}"⟩

/-- A new cache of that compiler that works in an empty directory. -/
def backwardWriter : Service where
  cache := { compiler := .backward, diskDirectory := some ⟨"cache"⟩ }
  disk := { files := ⟨[(["cache"], .directory)]⟩ }

/-- What the writer has to do. -/
def backwardJob : Job := backwardWriter.jobOf backwardRequest

/-- Another new cache in the directory, when the module has been written. -/
def backwardReader : Service where
  cache := backwardWriter.cache
  disk := (backwardWriter.storeToDisk backwardJob .backward).disk

/-- The file of the key. -/
def backwardPath : Path := (⟨"cache"⟩ : Path).join backwardJob.key.fileName

/-- The file of the key can be written. -/
theorem accepts_backwardWriter : backwardWriter.disk.Accepts backwardPath :=
  -- Whether a disk accepts a file does not depend on the bytes, so none are tried.
  Disk.accepts_of_isOk [] (by decide +kernel)

/-- The module comes back as another one, and the compiler is not called. -/
theorem stored_module_returns_turned :
    backwardWriter.cache.diskPath? backwardJob.key = some backwardPath ∧
      backwardWriter.disk.Accepts backwardPath ∧
      backwardReader.cache.diskPath? backwardJob.key = some backwardPath ∧
      (backwardReader.loadFromDisk backwardJob).1 =
        some ⟨[spirvMagic, 0x01000000], by simp⟩ ∧
      ∃ after handle, backwardReader.request backwardRequest = (after, .answered
          (.returned (.ok ⟨handle, ⟨[spirvMagic, 0x01000000], by simp⟩⟩))) ∧
        after.cache.stats.compilations = 0 := by
  -- The general law is used on a file with the words the other way round.
  have used : backwardWriter.cache.diskPath? backwardJob.key = some backwardPath := rfl
  have same : backwardReader.cache.diskPath? backwardJob.key = some backwardPath := rfl
  obtain ⟨loads, -, answers⟩ := stored_module_returns used accepts_backwardWriter same rfl
  have idle : backwardReader.Idle := ⟨rfl, rfl⟩
  have absent : backwardReader.cache.shelf.contains backwardJob.key = false := rfl
  have fits : backwardReader.cache.setting.Fits .backward := fun limit bounded => by
    simp [backwardReader, backwardWriter, Cache.setting] at bounded
  obtain ⟨after, handle, ends, compilations⟩ :=
    answers backwardRequest idle rfl absent rfl fits
  rw [Bytecode.reread_backward] at loads ends compilations
  exact ⟨used, accepts_backwardWriter, same, loads, after, handle, ends, compilations⟩

/-- Nothing is found in the empty directory. -/
theorem missing_backwardWriter : (backwardWriter.stock.look backwardRequest).1 = none := by
  -- The directory is there, and nothing else is.
  have tier : backwardWriter.stock.setting.diskDirectory = some ⟨"cache"⟩ := rfl
  refine Stock.look_of_illegible tier fun bytes stands => ?_
  have files : backwardWriter.stock.disk.files = ⟨[(["cache"], .directory)]⟩ := rfl
  have place : Path.keyPlace ⟨"cache"⟩ (backwardWriter.stock.setting.keyOf backwardRequest) =
      ["cache", backwardJob.key.fileName] := rfl
  rw [files, place] at stands
  simp [Files.get?, Location.isFixed, Location.root, List.lookup_cons] at stands

/-- A new cache answers with words that its compiler, which is the one of the cache before, does not
make. -/
theorem words_can_change_on_the_disk : ∃ after shared,
    backwardWriter.request backwardRequest = (after, .answered (.returned (.ok shared))) ∧
      shared.bytecode.words = [turnedMagic, 1] ∧
      ∃ final another,
        { cache := backwardWriter.cache, disk := after.disk : Service }.request backwardRequest =
          (final, .answered (.returned (.ok another))) ∧
        another.bytecode.words = [spirvMagic, 0x01000000] := by
  have absent : backwardWriter.stock.shelf.held?
      (backwardWriter.stock.setting.keyOf backwardRequest) = none := rfl
  have used : backwardWriter.stock.setting.diskPath?
      (backwardWriter.stock.setting.keyOf backwardRequest) = some backwardPath := rfl
  have fits : backwardWriter.stock.setting.Fits .backward := fun limit bounded => by
    simp [backwardWriter, stock, Cache.setting] at bounded
  have due : backwardWriter.stock.due backwardRequest = .finished (.ok .backward) := by
    rw [Stock.due_of_missing missing_backwardWriter]
    exact fits.under false
  -- The first cache calls the compiler and writes the module.
  have idle : backwardWriter.Idle := ⟨rfl, rfl⟩
  obtain ⟨after, answer, ends, -, serves⟩ := request_serves idle backwardRequest
  obtain ⟨rfl, -⟩ := serves.of_due absent due
  obtain ⟨written, compiled, -⟩ := serves.stored absent missing_backwardWriter
  have stands : after.disk.files.read backwardPath =
      .ok (bytesOfWords Bytecode.backward.words) := by
    have disk : after.stock.disk = after.disk := rfl
    rw [← disk, written, used]
    exact Disk.read_store (accepts_backwardWriter.search _) _
  -- The second one finds it, and reads it in the other order.
  let reader : Service := { cache := backwardWriter.cache, disk := after.disk }
  have idle' : reader.Idle := ⟨rfl, rfl⟩
  obtain ⟨final, answer, ends', -, serves'⟩ := request_serves idle' backwardRequest
  obtain ⟨rfl, -⟩ := serves'.reread absent used stands compiled fits
  rw [Bytecode.reread_backward] at ends'
  exact ⟨after, _, ends, rfl, final, _, ends', rfl⟩

end Service

end ShaderBuild
