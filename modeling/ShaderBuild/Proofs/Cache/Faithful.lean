import ShaderBuild.Proofs.Cache.Handles
import ShaderBuild.Proofs.Cache.Reordering
import ShaderBuild.Proofs.Cache.WriteThrough

/-! A cache is faithful to requests that share a key only if they compile alike. -/

namespace ShaderBuild

/-- The entries of the directory of the disk tier. -/
def Setting.Entry (setting : Setting) (place : Location) : Prop :=
  ∃ directory, setting.diskDirectory = some directory ∧ ∃ name, place = directory.place ++ [name]

/-- The file of a key is an entry of the directory. -/
theorem Setting.entry_keyPlace {setting : Setting} {directory : Path}
    (used : setting.diskDirectory = some directory) (key : Fingerprint) :
    setting.Entry (directory.keyPlace key) :=
  ⟨directory, used, key.fileName, rfl⟩

/-- The path of a key's file, and of the sibling that is filled first, lead to entries. -/
theorem Setting.entry_diskPath? {setting : Setting} {key : Fingerprint} {path : Path}
    (there : setting.diskPath? key = some path) (disk : Disk) (number : Nat) :
    setting.Entry path.place ∧ setting.Entry (disk.sibling path number).place := by
  -- Both are names in the directory of the cache.
  obtain ⟨directory, used, rfl⟩ := Option.map_eq_some_iff.mp there
  refine ⟨⟨directory, used, _, directory.place_join_fileName key⟩, directory, used, ?_⟩
  refine ⟨key.fileName ++ s!".{disk.process}.{number}.tmp", ?_⟩
  rw [Disk.sibling, Path.append_join,
    Path.place_join (key.plain_fileName_append (Disk.slash_not_mem_suffix _ _))]

/-- A look and a write change entries of the directory only. -/
theorem Stock.Serves.get?_elsewhere {stock after : Stock} {request : Request} {answer : Answer}
    (serves : stock.Serves request answer after) {place : Location}
    (elsewhere : ¬ stock.setting.Entry place) :
    after.disk.files.get? place = stock.disk.files.get? place := by
  let path? := stock.setting.diskPath? (stock.setting.keyOf request)
  -- A look removes the file of the key at most.
  have looked : (stock.look request).2.files.get? place = stock.disk.files.get? place := by
    rcases stock.disk.search_cases path? with same | ⟨path, -, -, files, there, -, -, removed, same⟩
    · exact congrArg (fun disk : Disk => disk.files.get? place) same
    · refine (congrArg (fun disk : Disk => disk.files.get? place) same).trans ?_
      refine (Files.get?_of_remove removed place).trans (if_neg ?_)
      rintro rfl
      exact elsewhere (stock.setting.entry_diskPath? there stock.disk 0).1
  rcases serves.disk_cases with same | same | ⟨bytecode, same⟩
  · rw [same]
  · rw [same, looked]
  · rw [same, ← looked]
    generalize (stock.look request).2 = disk
    cases there : stock.setting.diskPath? (stock.setting.keyOf request) with
    | none => rfl
    | some path =>
      -- A write changes the file of the key and its sibling, and both are entries.
      obtain ⟨own, sibling⟩ := stock.setting.entry_diskPath? there disk disk.drawn
      have apart : place ≠ (disk.sibling path disk.drawn).place := by
        rintro rfl
        exact elsewhere sibling
      refine (Disk.get?_writeAtomically _ apart).resolve_right ?_
      rintro ⟨rfl, -⟩
      exact elsewhere own

namespace Setting

variable {setting : Setting} {requests : List Request}

/-- What a run finds in its cache directory is right: under the key of a request stands what cannot be
read, or the module of that request. -/
def FindsRight (setting : Setting) (files : Files) (requests : List Request) : Prop :=
  ∀ request ∈ requests, ∀ directory, setting.diskDirectory = some directory → ∀ bytes,
    files.get? (directory.keyPlace (setting.keyOf request)) = some (.file bytes) →
    (∃ failure, wordsOfBytes bytes = .error failure) ∨
      ∃ bytecode, setting.outcome request = .finished (.ok bytecode) ∧ bytecode.Image bytes

/-- What is right for some requests is right for fewer. -/
theorem FindsRight.mono {files : Files} {fewer : List Request}
    (right : setting.FindsRight files requests) (among : fewer ⊆ requests) :
    setting.FindsRight files fewer :=
  fun request asked => right request (among asked)

/-- Different requests have different keys. -/
def Separates (setting : Setting) (requests : List Request) : Prop :=
  ∀ one ∈ requests, ∀ two ∈ requests, setting.keyOf one = setting.keyOf two → one = two

/-- Requests with the same key compile alike. -/
def Accords (setting : Setting) (requests : List Request) : Prop :=
  ∀ one ∈ requests, ∀ two ∈ requests, setting.keyOf one = setting.keyOf two →
    setting.outcome one = setting.outcome two

/-- Of requests that compile alike fewer do so. -/
theorem Accords.mono {fewer : List Request} (accord : setting.Accords requests)
    (among : fewer ⊆ requests) : setting.Accords fewer :=
  fun one asked two asked' => accord one (among asked) two (among asked')

/-- Requests that have keys of their own compile alike where they share one. -/
theorem Separates.accords (separate : setting.Separates requests) : setting.Accords requests :=
  -- Requests that share a key are one request.
  fun one among two among' same => by rw [separate one among two among' same]

/-- No module looks like one of the other byte order. -/
def Unturned (setting : Setting) : Prop :=
  ∀ request bytecode, setting.outcome request = .finished (.ok bytecode) →
    bytecode.words.head? ≠ some turnedMagic

end Setting

namespace Stock

variable {stock after : Stock} {request : Request} {requests : List Request} {answer : Answer}
  {bytecode : Bytecode}

/-- A module that a look finds is the one that the request has. -/
theorem outcome_of_look (unturned : stock.setting.Unturned)
    (right : stock.setting.FindsRight stock.disk.files requests) (asked : request ∈ requests)
    (found : (stock.look request).1 = some bytecode) :
    stock.setting.outcome request = .finished (.ok bytecode) := by
  cases used : stock.setting.diskDirectory with
  | none =>
    rw [look, search, Setting.diskPath?, used] at found
    simp [Disk.search] at found
  | some directory =>
    rw [look_of_tier used] at found
    obtain ⟨⟨bytes, read_, module⟩, -⟩ := Disk.holds_of_search found
    have stands := Files.get?_of_read read_
    rw [Path.place_join_fileName] at stands
    -- A file that is rejected gives no module at all.
    rcases right request asked directory used bytes stands with
      ⟨failure, rejected⟩ | ⟨own, compiled, image⟩
    · simp [Bytecode.ofBytes, rejected] at module
    · rw [Bytecode.ofBytes_image image (unturned request own compiled) module]
      exact compiled

/-- A request that does not find its key in memory ends as its compile does under the limit. -/
theorem due_eq (unturned : stock.setting.Unturned)
    (right : stock.setting.FindsRight stock.disk.files requests) (asked : request ∈ requests) :
    stock.due request = (stock.setting.outcome request).under stock.setting.memoryLimit false := by
  -- What is found on the disk is right, and without it the compiler is asked.
  cases looked : (stock.look request).1 with
  | none => exact due_of_missing looked
  | some bytecode => rw [due_of_found looked, outcome_of_look unturned right asked looked]

/-- A look adds no file. -/
theorem addsNoFile_look (stock : Stock) (request : Request) :
    stock.disk.files.AddsNoFile (stock.look request).2.files := by
  -- A look changes nothing, or it removes one file.
  rcases stock.disk.search_cases (stock.setting.diskPath? (stock.setting.keyOf request)) with
    same | ⟨path, bytes, failure, files, -, -, -, removed, same⟩
  · rw [look, search, same]
    exact .refl _
  · rw [look, search, same]
    exact Files.addsNoFile_of_remove removed

/-- A file of a key that is there after a request was there before, or is the image of the module that
the request has. -/
theorem Serves.file_cases (serves : stock.Serves request answer after) {directory : Path}
    {key : Fingerprint} {bytes : List UInt8}
    (found : after.disk.files.get? (directory.keyPlace key) = some (.file bytes)) :
    stock.disk.files.get? (directory.keyPlace key) = some (.file bytes) ∨
      key = stock.setting.keyOf request ∧ ∃ bytecode,
        stock.due request = .finished (.ok bytecode) ∧ bytes = bytesOfWords bytecode.words := by
  have looked := stock.addsNoFile_look request (directory.keyPlace key) bytes
  cases serves with
  | hit => exact Or.inl found
  | failed => exact Or.inl (looked found)
  | @kept bytecode absent due =>
    have made : (stock.made request bytecode).disk.files.get? (directory.keyPlace key) =
      some (.file bytes) := found
    unfold Stock.made at made
    split at made
    · exact Or.inl (looked made)
    · -- The module was compiled, and it is written to the file of the request's key.
      cases used : stock.setting.diskDirectory with
      | none =>
        simp only [Setting.diskPath?, used, Option.map_none, Disk.store] at made
        exact Or.inl (looked made)
      | some own =>
        simp only [diskPath?_of_tier used, Disk.store] at made
        rcases Disk.file_of_writeAtomically made with old | sibling | ⟨goal, new⟩
        · exact Or.inl (looked old)
        · exact absurd sibling.symm (Disk.sibling_ne_keyPlace _ _ _ _ _ _)
        · rw [Path.place_join_fileName] at goal
          exact Or.inr ⟨Path.key_of_keyPlace goal, bytecode, due, new⟩

/-- What was right on the disk is right there after a request. -/
theorem Serves.findsRight (serves : stock.Serves request answer after)
    (unturned : stock.setting.Unturned)
    (right : stock.setting.FindsRight stock.disk.files requests)
    (accord : stock.setting.Accords requests) (asked : request ∈ requests) :
    stock.setting.FindsRight after.disk.files requests := by
  -- A file was there before, or it is the image of a module that the request has compiled.
  intro other among directory used bytes found
  rcases serves.file_cases found with old | ⟨same, bytecode, due, rfl⟩
  · exact right other among directory used bytes old
  · rw [due_eq unturned right asked] at due
    refine Or.inr ⟨bytecode, ?_, Or.inl rfl⟩
    rw [accord other among request asked same]
    exact (CompileOutcome.of_under due).1

/-- Modules in memory are what requests with their keys compile to, and they fit. -/
def HoldsRight (stock : Stock) (requests : List Request) : Prop :=
  ∀ request ∈ requests, ∀ shared,
    stock.shelf.held? (stock.setting.keyOf request) = some shared →
      stock.setting.outcome request = .finished (.ok shared.bytecode) ∧
        stock.setting.Fits shared.bytecode

/-- What was right in memory is right there after a request. -/
theorem Serves.holdsRight (serves : stock.Serves request answer after)
    (unturned : stock.setting.Unturned)
    (right : stock.setting.FindsRight stock.disk.files requests)
    (holds : stock.HoldsRight requests) (accord : stock.setting.Accords requests)
    (asked : request ∈ requests) : after.HoldsRight requests := by
  have touched := stock.shelf.held?_touch (stock.setting.keyOf request)
  intro other among shared found
  rw [serves.setting_eq] at found ⊢
  cases serves with
  | hit | failed => exact holds other among shared ((touched _).symm.trans found)
  | @kept bytecode absent due =>
    rw [held?_put] at found
    split at found
    · -- What comes into memory came through the limit.
      rename_i same
      obtain rfl := Option.some.inj found
      rw [due_eq unturned right asked] at due
      rw [accord other among request asked same]
      exact CompileOutcome.of_under due
    · -- To make room modules only go.
      rcases Shelf.held?_room stock.setting.memoryLimit bytecode.byteLength
        (stock.made request bytecode).shelf (stock.setting.keyOf other) with gone | stays
      · exact absurd (gone.symm.trans found) (by simp)
      · exact holds other among shared ((touched _).symm.trans (stays.symm.trans found))

/-- A request is answered as its compile ends under the limit. -/
theorem Serves.outcome_eq (serves : stock.Serves request answer after)
    (unturned : stock.setting.Unturned)
    (right : stock.setting.FindsRight stock.disk.files requests)
    (holds : stock.HoldsRight requests) (asked : request ∈ requests) :
    answer.outcome =
      (stock.setting.outcome request).under stock.setting.memoryLimit false := by
  -- A module in memory was right, and all else is what was due.
  cases serves with
  | hit found =>
    obtain ⟨compiled, fits⟩ := holds request asked _ found
    rw [compiled, fits.under]
    rfl
  | failed absent due => rw [due, due_eq unturned right asked]
  | kept absent due =>
    rw [← due_eq unturned right asked, due]
    rfl

end Stock

/-- A cache that serves some settings between two requests, and is faithful to some requests: what it
keeps is right for all of them and fits, and the handles outside its memory are known. -/
structure Faithful (setting : Setting) (requests : List Request) (outside : List Handle)
    (service : Service) : Prop where
  unturned : setting.Unturned
  accord : setting.Accords requests
  idle : service.Idle
  own : service.stock.setting = setting
  held : service.cache.shelf.Held service.heap outside
  memory : service.stock.HoldsRight requests
  right : setting.FindsRight service.disk.files requests

namespace Faithful

variable {setting : Setting} {requests : List Request} {outside : List Handle} {service : Service}

/-- A new cache is faithful, if it finds what is right. -/
theorem of_new (unturned : setting.Unturned) (accord : setting.Accords requests)
    (new : service.New) (own : service.stock.setting = setting) (bare : service.heap = .empty)
    (right : setting.FindsRight service.disk.files requests) :
    Faithful setting requests [] service where
  -- An empty memory holds nothing that could be wrong.
  unturned := unturned
  accord := accord
  idle := new.toIdle
  own := own
  held := by
    rw [new.memory, bare]
    exact .empty 0 Heap.tallied_empty
  memory := by
    intro request _ shared found
    have empty : service.stock.shelf = {} := new.memory
    rw [empty] at found
    simp [Shelf.held?, Shelf.get?] at found
  right := right

/-- A request to a faithful cache is answered as its compile ends under the limit, and the cache is
faithful with the handle of the answer outside. -/
theorem request {request : Request} (faithful : Faithful setting requests [] service)
    (asked : request ∈ requests) :
    ∃ after answer, service.request request = (after, .answered answer) ∧
      service.stock.Serves request answer after.stock ∧
      answer.outcome = (setting.outcome request).under setting.memoryLimit false ∧
      Faithful setting requests answer.handles after ∧
      ∀ shared, answer = .returned (.ok shared) →
        after.heap.bytecode? shared.handle = some shared.bytecode := by
  -- The request is served from memory, from the disk or by the compiler, each of which is right.
  obtain ⟨after, answer, answers, idle, serves⟩ := service.request_serves faithful.idle request
  have held : after.cache.shelf.Held after.heap (answer.handles ++ []) :=
    (serves.held faithful.held).1
  rw [List.append_nil] at held
  obtain ⟨unturned, accord, -, own, -, memory, right⟩ := faithful
  subst own
  refine ⟨after, answer, answers, serves, serves.outcome_eq unturned right memory asked,
    ⟨unturned, accord, idle, serves.setting_eq, held,
      serves.holdsRight unturned right memory accord asked,
      serves.findsRight unturned right accord asked⟩, ?_⟩
  rintro shared rfl
  exact held.modules shared (Shelf.mem_shares_of_held serves.held?_eq)

/-- A handle outside the memory may be given up. -/
theorem release {handle : Handle} (faithful : Faithful setting requests [handle] service) :
    Faithful setting requests [] { service with heap := service.heap.release handle } :=
  -- Only the heap changes, and it is asked about handles alone.
  { faithful with
    idle := ⟨faithful.idle.table, faithful.idle.flights⟩
    held := faithful.held.release }

/-- Other files may come and go where the cache has none. -/
theorem withDisk (faithful : Faithful setting requests outside service) {disk : Disk}
    (same : ∀ place bytes, setting.Entry place → disk.files.get? place = some (.file bytes) →
      service.disk.files.get? place = some (.file bytes)) :
    Faithful setting requests outside { service with disk := disk } :=
  -- Only what is found on the disk is looked at again, and only where entries stand.
  { faithful with
    idle := ⟨faithful.idle.table, faithful.idle.flights⟩
    right := fun request among directory used bytes found =>
      faithful.right request among directory used bytes
        (same _ bytes (setting.entry_keyPlace used _) found) }

/-- Notes do not matter. -/
theorem withNotes (faithful : Faithful setting requests outside service) (notes : List Log.Note) :
    Faithful setting requests outside { service with notes := notes } :=
  -- The notes are a part of the service that no other field looks at.
  { faithful with idle := ⟨faithful.idle.table, faithful.idle.flights⟩ }

end Faithful

end ShaderBuild
