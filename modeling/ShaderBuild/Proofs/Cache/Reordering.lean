import Mathlib.Logic.Function.Basic
import ShaderBuild.Proofs.Cache.Counters
import ShaderBuild.Proofs.Cache.KeyTier

/-! Without a ceiling the order of requests is lost, but for the temporary names they draw. -/

namespace ShaderBuild

/-- Without a limit every outcome stays. -/
theorem CompileOutcome.under_none (outcome : CompileOutcome) (resident : Bool) :
    outcome.under none resident = outcome := by
  -- Only a limit could change an outcome.
  cases outcome with
  | panicked message => rfl
  | finished result => cases result <;> rfl

/-- Two counts taken together. -/
def Stats.add (one two : Stats) : Stats where
  hits := one.hits + two.hits
  misses := one.misses + two.misses
  diskHits := one.diskHits + two.diskHits
  compilations := one.compilations + two.compilations
  failures := one.failures + two.failures
  coalesced := one.coalesced + two.coalesced
  evictions := one.evictions + two.evictions

/-- It does not matter which of two counts is added first. -/
theorem Stats.add_right_comm (stats one two : Stats) :
    (stats.add one).add two = (stats.add two).add one := by
  -- The counts are added field by field.
  simp [add, Nat.add_right_comm]

/-- What the tiers have for a key: the module in memory, and what stands at the place of the file. -/
structure Tiers where
  held : Option Bytecode
  item : Option Item

/-- What a request makes of the tiers for its key, how many bytes it adds to the memory, and what it
counts. -/
structure Yield where
  tiers : Tiers
  bytes : Nat := 0
  stats : Stats

/-- What a request yields that the compiler ends on like this. -/
def CompileOutcome.yield (outcome : CompileOutcome) (leads : Bool) (tiers : Tiers) : Yield :=
  match tiers.held with
  | some _ => { tiers := tiers, stats := { hits := 1 } }
  | none =>
    let left := Item.searched leads tiers.item
    match Item.found leads tiers.item with
    | some bytecode =>
      { tiers := ⟨some bytecode, left⟩
        bytes := bytecode.byteLength
        stats := { misses := 1, diskHits := 1 } }
    | none =>
      match outcome with
      | .finished (.ok bytecode) =>
        { tiers := ⟨some bytecode, Item.stored leads bytecode left⟩
          bytes := bytecode.byteLength
          stats := { misses := 1, compilations := 1 } }
      | .finished (.error _) =>
        { tiers := ⟨none, left⟩, stats := { misses := 1, compilations := 1, failures := 1 } }
      | .panicked _ => { tiers := ⟨none, left⟩, stats := { misses := 1, compilations := 1 } }

/-- The tiers for all keys, the bytes in memory, and the counters. -/
structure View where
  tiers : Fingerprint → Tiers
  resident : Nat
  stats : Stats

/-- What is left of a view when a request has yielded something for its key. -/
def View.take (view : View) (key : Fingerprint) (yield : Yield) : View where
  tiers := Function.update view.tiers key yield.tiers
  resident := view.resident + yield.bytes
  stats := view.stats.add yield.stats

/-- A taking leaves what there is for every other key. -/
theorem View.tiers_take_of_ne (view : View) {key other : Fingerprint} (apart : other ≠ key)
    (yield : Yield) : (view.take key yield).tiers other = view.tiers other :=
  -- A taking writes at its own key only.
  Function.update_of_ne apart _ _

/-- Takings for different keys do not depend on each other. -/
theorem View.take_comm (view : View) {key other : Fingerprint} (apart : key ≠ other)
    (one two : Yield) :
    (view.take key one).take other two = (view.take other two).take key one := by
  -- Tiers are updated at different keys, and sums do not depend on the order.
  simp only [take, mk.injEq]
  exact ⟨Function.update_comm apart _ _ _, Nat.add_right_comm _ _ _, Stats.add_right_comm _ _ _⟩

namespace Setting

variable {setting : Setting}

/-- What stands at the place of a key's file, when there is a disk tier. -/
def item (setting : Setting) (files : Files) (key : Fingerprint) : Option Item :=
  (setting.diskPath? key).bind fun path => files.get? path.place

/-- The path of a key's file leads to its place, when there is a disk tier. -/
def leads (setting : Setting) (files : Files) (key : Fingerprint) : Bool :=
  (setting.diskPath? key).any files.reaches

/-- What a request yields in a view, when the directories are those of some files. -/
def yield (setting : Setting) (files : Files) (view : View) (request : Request) : Yield :=
  (setting.outcome request).yield (setting.leads files (setting.keyOf request))
    (view.tiers (setting.keyOf request))

/-- What a view becomes by a request. -/
def serve (setting : Setting) (files : Files) (view : View) (request : Request) : View :=
  view.take (setting.keyOf request) (setting.yield files view request)

/-- Requests of the same key that the compiler ends on alike can be exchanged, and so can requests
of different keys. -/
theorem serve_comm (files : Files) (view : View) {one other : Request}
    (agree : setting.keyOf one = setting.keyOf other →
      setting.outcome one = setting.outcome other) :
    setting.serve files (setting.serve files view one) other =
      setting.serve files (setting.serve files view other) one := by
  by_cases same : setting.keyOf one = setting.keyOf other
  · -- Both do the same to every view.
    have alike : ∀ view, setting.serve files view one = setting.serve files view other := by
      intro view
      unfold serve yield
      rw [same, agree same]
    simp only [alike]
  · -- Neither changes what the other one reads.
    unfold serve yield
    simp only [View.tiers_take_of_ne _ same, View.tiers_take_of_ne _ (Ne.symm same)]
    exact view.take_comm same _ _

/-- Requests in another order leave the same view. -/
theorem foldl_serve_of_perm (files : Files) (view : View) {first second : List Request}
    (perm : first.Perm second)
    (agree : ∀ one ∈ first, ∀ other ∈ first, setting.keyOf one = setting.keyOf other →
      setting.outcome one = setting.outcome other) :
    first.foldl (setting.serve files) view = second.foldl (setting.serve files) view :=
  -- A permutation is made of steps that swap two neighbours.
  perm.foldl_eq' (fun one among other among' view =>
    serve_comm files view (agree one among other among')) view

/-- The file of a key is at the end of its path. -/
theorem named_of_diskPath? {key : Fingerprint} {path : Path}
    (there : setting.diskPath? key = some path) : path.Named := by
  -- The path ends in the name of the key.
  obtain ⟨directory, -, rfl⟩ := Option.map_eq_some_iff.mp there
  exact Path.named_join directory key.plain_fileName

/-- Files of different keys are in different places. -/
theorem place_ne_of_diskPath? {key other : Fingerprint} {path path' : Path} (apart : key ≠ other)
    (there : setting.diskPath? key = some path) (there' : setting.diskPath? other = some path') :
    path.place ≠ path'.place := by
  -- Names of different keys are different, in whatever directories.
  obtain ⟨directory, -, rfl⟩ := Option.map_eq_some_iff.mp there
  obtain ⟨directory', -, rfl⟩ := Option.map_eq_some_iff.mp there'
  rw [Path.place_join_fileName, Path.place_join_fileName]
  exact fun same => apart (Path.key_of_keyPlace same)

/-- A sibling is no key's file. -/
theorem sibling_ne_of_diskPath? (disk : Disk) {key other : Fingerprint} {path path' : Path}
    (there : setting.diskPath? key = some path) (there' : setting.diskPath? other = some path')
    (number : Nat) : (disk.sibling path number).place ≠ path'.place := by
  -- The name of a sibling has an ending that no key's file has.
  obtain ⟨directory, -, rfl⟩ := Option.map_eq_some_iff.mp there
  obtain ⟨directory', -, rfl⟩ := Option.map_eq_some_iff.mp there'
  rw [Path.place_join_fileName]
  exact disk.sibling_ne_keyPlace directory directory' key other number

/-- Either no key has a file, or each has one. -/
theorem diskPath?_cases (setting : Setting) :
    (∀ key, setting.diskPath? key = none) ∨ ∀ key, ∃ path, setting.diskPath? key = some path := by
  -- It is the directory that decides, and it is the same for all keys.
  unfold diskPath?
  cases setting.diskDirectory with
  | none => exact Or.inl fun _ => rfl
  | some directory => exact Or.inr fun key => ⟨_, rfl⟩

/-- Whether the path of a key leads to its place depends on the directories. -/
theorem leads_of_same {files after : Files} (same : files.SameDirectories after)
    (key : Fingerprint) : setting.leads after key = setting.leads files key := by
  -- Without a directory there is no path, and with one the directories on its way decide.
  unfold leads
  cases setting.diskPath? key with
  | none => rfl
  | some path => exact Files.reaches_of_same same

variable {disk : Disk} {key : Fingerprint}

/-- What a look for a key finds. -/
theorem search_fst (setting : Setting) (disk : Disk) (key : Fingerprint) :
    (disk.search (setting.diskPath? key)).1 =
      Item.found (setting.leads disk.files key) (setting.item disk.files key) := by
  -- Without a directory nothing is found, and with one the file of the key decides.
  cases there : setting.diskPath? key with
  | none => simp [item, there, Disk.search, Item.found]
  | some path =>
    rw [Disk.search_fst (named_of_diskPath? there)]
    simp [leads, item, there]

/-- What a look for a key leaves. -/
theorem item_search (setting : Setting) (disk : Disk) (key other : Fingerprint) :
    setting.item (disk.search (setting.diskPath? key)).2.files other =
      if other = key then
        Item.searched (setting.leads disk.files key) (setting.item disk.files key)
      else setting.item disk.files other := by
  -- Either each key has a file or none has, and the files of different keys are different.
  cases there : setting.diskPath? key with
  | none =>
    split
    · rename_i own
      simp [own, item, there, Item.searched]
    · rfl
  | some path =>
    cases there' : setting.diskPath? other with
    | none =>
      rcases setting.diskPath?_cases with never | always
      · rw [never] at there
        simp at there
      · obtain ⟨_, has⟩ := always other
        rw [has] at there'
        simp at there'
    | some path' =>
      simp only [item, leads, there, there', Option.bind_some, Option.any_some]
      rw [Disk.get?_search (named_of_diskPath? there) path'.place]
      by_cases own : other = key
      · rw [own, there, Option.some.injEq] at there'
        rw [if_pos own, if_pos (by rw [there'])]
      · rw [if_neg own, if_neg (place_ne_of_diskPath? own there' there)]

/-- What a write leaves of another key. -/
theorem item_store_of_ne {other : Fingerprint} (apart : other ≠ key) (bytecode : Bytecode) :
    setting.item (disk.store bytecode (setting.diskPath? key)).files other =
      setting.item disk.files other := by
  cases there : setting.diskPath? key with
  | none => rfl
  | some path =>
    cases there' : setting.diskPath? other with
    | none => simp [item, there']
    | some path' =>
      simp only [item, there', Option.bind_some]
      -- The other key's file is neither the goal nor the sibling.
      have away := (sibling_ne_of_diskPath? disk there there' disk.drawn).symm
      exact (Disk.get?_writeAtomically _ away).resolve_right fun goal =>
        place_ne_of_diskPath? apart there' there goal.1

/-- What a write leaves of its key. -/
theorem item_store (room : ∀ path, setting.diskPath? key = some path → disk.Room path disk.drawn)
    (bytecode : Bytecode) :
    setting.item (disk.store bytecode (setting.diskPath? key)).files key =
      Item.stored (setting.leads disk.files key) bytecode (setting.item disk.files key) := by
  -- Without a directory nothing is written, and with one only the file of the key counts.
  cases there : setting.diskPath? key with
  | none => simp [item, leads, there, Item.stored]
  | some path =>
    simp only [item, leads, there, Option.bind_some, Option.any_some]
    rw [Disk.get?_store (room path there) (sibling_ne_of_diskPath? disk there there disk.drawn),
      if_pos rfl]

end Setting

/-- From one disk to another one at most so many temporary files were named, and only files of keys
have changed. -/
structure Disk.Tends (disk : Disk) (setting : Setting) (count : Nat) (after : Disk) : Prop where
  process : after.process = disk.process
  least : disk.drawn ≤ after.drawn
  most : after.drawn ≤ disk.drawn + count
  same : disk.files.SameDirectories after.files
  elsewhere : ∀ place, (∀ key path, setting.diskPath? key = some path → place ≠ path.place) →
    after.files.get? place = disk.files.get? place

namespace Disk

variable {disk next after : Disk} {setting : Setting} {key : Fingerprint} {path : Path}

/-- What changes in two portions changes. -/
theorem Tends.trans {count count' : Nat} (first : disk.Tends setting count next)
    (second : next.Tends setting count' after) : disk.Tends setting (count + count') after where
  -- Numbers go up, directories stay, and no other place changes in either portion.
  process := second.process.trans first.process
  least := Nat.le_trans first.least second.least
  most := by
    have most := first.most
    have most' := second.most
    omega
  same := first.same.trans second.same
  elsewhere place away := (second.elsewhere place away).trans (first.elsewhere place away)

/-- A sibling stands where no key has its file. -/
theorem sibling_elsewhere (disk : Disk) (there : setting.diskPath? key = some path) (number : Nat) :
    ∀ other path', setting.diskPath? other = some path' →
      (disk.sibling path number).place ≠ path'.place :=
  -- Temporary files have an ending that no key's file has.
  fun _ _ there' => Setting.sibling_ne_of_diskPath? disk there there' number

/-- There is still room for what has not been named. -/
theorem Tends.room {count number : Nat} (tends : disk.Tends setting count after)
    (there : setting.diskPath? key = some path) (room : disk.Room path number) :
    after.Room path number := by
  -- Its name is the same, the path to it leads there still, and nothing has come to it.
  have sibling : after.sibling path number = disk.sibling path number := by
    rw [Disk.sibling, Disk.sibling, tends.process]
  constructor
  · intro targeted
    rw [sibling]
    exact Files.target_of_keeps tends.same.keeps
      (room.targeted (Files.target_of_keeps tends.same.adds targeted))
  · rw [sibling, tends.elsewhere _ (disk.sibling_elsewhere there number)]
    exact room.empty

/-- A look changes the file of its key at most. -/
theorem search_tends (disk : Disk) (setting : Setting) (key : Fingerprint) :
    disk.Tends setting 0 (disk.search (setting.diskPath? key)).2 := by
  -- A look draws no number, and it changes one place at most.
  obtain ⟨files, left⟩ := disk.search_eq (setting.diskPath? key)
  have drawn : (disk.search (setting.diskPath? key)).2.drawn = disk.drawn := by
    rw [left]
    rfl
  refine ⟨by rw [left]; rfl, Nat.le_of_eq drawn.symm, Nat.le_of_eq drawn,
    disk.sameDirectories_search _, fun place away => ?_⟩
  cases there : setting.diskPath? key with
  | none => rfl
  | some path =>
    rw [get?_search (Setting.named_of_diskPath? there), if_neg (away key path there)]

/-- A write for which there is room changes the file of its key at most. -/
theorem store_tends (room : ∀ path, setting.diskPath? key = some path → disk.Room path disk.drawn)
    (bytecode : Bytecode) :
    disk.Tends setting 1 (disk.store bytecode (setting.diskPath? key)) := by
  -- A write draws one number, and with room it changes one place at most.
  cases there : setting.diskPath? key with
  | none => exact ⟨rfl, Nat.le_refl _, Nat.le_succ _, .refl _, fun _ _ => rfl⟩
  | some path =>
    obtain ⟨files, left⟩ := disk.store_eq bytecode path
    have drawn : (disk.store bytecode (some path)).drawn = disk.drawn + 1 := by rw [left]
    refine ⟨by rw [left], drawn ▸ Nat.le_succ _, Nat.le_of_eq drawn,
      disk.sameDirectories_store bytecode (some path), fun place away => ?_⟩
    rw [get?_store (room path there) (disk.sibling_elsewhere there disk.drawn key path there),
      if_neg (away key path there)]

end Disk

namespace Stock

variable {stock after : Stock} {request : Request} {answer : Answer}

/-- There is room for a temporary file for each of some requests, whichever numbers they draw. -/
def Roomy (stock : Stock) (requests : List Request) : Prop :=
  ∀ request ∈ requests, ∀ path,
    stock.setting.diskPath? (stock.setting.keyOf request) = some path →
      ∀ number, stock.disk.drawn ≤ number → number < stock.disk.drawn + requests.length →
        stock.disk.Room path number

/-- It does not matter in which order the requests are made. -/
theorem Roomy.perm {first second : List Request} (perm : first.Perm second)
    (roomy : stock.Roomy first) : stock.Roomy second := by
  -- The requests and their number are the same.
  intro request among path there number least most
  exact roomy request (perm.mem_iff.mpr among) path there number least (perm.length_eq ▸ most)

/-- There is room in a directory whose path is not too long when no name is taken that is drawn. -/
theorem roomy_of_unused {requests : List Request} (directory : Path)
    (used : stock.setting.diskDirectory = some directory)
    (short : directory.text.utf8ByteSize + 73 < 4096) (process : stock.disk.process < 2 ^ 32)
    (counter : stock.disk.drawn + requests.length ≤ 2 ^ 64)
    (unused : ∀ request ∈ requests, ∀ number, stock.disk.drawn ≤ number →
      number < stock.disk.drawn + requests.length → stock.disk.files.get? (stock.disk.sibling
        (directory.join (stock.setting.keyOf request).fileName) number).place = none) :
    stock.Roomy requests := by
  intro request among path there number least most
  rw [Setting.diskPath?, used, Option.map_some, Option.some.injEq] at there
  subst there
  refine ⟨fun targeted => ?_, unused request among number least most⟩
  generalize stock.setting.keyOf request = key at targeted ⊢
  have tail : (stock.disk.tail number).utf8ByteSize ≤ Disk.tailSize :=
    Disk.utf8ByteSize_tail_le process (by omega)
  have name : key.fileName.utf8ByteSize = 36 := key.utf8ByteSize_fileName
  -- A slash may stand between the directory and the name.
  have path : (directory.join key.fileName).text.utf8ByteSize ≤
      directory.text.utf8ByteSize + 37 := by
    have slash : "/".utf8ByteSize = 1 := rfl
    unfold Path.join
    split <;> simp only [String.utf8ByteSize_append, name, slash] <;> omega
  unfold Disk.tailSize at tail
  have longer := Files.target_append ((Path.place_join_fileName directory key) ▸ targeted)
    (fun c among => Disk.clean_tail stock.disk number among) ?_ ?_ ?_
  · rw [← Disk.sibling_eq] at longer
    rw [← Files.place_of_target longer]
    exact longer
  · rw [Disk.toList_tail]
    simp only [temporaryEnding, List.length_append, List.length_cons, List.length_nil]
    omega
  · rw [String.utf8ByteSize_append]
    omega
  · rw [String.utf8ByteSize_append]
    omega

/-- There is room for the first of some requests. -/
theorem Roomy.head {requests : List Request} (roomy : stock.Roomy (request :: requests)) :
    ∀ path, stock.setting.diskPath? (stock.setting.keyOf request) = some path →
      stock.disk.Room path stock.disk.drawn := fun path there =>
  roomy request List.mem_cons_self path there stock.disk.drawn (Nat.le_refl _)
    (by rw [List.length_cons]; omega)

/-- There is still room for the others after one of them. -/
theorem Roomy.tail {requests : List Request} (roomy : stock.Roomy (request :: requests))
    (setting : after.setting = stock.setting)
    (tends : stock.disk.Tends stock.setting 1 after.disk) : after.Roomy requests := by
  -- One number is drawn at most, and there was room for one more.
  intro other among path there number least most
  rw [setting] at there
  have least' := tends.least
  have most' := tends.most
  refine tends.room there (roomy other (List.mem_cons_of_mem _ among) path there number ?_ ?_)
  · omega
  · rw [List.length_cons]
    omega

/-- A request leaves the directories. -/
theorem Serves.sameDirectories (serves : stock.Serves request answer after) :
    stock.disk.files.SameDirectories after.disk.files := by
  -- The disk is untouched, or a look has been made, and then a write may follow.
  have looked := stock.disk.sameDirectories_search
    (stock.setting.diskPath? (stock.setting.keyOf request))
  rcases serves.disk_cases with same | same | ⟨bytecode, same⟩
  · rw [same]
    exact .refl _
  · rw [same]
    exact looked
  · rw [same]
    exact looked.trans (Disk.sameDirectories_store _ bytecode _)

/-- A request for which there is room names one temporary file and changes the file of its key. -/
theorem Serves.tends (serves : stock.Serves request answer after)
    (room : ∀ path, stock.setting.diskPath? (stock.setting.keyOf request) = some path →
      stock.disk.Room path stock.disk.drawn) : stock.disk.Tends stock.setting 1 after.disk := by
  have still : stock.disk.Tends stock.setting 1 stock.disk :=
    ⟨rfl, Nat.le_refl _, Nat.le_succ _, .refl _, fun _ _ => rfl⟩
  have looked : stock.disk.Tends stock.setting 0 (stock.look request).2 :=
    stock.disk.search_tends stock.setting _
  -- A request looks and then writes at most, and only the write names a temporary file.
  rcases serves.disk_cases with same | same | ⟨bytecode, same⟩
  · rw [same]
    exact still
  · rw [same]
    exact still.trans looked
  · rw [same]
    have drawn : (stock.look request).2.drawn = stock.disk.drawn :=
      Nat.le_antisymm looked.most looked.least
    refine looked.trans (Disk.store_tends (fun path there => ?_) bytecode)
    rw [drawn]
    exact looked.room there (room path there)

/-- A request leaves what is neither the file of its key nor the one that a write of it fills first. -/
theorem Serves.get?_of_apart (serves : stock.Serves request answer after) {path : Path}
    (there : stock.setting.diskPath? (stock.setting.keyOf request) = some path) {place : Location}
    (own : place ≠ path.place) (side : place ≠ (stock.disk.sibling path stock.disk.drawn).place) :
    after.disk.files.get? place = stock.disk.files.get? place := by
  obtain ⟨files, left⟩ := stock.disk.search_eq (some path)
  have looked : (stock.look request).2.files.get? place = stock.disk.files.get? place := by
    show (stock.disk.search (stock.setting.diskPath? (stock.setting.keyOf request))).2.files.get?
      place = _
    rw [there, Disk.get?_search (Setting.named_of_diskPath? there), if_neg own]
  rcases serves.disk_cases with same | same | ⟨bytecode, same⟩
  · rw [same]
  · rw [same, looked]
  · -- The look draws no number, so that the write draws the next one of the stock.
    have drawn : (stock.look request).2 = stock.disk.withFiles files :=
      (congrArg (fun path? => (stock.disk.search path?).2) there).trans left
    rw [same, there, ← looked]
    refine (Disk.get?_writeAtomically _ ?_).resolve_right fun goal => own goal.1
    rw [drawn]
    exact side

/-- A request whose module has to be compiled draws a number for the write of it. -/
theorem Serves.drawn_of_compiled (serves : stock.Serves request answer after)
    (unlimited : stock.setting.memoryLimit = none) {bytecode : Bytecode} {path : Path}
    (there : stock.setting.diskPath? (stock.setting.keyOf request) = some path)
    (absent : stock.shelf.held? (stock.setting.keyOf request) = none)
    (missing : (stock.look request).1 = none)
    (compiled : stock.setting.outcome request = .finished (.ok bytecode)) :
    after.disk.process = stock.disk.process ∧ after.disk.drawn = stock.disk.drawn + 1 := by
  have due : stock.due request = .finished (.ok bytecode) := by
    rw [due_of_missing missing, compiled, unlimited]
    rfl
  obtain ⟨files, left⟩ := stock.disk.search_eq (some path)
  have looked : (stock.look request).2 = stock.disk.withFiles files :=
    (congrArg (fun path? => (stock.disk.search path?).2) there).trans left
  cases serves with
  | hit found => exact absurd (absent.symm.trans found) (by simp)
  | failed _ ends fails => exact absurd (ends.trans due) (fails.outcome_ne bytecode)
  | @kept made _ _ =>
    -- The module is written after the look, which has drawn nothing.
    obtain ⟨files', wrote⟩ := (stock.disk.withFiles files).store_eq made path
    have disk : (stock.made request made).disk =
        { stock.disk.withFiles files with drawn := stock.disk.drawn + 1, files := files' } := by
      rw [made_of_missing missing, looked, there]
      exact wrote
    show (stock.made request made).disk.process = _ ∧ (stock.made request made).disk.drawn = _
    rw [disk]
    exact ⟨rfl, rfl⟩

/-- What is known of a stock. -/
def view (stock : Stock) : View where
  tiers key := ⟨(stock.shelf.held? key).map (·.bytecode), stock.setting.item stock.disk.files key⟩
  resident := stock.shelf.resident
  stats := stock.stats

/-- A view shows a stock whose directories are those of some files. The files of keys that are in
memory need not be shown, unless the view is to be full. -/
structure Shows (stock : Stock) (start : Files) (full : Prop) (view : View) : Prop where
  same : start.SameDirectories stock.disk.files
  held : ∀ key, (stock.shelf.held? key).map (·.bytecode) = (view.tiers key).held
  item : ∀ key, full ∨ (view.tiers key).held = none →
    stock.setting.item stock.disk.files key = (view.tiers key).item
  resident : stock.shelf.resident = view.resident
  stats : stock.stats = view.stats

/-- What is known of a stock shows it. -/
theorem shows_view (stock : Stock) (full : Prop) :
    stock.Shows stock.disk.files full stock.view :=
  -- What is known is read off the stock, so there is nothing left to compare.
  ⟨.refl _, fun _ => rfl, fun _ _ => rfl, rfl, rfl⟩

section Yields

variable {start : Files} {full : Prop} {view : View} {key : Fingerprint} {yield : Yield}
  {bytecode : Bytecode}

/-- A view goes on to show a stock when what is yielded for a key happens to it. -/
theorem Shows.take (shows : stock.Shows start full view)
    (setting : after.setting = stock.setting)
    (same : stock.disk.files.SameDirectories after.disk.files)
    (held : ∀ other, (after.shelf.held? other).map (·.bytecode) =
      if other = key then yield.tiers.held else (stock.shelf.held? other).map (·.bytecode))
    (own : full ∨ yield.tiers.held = none →
      stock.setting.item after.disk.files key = yield.tiers.item)
    (others : ∀ other, other ≠ key →
      stock.setting.item after.disk.files other = stock.setting.item stock.disk.files other)
    (resident : after.shelf.resident = stock.shelf.resident + yield.bytes)
    (stats : after.stats = stock.stats.add yield.stats) :
    after.Shows start full (view.take key yield) where
  same := shows.same.trans same
  held other := by
    -- The key of the request shows what was yielded for it, and every other key what it showed.
    rw [held]
    by_cases own : other = key
    · rw [if_pos own, own]
      simp [View.take]
    · rw [if_neg own, View.tiers_take_of_ne _ own]
      exact shows.held other
  item other shown := by
    rw [setting]
    by_cases here : other = key
    · subst here
      simp only [View.take, Function.update_self] at shown ⊢
      exact own shown
    · rw [View.tiers_take_of_ne _ here] at shown ⊢
      rw [others other here]
      exact shows.item other shown
  resident := by
    rw [resident, shows.resident]
    rfl
  stats := by
    rw [stats, shows.stats]
    rfl

/-- A key that is not in memory has no module in the view. -/
theorem Shows.held_of_absent (shows : stock.Shows start full view)
    (absent : stock.shelf.held? key = none) : (view.tiers key).held = none := by
  -- The view holds what the memory holds.
  rw [← shows.held, absent]
  rfl

/-- What is found on the disk for a key that is not in memory. -/
theorem Shows.look_fst (shows : stock.Shows start full view)
    (absent : stock.shelf.held? (stock.setting.keyOf request) = none) :
    (stock.look request).1 = Item.found (stock.setting.leads start (stock.setting.keyOf request))
      (view.tiers (stock.setting.keyOf request)).item := by
  -- Without a module in memory the view shows what is at the place of the file.
  rw [← shows.item _ (Or.inr (shows.held_of_absent absent)), ← Setting.leads_of_same shows.same]
  exact stock.setting.search_fst stock.disk _

/-- What the look leaves of the file of a key that is not in memory. -/
theorem Shows.item_look (shows : stock.Shows start full view)
    (absent : stock.shelf.held? (stock.setting.keyOf request) = none) :
    stock.setting.item (stock.look request).2.files (stock.setting.keyOf request) =
      Item.searched (stock.setting.leads start (stock.setting.keyOf request))
        (view.tiers (stock.setting.keyOf request)).item := by
  -- Without a module in memory the view shows what is at the place of the file.
  rw [← shows.item _ (Or.inr (shows.held_of_absent absent)), ← Setting.leads_of_same shows.same]
  exact (stock.setting.item_search stock.disk _ _).trans (if_pos rfl)

/-- The look leaves the files of other keys. -/
theorem item_look_of_ne {other : Fingerprint} (apart : other ≠ stock.setting.keyOf request) :
    stock.setting.item (stock.look request).2.files other =
      stock.setting.item stock.disk.files other :=
  -- A look may take away the file of its own key only.
  (stock.setting.item_search stock.disk _ other).trans (if_neg apart)

/-- A view goes on to show a stock when a request finds its key in memory. -/
theorem Shows.hit (shows : stock.Shows start full view) {shared : Shared}
    (found : stock.shelf.held? (stock.setting.keyOf request) = some shared)
    (shelf : after.shelf = (stock.shelf.touch (stock.setting.keyOf request)).2)
    (setting : after.setting = stock.setting) (disk : after.disk = stock.disk)
    (stats : after.stats = { stock.stats with hits := stock.stats.hits + 1 }) :
    after.Shows start full (stock.setting.serve start view request) := by
  -- The view holds the module as well, and so it yields a hit.
  have held := shows.held (stock.setting.keyOf request)
  rw [found, Option.map_some] at held
  have yields : stock.setting.yield start view request =
      ⟨view.tiers (stock.setting.keyOf request), 0, { hits := 1 }⟩ := by
    unfold Setting.yield CompileOutcome.yield
    rw [← held]
  unfold Setting.serve
  rw [yields]
  refine shows.take setting (by rw [disk]; exact .refl _) (fun other => ?_) (fun shown => ?_)
    (fun _ _ => by rw [disk]) (by rw [shelf]; rfl) (by rw [stats]; rfl)
  · rw [shelf, Shelf.held?_touch]
    split
    · rename_i own
      rw [own]
      exact shows.held _
    · rfl
  · rw [disk]
    exact shows.item _ shown

/-- A view goes on to show a stock when a request has no module. -/
theorem Shows.fail (shows : stock.Shows start full view)
    (absent : stock.shelf.held? (stock.setting.keyOf request) = none)
    (missing : (stock.look request).1 = none)
    (fails : ∀ bytecode, stock.setting.outcome request ≠ .finished (.ok bytecode))
    (shelf : after.shelf = (stock.shelf.touch (stock.setting.keyOf request)).2)
    (setting : after.setting = stock.setting) (disk : after.disk = (stock.look request).2)
    (stats : after.stats = { stock.stats with
      misses := stock.stats.misses + 1
      compilations := stock.stats.compilations + 1
      failures := stock.stats.failures +
        if (stock.setting.outcome request).isFailure then 1 else 0 }) :
    after.Shows start full (stock.setting.serve start view request) := by
  have looked := shows.look_fst absent
  rw [missing] at looked
  have yields : stock.setting.yield start view request =
      ⟨⟨none, Item.searched (stock.setting.leads start (stock.setting.keyOf request))
        (view.tiers (stock.setting.keyOf request)).item⟩, 0,
        ⟨0, 1, 0, 1, if (stock.setting.outcome request).isFailure then 1 else 0, 0, 0⟩⟩ := by
    unfold Setting.yield CompileOutcome.yield
    rw [shows.held_of_absent absent, ← looked]
    -- The compiler breaks down, or it returns a failure, which is counted.
    cases ends : stock.setting.outcome request with
    | panicked message => rfl
    | finished result =>
      cases result with
      | error failure => rfl
      | ok bytecode => exact absurd ends (fails bytecode)
  unfold Setting.serve
  rw [yields]
  refine shows.take setting (by rw [disk]; exact stock.disk.sameDirectories_search _)
    (fun other => ?_) (fun _ => by rw [disk]; exact shows.item_look absent)
    (fun other apart => by rw [disk]; exact item_look_of_ne apart) (by rw [shelf]; rfl)
    (by rw [stats]; rfl)
  rw [shelf, Shelf.held?_touch]
  split
  · rename_i own
    rw [own, absent]
    rfl
  · rfl

/-- A view goes on to show a stock when a module is put in memory that was not there. -/
theorem Shows.keep (shows : stock.Shows start full view) (shared : Shared)
    (absent : stock.shelf.held? (stock.setting.keyOf request) = none) {item : Option Item}
    {stats : Stats}
    (yields : stock.setting.yield start view request =
      ⟨⟨some shared.bytecode, item⟩, shared.bytecode.byteLength, stats⟩)
    (shelf : after.shelf = ((stock.shelf.touch (stock.setting.keyOf request)).2.insert
      (stock.setting.keyOf request) shared).2)
    (setting : after.setting = stock.setting)
    (same : stock.disk.files.SameDirectories after.disk.files)
    (own : full → stock.setting.item after.disk.files (stock.setting.keyOf request) = item)
    (others : ∀ other, other ≠ stock.setting.keyOf request →
      stock.setting.item after.disk.files other = stock.setting.item stock.disk.files other)
    (counted : after.stats = stock.stats.add stats) :
    after.Shows start full (stock.setting.serve start view request) := by
  unfold Setting.serve
  rw [yields]
  refine shows.take setting same (fun other => ?_)
    (fun shown => own (shown.resolve_right (by simp))) others ?_ counted
  · rw [shelf, Shelf.held?_insert, Shelf.held?_touch]
    split <;> rfl
  · -- No older module of the key goes.
    have none_ : (stock.shelf.touch (stock.setting.keyOf request)).2.get?
        (stock.setting.keyOf request) = none :=
      Shelf.held?_eq_none_iff.mp ((Shelf.held?_touch _ _ _).trans absent)
    rw [shelf]
    simp only [Shelf.insert, none_, Option.map_none, Option.getD_none, Nat.sub_zero]
    rfl

/-- A view goes on to show a stock when the module was on the disk. -/
theorem Shows.keep_found (shows : stock.Shows start full view)
    (absent : stock.shelf.held? (stock.setting.keyOf request) = none)
    (found : (stock.look request).1 = some bytecode)
    (unlimited : stock.setting.memoryLimit = none) :
    ((stock.made request bytecode).put (stock.setting.keyOf request)
      ⟨stock.heap.next, bytecode⟩).Shows start full
        (stock.setting.serve start view request) := by
  -- The view finds the same module, and so it yields a load from the disk.
  have looked := shows.look_fst absent
  rw [found] at looked
  have yields : stock.setting.yield start view request =
      ⟨⟨some bytecode, Item.searched (stock.setting.leads start (stock.setting.keyOf request))
        (view.tiers (stock.setting.keyOf request)).item⟩, bytecode.byteLength,
        { misses := 1, diskHits := 1 }⟩ := by
    unfold Setting.yield CompileOutcome.yield
    rw [shows.held_of_absent absent, ← looked]
  have disk : (stock.made request bytecode).disk = (stock.look request).2 := by
    rw [made_of_found found]
    rfl
  refine shows.keep ⟨stock.heap.next, bytecode⟩ absent yields ?_ rfl ?_
    (fun _ => ?_) (fun other apart => ?_) ?_
  · simp only [put, made_of_found found, missed, unlimited, Shelf.room]
  · show Files.SameDirectories _ (stock.made request bytecode).disk.files
    rw [disk]
    exact stock.disk.sameDirectories_search _
  · show stock.setting.item (stock.made request bytecode).disk.files _ = _
    rw [disk]
    exact shows.item_look absent
  · show stock.setting.item (stock.made request bytecode).disk.files _ = _
    rw [disk]
    exact item_look_of_ne apart
  · simp only [put, made_of_found found, missed, unlimited, Shelf.room, counted_of_found found]
    rfl

/-- A view goes on to show a stock when the module was compiled. -/
theorem Shows.keep_compiled (shows : stock.Shows start full view)
    (absent : stock.shelf.held? (stock.setting.keyOf request) = none)
    (missing : (stock.look request).1 = none)
    (compiled : stock.setting.outcome request = .finished (.ok bytecode))
    (room : full → ∀ path,
      stock.setting.diskPath? (stock.setting.keyOf request) = some path →
        stock.disk.Room path stock.disk.drawn)
    (unlimited : stock.setting.memoryLimit = none) :
    ((stock.made request bytecode).put (stock.setting.keyOf request)
      ⟨stock.heap.next, bytecode⟩).Shows start full
        (stock.setting.serve start view request) := by
  -- The view finds nothing either, and so it yields a compile and a write.
  have looked := shows.look_fst absent
  rw [missing] at looked
  have yields : stock.setting.yield start view request =
      ⟨⟨some bytecode, Item.stored (stock.setting.leads start (stock.setting.keyOf request)) bytecode
        (Item.searched (stock.setting.leads start (stock.setting.keyOf request))
          (view.tiers (stock.setting.keyOf request)).item)⟩, bytecode.byteLength,
        { misses := 1, compilations := 1 }⟩ := by
    unfold Setting.yield CompileOutcome.yield
    rw [shows.held_of_absent absent, ← looked, compiled]
  have searched : stock.disk.Tends stock.setting 0 (stock.look request).2 :=
    stock.disk.search_tends stock.setting _
  have disk : (stock.made request bytecode).disk = (stock.look request).2.store bytecode
      (stock.setting.diskPath? (stock.setting.keyOf request)) := by
    rw [made_of_missing missing]
  refine shows.keep ⟨stock.heap.next, bytecode⟩ absent yields ?_ rfl ?_
    (fun all => ?_) (fun other apart => ?_) ?_
  · simp only [put, made_of_missing missing, missed, unlimited, Shelf.room]
  · show Files.SameDirectories _ (stock.made request bytecode).disk.files
    rw [disk]
    exact searched.same.trans (Disk.sameDirectories_store _ bytecode _)
  · show stock.setting.item (stock.made request bytecode).disk.files _ = _
    have drawn : (stock.look request).2.drawn = stock.disk.drawn :=
      Nat.le_antisymm searched.most searched.least
    rw [disk, Setting.item_store (fun path there => drawn ▸ searched.room there
      (room all path there)), shows.item_look absent, Setting.leads_of_same
        (shows.same.trans searched.same)]
  · show stock.setting.item (stock.made request bytecode).disk.files _ = _
    rw [disk, Setting.item_store_of_ne apart]
    exact item_look_of_ne apart
  · simp only [put, made_of_missing missing, missed, unlimited, Shelf.room,
      counted_of_missing missing]
    rfl

/-- A view goes on to show a stock when a request is served that counts its failure. -/
theorem Shows.serves (shows : stock.Shows start full view)
    (serves : stock.Serves request answer after) (unlimited : stock.setting.memoryLimit = none)
    (room : full → ∀ path,
      stock.setting.diskPath? (stock.setting.keyOf request) = some path →
        stock.disk.Room path stock.disk.drawn)
    (counts : after.stats.failures + (if (stock.setting.outcome request).isFailure then
        stock.stats.compilations else 0) =
      stock.stats.failures + (if (stock.setting.outcome request).isFailure then
        after.stats.compilations else 0)) :
    after.Shows start full (stock.setting.serve start view request) := by
  cases serves with
  | hit found => exact shows.hit found rfl rfl rfl rfl
  | @failed _ heap failures absent due fails handles =>
    cases looked : (stock.look request).1 with
    | some bytecode =>
      -- A module from the disk would have been answered.
      rw [due_of_found looked, unlimited, CompileOutcome.under_none] at due
      exact absurd due (fails.outcome_ne bytecode)
    | none =>
      rw [due_of_missing looked, unlimited, CompileOutcome.under_none] at due
      refine shows.fail absent looked (fun bytecode => ?_) rfl rfl rfl ?_
      · rw [← due]
        exact fails.outcome_ne bytecode
      · simp only [counted_of_missing looked] at counts ⊢
        -- There was one call, and it is counted if it failed.
        have counted : failures = stock.stats.failures +
            if (stock.setting.outcome request).isFailure then 1 else 0 := by
          split at counts
          · rename_i failed
            rw [if_pos failed]
            omega
          · rename_i broke
            rw [if_neg broke]
            omega
        rw [counted]
  | @kept bytecode absent due =>
    cases looked : (stock.look request).1 with
    | some found =>
      rw [due_of_found looked, unlimited, CompileOutcome.under_none,
        CompileOutcome.finished.injEq, Except.ok.injEq] at due
      exact shows.keep_found absent (due ▸ looked) unlimited
    | none =>
      rw [due_of_missing looked, unlimited, CompileOutcome.under_none] at due
      exact shows.keep_compiled absent looked due room unlimited

end Yields

end Stock

namespace Service

variable {service : Service} {start : Files} {full : Prop} {view : View}

/-- A service without requests under way is shown by a view, and there is room for the requests to
come if the view is full. What has no key is as it was in some files then. -/
structure Follows (service : Service) (setting : Setting) (start : Files) (full : Prop)
    (requests : List Request) (view : View) : Prop where
  idle : service.Idle
  setting_eq : service.stock.setting = setting
  shows_ : service.stock.Shows start full view
  roomy : full → service.stock.Roomy requests
  elsewhere : full → ∀ place,
    (∀ key path, setting.diskPath? key = some path → place ≠ path.place) →
      service.stock.disk.files.get? place = start.get? place

variable {setting : Setting} {request : Request} {requests : List Request}

/-- A request is answered, and the view becomes what it yields. -/
theorem Follows.step (follows : service.Follows setting start full (request :: requests) view)
    (unlimited : setting.memoryLimit = none) :
    (service.request request).1.Follows setting start full requests
      (setting.serve start view request) := by
  -- The request is served alone, and with room it changes the file of its key at most.
  obtain ⟨idle, rfl, shows_, roomy, elsewhere⟩ := follows
  obtain ⟨after, answer, ends, idle', serves⟩ := request_serves idle request
  rw [ends]
  have room : full → ∀ path,
      service.stock.setting.diskPath? (service.stock.setting.keyOf request) = some path →
        service.stock.disk.Room path service.stock.disk.drawn := fun all => (roomy all).head
  have tends : full → service.stock.disk.Tends service.stock.setting 1 after.stock.disk :=
    fun all => serves.tends (room all)
  exact ⟨idle', serves.setting_eq, shows_.serves serves unlimited room (request_failures ends),
    fun all => (roomy all).tail serves.setting_eq (tends all),
    fun all place away => ((tends all).elsewhere place away).trans
      (elsewhere all place away)⟩

/-- Requests are answered one after the other. -/
theorem Follows.run (follows : service.Follows setting start full requests view)
    (unlimited : setting.memoryLimit = none) :
    ∃ after, (Session.mk service true).run (requests.map .get) = ⟨after, true⟩ ∧
      after.Follows setting start full [] (requests.foldl (setting.serve start) view) := by
  -- Request by request.
  induction requests generalizing service view with
  | nil => exact ⟨service, rfl, follows⟩
  | cons request requests ih => exact ih (follows.step unlimited)

end Service

namespace Session

/-- Whatever the order of requests to a cache without a ceiling, the same modules are in memory at
the end, of the same size together, and the counters are the same; and so are all files, if there
was room for temporary ones. -/
theorem run_of_perm {service : Service} (idle : service.Idle)
    (unlimited : service.cache.memoryLimit = none) {first second : List Request}
    (perm : first.Perm second)
    (agree : ∀ one ∈ first, ∀ other ∈ first,
      service.cache.keyOf one = service.cache.keyOf other →
        service.cache.compiler.compile one service.cache.options =
          service.cache.compiler.compile other service.cache.options) :
    let one := (Session.mk service true).run (first.map .get)
    let two := (Session.mk service true).run (second.map .get)
    (∀ key, (one.service.cache.shelf.held? key).map (·.bytecode) =
        (two.service.cache.shelf.held? key).map (·.bytecode)) ∧
      one.service.cache.shelf.resident = two.service.cache.shelf.resident ∧
      one.service.cache.stats = two.service.cache.stats ∧
      (service.stock.Roomy first → ∀ place,
        one.service.disk.files.get? place = two.service.disk.files.get? place) := by
  intro one two
  let setting := service.stock.setting
  let start := service.disk.files
  have view : first.foldl (setting.serve start) service.stock.view =
      second.foldl (setting.serve start) service.stock.view :=
    setting.foldl_serve_of_perm start _ perm agree
  have begins : ∀ (full : Prop) (requests : List Request),
      (full → service.stock.Roomy requests) →
        service.Follows setting start full requests service.stock.view := fun full _ roomy =>
    ⟨idle, rfl, service.stock.shows_view full, roomy, fun _ _ _ => rfl⟩
  -- Of both runs the same view is left, full if there is room.
  have ends : ∀ full : Prop, (full → service.stock.Roomy first) → ∃ view,
      one.service.Follows setting start full [] view ∧
        two.service.Follows setting start full [] view := by
    intro full roomy
    obtain ⟨after, run, follows⟩ := (begins full first roomy).run unlimited
    obtain ⟨after', run', follows'⟩ :=
      (begins full second fun all => (roomy all).perm perm).run unlimited
    rw [← view] at follows'
    have left : one.service = after := congrArg Session.service run
    have left' : two.service = after' := congrArg Session.service run'
    rw [left, left']
    exact ⟨_, follows, follows'⟩
  obtain ⟨shown, follows, follows'⟩ := ends False False.elim
  refine ⟨fun key => ?_, ?_, ?_, fun roomy place => ?_⟩
  · exact (follows.shows_.held key).trans (follows'.shows_.held key).symm
  · exact follows.shows_.resident.trans follows'.shows_.resident.symm
  · exact follows.shows_.stats.trans follows'.shows_.stats.symm
  · obtain ⟨shown, follows, follows'⟩ := ends True fun _ => roomy
    by_cases own : ∃ key path, setting.diskPath? key = some path ∧ place = path.place
    · -- The file of a key is shown.
      obtain ⟨key, path, there, rfl⟩ := own
      have item : ∀ {service : Service}, service.Follows setting start True [] shown →
          service.disk.files.get? path.place = (shown.tiers key).item := by
        intro service follows
        have found := follows.shows_.item key (Or.inl trivial)
        rw [follows.setting_eq, Setting.item, there] at found
        exact found
      rw [item follows, item follows']
    · have away : ∀ key path, setting.diskPath? key = some path → place ≠ path.place :=
        fun key path there same => own ⟨key, path, there, same⟩
      exact (follows.elsewhere trivial place away).trans
        (follows'.elsewhere trivial place away).symm

/-- Two texts that compile, of which one is asked for twice, and one that breaks the compiler down. -/
def mixed : List Request :=
  [⟨"a.vert", "void main() {}"⟩, ⟨"a.vert", ""⟩, ⟨"a.vert", "void main() {}"⟩,
    ⟨"b.vert", "void main() {}"⟩]

/-- A cache in whose directory the first of these texts has a file without a module. -/
def littered : Service where
  cache := { compiler := .curt, diskDirectory := some ⟨"cache"⟩ }
  disk :=
    { files := ⟨[(["cache"], .directory),
        ((Path.mk "cache").keyPlace (.compute "curt" ⟨"a.vert", "void main() {}"⟩ {}),
          .file [1, 2, 3])]⟩ }

/-- There is room for temporary files beside that one. -/
theorem roomy_littered : littered.stock.Roomy mixed := by
  refine Stock.roomy_of_unused ⟨"cache"⟩ rfl (by decide) (by decide) (by decide) ?_
  intro request among number least most
  -- A sibling is not the directory, for it is in it, and no key's file.
  have apart := Disk.sibling_ne_keyPlace littered.disk ⟨"cache"⟩ ⟨"cache"⟩
    (littered.stock.setting.keyOf request) (.compute "curt" ⟨"a.vert", "void main() {}"⟩ {}) number
  have inside : (littered.disk.sibling ((Path.mk "cache").join
      (littered.stock.setting.keyOf request).fileName) number).place =
      ["cache", (littered.stock.setting.keyOf request).fileName ++ littered.disk.tail number] :=
    littered.disk.place_sibling ⟨"cache"⟩ _ number
  show littered.disk.files.get? (littered.disk.sibling _ number).place = none
  rw [inside] at apart ⊢
  generalize (littered.stock.setting.keyOf request).fileName ++ littered.disk.tail number = name
    at apart ⊢
  have missing : littered.disk.files.entries.lookup ["cache", name] = none := by
    refine List.lookup_eq_none_iff.mpr ?_
    simp only [littered, List.mem_cons, List.not_mem_nil, or_false]
    rintro _ (rfl | rfl)
    · simp
    · simpa using apart
  rw [Files.get?, missing]
  rfl

/-- The four requests leave the same in the other direction. -/
theorem run_of_perm_of_mixed :
    let one := (Session.mk littered true).run (mixed.map .get)
    let two := (Session.mk littered true).run (mixed.reverse.map .get)
    littered.Idle ∧ littered.cache.memoryLimit = none ∧ mixed.Perm mixed.reverse ∧
      littered.stock.Roomy mixed ∧ one.service.cache.stats = two.service.cache.stats ∧
      ∀ place, one.service.disk.files.get? place = two.service.disk.files.get? place := by
  -- The keys of the three different requests are different, as their computation shows.
  intro one two
  have idle : littered.Idle := ⟨rfl, rfl⟩
  have perm : mixed.Perm mixed.reverse := (List.reverse_perm mixed).symm
  have apart : ∀ one ∈ mixed, ∀ other ∈ mixed,
      littered.cache.keyOf one = littered.cache.keyOf other → one = other := by
    decide +kernel
  obtain ⟨-, -, stats, files⟩ := run_of_perm idle rfl perm
    fun one among other among' same => by rw [apart one among other among' same]
  exact ⟨idle, rfl, perm, roomy_littered, stats, files roomy_littered⟩

/-- A request that draws another name than that of the file that was left leaves the file. -/
theorem get?_leftover {service : Service} (idle : service.Idle)
    (setting : service.stock.setting = Service.haunted.stock.setting)
    (process : service.disk.process = 1) {request : Request}
    (apart : service.cache.keyOf request ≠ .compute "curt" ⟨"plain.vert", "x"⟩ {} ∨
      service.disk.drawn ≠ 0) :
    (service.request request).1.disk.files.get? .leftover =
      service.disk.files.get? .leftover := by
  obtain ⟨after, answer, requested, -, serves⟩ := Service.request_serves idle request
  rw [requested]
  have there : service.stock.setting.diskPath? (service.cache.keyOf request) =
      some ((Path.mk "cache").join (service.cache.keyOf request).fileName) := by
    rw [setting]
    rfl
  have named : (service.disk.sibling ((Path.mk "cache").join
      (service.cache.keyOf request).fileName) service.disk.drawn) =
      ({} : Disk).sibling ((Path.mk "cache").join
        (service.cache.keyOf request).fileName) service.disk.drawn := by
    rw [Disk.sibling, Disk.sibling, process]
  -- The name is no key's file, and it tells the key and the number that it was drawn for.
  refine serves.get?_of_apart there ?_ fun same => ?_
  · rw [Path.place_join_fileName]
    exact Disk.sibling_ne_keyPlace {} ⟨"cache"⟩ ⟨"cache"⟩ _ _ 0
  · obtain ⟨own, first⟩ := Disk.sibling_injective (same.trans (congrArg Path.place named))
    exact apart.elim (fun other => other own.symm) fun later => later first.symm

/-- The request after one whose module was compiled draws a later number. -/
theorem get?_leftover_of_second {service : Service} (idle : service.Idle)
    (setting : service.stock.setting = Service.haunted.stock.setting)
    (process : service.disk.process = 1) {front : Request} {bytecode : Bytecode}
    (absent : service.stock.shelf.held? (service.stock.setting.keyOf front) = none)
    (missing : (service.stock.look front).1 = none)
    (compiled : service.stock.setting.outcome front = .finished (.ok bytecode))
    (back : Request) :
    ((service.request front).1.request back).1.disk.files.get? .leftover =
      (service.request front).1.disk.files.get? .leftover := by
  -- The write has drawn one number, so that the next one is not the first.
  obtain ⟨after, _, requested, idle', serves⟩ := Service.request_serves idle front
  have there : service.stock.setting.diskPath? (service.cache.keyOf front) =
      some ((Path.mk "cache").join (service.cache.keyOf front).fileName) := by
    rw [setting]
    rfl
  have unlimited : service.stock.setting.memoryLimit = none := by
    rw [setting]
    rfl
  obtain ⟨same, drew⟩ := serves.drawn_of_compiled unlimited there absent missing compiled
  have later : after.disk.drawn ≠ 0 := fun first =>
    Nat.succ_ne_zero service.disk.drawn (drew.symm.trans first)
  rw [requested]
  exact get?_leftover idle' (serves.setting_eq.trans setting) (same.trans process) (Or.inr later)

/-- Two requests are made one after the other. -/
theorem service_run_pair (service : Service) (front back : Request) :
    ((Session.mk service true).run [.get front, .get back]).service =
      ((service.request front).1.request back).1 := by
  simp only [run, List.foldl_cons, List.foldl_nil, perform, if_true, use]

/-- With a file under a temporary name the order shows: the request that goes first draws the number
of that name, and takes the file along only if the name is that of its own key. -/
theorem order_can_show_on_disk :
    let plain : Request := ⟨"plain.vert", "x"⟩
    let other : Request := ⟨"plain.vert", "y"⟩
    let one := (Session.mk .haunted true).run [.get plain, .get other]
    let two := (Session.mk .haunted true).run [.get other, .get plain]
    Service.haunted.Idle ∧ Service.haunted.cache.memoryLimit = none ∧
      [plain, other].Perm [other, plain] ∧
      Service.haunted.cache.keyOf other ≠ Service.haunted.cache.keyOf plain ∧
      one.service.disk.files.get? .leftover = none ∧
      two.service.disk.files.get? .leftover = some (.file [1, 2, 3]) := by
  intro plain other one two
  have idle : Service.haunted.Idle := ⟨rfl, rfl⟩
  have separate : Service.haunted.cache.keyOf other ≠ .compute "curt" ⟨"plain.vert", "x"⟩ {} := by
    decide +kernel
  have missing : (Service.haunted.stock.look plain).1 = none ∧
      (Service.haunted.stock.look other).1 = none := by
    decide +kernel
  have second : ∀ {front : Request}, (Service.haunted.stock.look front).1 = none →
      front.source ≠ "" → ∀ back,
        ((Service.haunted.request front).1.request back).1.disk.files.get? .leftover =
          (Service.haunted.request front).1.disk.files.get? .leftover :=
    fun missing full back => get?_leftover_of_second idle rfl rfl rfl missing (if_neg full) back
  refine ⟨idle, rfl, List.Perm.swap _ _ _, separate, ?taken, ?spared⟩
  case taken =>
    -- The write of the first module takes the file, and the second one draws another name.
    have gone : (Service.haunted.request plain).1.disk.files.get? .leftover = none := by
      decide +kernel
    rw [show one.service = _ from service_run_pair .haunted plain other]
    exact (second missing.1 (by decide) other).trans gone
  case spared =>
    -- Neither write draws the name: the first one is for another key, and the second one is later.
    have kept := get?_leftover idle rfl rfl (Or.inl separate)
    have there : Service.haunted.disk.files.get? .leftover = some (.file [1, 2, 3]) := by
      decide +kernel
    rw [show two.service = _ from service_run_pair .haunted other plain]
    exact (second missing.2 (by decide) plain).trans (kept.trans there)

end Session

end ShaderBuild
