import ShaderBuild.Proofs.Cache.Lasting
import ShaderBuild.Proofs.Sibling

/-! What a look and a write find and leave at the file of one key. -/

namespace ShaderBuild

/-- Hexadecimal digits take one byte each. -/
theorem Text.utf8Size_of_mem_hexFixed {width value : Nat} {c : Char}
    (among : c ∈ hexFixed width value) : c.utf8Size = 1 := by
  have digit : ∀ value : Fin 16, (hexDigit value.val).utf8Size = 1 := by decide
  -- Digit by digit.
  induction width generalizing value with
  | zero => simp [hexFixed] at among
  | succ width ih =>
    rcases List.mem_append.mp among with front | last
    · exact ih front
    · rw [List.mem_singleton.mp last]
      exact digit ⟨value % 16, Nat.mod_lt _ (by decide)⟩

/-- The name of a key's file takes 36 bytes. -/
theorem Fingerprint.utf8ByteSize_fileName (key : Fingerprint) : key.fileName.utf8ByteSize = 36 := by
  -- Thirty-two digits and four letters, each of them one byte long.
  rw [Text.utf8ByteSize_of_single, toList_fileName, List.length_append, length_toText]
  · rfl
  · intro c among
    rw [toList_fileName, List.mem_append] at among
    rcases among with digit | ending
    · exact Text.utf8Size_of_mem_hexFixed digit
    · simp only [List.mem_cons, List.not_mem_nil, or_false] at ending
      rcases ending with rfl | rfl | rfl | rfl <;> rfl

/-- A path that ends with a name. -/
structure Path.Named (path : Path) : Prop where
  cut : ∃ outer name, path.pieces = outer ++ [name] ∧ name ≠ [] ∧ name ≠ ['.'] ∧ name ≠ ['.', '.']
  open_ : path.text.toList.getLast? ≠ some '/'

/-- A plain name in a directory ends its path. -/
theorem Path.named_join {name : String} (directory : Path) (plain : Plain name) :
    (directory.join name).Named := by
  have one : Text.splitAtChar '/' name.toList = [name.toList] :=
    Text.splitAtChar_of_not_mem plain.inner
  -- What stands before the name is empty or ends with a slash.
  obtain ⟨before, text, slash⟩ : ∃ before, (directory.join name).text.toList = before ++ name.toList ∧
      (before = [] ∨ before.getLast? = some '/') := by
    unfold join
    split
    · rename_i open_
      refine ⟨directory.text.toList, String.toList_append, ?_⟩
      rw [Bool.or_eq_true, String.isEmpty_iff] at open_
      exact open_.imp (fun empty => by rw [empty]; rfl) (by simp)
    · exact ⟨directory.text.toList ++ ['/'], by simp [String.toList_append], Or.inr (by simp)⟩
  constructor
  case cut =>
    rw [pieces, text]
    rcases slash with rfl | slash
    · exact ⟨[], name.toList, one, plain.named⟩
    · obtain ⟨front, rfl⟩ := List.getLast?_eq_some_iff.mp slash
      refine ⟨Text.splitAtChar '/' front, name.toList, ?_, plain.named⟩
      rw [List.append_assoc, List.singleton_append, Text.splitAtChar_append, one]
  case open_ =>
    rw [text, List.getLast?_append, Option.or_of_isSome (List.getLast?_isSome.mpr plain.named.1)]
    exact fun last => plain.inner (List.mem_of_getLast? last)

namespace Files

variable {files after : Files} {path : Path}

/-- A path leads to its place: the directories around it are there. -/
def reaches (files : Files) (path : Path) : Bool :=
  match files.target path with
  | .ok (.named _ false) => true
  | _ => false

/-- A path that leads to its place names it. -/
theorem reaches_iff : files.reaches path = true ↔
    files.target path = .ok (.named path.place false) := by
  -- There is only one place that a path can lead to.
  unfold reaches
  constructor
  · intro leads
    split at leads
    · rename_i place targeted
      rw [← place_of_target targeted]
      exact targeted
    · simp at leads
  · intro targeted
    rw [targeted]

/-- Whether a path leads to its place depends on the directories. -/
theorem reaches_of_same (same : files.SameDirectories after) :
    after.reaches path = files.reaches path := by
  -- Where the same directories are a path leads to the same place.
  rw [Bool.eq_iff_iff, reaches_iff, reaches_iff]
  exact ⟨target_of_keeps same.adds, target_of_keeps same.keeps⟩

/-- A path with a name at its end that can be followed leads to its place. -/
theorem reaches_of_locate (named : path.Named) {place : Location}
    (located : files.locate path = .ok place) : files.reaches path = true := by
  obtain ⟨⟨outer, name, pieces, said, stays, outward⟩, open_⟩ := named
  obtain ⟨checked, walked⟩ := locate_eq_ok_iff.mp located
  rw [pieces, walk_append] at walked
  cases reached : files.walk (start path) outer with
  | error fault => simp [reached, Except.bind] at walked
  | ok around =>
    simp only [reached, Except.bind, walk_cons] at walked
    -- A name is entered from a directory only, and if it is not too long.
    obtain ⟨found, fits⟩ : files.get? around = some .directory ∧ fitsName name = true := by
      cases found : files.get? around with
      | none => simp [enter, found] at walked
      | some item =>
        cases item with
        | file bytes => simp [enter, found] at walked
        | directory =>
          cases long : fitsName name with
          | true => exact ⟨rfl, rfl⟩
          | false => simp [enter, found, said, stays, outward, long] at walked
    have cut : withoutSlashes path = name :: outer.reverse := by
      rw [withoutSlashes, pieces, List.reverse_append, List.reverse_singleton,
        List.singleton_append, List.dropWhile_cons_of_neg (by simpa using said)]
    have idle : files.walk (start path) (outer.reverse.reverse ++ [[]]) = .ok around := by
      rw [List.reverse_reverse, walk_append, reached]
      simp [Except.bind, walk, found]
    have slashless : (path.text.toList.getLast? == some '/') = false :=
      beq_eq_false_iff_ne.mpr open_
    have targeted := target_eq_named_iff.mpr ⟨name, outer.reverse, around, checked, cut, idle,
      ⟨stays, outward, fits⟩, rfl, slashless.symm⟩
    rw [reaches_iff, ← place_of_target targeted]
    exact targeted

/-- A file can be read when its path leads to it. -/
theorem read_eq_ok_iff (named : path.Named) {bytes : List UInt8} :
    files.read path = .ok bytes ↔
      files.reaches path = true ∧ files.get? path.place = some (.file bytes) := by
  rw [read_eq_ok_iff_locate]
  -- With a name at its end a path leads to its place just when it names it.
  refine and_congr_left fun _ => ⟨reaches_of_locate named, fun leads => ?_⟩
  exact locate_of_target (reaches_iff.mp leads)

/-- A file can be removed when its path leads to it. -/
theorem remove_of_target {bytes : List UInt8}
    (targeted : files.target path = .ok (.named path.place false))
    (found : files.get? path.place = some (.file bytes)) :
    files.remove path = .ok (files.erase path.place) :=
  -- Nothing but the way to it and the file itself is asked for.
  remove_eq_ok_iff.mpr ⟨targeted, ⟨bytes, found⟩, rfl⟩

end Files

namespace Item

/-- The module in a file, if the file can be read and there is one. -/
def found (leads : Bool) : Option Item → Option Bytecode
  | some (.file bytes) =>
    if leads then
      match Bytecode.ofBytes bytes with
      | .ok bytecode => some bytecode
      | .error _ => none
    else none
  | _ => none

/-- What a look leaves: a file without a module goes, if it can be read. -/
def searched (leads : Bool) (item? : Option Item) : Option Item :=
  match item? with
  | some (.file _) => if leads && (found leads item?).isNone then none else item?
  | _ => item?

/-- What a write leaves, unless a directory stands there or around it is none. -/
def stored (leads : Bool) (bytecode : Bytecode) (item? : Option Item) : Option Item :=
  if leads = true ∧ item? ≠ some .directory then some (.file (bytesOfWords bytecode.words))
  else item?

end Item

namespace Disk

variable {disk : Disk} {path : Path}

/-- A look finds a module, or a file without one, which it removes, or nothing that it can read. -/
theorem search_of_named (named : path.Named) :
    (∃ bytes bytecode, disk.files.reaches path = true ∧
      disk.files.get? path.place = some (.file bytes) ∧ Bytecode.ofBytes bytes = .ok bytecode ∧
      disk.search (some path) = (some bytecode, disk)) ∨
    (∃ bytes failure, disk.files.reaches path = true ∧
      disk.files.get? path.place = some (.file bytes) ∧ Bytecode.ofBytes bytes = .error failure ∧
      disk.search (some path) = (none, disk.withFiles (disk.files.erase path.place))) ∨
    ((disk.files.reaches path = true → ∀ bytes,
      disk.files.get? path.place ≠ some (.file bytes)) ∧ disk.search (some path) = (none, disk)) := by
  -- The file is read first, and what it holds decides.
  cases done : disk.files.read path with
  | ok bytes =>
    obtain ⟨leads, found⟩ := (Files.read_eq_ok_iff named).mp done
    cases holds : Bytecode.ofBytes bytes with
    | ok bytecode =>
      exact Or.inl ⟨bytes, bytecode, leads, found, holds, by simp only [search, done, holds]⟩
    | error failure =>
      have removed := Files.remove_of_target (Files.reaches_iff.mp leads) found
      exact Or.inr (Or.inl ⟨bytes, failure, leads, found, holds,
        by simp only [search, done, holds, removed]⟩)
  | error fault =>
    refine Or.inr (Or.inr ⟨fun leads bytes found => ?_, by simp only [search, done]⟩)
    rw [(Files.read_eq_ok_iff named).mpr ⟨leads, found⟩] at done
    simp at done

/-- What a look finds. -/
theorem search_fst (named : path.Named) :
    (disk.search (some path)).1 =
      Item.found (disk.files.reaches path) (disk.files.get? path.place) := by
  -- The file holds a module, or holds none, or there is none that the path leads to.
  rcases disk.search_of_named named with ⟨bytes, bytecode, leads, found, holds, search⟩ |
    ⟨bytes, failure, leads, found, holds, search⟩ | ⟨nothing, search⟩
  · simp [search, leads, found, Item.found, holds]
  · simp [search, leads, found, Item.found, holds]
  · rw [search]
    cases found : disk.files.get? path.place with
    | none => rfl
    | some item =>
      cases item with
      | directory => rfl
      | file bytes =>
        have away : ¬ disk.files.reaches path = true := fun leads => nothing leads bytes found
        simp [Item.found, away]

/-- What a look leaves. -/
theorem get?_search (named : path.Named) (place : Location) :
    (disk.search (some path)).2.files.get? place =
      if place = path.place then
        Item.searched (disk.files.reaches path) (disk.files.get? path.place)
      else disk.files.get? place := by
  have own : place = path.place → disk.files.get? place = disk.files.get? path.place := by
    rintro rfl
    rfl
  -- Only the place of the path can change, and only when it holds a file without a module.
  rcases disk.search_of_named named with ⟨bytes, bytecode, leads, found, holds, search⟩ |
    ⟨bytes, failure, leads, found, holds, search⟩ | ⟨nothing, search⟩
  · rw [search]
    split
    · rename_i here
      simp [own here, leads, found, Item.searched, Item.found, holds]
    · rfl
  · rw [search]
    refine (Files.get?_erase (Files.isFixed_eq_false_of_file found) place).trans ?_
    simp [leads, found, Item.searched, Item.found, holds]
  · rw [search]
    split
    · rename_i here
      rw [own here]
      cases found : disk.files.get? path.place with
      | none => rfl
      | some item =>
        cases item with
        | directory => rfl
        | file bytes =>
          have away : ¬ disk.files.reaches path = true := fun leads => nothing leads bytes found
          simp [Item.searched, away]
    · rfl

/-- A write leaves the directories. -/
theorem sameDirectories_store (disk : Disk) (bytecode : Bytecode) (path? : Option Path) :
    disk.files.SameDirectories (disk.store bytecode path?).files := by
  -- Without a path nothing is written.
  cases path? with
  | none => exact .refl _
  | some path => exact disk.sameDirectories_writeAtomically path _

/-- A temporary file with a number can be made beside a path: where the path leads to its place its
longer name does so too, and nothing stands there. -/
structure Room (disk : Disk) (path : Path) (number : Nat) : Prop where
  targeted : disk.files.target path = .ok (.named path.place false) →
    disk.files.target (disk.sibling path number) =
      .ok (.named (disk.sibling path number).place false)
  empty : disk.files.get? (disk.sibling path number).place = none

/-- A sibling that was begun can be filled, and is then the only place that has changed. -/
theorem fill_of_begun {files begun : Files} {sibling : Path}
    (wrote : files.write sibling [] = .ok begun) (bytes : List UInt8) :
    begun.write sibling bytes = .ok (begun.set sibling.place (.file bytes)) ∧
      files.SameDirectories (begun.set sibling.place (.file bytes)) ∧
      ∀ place, (begun.set sibling.place (.file bytes)).get? place =
        if place = sibling.place then some (.file bytes) else files.get? place := by
  -- The path leads to its place still, and a file stands there, which is written over.
  obtain ⟨targeted, -⟩ := Files.target_of_write wrote
  have same := Files.sameDirectories_of_write wrote
  have again : begun.write sibling bytes = .ok (begun.set sibling.place (.file bytes)) :=
    Files.write_of_target bytes (Files.target_of_keeps same.keeps targeted)
      (by rw [Files.get?_of_write wrote, if_pos rfl]; simp)
  refine ⟨again, same.trans (Files.sameDirectories_of_write again), fun place => ?_⟩
  rw [Files.get?_of_write again, Files.get?_of_write wrote]
  split <;> rfl

/-- How a write through a sibling ends: the sibling cannot be made, and nothing changes; or it is
made, and is gone again afterwards, and the goal is as it was if it cannot be reached or is a
directory, and has the new bytes else. -/
theorem writeAtomically_ends (disk : Disk) (bytes : List UInt8)
    (apart : (disk.sibling path disk.drawn).place ≠ path.place) :
    ((disk.writeAtomically path bytes).1.files = disk.files ∧
        ∃ fault, disk.files.write (disk.sibling path disk.drawn) [] = .error fault) ∨
      disk.files.get? (disk.sibling path disk.drawn).place ≠ some .directory ∧
        ∀ place, (disk.writeAtomically path bytes).1.files.get? place =
          if place = (disk.sibling path disk.drawn).place then none
          else if place = path.place ∧ disk.files.reaches path = true ∧
            disk.files.get? path.place ≠ some .directory then some (.file bytes)
          else disk.files.get? place := by
  rw [writeAtomically_eq]
  -- From here on the sibling is some path.
  simp only
  generalize disk.sibling path disk.drawn = sibling at apart ⊢
  cases wrote : disk.files.write sibling [] with
  | error fault => exact Or.inl ⟨rfl, fault, rfl⟩
  | ok begun =>
    obtain ⟨targeted, free⟩ := Files.target_of_write wrote
    refine Or.inr ⟨free, fun place => ?_⟩
    obtain ⟨again, same, filled⟩ := fill_of_begun wrote bytes
    have goal := (filled path.place).trans (if_neg (Ne.symm apart))
    have source := (filled sibling.place).trans (if_pos rfl)
    cases renamed : (begun.set sibling.place (.file bytes)).rename sibling path with
    | ok after =>
      simp only [again, renamed]
      obtain ⟨moved, source', changed⟩ := Files.get?_of_rename renamed
      rw [source, Option.some.injEq, Item.file.injEq] at source'
      obtain ⟨targeted', open_⟩ := Files.target_of_rename renamed
      rw [goal] at open_
      have leads : disk.files.reaches path = true :=
        Files.reaches_iff.mpr (Files.target_of_keeps same.adds targeted')
      rw [changed, ← source']
      by_cases own : place = path.place
      · rw [if_pos own, if_neg fun side => apart (side.symm.trans own), if_pos ⟨own, leads, open_⟩]
      · have elsewhere : ¬ (place = path.place ∧ disk.files.reaches path = true ∧
            disk.files.get? path.place ≠ some .directory) := fun both => own both.1
        rw [if_neg own, if_neg elsewhere]
        by_cases side : place = sibling.place
        · rw [if_pos side, if_pos side]
        · rw [if_neg side, if_neg side, filled, if_neg side]
    | error fault =>
      have removed := Files.remove_of_target (Files.target_of_keeps same.keeps targeted) source
      -- A goal that can be reached and is no directory would have been replaced.
      have refused : ¬ (place = path.place ∧ disk.files.reaches path = true ∧
          disk.files.get? path.place ≠ some .directory) := by
        rintro ⟨-, leads, open_⟩
        have moved := Files.rename_of_target sibling path
          (Files.locate_of_target (Files.target_of_keeps same.keeps targeted)) source
          (Files.target_of_keeps same.keeps (Files.reaches_iff.mp leads)) (goal ▸ open_)
        rw [moved] at renamed
        simp at renamed
      simp only [again, renamed, removed]
      -- What was begun is taken away.
      rw [Files.get?_erase (Files.isFixed_eq_false_of_file source), if_neg refused]
      by_cases side : place = sibling.place
      · rw [if_pos side, if_pos side]
      · rw [if_neg side, if_neg side, filled, if_neg side]

/-- What a write leaves. -/
theorem get?_store (room : disk.Room path disk.drawn)
    (apart : (disk.sibling path disk.drawn).place ≠ path.place) (bytecode : Bytecode)
    (place : Location) :
    (disk.store bytecode (some path)).files.get? place =
      if place = path.place then
        Item.stored (disk.files.reaches path) bytecode (disk.files.get? path.place)
      else disk.files.get? place := by
  obtain ⟨targets, empty⟩ := room
  have free : disk.files.get? (disk.sibling path disk.drawn).place ≠ some .directory := by
    rw [empty]
    simp
  rcases disk.writeAtomically_ends (bytesOfWords bytecode.words) apart with
    ⟨same, fault, wrote⟩ | ⟨-, changed⟩
  · -- A path that leads to its place has room for a sibling.
    have away : ¬ disk.files.reaches path = true := by
      intro leads
      rw [Files.write_of_target [] (targets (Files.reaches_iff.mp leads)) free] at wrote
      simp at wrote
    have kept : Item.stored (disk.files.reaches path) bytecode (disk.files.get? path.place) =
        disk.files.get? path.place := if_neg fun both => away both.1
    rw [store, same, kept]
    split
    · rename_i own
      rw [own]
    · rfl
  · rw [store, changed, Item.stored]
    by_cases own : place = path.place
    · have other : ¬ place = (disk.sibling path disk.drawn).place :=
        fun side => apart (side.symm.trans own)
      rw [if_neg other, own]
      simp only [true_and, if_true]
    · rw [if_neg own]
      -- The sibling is gone again, as it was before.
      by_cases side : place = (disk.sibling path disk.drawn).place
      · rw [if_pos side, side]
        exact empty.symm
      · have elsewhere : ¬ (place = path.place ∧ disk.files.reaches path = true ∧
            disk.files.get? path.place ≠ some .directory) := fun both => own both.1
        rw [if_neg side, if_neg elsewhere]

/-- A write draws one number. -/
theorem store_eq (disk : Disk) (bytecode : Bytecode) (path : Path) :
    ∃ files, disk.store bytecode (some path) =
      { disk with drawn := disk.drawn + 1, files := files } := by
  simp only [store, writeAtomically_eq]
  -- Whichever step fails, the number is drawn before.
  repeat' split
  all_goals exact ⟨_, rfl⟩

/-- A look draws no number. -/
theorem search_eq (disk : Disk) (path? : Option Path) :
    ∃ files, (disk.search path?).2 = disk.withFiles files := by
  -- Whether or not a file is removed, only files change.
  unfold search
  repeat' split
  all_goals exact ⟨_, rfl⟩

end Disk

namespace Disk

variable {disk : Disk} {directory : Path} {key other : Fingerprint} {number another : Nat}

/-- The sibling of a key's file is in the directory of that file. -/
theorem place_sibling (disk : Disk) (directory : Path) (key : Fingerprint) (number : Nat) :
    (disk.sibling (directory.join key.fileName) number).place =
      directory.place ++ [key.fileName ++ disk.tail number] := by
  rw [sibling_eq, Path.append_join, Path.place_join]
  -- What is put behind the name has no slash in it.
  exact key.plain_fileName_append fun among => (disk.clean_tail number among).1 rfl

/-- The place of a sibling tells the key and the number of the write. -/
theorem sibling_injective
    (same : (disk.sibling (directory.join key.fileName) number).place =
      (disk.sibling (directory.join other.fileName) another).place) :
    key = other ∧ number = another := by
  rw [place_sibling, place_sibling] at same
  have names := (List.cons.inj (List.append_inj' same (by simp)).2).1
  refine ⟨Fingerprint.fileName_injective (String.toList_injective ?_), number_of_tail names⟩
  -- The names of keys have the same length, so that they end at the same place.
  have letters := congrArg String.toList names
  rw [String.toList_append, String.toList_append] at letters
  refine (List.append_inj letters ?_).1
  rw [Fingerprint.toList_fileName, Fingerprint.toList_fileName, List.length_append,
    List.length_append, Fingerprint.length_toText, Fingerprint.length_toText]

end Disk

/-- The place of a file that another process has left in a cache directory, under the name that the
first write there draws if it is for this request. -/
def Location.leftover : Location :=
  (({} : Disk).sibling ((Path.mk "cache").join
    (Fingerprint.compute "curt" ⟨"plain.vert", "x"⟩ {}).fileName) 0).place

/-- A new cache with that directory. -/
def Service.haunted : Service where
  cache := { compiler := .curt, diskDirectory := some ⟨"cache"⟩ }
  disk := { files := ⟨[(["cache"], .directory), (.leftover, .file [1, 2, 3])]⟩ }

end ShaderBuild
