import ShaderBuild.Files.AtomicWrite
import ShaderBuild.Proofs.Place

/-! An operation changes what stands at the places of its paths and nothing else. -/

namespace ShaderBuild

namespace Files

/-- A location that holds no directory is not fixed. -/
theorem isFixed_eq_false {files : Files} {place : Location}
    (free : files.get? place ≠ some .directory) : place.isFixed = false := by
  -- A fixed location is a directory in all files.
  rw [Bool.eq_false_iff]
  intro fixed
  exact free (by simp [get?, fixed])

/-- A location that holds a file is not fixed. -/
theorem isFixed_eq_false_of_file {files : Files} {place : Location} {bytes : List UInt8}
    (found : files.get? place = some (.file bytes)) : place.isFixed = false := by
  -- Fixed locations hold directories.
  have free : files.get? place ≠ some .directory := by
    rw [found]
    simp
  exact isFixed_eq_false free

/-- What a location holds after something was put at another one or at itself. -/
theorem get?_set {files : Files} {place : Location} {item : Item} (free : place.isFixed = false)
    (other : Location) :
    (files.set place item).get? other = if other = place then some item else files.get? other := by
  -- Items are put at the front of the list, so a lookup meets the new one first.
  split
  · rename_i same
    rw [same, get?_set_self free]
  · rename_i apart
    exact get?_set_of_ne apart

/-- What a location holds after another one or itself was emptied. -/
theorem get?_erase {files : Files} {place : Location} (free : place.isFixed = false)
    (other : Location) :
    (files.erase place).get? other = if other = place then none else files.get? other := by
  -- All entries of the place are taken out, those that were covered too.
  split
  · rename_i same
    rw [same, get?_erase_self free]
  · rename_i apart
    exact get?_erase_of_ne apart

section Succeeds

variable {files after : Files} {path : Path} {bytes : List UInt8}

/-- A file is read where its path leads to it. -/
theorem read_eq_ok_iff_locate : files.read path = .ok bytes ↔
    files.locate path = .ok path.place ∧ files.get? path.place = some (.file bytes) := by
  constructor
  · intro read_
    unfold read at read_
    cases located : files.locate path with
    | error fault => simp [located, bind, Except.bind] at read_
    | ok place =>
      simp only [located, bind, Except.bind] at read_
      -- The place that the path leads to is the one that its pieces give.
      obtain rfl := place_of_locate located
      split at read_
      -- Only a file can be read.
      · rename_i found
        exact ⟨rfl, Except.ok.inj read_ ▸ found⟩
      · simp at read_
      · simp at read_
  · rintro ⟨located, found⟩
    unfold read
    simp only [located, bind, Except.bind, found]

/-- A text is read from a file whose bytes encode it. -/
theorem readText_eq_ok_iff {text : String} : files.readText path = .ok text ↔
    ∃ bytes, files.read path = .ok bytes ∧ textOfBytes? bytes = some text := by
  -- Reading a text fails where reading the bytes does, and where they encode none.
  unfold readText
  cases files.read path with
  | error fault => simp [bind, Except.bind]
  | ok bytes =>
    simp only [bind, Except.bind, Except.ok.injEq, exists_eq_left']
    split
    · rename_i held encoded
      simp [encoded]
    · rename_i none_
      simp [none_]

/-- A file is written where a path names a place and no directory stands there. -/
theorem write_eq_ok_iff : files.write path bytes = .ok after ↔
    files.target path = .ok (.named path.place false) ∧
      files.get? path.place ≠ some .directory ∧
      after = files.set path.place (.file bytes) := by
  constructor
  · intro written
    unfold write at written
    cases targeted : files.target path with
    | error fault => simp [targeted, bind, Except.bind] at written
    | ok target =>
      simp only [targeted, bind, Except.bind] at written
      -- A path that ends in a slash names no file.
      split at written
      · simp at written
      · simp at written
      · obtain rfl := place_of_target targeted
        split at written
        · simp at written
        · rename_i free
          exact ⟨rfl, free, (Except.ok.inj written).symm⟩
  · rintro ⟨targeted, free, rfl⟩
    unfold write
    simp only [targeted, bind, Except.bind, if_neg free]

/-- A directory is made where a path names a place and nothing stands there. -/
theorem makeDirectory_eq_ok_iff : files.makeDirectory path = .ok after ↔
    (∃ slashed, files.target path = .ok (.named path.place slashed)) ∧
      files.get? path.place = none ∧ after = files.set path.place .directory := by
  constructor
  · intro made
    unfold makeDirectory at made
    cases targeted : files.target path with
    | error fault => simp [targeted, bind, Except.bind] at made
    | ok target =>
      simp only [targeted, bind, Except.bind] at made
      split at made
      · simp at made
      · rename_i place slashed
        obtain rfl := place_of_target targeted
        -- What stands there already is left as it is, and the operation fails.
        split at made
        · simp at made
        · rename_i free
          exact ⟨⟨slashed, rfl⟩, Option.not_isSome_iff_eq_none.mp free,
            (Except.ok.inj made).symm⟩
  · rintro ⟨⟨slashed, targeted⟩, free, rfl⟩
    unfold makeDirectory
    simp only [targeted, bind, Except.bind, free, Option.isSome_none, Bool.false_eq_true, if_false]

/-- A file is removed where a path names its place without a slash. -/
theorem remove_eq_ok_iff : files.remove path = .ok after ↔
    files.target path = .ok (.named path.place false) ∧
      (∃ bytes, files.get? path.place = some (.file bytes)) ∧
      after = files.erase path.place := by
  constructor
  · intro removed
    unfold remove at removed
    cases targeted : files.target path with
    | error fault => simp [targeted, bind, Except.bind] at removed
    | ok target =>
      simp only [targeted, bind, Except.bind] at removed
      split at removed
      · simp at removed
      · obtain rfl := place_of_target targeted
        -- Neither nothing nor a directory is removed.
        split at removed
        · simp at removed
        · simp at removed
        · rename_i bytes found
          split at removed
          · simp at removed
          · rename_i open_
            rw [Bool.not_eq_true] at open_
            exact ⟨by rw [open_], ⟨bytes, found⟩, (Except.ok.inj removed).symm⟩
  · rintro ⟨targeted, ⟨bytes, found⟩, rfl⟩
    unfold remove
    simp only [targeted, bind, Except.bind, found, if_neg Bool.false_ne_true]

/-- A file is moved where a path leads to it, and another one names a place without a directory. -/
theorem rename_eq_ok_iff {source goal : Path} : files.rename source goal = .ok after ↔
    files.locate source = .ok source.place ∧
      files.target goal = .ok (.named goal.place false) ∧
      files.get? goal.place ≠ some .directory ∧
      ∃ bytes, files.get? source.place = some (.file bytes) ∧
        after = (files.erase source.place).set goal.place (.file bytes) := by
  constructor
  · intro renamed
    unfold rename at renamed
    cases located : files.locate source with
    | error fault => simp [located, bind, Except.bind] at renamed
    | ok from_ =>
      simp only [located, bind, Except.bind] at renamed
      obtain rfl := place_of_locate located
      cases targeted : files.target goal with
      | error fault => simp [targeted] at renamed
      | ok target =>
        simp only [targeted] at renamed
        -- All but the last way fail: the source must be a file, and the goal a name without a slash.
        split at renamed
        · simp at renamed
        · simp at renamed
        · simp at renamed
        · simp at renamed
        · rename_i bytes place found
          obtain rfl := place_of_target targeted
          split at renamed
          · simp at renamed
          · rename_i free
            exact ⟨rfl, rfl, free, bytes, found, (Except.ok.inj renamed).symm⟩
  · rintro ⟨located, targeted, free, bytes, found, rfl⟩
    unfold rename
    simp only [located, bind, Except.bind, targeted, found, if_neg free]

end Succeeds

/-- A file that can be read stands at the place of its path. -/
theorem get?_of_read {files : Files} {path : Path} {bytes : List UInt8}
    (read_ : files.read path = .ok bytes) : files.get? path.place = some (.file bytes) :=
  (read_eq_ok_iff_locate.mp read_).2

/-- Writing changes the file at the place of its path. -/
theorem get?_of_write {files after : Files} {path : Path} {bytes : List UInt8}
    (written : files.write path bytes = .ok after) (place : Location) :
    after.get? place = if place = path.place then some (.file bytes) else files.get? place := by
  -- A file that is written is put at its place, whatever the place held.
  obtain ⟨-, free, rfl⟩ := write_eq_ok_iff.mp written
  exact get?_set (isFixed_eq_false free) place

/-- Making a directory fills a place that was empty. -/
theorem get?_of_makeDirectory {files after : Files} {path : Path}
    (made : files.makeDirectory path = .ok after) (place : Location) :
    after.get? place = if place = path.place then some .directory else files.get? place := by
  -- A directory is made only at a place that is empty, which is therefore not fixed.
  obtain ⟨-, free, rfl⟩ := makeDirectory_eq_ok_iff.mp made
  have empty : files.get? path.place ≠ some .directory := by simp [free]
  exact get?_set (isFixed_eq_false empty) place

/-- Removing a file empties the place of its path. -/
theorem get?_of_remove {files after : Files} {path : Path}
    (removed : files.remove path = .ok after) (place : Location) :
    after.get? place = if place = path.place then none else files.get? place := by
  -- Only a file is removed, and where a file stands the place is not fixed.
  obtain ⟨-, ⟨bytes, found⟩, rfl⟩ := remove_eq_ok_iff.mp removed
  exact get?_erase (isFixed_eq_false_of_file found) place

/-- Moving a file brings its bytes to the place of the goal and empties its own. -/
theorem get?_of_rename {files after : Files} {source goal : Path}
    (renamed : files.rename source goal = .ok after) :
    ∃ bytes, files.get? source.place = some (.file bytes) ∧ ∀ place,
      after.get? place = if place = goal.place then some (.file bytes)
        else if place = source.place then none else files.get? place := by
  obtain ⟨-, -, free, bytes, found, rfl⟩ := rename_eq_ok_iff.mp renamed
  refine ⟨bytes, found, fun place => ?_⟩
  -- The source is emptied before the goal is filled.
  rw [get?_set (isFixed_eq_false free), get?_erase (isFixed_eq_false_of_file found)]

/-- There are no files after a change that were not there before. -/
def AddsNoFile (before after : Files) : Prop :=
  ∀ place bytes, after.get? place = some (.file bytes) → before.get? place = some (.file bytes)

/-- Without a change there are no new files. -/
theorem AddsNoFile.refl (files : Files) : AddsNoFile files files :=
  fun _ _ found => found

/-- Changes without new files follow each other. -/
theorem AddsNoFile.trans {first second third : Files} (one : AddsNoFile first second)
    (two : AddsNoFile second third) : AddsNoFile first third :=
  fun place bytes found => one place bytes (two place bytes found)

/-- A removal adds no file. -/
theorem addsNoFile_of_remove {files after : Files} {path : Path}
    (removed : files.remove path = .ok after) : AddsNoFile files after := by
  intro place bytes found
  -- The place is empty now, and the others are as they were.
  rw [get?_of_remove removed] at found
  split at found
  · simp at found
  · exact found

/-- A new directory is no file. -/
theorem addsNoFile_of_makeDirectory {files after : Files} {path : Path}
    (made : files.makeDirectory path = .ok after) : AddsNoFile files after := by
  intro place bytes found
  -- The place holds a directory now, and the others are as they were.
  rw [get?_of_makeDirectory made] at found
  split at found
  · simp at found
  · exact found

/-- What making a directory keeps, and what is kept by one change after the other, is kept when
nested directories are made. -/
theorem makeNested_keeps (Keeps : Files → Files → Prop) (refl : ∀ files, Keeps files files)
    (trans : ∀ {first second third}, Keeps first second → Keeps second third → Keeps first third)
    (made : ∀ {files after : Files} {path : Path}, files.makeDirectory path = .ok after →
      Keeps files after) (files : Files) (paths : List Path) :
    Keeps files (files.makeNested paths).2 := by
  -- The directories around a path are made first, and then its own.
  induction paths generalizing files with
  | nil => exact refl files
  | cons path around ih =>
    -- A fault that is looked past changes nothing.
    have settled : ∀ (left : Files) (fault : FileFault),
        (if left.isDirectory path then (.ok (), left)
          else (.error fault, left) : Except FileFault Unit × Files).2 = left := by
      intro left fault
      split <;> rfl
    -- The own directory is tried first, and once more after those around it.
    unfold makeNested
    split
    · exact refl files
    · simp only
      split
      · rename_i after own
        exact made own
      · have outer := ih files
        split
        · rename_i fault left nested
          rw [nested] at outer
          exact outer
        · rename_i left nested
          rw [nested] at outer
          split
          · rename_i after own
            exact trans outer (made own)
          · rw [settled]
            exact outer
      · rw [settled]
        exact refl files

/-- Making a directory and those around it adds no file. -/
theorem addsNoFile_makeDirectories (files : Files) (path : Path) :
    AddsNoFile files (files.makeDirectories path).2 :=
  -- To add no file is kept by doing nothing, by one step and by two in a row.
  makeNested_keeps AddsNoFile .refl .trans addsNoFile_of_makeDirectory files path.ancestors

end Files

namespace Disk

/-- A write through a sibling makes the sibling, fills it, and moves it. After a failed move the
sibling is removed, if that can be done. -/
theorem writeAtomically_eq (disk : Disk) (path : Path) (bytes : List UInt8) :
    disk.writeAtomically path bytes =
      let sibling := disk.sibling path disk.drawn
      let left := fun files : Files => { disk with drawn := disk.drawn + 1, files := files }
      match disk.files.write sibling [] with
      | .error fault => (left disk.files, .error fault)
      | .ok made =>
        match made.write sibling bytes with
        | .error fault => (left made, .error fault)
        | .ok filled =>
          match filled.rename sibling path, filled.remove sibling with
          | .ok after, _ => (left after, .ok ())
          | .error fault, .ok after => (left after, .error fault)
          | .error fault, .error _ => (left filled, .error fault) := by
  have name : ∀ files, sibling { disk with drawn := disk.drawn + 1, files := files } path
      disk.drawn = disk.sibling path disk.drawn := fun _ => rfl
  have name' : sibling { disk with drawn := disk.drawn + 1 } path disk.drawn =
      disk.sibling path disk.drawn := rfl
  simp only [writeAtomically, finishWrite, advanceWrite, withFiles, name']
  -- Each step goes on from the files that the one before has left.
  cases wrote : disk.files.write (disk.sibling path disk.drawn) [] with
  | error fault => rfl
  | ok made =>
    simp only [finishWrite, advanceWrite, withFiles, name]
    cases wrote' : made.write (disk.sibling path disk.drawn) bytes with
    | error fault => rfl
    | ok filled =>
      simp only [finishWrite, advanceWrite, withFiles, name]
      cases renamed : filled.rename (disk.sibling path disk.drawn) path with
      | ok after => rfl
      | error fault =>
        cases removed : filled.remove (disk.sibling path disk.drawn) with
        | ok after => rfl
        | error fault' => rfl

/-- A write through a sibling stops before, between or after its changes of the files. -/
theorem writeAtomically_cases (disk : Disk) (path : Path) (bytes : List UInt8) :
    (disk.writeAtomically path bytes).1.files = disk.files ∨
      ∃ made, disk.files.write (disk.sibling path disk.drawn) [] = .ok made ∧
        ((disk.writeAtomically path bytes).1.files = made ∨
          ∃ filled, made.write (disk.sibling path disk.drawn) bytes = .ok filled ∧
            ((disk.writeAtomically path bytes).1.files = filled ∨
              filled.remove (disk.sibling path disk.drawn) =
                .ok (disk.writeAtomically path bytes).1.files ∨
              filled.rename (disk.sibling path disk.drawn) path =
                .ok (disk.writeAtomically path bytes).1.files)) := by
  rw [writeAtomically_eq]
  -- A step that fails ends the write with the files that it found.
  cases wrote : disk.files.write (disk.sibling path disk.drawn) [] with
  | error fault => simp only [wrote, true_or]
  | ok made =>
    refine Or.inr ⟨made, rfl, ?_⟩
    cases wrote' : made.write (disk.sibling path disk.drawn) bytes with
    | error fault => simp only [wrote, wrote', true_or]
    | ok filled =>
      refine Or.inr ⟨filled, rfl, ?_⟩
      cases renamed : filled.rename (disk.sibling path disk.drawn) path with
      | ok after => simp only [wrote, wrote', renamed, or_true]
      | error fault =>
        cases removed : filled.remove (disk.sibling path disk.drawn) with
        | ok after => simp only [wrote, wrote', renamed, removed, true_or, or_true]
        | error fault' => simp only [wrote, wrote', renamed, removed, true_or]

/-- After a write through a sibling each file is one that was there, the sibling, or the goal with
all of the new bytes. -/
theorem file_of_writeAtomically {disk : Disk} {path : Path} {bytes held : List UInt8}
    {place : Location}
    (found : (disk.writeAtomically path bytes).1.files.get? place = some (.file held)) :
    disk.files.get? place = some (.file held) ∨ place = (disk.sibling path disk.drawn).place ∨
      place = path.place ∧ held = bytes := by
  by_cases own : place = (disk.sibling path disk.drawn).place
  · exact Or.inr (Or.inl own)
  · -- Filling the sibling does not matter at other places.
    rcases disk.writeAtomically_cases path bytes with
      same | ⟨made, wrote, same | ⟨filled, wrote', same | removed | renamed⟩⟩
    · rw [same] at found
      exact Or.inl found
    · rw [same, Files.get?_of_write wrote, if_neg own] at found
      exact Or.inl found
    · rw [same, Files.get?_of_write wrote', if_neg own, Files.get?_of_write wrote, if_neg own] at found
      exact Or.inl found
    · rw [Files.get?_of_remove removed, if_neg own, Files.get?_of_write wrote', if_neg own,
        Files.get?_of_write wrote, if_neg own] at found
      exact Or.inl found
    -- What is moved is what the sibling was filled with.
    · obtain ⟨moved, source, after⟩ := Files.get?_of_rename renamed
      rw [Files.get?_of_write wrote', if_pos rfl, Option.some.injEq, Item.file.injEq] at source
      rw [after] at found
      split at found
      · rename_i goal
        rw [Option.some.injEq, Item.file.injEq] at found
        exact Or.inr (Or.inr ⟨goal, found.symm.trans source.symm⟩)
      · rw [Files.get?_of_write wrote', if_neg own, Files.get?_of_write wrote, if_neg own] at found
        exact Or.inl found

end Disk

end ShaderBuild
