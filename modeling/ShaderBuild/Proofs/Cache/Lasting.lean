import ShaderBuild.Proofs.Cache.Deeds
import ShaderBuild.Proofs.Directories

/-! The file of a key holds its module until the key is invalidated. -/

namespace ShaderBuild

namespace Disk

variable {disk : Disk} {path : Path} {bytecode : Bytecode}

/-- The file that a path leads to can be read and holds a module. -/
def Holds (disk : Disk) (path : Path) (bytecode : Bytecode) : Prop :=
  ∃ bytes, disk.files.read path = .ok bytes ∧ Bytecode.ofBytes bytes = .ok bytecode

/-- As long as its place does not change and no directory goes, a file holds its module. -/
theorem Holds.of_keeps {after : Disk} (holds : disk.Holds path bytecode)
    (keeps : disk.files.KeepsDirectories after.files)
    (same : after.files.get? path.place = disk.files.get? path.place) :
    after.Holds path bytecode := by
  -- The same bytes are read.
  obtain ⟨bytes, read_, module⟩ := holds
  refine ⟨bytes, Files.read_of_keeps keeps read_ ?_, module⟩
  rw [same]
  exact Files.get?_of_read read_

/-- When nothing goes, a file holds its module. -/
theorem Holds.of_extends {after : Disk} (holds : disk.Holds path bytecode)
    (extends_ : disk.files.Extends after.files) : after.Holds path bytecode := by
  -- What stands at the place stands there still.
  have ⟨bytes, read_, _⟩ := holds
  have found := Files.get?_of_read read_
  exact holds.of_keeps extends_.keeps ((extends_ _ _ found).trans found.symm)

/-- A look finds the module that the file holds. -/
theorem Holds.search_eq (holds : disk.Holds path bytecode) :
    disk.search (some path) = (some bytecode, disk) := by
  -- Neither the read nor the decoding fails.
  obtain ⟨bytes, read_, module⟩ := holds
  simp only [search, read_, module]

/-- A look that finds a module finds it in the file, and leaves the disk. -/
theorem holds_of_search (found : (disk.search (some path)).1 = some bytecode) :
    disk.Holds path bytecode ∧ (disk.search (some path)).2 = disk := by
  unfold search at found ⊢
  cases read_ : disk.files.read path with
  | error fault => simp [read_] at found
  | ok bytes =>
    simp only [read_] at found ⊢
    cases module : Bytecode.ofBytes bytes with
    | ok other =>
      simp only [module, Option.some.injEq] at found ⊢
      exact ⟨⟨bytes, read_, found ▸ module⟩, trivial⟩
    | error failure =>
      -- A file without a module is no find, whether it can be removed or not.
      cases removed : disk.files.remove path with
      | ok files => simp [module, removed] at found
      | error fault => simp [module, removed] at found

/-- A look leaves the disk, or removes a file that holds no module. -/
theorem search_cases (disk : Disk) (path? : Option Path) :
    (disk.search path?).2 = disk ∨ ∃ path bytes failure files, path? = some path ∧
      disk.files.read path = .ok bytes ∧ Bytecode.ofBytes bytes = .error failure ∧
      disk.files.remove path = .ok files ∧ (disk.search path?).2 = disk.withFiles files := by
  -- Of all the ways a look can go, only the removal of a damaged file leaves another disk.
  unfold search
  split
  · exact Or.inl rfl
  · rename_i path
    split
    · exact Or.inl rfl
    · rename_i bytes read_
      split
      · exact Or.inl rfl
      · rename_i failure wrong
        split
        · rename_i files removed
          exact Or.inr ⟨path, bytes, failure, files, rfl, read_, wrong, removed, rfl⟩
        · exact Or.inl rfl

/-- A look leaves the directories. -/
theorem sameDirectories_search (disk : Disk) (path? : Option Path) :
    disk.files.SameDirectories (disk.search path?).2.files := by
  -- A look changes nothing, or it removes one file.
  rcases disk.search_cases path? with same | ⟨path, -, -, files, -, -, -, removed, same⟩
  · rw [same]
    exact .refl _
  · rw [same]
    exact Files.sameDirectories_of_remove removed

/-- A look leaves a file that holds a module. -/
theorem Holds.search (holds : disk.Holds path bytecode) (path? : Option Path) :
    (disk.search path?).2.Holds path bytecode := by
  refine holds.of_keeps (disk.sameDirectories_search path?).keeps ?_
  rcases disk.search_cases path? with same | ⟨other, wrong, failure, files, -, read_, bad, removed,
    same⟩
  · rw [same]
  · obtain ⟨bytes, read', module⟩ := holds
    rw [same]
    -- The file that was removed held none.
    refine (Files.get?_of_remove removed _).trans (if_neg fun place => ?_)
    have found := Files.get?_of_read read'
    rw [place, Files.get?_of_read read_, Option.some.injEq, Item.file.injEq] at found
    rw [found, module] at bad
    simp at bad

/-- A module that is written where a look has found none leaves the files of keys that hold one. -/
theorem Holds.store {directory other : Path} {key another : Fingerprint} {written : Bytecode}
    (holds : disk.Holds (directory.join key.fileName) bytecode)
    (missing : (disk.search (some (other.join another.fileName))).1 = none) :
    ((disk.search (some (other.join another.fileName))).2.store written
      (some (other.join another.fileName))).Holds (directory.join key.fileName) bytecode := by
  let path := other.join another.fileName
  let found := (disk.search (some path)).2
  let bytes := bytesOfWords written.words
  have left := holds.search (some path)
  have apart : (directory.join key.fileName).place ≠
      (found.sibling path found.drawn).place := by
    rw [Path.place_join_fileName]
    exact (found.sibling_ne_keyPlace other directory another key found.drawn).symm
  refine left.of_keeps (found.sameDirectories_writeAtomically path bytes).keeps ?_
  rcases Disk.get?_writeAtomically bytes apart with same | ⟨place, located⟩
  · exact same
  · -- A path that leads to the file would have shown it to the look.
    obtain ⟨own, read_, module⟩ := holds
    have there := Files.get?_of_read read_
    rw [place] at there
    have located := Files.locate_of_keeps (disk.sameDirectories_search (some path)).adds located
    have shown : disk.Holds path bytecode := ⟨own, Files.read_of_locate located there, module⟩
    rw [shown.search_eq] at missing
    simp at missing

/-- A file that is removed is not that of another key. -/
theorem Holds.forget {directory other : Path} {key another : Fingerprint}
    (holds : disk.Holds (directory.join key.fileName) bytecode) (apart : another ≠ key) :
    (disk.forget (some (other.join another.fileName))).2.Holds (directory.join key.fileName)
      bytecode := by
  -- A file goes from the place of the other key at most.
  unfold Disk.forget
  split
  · exact holds
  · rename_i path same
    obtain rfl := Option.some.inj same
    split
    · rename_i files removed
      refine holds.of_keeps (Files.sameDirectories_of_remove removed).keeps ?_
      refine (Files.get?_of_remove removed _).trans (if_neg fun place => ?_)
      rw [Path.place_join_fileName, Path.place_join_fileName] at place
      exact apart (Path.key_of_keyPlace place).symm
    · exact holds

/-- A module that begins with the magic number is held by the file that it is written to. -/
theorem holds_of_store (accepts : disk.Accepts path)
    (marked : bytecode.words.head? = some spirvMagic) :
    (disk.store bytecode (some path)).Holds path bytecode :=
  -- What was written is read back, and it is read as the module.
  ⟨bytesOfWords bytecode.words, read_writeAtomically (accepts _),
    Bytecode.ofBytes_bytesOfWords marked⟩

/-- A disk accepts what it accepted before a look. -/
theorem Accepts.search (accepts : disk.Accepts path) (path? : Option Path) :
    (disk.search path?).2.Accepts path := by
  -- A look removes no directory.
  rcases disk.search_cases path? with same | ⟨other, bytes, failure, files, -, -, -, removed, same⟩
  · rw [same]
    exact accepts
  · rw [same]
    exact accepts.withFiles (Files.sameDirectories_of_remove removed)

end Disk

end ShaderBuild
