import ShaderBuild.Proofs.MakeDirectories

/-! Files stay a tree, in which what stands anywhere stands in a directory. -/

namespace ShaderBuild

namespace Files

variable {files after : Files}

/-- What stands anywhere stands in a directory. -/
def IsTree (files : Files) : Prop :=
  ∀ entry ∈ files.entries, files.get? entry.1.dropLast = some .directory

instance (files : Files) : Decidable files.IsTree :=
  inferInstanceAs (Decidable (∀ entry ∈ files.entries, _))

namespace IsTree

/-- What stands in a place makes it a directory. -/
theorem parent (tree : files.IsTree) {place : Location} {name : String}
    (there : files.get? (place ++ [name]) ≠ none) : files.get? place = some .directory := by
  by_cases fixed : (place ++ [name]).isFixed = true
  · -- Around what is always there everything is.
    have around : place.isFixed = true := by
      rw [Location.isFixed, Bool.or_eq_true] at fixed ⊢
      rcases fixed with dots | root
      · rw [List.all_append, Bool.and_eq_true] at dots
        exact Or.inl dots.1
      · obtain ⟨rfl, -⟩ := List.append_inj' (beq_iff_eq.mp root : place ++ [name] = [] ++ ["/"]) rfl
        exact Or.inl rfl
    rw [get?, if_pos around]
  · rw [get?, if_neg fixed] at there
    obtain ⟨item, found⟩ := Option.ne_none_iff_exists'.mp there
    have outer := tree _ (Association.mem_of_lookup found)
    rwa [List.dropLast_concat] at outer

/-- What stands below a place makes it a directory. -/
theorem directory_of_prefix (tree : files.IsTree) {place inner : Location}
    (inside : place <+: inner) (apart : place ≠ inner) (there : files.get? inner ≠ none) :
    files.get? place = some .directory := by
  obtain ⟨below, rfl⟩ := inside
  -- From the outermost name inwards.
  induction below generalizing place with
  | nil => simp at apart
  | cons name below ih =>
    have whole : place ++ name :: below = place ++ [name] ++ below := by simp
    rw [whole] at there
    have filled : files.get? (place ++ [name]) ≠ none := by
      cases below with
      | nil => simpa using there
      | cons first rest =>
        rw [ih (by simp) there]
        simp
    exact tree.parent filled

/-- Something new in a directory leaves a tree, if no directory goes. -/
theorem set (tree : files.IsTree) {place : Location} {item : Item}
    (around : files.get? place.dropLast = some .directory) (free : place.isFixed = false)
    (keeps : item = .directory ∨ files.get? place ≠ some .directory) :
    (files.set place item).IsTree := by
  intro entry among
  rw [get?_set free]
  split
  · rename_i own
    rcases List.mem_cons.mp among with rfl | other
    · -- Nothing stands in itself.
      cases place with
      | nil => simp [Location.isFixed] at free
      | cons first rest =>
        have shorter := congrArg List.length own
        simp at shorter
    · have inner := tree entry (List.mem_filter.mp other).1
      rw [own] at inner
      rw [keeps.resolve_right (not_not_intro inner)]
  · rcases List.mem_cons.mp among with rfl | other
    · exact around
    · exact tree entry (List.mem_filter.mp other).1

/-- Paving from a firm location leaves a tree. -/
theorem pave (tree : files.IsTree) {here : Location} (firm : files.Firm here)
    (pieces : List Path.Piece) : (files.pave here pieces).2.IsTree := by
  -- Each directory that is made stands in the one that was made before it.
  induction pieces generalizing files here with
  | nil => exact tree
  | cons piece pieces ih =>
    rw [Files.pave]
    split
    · cases found : files.get? (here.next piece) with
      | none =>
        have free := isFixed_of_missing found
        have around : files.get? (here.next piece).dropLast = some .directory := by
          have moves : ¬ ((piece = [] ∨ piece = ['.']) ∨ piece = ['.', '.']) := fun lasting => by
            rw [firm.directory_next lasting] at found
            simp at found
          obtain ⟨idle, outward⟩ := not_or.mp moves
          rw [Location.next, if_neg idle, if_neg outward, List.dropLast_concat]
          exact firm.directory
        have firm' := firm.of_keeps (extends_set found).keeps
        exact ih (tree.set around free (Or.inl rfl)) (firm'.next (get?_set_self free))
      | some item =>
        cases item with
        | file bytes => exact tree
        | directory => exact ih tree (firm.next found)
    · exact tree

/-- Making the directories around a path leaves a tree. -/
theorem paveAround (tree : files.IsTree) (path : Path) : (files.paveAround path).2.IsTree := by
  -- Directories are made one below the other, from where the path begins.
  unfold Files.paveAround
  split
  · exact tree
  · simp only
    split
    · exact tree.pave (firm_base files path.isAbsolute) _
    · exact tree

/-- Writing leaves a tree. -/
theorem write (tree : files.IsTree) {path : Path} {bytes : List UInt8}
    (wrote : files.write path bytes = .ok after) : after.IsTree := by
  -- The file is put into the directory that the walk to its name has left.
  obtain ⟨targeted, free⟩ := target_of_write wrote
  rw [write_of_target bytes targeted free] at wrote
  obtain ⟨name, outer, around, -, -, walked, -, whole, -⟩ := target_eq_named_iff.mp targeted
  rw [← Except.ok.inj wrote]
  refine tree.set ?_ (isFixed_eq_false free) (Or.inr free)
  rw [whole, List.dropLast_concat]
  exact (walk_idle walked).2

end IsTree

end Files

end ShaderBuild
