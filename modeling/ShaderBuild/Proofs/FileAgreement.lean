import ShaderBuild.Proofs.Tree

/-! Reading, paving and writing go on alike in files that agree but for some places. -/

namespace ShaderBuild

namespace Files

/-- Files that are the same but for hidden places, directories that stand early, and places where
something is withheld that is no directory. -/
def Beside (hidden early withheld : Location → Prop) (files other : Files) : Prop :=
  ∀ place, ¬ hidden place → files.get? place = other.get? place ∨
    (early place ∧ files.get? place = some .directory ∧ other.get? place = none) ∨
    withheld place ∧ files.get? place ≠ some .directory ∧ other.get? place ≠ some .directory

namespace Beside

variable {hidden early withheld : Location → Prop} {files other : Files}

/-- A text is read alike in both, or in neither: a path that goes through what stands early, and never
outwards, leads to what is only there if the directory stands in both. -/
theorem readText (beside : Beside hidden early withheld files other) (tree : other.IsTree)
    {path : Path} (shown : ∀ place ∈ path.trail, ¬ hidden place) (given : ¬ withheld path.place)
    (inwards : ∀ place ∈ path.trail, early place → ['.', '.'] ∉ path.pieces) :
    files.readText path = other.readText path ∨
      (∃ fault, files.readText path = .error fault) ∧
        ∃ fault, other.readText path = .error fault := by
  by_cases agree : files.AgreeOn other path.trail
  · exact Or.inl (readText_congr agree)
  · obtain ⟨place, disagrees⟩ := Classical.not_forall.mp agree
    obtain ⟨looked, differs⟩ := Classical.not_imp.mp disagrees
    have on := List.mem_cons.mp looked
    refine Or.inr ?_
    rcases beside place (shown place looked) with
      same | ⟨soon, found, missing⟩ | ⟨kept, closed, closed'⟩
    · exact absurd same differs
    · constructor
      · refine readText_of_no_file fun bytes file => ?_
        have apart : place ≠ path.place := by
          rintro rfl
          simp [found] at file
        have inside : place <+: path.place :=
          Location.prefix_follow_of_mem_way (inwards place looked soon) (on.resolve_left apart)
        rcases beside path.place (shown _ List.mem_cons_self) with same | ⟨-, found', -⟩ | ⟨kept, -⟩
        · -- A file below the missing directory would be there in both.
          have there : other.get? path.place ≠ none := by
            rw [← same, file]
            simp
          rw [tree.directory_of_prefix inside apart there] at missing
          simp at missing
        · simp [found'] at file
        · exact absurd kept given
      · rcases on with rfl | among
        · exact readText_of_no_file (by simp [missing])
        · exact readText_of_obstacle among (by simp [missing])
    · have among : place ∈ path.way := on.resolve_left fun own => given (own ▸ kept)
      exact ⟨readText_of_obstacle among closed, readText_of_obstacle among closed'⟩

/-- Where nothing is hidden or early, both have a directory or neither. -/
theorem directory_iff (beside : Beside hidden early withheld files other) {place : Location}
    (shown : ¬ hidden place) (punctual : ¬ early place) :
    files.get? place = some .directory ↔ other.get? place = some .directory := by
  -- Of the three ways to agree the second needs a place that is early.
  rcases beside place shown with same | ⟨soon, -, -⟩ | ⟨-, none_, none'⟩
  · rw [same]
  · exact absurd soon punctual
  · exact ⟨fun found => absurd found none_, fun found => absurd found none'⟩

/-- More may be withheld, and less where a directory stands. -/
theorem withhold (beside : Beside hidden early withheld files other) {more : Location → Prop}
    (kept : ∀ place, withheld place → other.get? place ≠ some .directory → more place) :
    Beside hidden early more files other := fun place shown =>
  (beside place shown).imp_right <| Or.imp_right fun ⟨given, closed, closed'⟩ =>
    ⟨kept place given closed', closed, closed'⟩

/-- What is done at hidden places makes no difference. -/
theorem of_hidden (beside : Beside hidden early withheld files other) {after : Files}
    (same : ∀ place, ¬ hidden place → after.get? place = files.get? place) :
    Beside hidden early withheld after other := by
  -- A place that is shown is not among those that were changed.
  intro place shown
  rw [same place shown]
  exact beside place shown

/-- The same is put at the same place. -/
theorem set (beside : Beside hidden early withheld files other) {place : Location} {item : Item}
    (free : place.isFixed = false) :
    Beside hidden early withheld (files.set place item) (other.set place item) := by
  -- At the place itself both hold the item; elsewhere neither has changed.
  intro seen shown
  rw [get?_set free, get?_set free]
  by_cases own : seen = place
  · simp [own]
  · simp only [if_neg own]
    exact beside seen shown

/-- A directory that stands early in the one is made in the other. -/
theorem set_late (beside : Beside hidden early withheld files other) {place : Location}
    (found : files.get? place = some .directory) (missing : other.get? place = none) :
    Beside hidden early withheld files (other.set place .directory) := by
  -- At the place itself both now have the directory, which is the strictest way to agree.
  intro seen shown
  rw [get?_set (isFixed_of_missing missing)]
  by_cases own : seen = place
  · rw [if_pos own, own]
    exact Or.inl found
  · rw [if_neg own]
    exact beside seen shown

/-- Where nothing is hidden or withheld, a way that can be paved in the one can be in the other. -/
theorem pave (beside : Beside hidden early withheld files other) {here : Location}
    {pieces : List Path.Piece}
    (plain : ∀ place ∈ here.way (pieces ++ [[]]), ¬ hidden place ∧ ¬ withheld place) :
    (files.pave here pieces).1 = (other.pave here pieces).1 ∧
      Beside hidden early withheld (files.pave here pieces).2 (other.pave here pieces).2 := by
  induction pieces generalizing files other here with
  | nil => exact ⟨rfl, beside⟩
  | cons piece pieces ih =>
    rw [List.cons_append, Location.way] at plain
    have rest : ∀ place ∈ (here.next piece).way (pieces ++ [[]]),
        ¬ hidden place ∧ ¬ withheld place := fun place among =>
      plain place (List.mem_cons_of_mem here among)
    have first : here.next piece ∈ (here.next piece).way (pieces ++ [[]]) := by
      cases pieces <;> exact List.mem_cons_self
    obtain ⟨shown, given⟩ := rest _ first
    rw [Files.pave, Files.pave]
    split
    · rcases beside _ shown with same | ⟨-, found, missing⟩ | ⟨kept, -, -⟩
      · -- The same stands there, and the same is done.
        rw [← same]
        cases found : files.get? (here.next piece) with
        | none => exact ih (beside.set (isFixed_of_missing found)) rest
        | some item =>
          cases item with
          | file bytes => exact ⟨rfl, beside⟩
          | directory => exact ih beside rest
      · rw [found, missing]
        exact ih (beside.set_late found missing) rest
      · exact absurd kept given
    · exact ⟨rfl, beside⟩

/-- The directories around a path are made in both or in neither. -/
theorem paveAround (beside : Beside hidden early withheld files other) {path : Path}
    (plain : ∀ place ∈ path.way, ¬ hidden place ∧ ¬ withheld place) :
    (files.paveAround path).1 = (other.paveAround path).1 ∧
      Beside hidden early withheld (files.paveAround path).2 (other.paveAround path).2 := by
  -- Directories are made only if the path names something, and which those are does not depend on
  -- the files.
  unfold Files.paveAround
  split
  · exact ⟨rfl, beside⟩
  · rename_i name outer whole
    simp only
    split
    · exact beside.pave fun place among => plain place (way_body_subset whole among)
    · exact ⟨rfl, beside⟩

/-- A file is written in both or in neither, if the path names the same in both. -/
theorem write (beside : Beside hidden early withheld files other) {path : Path}
    (same : files.target path = other.target path) (shown : ¬ hidden path.place)
    (punctual : ¬ early path.place) (bytes : List UInt8) :
    (∃ one two, files.write path bytes = .ok one ∧ other.write path bytes = .ok two ∧
      Beside hidden early withheld one two) ∨
    (files.write path bytes).isOk = false ∧ (other.write path bytes).isOk = false := by
  unfold Files.write
  rw [← same]
  -- Up to the place itself both writes go alike, and there only a directory refuses them.
  cases targeted : files.target path with
  | error fault => exact Or.inr ⟨rfl, rfl⟩
  | ok target =>
    simp only [bind, Except.bind]
    cases target with
    | around => exact Or.inr ⟨rfl, rfl⟩
    | named place slashed =>
      cases slashed with
      | true => exact Or.inr ⟨rfl, rfl⟩
      | false =>
        obtain rfl := place_of_target targeted
        have both := beside.directory_iff shown punctual
        by_cases taken : files.get? path.place = some .directory
        · simp only [if_pos taken, if_pos (both.mp taken)]
          exact Or.inr ⟨rfl, rfl⟩
        · simp only [if_neg taken, if_neg (mt both.mpr taken)]
          exact Or.inl ⟨_, _, rfl, rfl, beside.set (isFixed_eq_false taken)⟩

/-- Behind directories that were made in both, a file is written in both or in neither. -/
theorem write_paveAround (beside : Beside hidden early withheld files other) {path : Path}
    (plain : ∀ place ∈ path.way, ¬ hidden place ∧ ¬ withheld place)
    (shown : ¬ hidden path.place) (punctual : ¬ early path.place)
    (paved : (files.paveAround path).1 = true) (bytes : List UInt8) :
    (∃ one two, (files.paveAround path).2.write path bytes = .ok one ∧
      (other.paveAround path).2.write path bytes = .ok two ∧
      Beside hidden early withheld one two) ∨
    ((files.paveAround path).2.write path bytes).isOk = false ∧
      ((other.paveAround path).2.write path bytes).isOk = false := by
  -- A path may name nothing, or end in a dot, and is then written nowhere; otherwise it leads to
  -- the same target in both.
  obtain ⟨both, beside'⟩ := beside.paveAround plain
  cases cut : withoutSlashes path with
  | nil => exact Or.inr ⟨write_of_nothing cut _ _, write_of_nothing cut _ _⟩
  | cons name outer =>
    by_cases dot : name = ['.']
    · exact Or.inr ⟨write_of_lasting cut (Or.inl dot) _ _, write_of_lasting cut (Or.inl dot) _ _⟩
    · refine beside'.write ?_ shown punctual bytes
      rw [target_paveAround cut dot paved, target_paveAround cut dot (both ▸ paved)]

end Beside

end Files

end ShaderBuild
