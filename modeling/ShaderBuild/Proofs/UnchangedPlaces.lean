import ShaderBuild.Proofs.FileAgreement

/-! A text at a place that has not changed is read as before among the same directories. -/

namespace ShaderBuild

namespace Files

variable {files after : Files} {path : Path}

/-- A text can be read as long as it stands there and no directory goes. -/
theorem readText_of_keeps {text : String} (keeps : files.KeepsDirectories after)
    (read_ : files.readText path = .ok text)
    (same : after.get? path.place = files.get? path.place) : after.readText path = .ok text := by
  -- The bytes of the text are read again.
  obtain ⟨bytes, stands, encoded⟩ := readText_eq_ok_iff.mp read_
  have again := read_of_keeps keeps stands (same.trans (get?_of_read stands))
  exact readText_eq_ok_iff.mpr ⟨bytes, again, encoded⟩

/-- A text stands in a file. -/
theorem file_of_readText {text : String} (read_ : files.readText path = .ok text) :
    ∃ bytes, files.get? path.place = some (.file bytes) := by
  -- The text was decoded from bytes, which stand in a file.
  obtain ⟨bytes, stands, -⟩ := readText_eq_ok_iff.mp read_
  exact ⟨bytes, get?_of_read stands⟩

/-- Files with the same directories are side by side, if what is no directory does not count. -/
theorem SameDirectories.beside (same : files.SameDirectories after) :
    Beside (fun _ => False) (fun _ => False) (fun place => files.get? place ≠ some .directory) files
      after := by
  -- At a directory both are the same; other places do not count.
  intro place _
  by_cases found : files.get? place = some .directory
  · exact Or.inl (found.trans (same.keeps place found).symm)
  · exact Or.inr (Or.inr ⟨found, found, fun there => found (same.adds place there)⟩)

/-- Pieces that lead from a firm location through directories come to a firm location. -/
theorem Firm.follow {here : Location} (firm : files.Firm here) {pieces : List Path.Piece}
    (reached : ∀ place ∈ here.way (pieces ++ [[]]), files.get? place = some .directory) :
    files.Firm (here.follow pieces) := by
  induction pieces generalizing here with
  | nil => exact firm
  | cons piece pieces ih =>
    rw [List.cons_append, Location.way] at reached
    have rest : ∀ place ∈ (here.next piece).way (pieces ++ [[]]),
        files.get? place = some .directory :=
      fun place among => reached place (List.mem_cons_of_mem here among)
    -- The rest of the way begins where the first piece leads, so that is a directory.
    have first : here.next piece ∈ (here.next piece).way (pieces ++ [[]]) := by
      cases pieces <;> exact List.mem_cons_self
    rw [Location.follow_cons]
    exact ih (firm.next (rest _ first)) rest

/-- A path to a text ends in a name, and what is put behind the path makes the name longer. -/
theorem place_append_of_readText {text more : String} (read_ : files.readText path = .ok text)
    (clean : '/' ∉ more.toList) (long : 2 < more.toList.length) :
    ∃ around name, path.place = around ++ [name] ∧
      (path.append more).place = around ++ [name ++ more] := by
  obtain ⟨checked, reached⟩ := way_of_readText read_
  obtain ⟨bytes, file⟩ := file_of_readText read_
  obtain ⟨front, last, pieces⟩ : ∃ front last, path.pieces = front ++ [last] := by
    rcases List.eq_nil_or_concat path.pieces with none_ | ⟨front, last, cut⟩
    · exact absurd none_ (Text.splitAtChar_ne_nil _ _)
    · exact ⟨front, last, cut.trans (List.concat_eq_append ..)⟩
  have longer : (path.append more).pieces = front ++ [last ++ more.toList] := by
    rw [Path.pieces, Path.append, String.toList_append]
    exact Text.splitAtChar_append_of_not_mem pieces clean
  have firm : files.Firm ((start path).follow front) := by
    refine (firm_start files path).follow fun place among => reached place ?_
    rw [Path.way, pieces, Location.way_concat _ _ last []]
    exact among
  have place : path.place = ((start path).follow front).next last := by
    rw [Path.place, pieces, Location.follow_append, Location.follow_cons]
    rfl
  have place' : (path.append more).place =
      ((start path).follow front).next (last ++ more.toList) := by
    rw [Path.place, longer, start_append checked, Location.follow_append, Location.follow_cons]
    rfl
  -- Without a name the path would lead to a directory.
  have named : ¬ ((last = [] ∨ last = ['.']) ∨ last = ['.', '.']) := by
    intro lasting
    rw [place, firm.directory_next lasting] at file
    simp at file
  obtain ⟨idle, outward⟩ := not_or.mp named
  have size : 2 < (last ++ more.toList).length := by
    rw [List.length_append]
    omega
  refine ⟨(start path).follow front, String.ofList last, ?_, ?_⟩
  · rw [place, Location.next, if_neg idle, if_neg outward]
  · rw [place', Location.next, if_neg, if_neg, String.ofList_append, String.ofList_toList]
    · intro same
      simp [same] at size
    · rintro (same | same) <;> simp [same] at size

/-- At a place there is the same file as before, or still none. -/
def SameFile (files after : Files) (place : Location) : Prop :=
  ∀ bytes, after.get? place = some (.file bytes) ↔ files.get? place = some (.file bytes)

/-- Where nothing has changed there is the same file. -/
theorem SameFile.of_get? {place : Location} (same : after.get? place = files.get? place) :
    files.SameFile after place :=
  fun bytes => by rw [same]

/-- A file that stays twice is still the same. -/
theorem SameFile.trans {last : Files} {place : Location} (one : files.SameFile after place)
    (two : after.SameFile last place) : files.SameFile last place :=
  fun bytes => (two bytes).trans (one bytes)

/-- The same file was there before. -/
theorem SameFile.symm {place : Location} (same : files.SameFile after place) :
    after.SameFile files place :=
  fun bytes => (same bytes).symm

/-- Paving the way to an output makes and unmakes no file. -/
theorem sameFile_paveAround (files : Files) (path : Path) (place : Location) :
    files.SameFile (files.paveAround path).2 place := by
  -- Where something is made, there was nothing before and is no file now.
  rcases files.get?_paveAround path place with same | ⟨missing, found, -⟩
  · exact .of_get? same
  · exact fun bytes => by simp [missing, found]

/-- Making directories makes and unmakes no file. -/
theorem sameFile_makeDirectories (files : Files) (path : Path) (place : Location) :
    files.SameFile (files.makeDirectories path).2 place :=
  -- One lemma says that no file is made, the other that none is lost.
  fun bytes => ⟨addsNoFile_makeDirectories files path place bytes,
    extends_makeDirectories files path place _⟩

/-- The directories are the same, and elsewhere than in some places nothing has changed. -/
structure Spares (touched : Location → Prop) (files after : Files) : Prop where
  directories : files.SameDirectories after
  elsewhere : ∀ place, ¬ touched place → after.get? place = files.get? place

namespace Spares

variable {touched : Location → Prop}

/-- Where nothing has changed everything is spared. -/
theorem refl (touched : Location → Prop) (files : Files) : files.Spares touched files :=
  ⟨.refl files, fun _ _ => rfl⟩

/-- Changes follow each other. -/
theorem trans {last : Files} (one : files.Spares touched after)
    (two : after.Spares touched last) : files.Spares touched last :=
  -- A place that neither change touches is the same through both.
  ⟨one.directories.trans two.directories,
    fun place spared => (two.elsewhere place spared).trans (one.elsewhere place spared)⟩

/-- More places may be touched. -/
theorem mono {more : Location → Prop} (spares : files.Spares touched after)
    (wider : ∀ place, touched place → more place) : files.Spares more after :=
  -- What is spared by more is spared by fewer.
  ⟨spares.directories, fun place spared =>
    spares.elsewhere place fun own => spared (wider place own)⟩

/-- The text at a place that is spared stays. -/
theorem readText_iff (spares : files.Spares touched after) (spared : ¬ touched path.place)
    (text : String) : after.readText path = .ok text ↔ files.readText path = .ok text := by
  -- Directories are neither made nor lost, so the path can be followed both ways.
  have same := spares.elsewhere _ spared
  exact ⟨fun read_ => readText_of_keeps spares.directories.adds read_ same.symm,
    fun read_ => readText_of_keeps spares.directories.keeps read_ same⟩

end Spares

end Files

end ShaderBuild
