import ShaderBuild.Proofs.Files

/-! No operation removes a directory, so that what could be read or written still can be. -/

namespace ShaderBuild

/-- A text whose last piece is empty, and not the only one, ends with the mark. -/
theorem Text.getLast?_of_splitAtChar {mark : Char} {text : List Char} {front : List (List Char)}
    (pieces : splitAtChar mark text = front ++ [[]]) (more : front ≠ []) :
    text.getLast? = some mark := by
  -- What the rest of the text ends with, the text ends with.
  have longer : ∀ {c : Char} {rest : List Char}, rest.getLast? = some mark →
      (c :: rest).getLast? = some mark := by
    intro c rest last
    rw [List.getLast?_cons, last, Option.getD_some]
  induction text generalizing front with
  | nil =>
    have short := congrArg List.length pieces
    rw [splitAtChar, List.length_append, List.length_singleton] at short
    exact absurd (List.length_eq_zero_iff.mp (by omega)) more
  | cons c text ih =>
    rw [splitAtChar] at pieces
    cases front with
    | nil => exact absurd rfl more
    | cons first front =>
      split at pieces
      · rename_i own
        obtain ⟨-, rest⟩ := List.cons.inj pieces
        by_cases only : front = []
        · -- The mark is the last character, since nothing follows it.
          cases text with
          | nil => simp [own]
          | cons d text =>
            subst only
            rw [splitAtChar] at rest
            split at rest
            · obtain ⟨-, none_⟩ := List.cons.inj rest
              exact absurd none_ (splitAtChar_ne_nil mark text)
            · split at rest <;> simp at rest
        · exact longer (ih rest only)
      · split at pieces
        · rename_i none_
          exact absurd none_ (splitAtChar_ne_nil mark text)
        · rename_i piece others cut
          obtain ⟨-, rest⟩ := List.cons.inj pieces
          have whole : splitAtChar mark text = (piece :: front) ++ [[]] := by
            rw [cut, rest]
            rfl
          exact longer (ih whole (by simp))

namespace Files

variable {files after other : Files}

/-- Every directory is there still. -/
def KeepsDirectories (before after : Files) : Prop :=
  ∀ place, before.get? place = some .directory → after.get? place = some .directory

/-- Without a change every directory is there still. -/
theorem KeepsDirectories.refl (files : Files) : files.KeepsDirectories files :=
  fun _ found => found

/-- Changes that keep directories follow each other. -/
theorem KeepsDirectories.trans (one : files.KeepsDirectories after)
    (two : after.KeepsDirectories other) : files.KeepsDirectories other :=
  fun place found => two place (one place found)

/-- The same directories are there. -/
structure SameDirectories (before after : Files) : Prop where
  keeps : before.KeepsDirectories after
  adds : after.KeepsDirectories before

/-- Without a change there are the same directories. -/
theorem SameDirectories.refl (files : Files) : files.SameDirectories files :=
  ⟨.refl files, .refl files⟩

/-- Two changes that leave the directories leave them together. -/
theorem SameDirectories.trans (one : files.SameDirectories after)
    (two : after.SameDirectories other) : files.SameDirectories other :=
  ⟨one.keeps.trans two.keeps, two.adds.trans one.adds⟩

/-- A change back leaves the directories too. -/
theorem SameDirectories.symm (same : files.SameDirectories after) : after.SameDirectories files :=
  -- To have the same directories is two inclusions, which change places.
  ⟨same.adds, same.keeps⟩

/-- Where one piece leads from a location, which must be a directory. -/
def enter (files : Files) (here : Location) (piece : Path.Piece) : Except FileFault Location :=
  match files.get? here with
  | none => .error .missing
  | some (.file _) => .error .notDirectory
  | some .directory =>
    if piece = [] ∨ piece = ['.'] then .ok here
    else if piece = ['.', '.'] then .ok here.up
    else if fitsName piece then .ok (here ++ [String.ofList piece])
    else .error .nameTooLong

/-- A walk enters one piece and goes on from there. -/
theorem walk_cons (files : Files) (here : Location) (piece : Path.Piece)
    (pieces : List Path.Piece) :
    files.walk here (piece :: pieces) =
      (files.enter here piece).bind fun there => files.walk there pieces := by
  -- Both look at what stands here, and then at what kind of piece comes next.
  rw [walk, enter]
  cases files.get? here with
  | none => rfl
  | some item =>
    cases item with
    | file bytes => rfl
    | directory =>
      by_cases idle : piece = [] ∨ piece = ['.']
      · simp only [if_pos idle, Except.bind]
      · by_cases outward : piece = ['.', '.']
        · simp only [if_neg idle, if_pos outward, Except.bind]
        · by_cases fits : fitsName piece
          · simp only [if_neg idle, if_neg outward, if_pos fits, Except.bind]
          · simp only [if_neg idle, if_neg outward, if_neg fits, Except.bind]

/-- Pieces are walked one after the other. -/
theorem walk_append (files : Files) (here : Location) (first second : List Path.Piece) :
    files.walk here (first ++ second) =
      (files.walk here first).bind fun there => files.walk there second := by
  -- Induction on the first pieces; a step that fails ends both walks with the same fault.
  induction first generalizing here with
  | nil => rfl
  | cons piece first ih =>
    rw [List.cons_append, walk_cons, walk_cons]
    cases files.enter here piece with
    | error fault => rfl
    | ok there => exact ih there

/-- A piece that leads somewhere does so as long as the directories are there. -/
theorem enter_of_keeps (keeps : files.KeepsDirectories after) {here place : Location}
    {piece : Path.Piece} (entered : files.enter here piece = .ok place) :
    after.enter here piece = .ok place := by
  unfold enter at entered ⊢
  -- Only a directory can be left, and it is there still.
  split at entered
  · simp at entered
  · simp at entered
  · rename_i found
    rw [keeps here found]
    exact entered

/-- A walk that comes to its end does so as long as the directories are there. -/
theorem walk_of_keeps (keeps : files.KeepsDirectories after) {here place : Location}
    {pieces : List Path.Piece} (walked : files.walk here pieces = .ok place) :
    after.walk here pieces = .ok place := by
  -- Induction on the pieces: each directory that is entered is still there afterwards.
  induction pieces generalizing here with
  | nil => exact walked
  | cons piece pieces ih =>
    rw [walk_cons] at walked ⊢
    cases entered : files.enter here piece with
    | error fault => simp [entered, Except.bind] at walked
    | ok there =>
      simp only [entered, Except.bind] at walked
      simp only [enter_of_keeps keeps entered, Except.bind]
      exact ih walked

/-- A path that leads somewhere does so as long as the directories are there. -/
theorem locate_of_keeps (keeps : files.KeepsDirectories after) {path : Path} {place : Location}
    (located : files.locate path = .ok place) : after.locate path = .ok place := by
  -- The check before the walk looks at the path alone, so only the walk depends on the files.
  obtain ⟨checked, walked⟩ := locate_eq_ok_iff.mp located
  exact locate_eq_ok_iff.mpr ⟨checked, walk_of_keeps keeps walked⟩

/-- What a path names for something new is the same as long as the directories are there. -/
theorem target_of_keeps (keeps : files.KeepsDirectories after) {path : Path} {target : Target}
    (targeted : files.target path = .ok target) : after.target path = .ok target := by
  -- Of all that is asked only the walk to the directory around looks at the files.
  unfold Files.target at targeted ⊢
  cases checked : checkPath path with
  | error fault => simp [checked, bind, Except.bind] at targeted
  | ok =>
    simp only [checked, bind, Except.bind] at targeted ⊢
    cases cut : withoutSlashes path with
    | nil =>
      simp only [cut] at targeted
      exact targeted
    | cons name outer =>
      simp only [cut] at targeted ⊢
      cases walked : files.walk (start path) (outer.reverse ++ [[]]) with
      | error fault => simp [walked] at targeted
      | ok around =>
        simp only [walked] at targeted
        simp only [walk_of_keeps keeps walked]
        exact targeted

/-- Behind the last piece that says something there is none, if the path does not end in a slash. -/
theorem pieces_of_withoutSlashes {path : Path} {name : Path.Piece} {outer : List Path.Piece}
    (cut : withoutSlashes path = name :: outer)
    (open_ : path.text.toList.getLast? ≠ some '/') : path.pieces = outer.reverse ++ [name] := by
  -- A silent piece behind the name could only be an empty one after a last slash.
  obtain ⟨slashes, pieces, empty⟩ := pieces_eq_of_withoutSlashes cut
  rcases List.eq_nil_or_concat slashes with none_ | ⟨front, last, whole⟩
  · rw [pieces, none_]
  · have idle := empty last (by rw [whole]; simp)
    rw [whole, idle, List.concat_eq_append] at pieces
    have cut' : path.pieces = (outer.reverse ++ name :: front) ++ [[]] :=
      pieces.trans (by simp)
    exact absurd (Text.getLast?_of_splitAtChar cut' (by simp)) open_

/-- From a directory a name leads to the place of that name in it. -/
theorem enter_of_name {here : Location} {name : Path.Piece}
    (found : files.get? here = some .directory) (said : name ≠ []) (stays : name ≠ ['.'])
    (outward : name ≠ ['.', '.']) (fits : fitsName name = true) :
    files.enter here name = .ok (here ++ [String.ofList name]) := by
  -- The name is none of the pieces that stay or lead outwards, and it is not too long.
  simp only [enter, found, said, stays, outward, fits, or_self, if_false, if_true]

/-- A walk that ends with an idle piece ends in a directory. -/
theorem walk_idle {here around : Location} {pieces : List Path.Piece}
    (walked : files.walk here (pieces ++ [[]]) = .ok around) :
    files.walk here pieces = .ok around ∧ files.get? around = some .directory := by
  -- An idle piece stays where it is, but only a directory lets it.
  rw [walk_append] at walked
  cases reached : files.walk here pieces with
  | error fault => simp [reached, Except.bind] at walked
  | ok there =>
    simp only [reached, Except.bind, walk] at walked
    cases found : files.get? there with
    | none => simp [found] at walked
    | some item =>
      cases item with
      | file bytes => simp [found] at walked
      | directory =>
        simp only [found, true_or, if_true, Except.ok.injEq] at walked
        rw [← walked]
        exact ⟨rfl, found⟩

/-- A path that names a place for something new, and does not end in a slash, leads there. -/
theorem locate_of_target {path : Path} {place : Location}
    (targeted : files.target path = .ok (.named place false)) :
    files.locate path = .ok place := by
  obtain ⟨name, outer, around, checked, cut, walked, ⟨stays, outward, fits⟩, rfl, open_⟩ :=
    target_eq_named_iff.mp targeted
  have pieces := pieces_of_withoutSlashes cut (beq_eq_false_iff_ne.mp open_.symm)
  obtain ⟨reached, found⟩ := walk_idle walked
  have entered := enter_of_name found (ne_nil_of_withoutSlashes cut) stays outward fits
  -- The way to the directory around is the front of the path, and the name is its last piece.
  refine locate_eq_ok_iff.mpr ⟨checked, ?_⟩
  calc files.walk (start path) path.pieces
    _ = files.walk around [name] := by
        rw [pieces, walk_append, reached]
        rfl
    _ = .ok (around ++ [String.ofList name]) := by
        rw [walk_cons, entered]
        rfl

/-- What is written names its place, and no directory stands there. -/
theorem target_of_write {path : Path} {bytes : List UInt8}
    (written : files.write path bytes = .ok after) :
    files.target path = .ok (.named path.place false) ∧
      files.get? path.place ≠ some .directory := by
  -- A write looks at the target before it touches it.
  obtain ⟨targeted, free, -⟩ := write_eq_ok_iff.mp written
  exact ⟨targeted, free⟩

/-- What names a place where no directory stands can be written. -/
theorem write_of_target {path : Path} (bytes : List UInt8)
    (targeted : files.target path = .ok (.named path.place false))
    (free : files.get? path.place ≠ some .directory) :
    files.write path bytes = .ok (files.set path.place (.file bytes)) :=
  write_eq_ok_iff.mpr ⟨targeted, free, rfl⟩

/-- The goal of a move names its place, and no directory stands there. -/
theorem target_of_rename {source goal : Path} (renamed : files.rename source goal = .ok after) :
    files.target goal = .ok (.named goal.place false) ∧
      files.get? goal.place ≠ some .directory := by
  -- The goal is looked at as a write looks at its target.
  obtain ⟨-, targeted, free, -⟩ := rename_eq_ok_iff.mp renamed
  exact ⟨targeted, free⟩

/-- A file can be moved to a name where no directory stands. -/
theorem rename_of_target (source goal : Path) {bytes : List UInt8}
    (located : files.locate source = .ok source.place)
    (found : files.get? source.place = some (.file bytes))
    (targeted : files.target goal = .ok (.named goal.place false))
    (free : files.get? goal.place ≠ some .directory) :
    files.rename source goal =
      .ok ((files.erase source.place).set goal.place (.file bytes)) :=
  rename_eq_ok_iff.mpr ⟨located, targeted, free, bytes, found, rfl⟩

/-- A change that puts a file in a place without a directory leaves the directories. -/
theorem sameDirectories_of_get? {place : Location} {item? : Option Item}
    (free : files.get? place ≠ some .directory) (filed : item? ≠ some .directory)
    (changed : ∀ other, after.get? other = if other = place then item? else files.get? other) :
    files.SameDirectories after := by
  -- At the changed place there is a directory neither before nor after.
  constructor
  · intro other found
    rw [changed, if_neg fun same : other = place => free (same ▸ found)]
    exact found
  · intro other found
    rw [changed] at found
    split at found
    · exact absurd found filed
    · exact found

/-- Writing leaves the directories. -/
theorem sameDirectories_of_write {path : Path} {bytes : List UInt8}
    (written : files.write path bytes = .ok after) : files.SameDirectories after :=
  -- A file is put where no directory is.
  sameDirectories_of_get? (target_of_write written).2 (by simp) (get?_of_write written)

/-- Only a file is removed. -/
theorem free_of_remove {path : Path} (removed : files.remove path = .ok after) :
    files.get? path.place ≠ some .directory := by
  -- There was a file at the place, and a file is no directory.
  obtain ⟨-, ⟨bytes, found⟩, -⟩ := remove_eq_ok_iff.mp removed
  simp [found]

/-- Removing a file leaves the directories. -/
theorem sameDirectories_of_remove {path : Path} (removed : files.remove path = .ok after) :
    files.SameDirectories after :=
  -- A place is emptied where no directory is.
  sameDirectories_of_get? (free_of_remove removed) (by simp) (get?_of_remove removed)

/-- Moving a file leaves the directories. -/
theorem sameDirectories_of_rename {source goal : Path}
    (renamed : files.rename source goal = .ok after) : files.SameDirectories after := by
  obtain ⟨bytes, found, changed⟩ := get?_of_rename renamed
  have free := (target_of_rename renamed).2
  -- Neither the source nor the goal is a directory, and no other place changes.
  constructor
  · intro place there
    rw [changed, if_neg fun same : place = goal.place => free (same ▸ there), if_neg]
    · exact there
    · intro same
      rw [same, found] at there
      simp at there
  · intro place there
    rw [changed] at there
    split at there
    · simp at there
    · split at there
      · simp at there
      · exact there

/-- Whatever stood anywhere stands there still. -/
def Extends (before after : Files) : Prop :=
  ∀ place item, before.get? place = some item → after.get? place = some item

/-- When nothing goes, the directories stay. -/
theorem Extends.keeps (extends_ : files.Extends after) : files.KeepsDirectories after :=
  -- A directory is one of the items that do not go.
  fun place => extends_ place .directory

/-- A new directory takes nothing away. -/
theorem extends_of_makeDirectory {path : Path} (made : files.makeDirectory path = .ok after) :
    files.Extends after := by
  intro place item found
  rw [get?_of_makeDirectory made, if_neg]
  · exact found
  · rintro rfl
    -- A directory is made where nothing stands.
    rw [(makeDirectory_eq_ok_iff.mp made).2.1] at found
    simp at found

/-- Making a directory and those around it takes nothing away. -/
theorem extends_makeDirectories (files : Files) (path : Path) :
    files.Extends (files.makeDirectories path).2 :=
  -- To stand where it stood is kept by doing nothing, by one step and by two in a row.
  makeNested_keeps Extends (fun _ _ _ found => found)
    (fun one two place item found => two place item (one place item found))
    extends_of_makeDirectory files path.ancestors

/-- A file that can be read can be read as long as it stands there and no directory goes. -/
theorem read_of_keeps {path : Path} {bytes held : List UInt8}
    (keeps : files.KeepsDirectories after) (read_ : files.read path = .ok bytes)
    (found : after.get? path.place = some (.file held)) : after.read path = .ok held := by
  -- The path leads to its place through the same directories, and the file there is read.
  have located := (read_eq_ok_iff_locate.mp read_).1
  exact read_eq_ok_iff_locate.mpr ⟨locate_of_keeps keeps located, found⟩

/-- A file that stands where a path leads can be read. -/
theorem read_of_locate {path : Path} {bytes : List UInt8}
    (located : files.locate path = .ok path.place)
    (found : files.get? path.place = some (.file bytes)) : files.read path = .ok bytes :=
  read_eq_ok_iff_locate.mpr ⟨located, found⟩

end Files

namespace Disk

variable {disk : Disk} {path : Path} {bytes : List UInt8}

/-- A write through a sibling that succeeds has moved the filled sibling. -/
theorem steps_of_writeAtomically (done : (disk.writeAtomically path bytes).2 = .ok ()) :
    ∃ made filled, disk.files.write (disk.sibling path disk.drawn) [] = .ok made ∧
      made.write (disk.sibling path disk.drawn) bytes = .ok filled ∧
      filled.rename (disk.sibling path disk.drawn) path =
        .ok (disk.writeAtomically path bytes).1.files := by
  rw [writeAtomically_eq] at done ⊢
  cases wrote : disk.files.write (disk.sibling path disk.drawn) [] with
  | error fault => simp [wrote] at done
  | ok made =>
    cases wrote' : made.write (disk.sibling path disk.drawn) bytes with
    | error fault => simp [wrote, wrote'] at done
    | ok filled =>
      refine ⟨made, filled, rfl, wrote', ?_⟩
      cases renamed : filled.rename (disk.sibling path disk.drawn) path with
      | ok after => simp only [wrote, wrote', renamed]
      | error fault =>
        -- A failed move ends the write without success.
        cases removed : filled.remove (disk.sibling path disk.drawn) with
        | ok after => simp [wrote, wrote', renamed, removed] at done
        | error fault' => simp [wrote, wrote', renamed, removed] at done

/-- A write through a sibling succeeds when the sibling can be made, filled and moved. -/
theorem writeAtomically_of_steps {made filled after : Files}
    (wrote : disk.files.write (disk.sibling path disk.drawn) [] = .ok made)
    (wrote' : made.write (disk.sibling path disk.drawn) bytes = .ok filled)
    (renamed : filled.rename (disk.sibling path disk.drawn) path = .ok after) :
    (disk.writeAtomically path bytes).2 = .ok () := by
  -- The three steps are all that a write through a sibling does when none of them fails.
  rw [writeAtomically_eq]
  simp only [wrote, wrote', renamed]

/-- A write through a sibling leaves the directories. -/
theorem sameDirectories_writeAtomically (disk : Disk) (path : Path) (bytes : List UInt8) :
    disk.files.SameDirectories (disk.writeAtomically path bytes).1.files := by
  -- Each step puts in, moves or takes away a file, so directories stay through all of them.
  rcases disk.writeAtomically_cases path bytes with
    same | ⟨made, wrote, same | ⟨filled, wrote', same | removed | renamed⟩⟩
  · rw [same]
    exact .refl _
  · rw [same]
    exact Files.sameDirectories_of_write wrote
  · rw [same]
    exact (Files.sameDirectories_of_write wrote).trans (Files.sameDirectories_of_write wrote')
  · exact ((Files.sameDirectories_of_write wrote).trans
      (Files.sameDirectories_of_write wrote')).trans (Files.sameDirectories_of_remove removed)
  · exact ((Files.sameDirectories_of_write wrote).trans
      (Files.sameDirectories_of_write wrote')).trans (Files.sameDirectories_of_rename renamed)

/-- Beside the sibling a write through it changes nothing but its goal, and that only if the path
leads there. -/
theorem get?_writeAtomically (bytes : List UInt8) {place : Location}
    (apart : place ≠ (disk.sibling path disk.drawn).place) :
    (disk.writeAtomically path bytes).1.files.get? place = disk.files.get? place ∨
      place = path.place ∧ disk.files.locate path = .ok path.place := by
  rcases disk.writeAtomically_cases path bytes with
    same | ⟨made, wrote, same | ⟨filled, wrote', same | removed | renamed⟩⟩
  · rw [same]
    exact Or.inl rfl
  · rw [same, Files.get?_of_write wrote, if_neg apart]
    exact Or.inl rfl
  · rw [same, Files.get?_of_write wrote', if_neg apart, Files.get?_of_write wrote, if_neg apart]
    exact Or.inl rfl
  · rw [Files.get?_of_remove removed, if_neg apart, Files.get?_of_write wrote', if_neg apart,
      Files.get?_of_write wrote, if_neg apart]
    exact Or.inl rfl
  · obtain ⟨_, _, moved⟩ := Files.get?_of_rename renamed
    by_cases goal : place = path.place
    · -- What names the goal of a move leads there, and did so before.
      have located := Files.locate_of_target (Files.target_of_rename renamed).1
      have same := (Files.sameDirectories_of_write wrote).trans
        (Files.sameDirectories_of_write wrote')
      exact Or.inr ⟨goal, Files.locate_of_keeps same.adds located⟩
    · rw [moved, if_neg goal, if_neg apart, Files.get?_of_write wrote', if_neg apart,
        Files.get?_of_write wrote, if_neg apart]
      exact Or.inl rfl

/-- What was written through a sibling can be read. -/
theorem read_writeAtomically (done : (disk.writeAtomically path bytes).2 = .ok ()) :
    (disk.writeAtomically path bytes).1.files.read path = .ok bytes := by
  obtain ⟨made, filled, -, wrote', renamed⟩ := steps_of_writeAtomically done
  obtain ⟨held, source, moved⟩ := Files.get?_of_rename renamed
  -- What is moved is what the sibling was filled with.
  rw [Files.get?_of_write wrote', if_pos rfl, Option.some.injEq, Item.file.injEq] at source
  have located := Files.locate_of_target (Files.target_of_rename renamed).1
  refine Files.read_of_locate
    (Files.locate_of_keeps (Files.sameDirectories_of_rename renamed).keeps located) ?_
  rw [moved, if_pos rfl, source]

/-- Whether a write through a sibling succeeds depends on the directories only, and not on the
bytes. -/
theorem writeAtomically_of_same (done : (disk.writeAtomically path bytes).2 = .ok ())
    {files : Files} (same : disk.files.SameDirectories files) (bytes : List UInt8) :
    ((disk.withFiles files).writeAtomically path bytes).2 = .ok () := by
  let sibling := disk.sibling path disk.drawn
  obtain ⟨made, filled, wrote, wrote', renamed⟩ := steps_of_writeAtomically done
  obtain ⟨targeted, free⟩ := Files.target_of_write wrote
  obtain ⟨targeted', free'⟩ := Files.target_of_rename renamed
  have own : disk.files.SameDirectories filled :=
    (Files.sameDirectories_of_write wrote).trans (Files.sameDirectories_of_write wrote')
  -- The sibling is made and filled among the other files.
  have again : files.write sibling [] = .ok (files.set sibling.place (.file [])) :=
    Files.write_of_target [] (Files.target_of_keeps same.keeps targeted)
      fun found => free (same.adds _ found)
  have left := Files.sameDirectories_of_write again
  have again' : (files.set sibling.place (.file [])).write sibling bytes =
      .ok ((files.set sibling.place (.file [])).set sibling.place (.file bytes)) :=
    Files.write_of_target bytes (Files.target_of_keeps (same.trans left).keeps targeted)
      fun found => free ((same.trans left).adds _ found)
  have left' := left.trans (Files.sameDirectories_of_write again')
  have there := own.symm.trans (same.trans left')
  -- The goal can be named there, and the sibling is moved to it.
  have moved := Files.rename_of_target sibling path
    (Files.locate_of_target (Files.target_of_keeps (same.trans left').keeps targeted))
    ((Files.get?_of_write again' _).trans (if_pos rfl))
    (Files.target_of_keeps there.keeps targeted') fun found => free' (there.adds _ found)
  exact writeAtomically_of_steps again again' moved

/-- A file can be written through a sibling, whatever the bytes are. -/
def Accepts (disk : Disk) (path : Path) : Prop :=
  ∀ bytes, (disk.writeAtomically path bytes).2 = .ok ()

/-- A disk that accepts some bytes accepts all. -/
theorem accepts_of_isOk (bytes : List UInt8)
    (done : (disk.writeAtomically path bytes).2.isOk = true) : disk.Accepts path := by
  -- Whether a write succeeds is decided before the bytes are looked at.
  cases result : (disk.writeAtomically path bytes).2 with
  | ok => exact writeAtomically_of_same result (.refl _)
  | error fault => simp [result, Except.isOk, Except.toBool] at done

/-- A disk accepts what it accepted with the same directories. -/
theorem Accepts.withFiles (accepts : disk.Accepts path) {files : Files}
    (same : disk.files.SameDirectories files) : (disk.withFiles files).Accepts path :=
  -- A write without bytes is enough to know what a disk accepts.
  writeAtomically_of_same (accepts []) same

end Disk

end ShaderBuild
