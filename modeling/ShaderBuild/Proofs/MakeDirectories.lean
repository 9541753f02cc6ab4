import ShaderBuild.Proofs.ParentPaths

/-! Making a directory from the outside inwards makes what the program makes. -/

namespace ShaderBuild

namespace Files

variable {files after : Files} {here : Location} {piece : Path.Piece} {pieces : List Path.Piece}

/-- Follows pieces and makes the directories that are missing. Tells whether the end was reached. -/
def pave (files : Files) (here : Location) : List Path.Piece → Bool × Files
  | [] => (true, files)
  | piece :: rest =>
    if fitsName piece then
      match files.get? (here.next piece) with
      | none => (files.set (here.next piece) .directory).pave (here.next piece) rest
      | some .directory => files.pave (here.next piece) rest
      | some (.file _) => (false, files)
    else (false, files)

/-- A location that can be left in all directions: it and all around it are directories, and double
dots only lead out of the working directory. -/
def Firm (files : Files) (here : Location) : Prop :=
  ∀ place : Location, place <+: here → files.get? place = some .directory ∧
    (place.getLast? = some ".." → place.isFixed = true)

/-- A firm location is a directory. -/
theorem Firm.directory (firm : files.Firm here) : files.get? here = some .directory :=
  (firm here (List.prefix_refl here)).1

/-- A location stays firm as long as the directories are there. -/
theorem Firm.of_keeps (firm : files.Firm here) (keeps : files.KeepsDirectories after) :
    after.Firm here :=
  fun place around => ⟨keeps place (firm place around).1, (firm place around).2⟩

/-- A place that is always there is firm. -/
theorem firm_start (files : Files) (path : Path) : files.Firm (start path) := by
  -- Around the start of a path there is only the root, or the working directory.
  have fixed : ∀ place : Location, place <+: start path → place.isFixed = true := by
    intro place around
    unfold start at around
    split at around
    · rcases List.prefix_cons_iff.mp around with rfl | ⟨rest, rfl, nothing⟩
      · rfl
      · rw [List.prefix_nil.mp nothing]
        rfl
    · rw [List.prefix_nil.mp around]
      rfl
  exact fun place around => ⟨by rw [get?, fixed place around, if_pos rfl], fun _ => fixed place around⟩

/-- The location around a firm one is firm. -/
theorem Firm.up (firm : files.Firm here) : files.Firm here.up := by
  unfold Location.up
  cases last : here.getLast? with
  | none =>
    -- Outside the working directory there is always a directory.
    intro (place : Location) around
    have fixed : place.isFixed = true := by
      rcases List.prefix_cons_iff.mp around with rfl | ⟨rest, rfl, none_⟩
      · rfl
      · rw [List.prefix_nil.mp none_]
        rfl
    exact ⟨by rw [get?, fixed, if_pos rfl], fun _ => fixed⟩
  | some name =>
    simp only
    split
    · rename_i outward
      have fixed := (firm here (List.prefix_refl here)).2 (by rw [last, outward])
      -- Only double dots have led here.
      have dots : here.all (· == "..") = true := by
        rw [Location.isFixed, Bool.or_eq_true] at fixed
        rcases fixed with dots | root
        · exact dots
        · rw [beq_iff_eq.mp root] at last
          rw [outward] at last
          simp [Location.root] at last
      intro place around
      rcases List.prefix_concat_iff.mp around with rfl | inner
      · have fixed' : (here ++ [".."]).isFixed = true := by
          rw [Location.isFixed, List.all_append, dots]
          rfl
        exact ⟨by rw [get?, fixed', if_pos rfl], fun _ => fixed'⟩
      · exact firm place inner
    · split
      · rename_i root
        exact fun place around => firm place (root ▸ around)
      · exact fun place around => firm place (around.trans (List.dropLast_prefix here))

/-- A directory in a firm location is firm. -/
theorem Firm.next (firm : files.Firm here)
    (found : files.get? (here.next piece) = some .directory) : files.Firm (here.next piece) := by
  unfold Location.next at found ⊢
  split
  · exact firm
  · split
    · exact firm.up
    · rename_i idle outward
      rw [if_neg idle, if_neg outward] at found
      intro place around
      rcases List.prefix_concat_iff.mp around with rfl | inner
      · refine ⟨found, fun last => ?_⟩
        -- The name is no double dot.
        rw [List.getLast?_concat, Option.some.injEq] at last
        have letters := congrArg String.toList last
        rw [String.toList_ofList] at letters
        exact absurd letters outward
      · exact firm place inner

/-- An idle piece, or one that leads outwards, leads from a firm location to a directory. -/
theorem Firm.directory_next (firm : files.Firm here)
    (lasting : (piece = [] ∨ piece = ['.']) ∨ piece = ['.', '.']) :
    files.get? (here.next piece) = some .directory := by
  -- An idle piece stays at the location; the other one leads to the location around it.
  rw [Location.next]
  split
  · exact firm.directory
  · rename_i idle
    rw [if_pos (lasting.resolve_left idle)]
    exact firm.up.directory

/-- A piece that is no name fits. -/
theorem fitsName_of_lasting (lasting : (piece = [] ∨ piece = ['.']) ∨ piece = ['.', '.']) :
    fitsName piece = true := by
  -- None of them is longer than two letters.
  rcases lasting with (rfl | rfl) | rfl <;> decide

/-- From a firm location a piece that fits can be entered. -/
theorem Firm.enter (firm : files.Firm here) :
    files.enter here piece =
      if fitsName piece then .ok (here.next piece) else .error .nameTooLong := by
  -- The location is a directory, so only a name that is too long can stop the piece.
  unfold Files.enter Location.next
  rw [firm.directory]
  by_cases idle : piece = [] ∨ piece = ['.']
  · simp only [if_pos idle, fitsName_of_lasting (Or.inl idle), if_true]
  · by_cases outward : piece = ['.', '.']
    · simp only [if_neg idle, if_pos outward, fitsName_of_lasting (Or.inr outward), if_true]
    · simp only [if_neg idle, if_neg outward]

/-- A piece that can be entered fits. -/
theorem fitsName_of_enter {there : Location} (entered : files.enter here piece = .ok there) :
    fitsName piece = true := by
  unfold Files.enter at entered
  split at entered
  · simp at entered
  · simp at entered
  -- Only a name can be too long.
  · split at entered
    · rename_i idle
      exact fitsName_of_lasting (Or.inl idle)
    · split at entered
      · rename_i outward
        exact fitsName_of_lasting (Or.inr outward)
      · split at entered
        · rename_i fits
          exact fits
        · simp at entered

/-- Pieces are paved one after the other. -/
theorem pave_append (files : Files) (here : Location) (first second : List Path.Piece) :
    files.pave here (first ++ second) =
      if (files.pave here first).1 then
        (files.pave here first).2.pave (here.follow first) second
      else (false, (files.pave here first).2) := by
  induction first generalizing files here with
  | nil => simp [pave, Location.follow]
  | cons piece first ih =>
    rw [List.cons_append, pave, pave, Location.follow_cons]
    -- Paving stops at the first piece that cannot be paved, and nothing behind it is looked at.
    split
    · cases files.get? (here.next piece) with
      | none => exact ih _ _
      | some item =>
        cases item with
        | file bytes => simp
        | directory => exact ih _ _
    · simp

/-- Nothing is made where nothing is missing. -/
theorem pave_of_walk {place : Location} (walked : files.walk here (pieces ++ [[]]) = .ok place) :
    files.pave here pieces = (true, files) := by
  -- Piece by piece each directory is there already.
  induction pieces generalizing here with
  | nil => rfl
  | cons piece pieces ih =>
    rw [List.cons_append, walk_cons] at walked
    cases entered : files.enter here piece with
    | error fault => simp [entered, Except.bind] at walked
    | ok there =>
      obtain rfl := next_of_enter entered
      simp only [entered, Except.bind] at walked
      have found : files.get? (here.next piece) = some .directory := by
        refine directory_of_walk walked _ ?_
        cases pieces <;> exact List.mem_cons_self
      rw [pave, if_pos (fitsName_of_enter entered), found]
      exact ih walked

/-- A walk that has nothing to leave says that it is missing. -/
theorem walk_of_missing (missing : files.get? here = none) :
    files.walk here (pieces ++ [[]]) = .error .missing := by
  -- The location itself is looked at before any piece is followed.
  cases pieces with
  | nil => rw [List.nil_append, walk, missing]
  | cons piece pieces => rw [List.cons_append, walk, missing]

/-- What is not merely missing cannot be made. -/
theorem Firm.pave_of_fault (firm : files.Firm here) {fault : FileFault}
    (walked : files.walk here (pieces ++ [[]]) = .error fault) (hard : fault ≠ .missing) :
    files.pave here pieces = (false, files) := by
  -- The first piece at which the walk stops is no missing one, and paving stops there as well.
  induction pieces generalizing here with
  | nil =>
    rw [List.nil_append, walk_cons, firm.enter] at walked
    simp [fitsName_of_lasting, Except.bind, walk] at walked
  | cons piece pieces ih =>
    rw [List.cons_append, walk_cons, firm.enter] at walked
    rw [pave]
    split at walked
    · rename_i fits
      rw [if_pos fits]
      simp only [Except.bind] at walked
      cases found : files.get? (here.next piece) with
      | none =>
        exact absurd (Except.error.inj (walked.symm.trans (walk_of_missing found))) hard
      | some item =>
        cases item with
        | file bytes => rfl
        | directory => exact ih (firm.next found) walked
    · rename_i long
      rw [if_neg long]

/-- A location where nothing stands is not always a directory. -/
theorem isFixed_of_missing {place : Location} (missing : files.get? place = none) :
    place.isFixed = false :=
  -- Fixed locations are directories, so something stands there.
  isFixed_eq_false (by rw [missing]; simp)

/-- A new directory where nothing stands takes nothing away. -/
theorem extends_set {place : Location} (missing : files.get? place = none) :
    files.Extends (files.set place .directory) := by
  -- What stands somewhere does not stand where nothing did.
  intro other item found
  rw [get?_set (isFixed_of_missing missing), if_neg]
  · exact found
  · rintro rfl
    rw [missing] at found
    simp at found

/-- Where a piece leads there is a directory at once, and the way goes on from there; or a name is too
long or that of a file, and nothing changes. -/
theorem pave_cons (files : Files) (here : Location) (piece : Path.Piece)
    (pieces : List Path.Piece) :
    (∃ laid : Files, fitsName piece = true ∧ files.Extends laid ∧
      laid.get? (here.next piece) = some .directory ∧
      (∀ place, place ≠ here.next piece → laid.get? place = files.get? place) ∧
      files.pave here (piece :: pieces) = laid.pave (here.next piece) pieces) ∨
    files.pave here (piece :: pieces) = (false, files) := by
  -- One piece is laid as what stands where it leads allows: nothing, a file or a directory.
  rw [pave]
  split
  · rename_i fits
    cases found : files.get? (here.next piece) with
    | none =>
      refine Or.inl ⟨_, fits, extends_set found, get?_set_self (isFixed_of_missing found),
        fun place apart => get?_set_of_ne apart, rfl⟩
    | some item =>
      cases item with
      | file bytes => exact Or.inr rfl
      | directory => exact Or.inl ⟨files, fits, fun _ _ there => there, found, fun _ _ => rfl, rfl⟩
  · exact Or.inr rfl

/-- Paving takes nothing away. -/
theorem extends_pave (files : Files) (here : Location) (pieces : List Path.Piece) :
    files.Extends (files.pave here pieces).2 := by
  -- Induction on the pieces, with the files after the first one.
  induction pieces generalizing files here with
  | nil => exact fun _ _ found => found
  | cons piece pieces ih =>
    rcases files.pave_cons here piece pieces with ⟨laid, -, extends_, -, -, same⟩ | same
    · rw [same]
      exact fun place item found => ih laid _ place item (extends_ place item found)
    · rw [same]
      exact fun _ _ found => found

/-- What is new after paving is a directory on the way. -/
theorem get?_pave (files : Files) (here : Location) (pieces : List Path.Piece) (place : Location) :
    (files.pave here pieces).2.get? place = files.get? place ∨
      files.get? place = none ∧ (files.pave here pieces).2.get? place = some .directory ∧
        place ∈ here.way (pieces ++ [[]]) := by
  induction pieces generalizing files here with
  | nil => exact Or.inl rfl
  | cons piece pieces ih =>
    rcases files.pave_cons here piece pieces with ⟨laid, -, extends_, found, others, same⟩ | same
    · rw [same, List.cons_append, Location.way]
      by_cases own : place = here.next piece
      · subst own
        -- The directory is laid now, or was there before.
        have after := extends_pave laid (here.next piece) pieces _ _ found
        cases before : files.get? (here.next piece) with
        | none =>
          refine Or.inr ⟨rfl, after, List.mem_cons_of_mem _ ?_⟩
          cases pieces <;> exact List.mem_cons_self
        | some item => rw [after, ← extends_ _ _ before, found]; exact Or.inl rfl
      · rw [← others place own]
        exact (ih laid (here.next piece)).imp_right
          (And.imp_right (And.imp_right (List.mem_cons_of_mem _)))
    · rw [same]
      exact Or.inl rfl

/-- What is paved can be walked, and its end is firm. -/
theorem Firm.walk_pave (firm : files.Firm here) (paved : (files.pave here pieces).1 = true) :
    (files.pave here pieces).2.walk here (pieces ++ [[]]) = .ok (here.follow pieces) ∧
      (files.pave here pieces).2.Firm (here.follow pieces) := by
  -- What was there before stays while the rest is paved.
  induction pieces generalizing files here with
  | nil =>
    refine ⟨?_, firm⟩
    show files.walk here [[]] = .ok here
    rw [walk_cons, firm.enter]
    rfl
  | cons piece pieces ih =>
    rcases files.pave_cons here piece pieces with ⟨laid, fits, extends_, found, -, same⟩ | same
    · rw [same] at paved ⊢
      have firm' := firm.of_keeps extends_.keeps
      obtain ⟨walked, end_⟩ := ih (firm'.next found) paved
      have firm'' := firm'.of_keeps (extends_pave laid (here.next piece) pieces).keeps
      rw [Location.follow_cons]
      refine ⟨?_, end_⟩
      rw [List.cons_append, walk_cons, firm''.enter, if_pos fits]
      exact walked
    · rw [same] at paved
      simp at paved

/-- Where paths begin that are written from pieces. -/
def base (absolute : Bool) : Location :=
  if absolute then Location.root else []

section Ancestors

variable {absolute : Bool} {outer : List Path.Piece}

/-- A path that is written from pieces begins where it was to begin. -/
theorem start_ofBody (tidy : Path.Tidy absolute outer) :
    start (Path.ofBody absolute outer) = base absolute := by
  -- Whether a path is absolute can be read back from its text.
  rw [start, Path.isAbsolute_ofBody tidy, base]

/-- Where a path begins is firm. -/
theorem firm_base (files : Files) (absolute : Bool) : files.Firm (base absolute) := by
  -- The start of the root path or of the empty one.
  have firm := files.firm_start ⟨if absolute then "/" else ""⟩
  cases absolute <;> exact firm

/-- The piece before the first slash of a path from the root makes no difference. -/
theorem walk_base (files : Files) (absolute : Bool) (pieces : List Path.Piece) :
    files.walk (base absolute) ((if absolute then [[]] else []) ++ pieces) =
      files.walk (base absolute) pieces := by
  -- At the root the empty piece stays where it is.
  cases absolute with
  | false => rfl
  | true =>
    rw [if_pos rfl, List.singleton_append, walk_cons, (firm_base files true).enter]
    rfl

/-- The last piece that says something is the last one that is written. -/
theorem withoutSlashes_ofBody (tidy : Path.Tidy absolute (piece :: outer)) (said : piece ≠ []) :
    withoutSlashes (Path.ofBody absolute (piece :: outer)) =
      piece :: (outer ++ if absolute then [[]] else []) := by
  -- Read backwards the path begins with its last piece, which is not dropped because it is not
  -- empty.
  rw [withoutSlashes, Path.pieces_ofBody tidy, if_neg (List.cons_ne_nil _ _), List.reverse_append,
    List.reverse_reverse, List.cons_append, List.dropWhile_cons_of_neg (by simpa using said)]
  cases absolute <;> rfl

/-- Where a path leads that is written from pieces. -/
theorem locate_ofBody (files : Files) (tidy : Path.Tidy absolute (piece :: outer))
    (checked : checkPath (Path.ofBody absolute (piece :: outer)) = .ok ()) :
    files.locate (Path.ofBody absolute (piece :: outer)) =
      files.walk (base absolute) (outer.reverse ++ [piece]) := by
  -- The pieces of a tidy path are read back from its text.
  rw [locate, checked, start_ofBody tidy, Path.pieces_ofBody tidy, if_neg (List.cons_ne_nil _ _),
    List.reverse_cons]
  exact files.walk_base absolute _

/-- What a path names for something new that is written from pieces. -/
theorem target_ofBody (files : Files) (tidy : Path.Tidy absolute (piece :: outer))
    (checked : checkPath (Path.ofBody absolute (piece :: outer)) = .ok ()) (said : piece ≠ []) :
    files.target (Path.ofBody absolute (piece :: outer)) =
      (files.walk (base absolute) (outer.reverse ++ [[]])).bind fun around =>
        if piece = ['.'] ∨ piece = ['.', '.'] then .ok .around
        else if fitsName piece then
          .ok (.named (around ++ [String.ofList piece])
            ((Path.ofBody absolute (piece :: outer)).text.toList.getLast? == some '/'))
        else .error .nameTooLong := by
  -- The pieces around the last one are walked; the one in front of the root's slash goes nowhere.
  have lead : (outer ++ if absolute then [[]] else []).reverse ++ [[]] =
      (if absolute then [[]] else []) ++ (outer.reverse ++ [[]]) := by
    cases absolute <;> simp
  unfold target
  simp only [checked, withoutSlashes_ofBody tidy said, start_ofBody tidy, lead, walk_base]
  rfl

/-- Making a directory in one that is there paves its name; or it fails, and then nothing is to be
made or it cannot be. -/
theorem makeDirectory_ofBody {around : Location} (tidy : Path.Tidy absolute (piece :: outer))
    (checked : checkPath (Path.ofBody absolute (piece :: outer)) = .ok ()) (said : piece ≠ [])
    (walked : files.walk (base absolute) (outer.reverse ++ [[]]) = .ok around)
    (firm : files.Firm around) :
    (∃ after, files.makeDirectory (Path.ofBody absolute (piece :: outer)) = .ok after ∧
      files.pave around [piece] = (true, after)) ∨
    ∃ fault, files.makeDirectory (Path.ofBody absolute (piece :: outer)) = .error fault ∧
      fault ≠ .missing ∧ files.pave around [piece] =
        (files.isDirectory (Path.ofBody absolute (piece :: outer)), files) := by
  have targeted := files.target_ofBody tidy checked said
  rw [walked] at targeted
  -- Whether the path leads to a directory is seen from the directory around it.
  have seen : files.isDirectory (Path.ofBody absolute (piece :: outer)) =
      (fitsName piece && files.get? (around.next piece) == some .directory) := by
    rw [isDirectory, find?, files.locate_ofBody tidy checked, walk_append, (walk_idle walked).1]
    simp only [Except.bind, walk_cons, firm.enter]
    by_cases fits : fitsName piece
    · simp [fits, walk]
    · simp [fits]
  by_cases lasting : piece = ['.'] ∨ piece = ['.', '.']
  · -- There is a directory already.
    have lasting' : (piece = [] ∨ piece = ['.']) ∨ piece = ['.', '.'] :=
      lasting.imp_left Or.inr
    refine Or.inr ⟨.occupied, ?_, by simp, ?_⟩
    · unfold makeDirectory
      rw [targeted]
      simp only [Except.bind, if_pos lasting, bind]
    · rw [seen, pave, fitsName_of_lasting lasting', firm.directory_next lasting']
      rfl
  · obtain ⟨stays, outward⟩ := not_or.mp lasting
    have named : around.next piece = around ++ [String.ofList piece] := by
      rw [Location.next, if_neg (by simp [said, stays]), if_neg outward]
    by_cases fits : fitsName piece
    · rw [seen, pave, fits, named]
      unfold makeDirectory
      rw [targeted]
      simp only [Except.bind, if_neg lasting, bind, fits, if_true]
      cases found : files.get? (around ++ [String.ofList piece]) with
      | none => exact Or.inl ⟨_, rfl, rfl⟩
      | some item =>
        cases item with
        | file bytes => exact Or.inr ⟨.occupied, rfl, by simp, rfl⟩
        | directory => exact Or.inr ⟨.occupied, rfl, by simp, rfl⟩
    · refine Or.inr ⟨.nameTooLong, ?_, by simp, ?_⟩
      · unfold makeDirectory
        rw [targeted]
        simp [Except.bind, lasting, bind, fits]
      · rw [seen, pave]
        simp [fits]

/-- The text of a path is not empty when its last piece says something. -/
theorem text_ofBody_ne (tidy : Path.Tidy absolute (piece :: outer)) (said : piece ≠ []) :
    (Path.ofBody absolute (piece :: outer)).text ≠ "" := by
  -- An empty text has one empty piece, which would be the last piece of the path.
  intro empty
  have pieces := Path.pieces_ofBody tidy
  rw [Path.pieces, empty, if_neg (List.cons_ne_nil _ _), List.reverse_cons, ← List.append_assoc]
    at pieces
  have whole : Text.splitAtChar '/' "".toList = [] ++ [[]] := rfl
  rw [whole] at pieces
  have last := (List.append_inj' pieces rfl).2
  exact said (List.cons.inj last).1.symm

/-- What leads on from a location leads to a directory there. -/
theorem walk_of_concat {place : Location} (walked : files.walk here (pieces ++ [piece]) = .ok place) :
    files.walk here (pieces ++ [[]]) = .ok (here.follow pieces) := by
  -- The last piece is walked from where the others lead, and only a directory can be left.
  have directory := directory_of_walk walked
  rw [walk_append] at walked ⊢
  cases reached : files.walk here pieces with
  | error fault => simp [reached, Except.bind] at walked
  | ok there =>
    obtain rfl := follow_of_walk reached
    have found := directory (here.follow pieces) (by
      rw [Location.way_append]
      exact List.mem_append_right _ List.mem_cons_self)
    simp [Except.bind, walk, found]

/-- An idle piece needs no directory. -/
theorem Firm.pave_idle (firm : files.Firm here) (idle : piece = [] ∨ piece = ['.']) :
    files.pave here [piece] = (true, files) := by
  -- The piece leads to the location where it begins, which is a directory.
  rw [pave, fitsName_of_lasting (Or.inl idle), firm.directory_next (Or.inl idle)]
  rfl

/-- Making nested directories is over when the innermost one is made at once. -/
theorem makeNested_of_made {path : Path} {around : List Path} (some_ : path.text ≠ "")
    (made : files.makeDirectory path = .ok after) :
    files.makeNested (path :: around) = (.ok (), after) := by
  -- The first attempt is the innermost directory.
  rw [makeNested, if_neg (by simpa [String.isEmpty_iff] using some_)]
  simp only [made]

/-- Making nested directories is over when the innermost one cannot be made for another reason than
that those around it are missing. -/
theorem makeNested_of_fault {path : Path} {around : List Path} {fault : FileFault}
    (some_ : path.text ≠ "") (made : files.makeDirectory path = .error fault)
    (hard : fault ≠ .missing) :
    files.makeNested (path :: around) =
      if files.isDirectory path then (.ok (), files) else (.error fault, files) := by
  -- Only the fault for missing directories sends the attempt outwards.
  rw [makeNested, if_neg (by simpa [String.isEmpty_iff] using some_)]
  cases fault with
  | missing => exact absurd rfl hard
  | _ => simp only [made]

/-- Making nested directories goes on outwards while they are missing, and then comes back. -/
theorem makeNested_of_missing {path : Path} {around : List Path} (some_ : path.text ≠ "")
    (made : files.makeDirectory path = .error .missing) :
    files.makeNested (path :: around) =
      match files.makeNested around with
      | (.error fault, after) => (.error fault, after)
      | (.ok (), after) =>
        match after.makeDirectory path with
        | .ok done => (.ok (), done)
        | .error fault =>
          if after.isDirectory path then (.ok (), after) else (.error fault, after) := by
  -- The first attempt says that something is missing, so what is left is the outer part of the
  -- code.
  rw [makeNested, if_neg (by simpa [String.isEmpty_iff] using some_)]
  generalize files.makeDirectory path = result at made ⊢
  subst made
  rfl

/-- Where paths begin there is a directory always. -/
theorem makeDirectories_base (files : Files) (absolute : Bool) :
    ((files.makeDirectories (Path.ofBody absolute [])).1.isOk,
        (files.makeDirectories (Path.ofBody absolute [])).2) = (true, files) := by
  -- The empty path needs nothing; the root cannot be made, but it is there.
  cases absolute with
  | false => rfl
  | true =>
    have made : files.makeDirectory (Path.ofBody true []) = .error .occupied := rfl
    have there : files.isDirectory (Path.ofBody true []) = true := rfl
    have nested : files.makeDirectories (Path.ofBody true []) = (.ok (), files) := by
      rw [makeDirectories, Path.ancestors, makeNested_of_fault (by decide) made (by simp), there,
        if_pos rfl]
    rw [nested]
    rfl

/-- Where the directory around is there, making nested directories paves the last name. -/
theorem makeNested_of_walk {around : Location} {rest : List Path}
    (tidy : Path.Tidy absolute (piece :: outer))
    (checked : checkPath (Path.ofBody absolute (piece :: outer)) = .ok ()) (said : piece ≠ [])
    (walked : files.walk (base absolute) (outer.reverse ++ [[]]) = .ok around)
    (firm : files.Firm around) :
    ((files.makeNested (Path.ofBody absolute (piece :: outer) :: rest)).1.isOk,
        (files.makeNested (Path.ofBody absolute (piece :: outer) :: rest)).2) =
      files.pave around [piece] := by
  have some_ := text_ofBody_ne tidy said
  rcases makeDirectory_ofBody tidy checked said walked firm with
    ⟨after, made, own⟩ | ⟨fault, made, hard, own⟩
  · rw [makeNested_of_made some_ made, own]
    rfl
  · rw [makeNested_of_fault some_ made hard, own]
    -- A directory that is there already is no failure.
    split
    · rename_i there
      rw [there]
      rfl
    · rename_i absent
      exact Prod.ext (Bool.eq_false_iff.mpr absent).symm rfl

/-- Where the directories around were missing and have been made, making nested directories comes back
and paves the last name. -/
theorem makeNested_of_laid {around : Location} {rest : List Path}
    (tidy : Path.Tidy absolute (piece :: outer))
    (checked : checkPath (Path.ofBody absolute (piece :: outer)) = .ok ()) (said : piece ≠ [])
    (missing : files.makeDirectory (Path.ofBody absolute (piece :: outer)) = .error .missing)
    (laid : files.makeNested rest = (.ok (), after))
    (walked : after.walk (base absolute) (outer.reverse ++ [[]]) = .ok around)
    (firm : after.Firm around) :
    ((files.makeNested (Path.ofBody absolute (piece :: outer) :: rest)).1.isOk,
        (files.makeNested (Path.ofBody absolute (piece :: outer) :: rest)).2) =
      after.pave around [piece] := by
  rw [makeNested_of_missing (text_ofBody_ne tidy said) missing, laid]
  -- This time the directory around is there, and a directory that is there already is no failure.
  rcases makeDirectory_ofBody tidy checked said walked firm with
    ⟨done, made, own⟩ | ⟨fault, made, -, own⟩
  · rw [own]
    simp only [made]
    rfl
  · rw [own]
    simp only [made]
    split
    · rename_i there
      rw [there]
      rfl
    · rename_i absent
      exact Prod.ext (Bool.eq_false_iff.mpr absent).symm rfl

/-- Where the directory around cannot be reached nothing is made in it. -/
theorem makeDirectory_of_unreached {fault : FileFault}
    (tidy : Path.Tidy absolute (piece :: outer))
    (checked : checkPath (Path.ofBody absolute (piece :: outer)) = .ok ()) (said : piece ≠ [])
    (walked : files.walk (base absolute) (outer.reverse ++ [[]]) = .error fault) :
    files.makeDirectory (Path.ofBody absolute (piece :: outer)) = .error fault := by
  -- The directory around is walked to before anything is made.
  unfold makeDirectory
  rw [files.target_ofBody tidy checked said, walked]
  rfl

/-- Where something else than a missing directory is in the way, making nested directories fails. -/
theorem makeNested_of_stuck {fault : FileFault} {rest : List Path}
    (tidy : Path.Tidy absolute (piece :: outer))
    (checked : checkPath (Path.ofBody absolute (piece :: outer)) = .ok ()) (said : piece ≠ [])
    (walked : files.walk (base absolute) (outer.reverse ++ [[]]) = .error fault)
    (hard : fault ≠ .missing) :
    files.makeNested (Path.ofBody absolute (piece :: outer) :: rest) = (.error fault, files) := by
  -- What is stuck around the path does not lead to it.
  have absent : files.isDirectory (Path.ofBody absolute (piece :: outer)) = false := by
    rw [isDirectory, find?, files.locate_ofBody tidy checked]
    cases reached : files.walk (base absolute) (outer.reverse ++ [piece]) with
    | error fault => rfl
    | ok place =>
      rw [walk_of_concat reached] at walked
      simp at walked
  rw [makeNested_of_fault (text_ofBody_ne tidy said)
    (makeDirectory_of_unreached tidy checked said walked) hard, absent]
  rfl

/-- Making a directory and those around it paves the way to it. -/
theorem makeDirectories_eq_pave (files : Files) {body : List Path.Piece}
    (tidy : Path.Tidy absolute body)
    (checked : (Path.ofBody absolute (Path.dropIdle absolute body)).text = "" ∨
      checkPath (Path.ofBody absolute (Path.dropIdle absolute body)) = .ok ()) :
    ((files.makeDirectories (Path.ofBody absolute (Path.dropIdle absolute body))).1.isOk,
        (files.makeDirectories (Path.ofBody absolute (Path.dropIdle absolute body))).2) =
      files.pave (base absolute) body.reverse := by
  -- The directories around the last piece are made first, if they are missing.
  induction body with
  | nil => exact files.makeDirectories_base absolute
  | cons piece outer ih =>
    have tidy' := tidy.suffix (List.suffix_cons piece outer)
    rw [List.reverse_cons, pave_append]
    by_cases idle : Path.IsIdle absolute piece outer
    · -- An idle piece is dropped, and paving it does nothing.
      rw [Path.dropIdle_of_idle idle] at checked ⊢
      rw [ih tidy' checked]
      split
      · rename_i paved
        have firm := ((firm_base files absolute).walk_pave paved).2
        rw [firm.pave_idle idle.idle]
        exact Prod.ext paved rfl
      · rename_i stuck
        exact Prod.ext (Bool.eq_false_iff.mpr stuck) rfl
    · rw [Path.dropIdle_of_said idle] at checked ⊢
      have said : piece ≠ [] := fun nothing => idle (Or.inl nothing)
      have checked := checked.resolve_left (text_ofBody_ne tidy said)
      have before := ih tidy' (Path.checkPath_ofBody checked
        ((Path.dropIdle_suffix absolute outer).trans (List.suffix_cons _ _)))
      rw [makeDirectories, Path.ancestors_ofBody tidy idle]
      cases walked : files.walk (base absolute) (outer.reverse ++ [[]]) with
      | ok around =>
        -- Nothing around is missing.
        have paved := pave_of_walk walked
        have firm := ((firm_base files absolute).walk_pave (by rw [paved])).2
        rw [paved] at firm
        obtain rfl : around = (base absolute).follow outer.reverse :=
          follow_of_walk (walk_idle walked).1
        rw [makeNested_of_walk tidy checked said walked firm, paved, if_pos rfl]
      | error fault =>
        by_cases missing : fault = .missing
        · subst missing
          have made := makeDirectory_of_unreached tidy checked said walked
          rw [makeDirectories] at before
          cases nested : files.makeNested
            (Path.ofBody absolute (Path.dropIdle absolute outer)).ancestors with
          | mk result after =>
            rw [nested] at before
            cases result with
            | error fault =>
              -- What cannot be made around the path is not paved.
              rw [makeNested_of_missing (text_ofBody_ne tidy said) made, nested, ← before]
              rfl
            | ok =>
              -- Now there is a directory to make this one in.
              have laid : files.pave (base absolute) outer.reverse = (true, after) := before.symm
              obtain ⟨walked', firm⟩ := (firm_base files absolute).walk_pave (by rw [laid])
              rw [laid] at walked' firm ⊢
              rw [makeNested_of_laid tidy checked said made nested walked' firm, if_pos rfl]
        · rw [makeNested_of_stuck tidy checked said walked missing,
            (firm_base files absolute).pave_of_fault walked missing]
          rfl

end Ancestors

/-- What cannot be followed is not made. -/
theorem makeDirectories_of_closed (files : Files) {path : Path} (some_ : path.text ≠ "")
    (closed : (checkPath path).isOk = false) :
    (files.makeDirectories path).1.isOk = false ∧ (files.makeDirectories path).2 = files := by
  cases checked : checkPath path with
  | ok => simp [checked, Except.isOk, Except.toBool] at closed
  | error fault =>
    -- Only an empty path is said to be missing.
    have hard : fault ≠ .missing := by
      rintro rfl
      unfold checkPath at checked
      split at checked
      · simp at checked
      · rw [if_neg (by simpa [String.isEmpty_iff] using some_)] at checked
        split at checked <;> simp at checked
    have made : files.makeDirectory path = .error fault := by
      unfold makeDirectory target
      rw [checked]
      rfl
    have absent : files.isDirectory path = false := by
      rw [isDirectory, find?, locate, checked]
      rfl
    rw [makeDirectories, Path.ancestors, makeNested_of_fault some_ made hard, absent]
    exact ⟨rfl, rfl⟩

/-- The directories around what a path names are made, if the path around it can be followed. -/
def paveAround (files : Files) (path : Path) : Bool × Files :=
  match path.body with
  | [] => (true, files)
  | _ :: outer =>
    let around := Path.ofBody path.isAbsolute (Path.dropIdle path.isAbsolute outer)
    if around.text = "" ∨ (checkPath around).isOk = true then
      files.pave (base path.isAbsolute) outer.reverse
    else (false, files)

/-- Making the directories around a path paves the way to what it names. -/
theorem makeDirectories_parent (files : Files) {path around : Path}
    (parent : path.parent? = some around) :
    ((files.makeDirectories around).1.isOk, (files.makeDirectories around).2) =
      files.paveAround path := by
  obtain ⟨piece, outer, whole, rfl⟩ := Path.parent?_eq_some parent
  have tidy := path.tidy_body
  rw [whole] at tidy
  rw [paveAround, whole]
  simp only
  -- A path that cannot be followed is not made, and nothing is paved to it.
  split
  · rename_i open_
    refine files.makeDirectories_eq_pave (tidy.suffix (List.suffix_cons piece outer)) ?_
    refine open_.imp_right fun checked => ?_
    cases result : checkPath (Path.ofBody path.isAbsolute (Path.dropIdle path.isAbsolute outer)) with
    | ok => rfl
    | error fault => simp [result, Except.isOk, Except.toBool] at checked
  · rename_i closed
    obtain ⟨some_, closed⟩ := not_or.mp closed
    obtain ⟨failed, same⟩ := files.makeDirectories_of_closed some_ (Bool.eq_false_iff.mpr closed)
    exact Prod.ext failed same

/-- A path begins where it begins as a path from the root or from the working directory. -/
theorem start_eq_base (path : Path) : start path = base path.isAbsolute :=
  rfl

/-- The piece before the first slash of a path from the root leads nowhere else. -/
theorem follow_base (absolute : Bool) :
    (base absolute).follow (if absolute then [[]] else []) = base absolute := by
  -- From the root an empty piece stays at the root.
  cases absolute <;> rfl

/-- The way to the directory around what a path names is on the way of the path. -/
theorem way_body_subset {path : Path} {name : Path.Piece} {outer : List Path.Piece}
    (whole : path.body = name :: outer) :
    (base path.isAbsolute).way (outer.reverse ++ [[]]) ⊆ path.way := by
  obtain ⟨idle, pieces, -⟩ := Path.pieces_of_body whole
  rw [Path.way, pieces, start_eq_base, Location.way_append _ outer.reverse [[]],
    Location.way_append _ (if path.isAbsolute then [[]] else []), follow_base,
    Location.way_append _ outer.reverse]
  -- The name leaves the directory that the idle piece leaves.
  refine List.append_subset.mpr ⟨fun place among => ?_, fun place among => ?_⟩
  · exact List.mem_append_right _ (List.mem_append_left _ among)
  · obtain rfl := List.mem_singleton.mp among
    exact List.mem_append_right _ (List.mem_append_right _ List.mem_cons_self)

/-- What is paved around a path is new on its way only. -/
theorem get?_paveAround (files : Files) (path : Path) (place : Location) :
    (files.paveAround path).2.get? place = files.get? place ∨
      files.get? place = none ∧ (files.paveAround path).2.get? place = some .directory ∧
        place ∈ path.way := by
  -- Paving is done only around a path that has a name and can be followed.
  unfold paveAround
  split
  · exact Or.inl rfl
  · rename_i name outer whole
    simp only
    split
    · exact (files.get?_pave _ _ place).imp_right fun ⟨missing, found, among⟩ =>
        ⟨missing, found, way_body_subset whole among⟩
    · exact Or.inl rfl

/-- What ends in a dot or two names no file. -/
theorem write_of_lasting {path : Path} {name : Path.Piece} {outer : List Path.Piece}
    (cut : withoutSlashes path = name :: outer) (lasting : name = ['.'] ∨ name = ['.', '.'])
    (files : Files) (bytes : List UInt8) : (files.write path bytes).isOk = false := by
  -- The path is checked and walked first; whatever comes of that, the last piece is no name.
  unfold write target
  cases checkPath path with
  | error fault => rfl
  | ok =>
    simp only [bind, Except.bind, cut]
    cases files.walk (start path) (outer.reverse ++ [[]]) with
    | error fault => rfl
    | ok around =>
      simp only [if_pos lasting]
      rfl

/-- What names nothing names no file. -/
theorem write_of_nothing {path : Path} (cut : withoutSlashes path = []) (files : Files)
    (bytes : List UInt8) : (files.write path bytes).isOk = false := by
  -- Without a piece that says something there is no target.
  unfold write target
  cases checkPath path with
  | error fault => rfl
  | ok =>
    simp only [bind, Except.bind, cut]
    rfl

/-- What a path with a name leads to behind directories that were paved. -/
theorem target_paveAround {path : Path} {name : Path.Piece} {outer : List Path.Piece}
    (cut : withoutSlashes path = name :: outer) (stays : name ≠ ['.'])
    (paved : (files.paveAround path).1 = true) :
    (files.paveAround path).2.target path = (checkPath path).bind fun _ =>
      if name = ['.'] ∨ name = ['.', '.'] then .ok .around
      else if fitsName name then
        .ok (.named ((start path).follow outer.reverse ++ [String.ofList name])
          (path.text.toList.getLast? == some '/'))
      else .error .nameTooLong := by
  -- The directories around the name are those that were paved, so the walk to them succeeds.
  obtain ⟨inner, whole, turned⟩ := Path.body_of_withoutSlashes cut stays
  rw [paveAround, whole] at paved ⊢
  simp only at paved ⊢
  split at paved
  · rename_i open_
    rw [if_pos open_]
    obtain ⟨walked, -⟩ := (firm_base files path.isAbsolute).walk_pave paved
    unfold target
    simp only [cut, start_eq_base, turned, List.append_assoc, walk_base, walked,
      Location.follow_append, follow_base]
    rfl
  · simp at paved

end Files

end ShaderBuild
