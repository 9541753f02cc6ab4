import ShaderBuild.Files

/-! A path leads to one location at most, and files only decide whether it leads there. -/

namespace ShaderBuild

/-- A text has a first piece. -/
theorem Text.splitAtChar_ne_nil (mark : Char) (text : List Char) : splitAtChar mark text ≠ [] := by
  -- Each character begins a piece or joins one.
  cases text with
  | nil => simp [splitAtChar]
  | cons c text =>
    simp only [splitAtChar]
    split
    · simp
    · split <;> simp

/-- A text is cut at a mark into what is cut before it and what is cut behind it. -/
theorem Text.splitAtChar_append (mark : Char) (before after : List Char) :
    splitAtChar mark (before ++ mark :: after) =
      splitAtChar mark before ++ splitAtChar mark after := by
  -- The first piece grows with the characters before the first mark.
  induction before with
  | nil => simp [splitAtChar]
  | cons c before ih =>
    simp only [List.cons_append, splitAtChar]
    split
    · rw [ih, List.cons_append]
    · rw [ih]
      cases pieces : splitAtChar mark before with
      | nil => exact absurd pieces (splitAtChar_ne_nil mark before)
      | cons piece pieces => rfl

/-- A text without a mark is one piece. -/
theorem Text.splitAtChar_of_not_mem {mark : Char} {text : List Char} (clean : mark ∉ text) :
    splitAtChar mark text = [text] := by
  -- Every character joins the one piece.
  induction text with
  | nil => rfl
  | cons c text ih =>
    rw [List.mem_cons, not_or] at clean
    simp only [splitAtChar, if_neg (Ne.symm clean.1), ih clean.2]

namespace Location

/-- Where pieces lead from a location. -/
def follow (here : Location) : List Path.Piece → Location
  | [] => here
  | piece :: rest =>
    if piece = [] ∨ piece = ['.'] then follow here rest
    else if piece = ['.', '.'] then follow here.up rest
    else follow (here ++ [String.ofList piece]) rest

/-- Pieces are followed one after the other. -/
theorem follow_append (here : Location) (first second : List Path.Piece) :
    here.follow (first ++ second) = (here.follow first).follow second := by
  -- Piece by piece.
  induction first generalizing here with
  | nil => rfl
  | cons piece first ih =>
    simp only [List.cons_append, follow]
    split
    · exact ih here
    · split
      · exact ih here.up
      · exact ih _

/-- Empty pieces lead nowhere else. -/
theorem follow_of_empty {here : Location} {pieces : List Path.Piece}
    (empty : ∀ piece ∈ pieces, piece = []) : here.follow pieces = here := by
  -- Piece by piece.
  induction pieces with
  | nil => rfl
  | cons piece pieces ih =>
    rw [follow, if_pos (Or.inl (empty piece List.mem_cons_self))]
    exact ih fun other among => empty other (List.mem_cons_of_mem piece among)

end Location

/-- Where a path leads, if it leads anywhere. -/
def Path.place (path : Path) : Location :=
  (Files.start path).follow path.pieces

namespace Files

/-- Files only decide whether a walk comes to its end. -/
theorem follow_of_walk {files : Files} {here place : Location} {pieces : List Path.Piece}
    (walked : files.walk here pieces = .ok place) : place = here.follow pieces := by
  -- Each step of the walk is a step that is followed.
  induction pieces generalizing here with
  | nil =>
    rw [walk, Except.ok.injEq] at walked
    exact walked.symm
  | cons piece pieces ih =>
    rw [walk] at walked
    rw [Location.follow]
    split at walked
    · simp at walked
    · simp at walked
    · split at walked
      · rename_i idle
        rw [if_pos idle]
        exact ih walked
      · rename_i idle
        rw [if_neg idle]
        split at walked
        · rename_i outward
          rw [if_pos outward]
          exact ih walked
        · rename_i outward
          rw [if_neg outward]
          split at walked
          · exact ih walked
          · simp at walked

/-- A path leads somewhere when it can be followed and its pieces lead there. -/
theorem locate_eq_ok_iff {files : Files} {path : Path} {place : Location} :
    files.locate path = .ok place ↔
      checkPath path = .ok () ∧ files.walk (start path) path.pieces = .ok place := by
  -- The check comes first, and its fault is the one that is reported.
  unfold locate
  cases checked : checkPath path with
  | error fault => simp [bind, Except.bind]
  | ok => simp [bind, Except.bind]

/-- A path that leads somewhere leads to its place. -/
theorem place_of_locate {files : Files} {path : Path} {place : Location}
    (located : files.locate path = .ok place) : place = path.place :=
  follow_of_walk (locate_eq_ok_iff.mp located).2

/-- The pieces of a path are those up to the last one that says something, and empty ones. -/
theorem pieces_eq_of_withoutSlashes {path : Path} {name : Path.Piece} {outer : List Path.Piece}
    (cut : withoutSlashes path = name :: outer) :
    ∃ slashes, path.pieces = outer.reverse ++ name :: slashes ∧ ∀ piece ∈ slashes, piece = [] := by
  -- What was dropped from the reversed pieces is empty.
  have whole := List.takeWhile_append_dropWhile (p := (· == [])) (l := path.pieces.reverse)
  unfold withoutSlashes at cut
  rw [cut] at whole
  refine ⟨(path.pieces.reverse.takeWhile (· == [])).reverse, ?_, ?_⟩
  · have turned := congrArg List.reverse whole
    simp only [List.reverse_append, List.reverse_cons, List.reverse_reverse,
      List.append_assoc, List.singleton_append] at turned
    exact turned.symm
  · intro piece among
    have empty := List.all_eq_true.mp List.all_takeWhile piece (List.mem_reverse.mp among)
    simpa using empty

/-- The last piece that is left says something. -/
theorem ne_nil_of_withoutSlashes {path : Path} {name : Path.Piece} {outer : List Path.Piece}
    (cut : withoutSlashes path = name :: outer) : name ≠ [] := by
  -- The slashes are dropped up to the first piece that is not empty.
  rintro rfl
  have first := List.head?_dropWhile_not (· == ([] : Path.Piece)) path.pieces.reverse
  unfold withoutSlashes at cut
  rw [cut] at first
  simp at first

/-- A path names a place with a name behind the pieces around it, which lead to a directory. -/
theorem target_eq_named_iff {files : Files} {path : Path} {place : Location} {slashed : Bool} :
    files.target path = .ok (.named place slashed) ↔
      ∃ name outer around, checkPath path = .ok () ∧ withoutSlashes path = name :: outer ∧
        files.walk (start path) (outer.reverse ++ [[]]) = .ok around ∧
        (name ≠ ['.'] ∧ name ≠ ['.', '.'] ∧ fitsName name = true) ∧
        place = around ++ [String.ofList name] ∧
        slashed = (path.text.toList.getLast? == some '/') := by
  constructor
  · intro targeted
    -- Of all the ways to ask for a target a single one gives a name.
    unfold target at targeted
    cases checked : checkPath path with
    | error fault => simp [checked, bind, Except.bind] at targeted
    | ok =>
      simp only [checked, bind, Except.bind] at targeted
      cases cut : withoutSlashes path with
      | nil => simp [cut] at targeted
      | cons name outer =>
        simp only [cut] at targeted
        cases walked : files.walk (start path) (outer.reverse ++ [[]]) with
        | error fault => simp [walked] at targeted
        | ok around =>
          simp only [walked] at targeted
          split at targeted
          · simp at targeted
          · rename_i lasting
            split at targeted
            · rename_i fits
              simp only [Except.ok.injEq, Target.named.injEq] at targeted
              obtain ⟨stays, outward⟩ := not_or.mp lasting
              exact ⟨name, outer, around, rfl, rfl, walked, ⟨stays, outward, fits⟩,
                targeted.1.symm, targeted.2.symm⟩
            · simp at targeted
  · rintro ⟨name, outer, around, checked, cut, walked, ⟨stays, outward, fits⟩, rfl, rfl⟩
    unfold target
    simp only [checked, bind, Except.bind, cut, walked, if_neg (not_or.mpr ⟨stays, outward⟩), fits,
      if_true]

/-- A place that a path names for something new or for removal is the place it leads to. -/
theorem place_of_target {files : Files} {path : Path} {place : Location} {slashed : Bool}
    (targeted : files.target path = .ok (.named place slashed)) : place = path.place := by
  obtain ⟨name, outer, around, -, cut, walked, ⟨stays, outward, -⟩, rfl, -⟩ :=
    target_eq_named_iff.mp targeted
  -- The name follows the directory around it, and slashes follow the name.
  obtain ⟨slashes, pieces, empty⟩ := pieces_eq_of_withoutSlashes cut
  have said := ne_nil_of_withoutSlashes cut
  have reached := follow_of_walk walked
  rw [Location.follow_append, Location.follow_of_empty (by simp)] at reached
  rw [reached, Path.place, pieces, Location.follow_append, Location.follow,
    if_neg (by simp [said, stays]), if_neg outward, Location.follow_of_empty empty]

end Files

/-- A name that leads into a directory: it has no slash, and it is no dot or two. -/
structure Path.Plain (name : String) : Prop where
  inner : '/' ∉ name.toList
  named : name.toList ≠ [] ∧ name.toList ≠ ['.'] ∧ name.toList ≠ ['.', '.']

namespace Path

/-- A path below a directory begins where the directory does. -/
theorem start_join {directory : Path} {name : String} (plain : Plain name) :
    Files.start (directory.join name) = Files.start directory := by
  have absolute : (directory.join name).isAbsolute = directory.isAbsolute := by
    unfold isAbsolute join
    -- Only an empty path leaves the beginning to the name, which has no slash.
    cases letters : directory.text.toList with
    | nil =>
      have empty : directory.text = "" := String.toList_injective letters
      have begins : name.toList.head? ≠ some '/' := fun head =>
        plain.inner (List.mem_of_head? head)
      simp [empty, begins]
    | cons c letters_ => split <;> simp [letters]
  rw [Files.start, absolute, Files.start]

/-- A plain name leads into the directory that is left. -/
theorem follow_plain {name : String} (plain : Plain name) (here : Location) :
    here.follow [name.toList] = here ++ [name] := by
  -- The name is not empty, no dot and no double dot, so it is the last kind of piece.
  obtain ⟨some_, dot, dots⟩ := plain.named
  rw [Location.follow, if_neg (by simp [some_, dot]), if_neg dots, String.ofList_toList]
  rfl

/-- The pieces of a path below a directory are those of the directory and the name, but for empty
ones. -/
theorem follow_join {directory : Path} {name : String} (plain : Plain name) (here : Location) :
    here.follow (directory.join name).pieces = here.follow directory.pieces ++ [name] := by
  have one : Text.splitAtChar '/' name.toList = [name.toList] :=
    Text.splitAtChar_of_not_mem plain.inner
  have none_ : ∀ here : Location, here.follow [[]] = here := fun here => by
    rw [Location.follow, if_pos (Or.inl rfl)]
    rfl
  have cut : ∀ before : List Char, here.follow (Text.splitAtChar '/' (before ++ '/' :: name.toList)) =
      here.follow (Text.splitAtChar '/' before) ++ [name] := fun before => by
    rw [Text.splitAtChar_append, one, Location.follow_append, follow_plain plain]
  unfold join pieces
  split
  · rename_i open_
    by_cases letters : directory.text.toList = []
    · -- The name is all there is.
      rw [String.toList_append, letters, List.nil_append, one, follow_plain plain]
      simp [Text.splitAtChar, none_]
    · -- The slash between the two is there already.
      have last : directory.text.toList.getLast? = some '/' := by
        have filled : directory.text.isEmpty = false := by
          rw [Bool.eq_false_iff]
          intro empty
          rw [String.isEmpty_iff.mp empty] at letters
          simp at letters
        simpa [filled] using open_
      obtain ⟨front, split_⟩ := List.getLast?_eq_some_iff.mp last
      rw [String.toList_append, split_, List.append_assoc, List.singleton_append, cut,
        Text.splitAtChar_append, Location.follow_append]
      simp [Text.splitAtChar, none_]
  · rw [String.toList_append, String.toList_append]
    have mark : "/".toList = ['/'] := rfl
    rw [mark, List.append_assoc, List.singleton_append, cut]

/-- A path below a directory leads to that name in the directory. -/
theorem place_join {directory : Path} {name : String} (plain : Plain name) :
    (directory.join name).place = directory.place ++ [name] := by
  -- The joined path starts where the directory's does and goes one name further.
  rw [place, start_join plain, follow_join plain]
  rfl

/-- A text that is put behind a path below a directory makes the name longer. -/
theorem append_join (directory : Path) (name text : String) :
    (directory.join name).append text = directory.join (name ++ text) := by
  -- With or without a slash in between, the text comes last.
  unfold join
  split <;> simp [append, String.append_assoc]

end Path

end ShaderBuild
