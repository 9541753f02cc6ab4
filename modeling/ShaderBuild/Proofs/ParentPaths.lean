import ShaderBuild.Proofs.PathTraversal

/-! The path around some pieces is written from those pieces and read back as them. -/

namespace ShaderBuild

namespace Text

/-- No piece has the mark. -/
theorem not_mem_of_mem_splitAtChar {mark : Char} {text piece : List Char}
    (among : piece ∈ splitAtChar mark text) : mark ∉ piece := by
  -- A character joins the first piece only if it is not the mark.
  induction text generalizing piece with
  | nil =>
    rw [splitAtChar, List.mem_singleton] at among
    simp [among]
  | cons c text ih =>
    rw [splitAtChar] at among
    split at among
    · rcases List.mem_cons.mp among with rfl | later
      · exact List.not_mem_nil
      · exact ih later
    · rename_i other
      cases pieces : splitAtChar mark text with
      | nil => exact absurd pieces (splitAtChar_ne_nil mark text)
      | cons first rest =>
        simp only [pieces] at among ih
        rcases List.mem_cons.mp among with rfl | later
        · rw [List.mem_cons, not_or]
          exact ⟨fun same => other same.symm, ih List.mem_cons_self⟩
        · exact ih (List.mem_cons_of_mem first later)

/-- The first piece is empty only if the mark comes first or there is no text. -/
theorem head?_of_splitAtChar {mark : Char} {text : List Char}
    (first : (splitAtChar mark text).head? = some []) : text = [] ∨ text.head? = some mark := by
  -- A first character other than the mark belongs to the first piece.
  cases text with
  | nil => exact Or.inl rfl
  | cons c text =>
    rw [splitAtChar] at first
    split at first
    · rename_i own
      exact Or.inr (by rw [List.head?_cons, own])
    · split at first <;> simp at first

/-- Pieces without the mark are cut again where they were put together. -/
theorem splitAtChar_intercalate {mark : Char} {pieces : List (List Char)} (some_ : pieces ≠ [])
    (clean : ∀ piece ∈ pieces, mark ∉ piece) :
    splitAtChar mark (List.intercalate [mark] pieces) = pieces := by
  induction pieces with
  | nil => exact absurd rfl some_
  | cons first pieces ih =>
    have own := splitAtChar_of_not_mem (clean first List.mem_cons_self)
    -- A mark stands only where another piece follows, so the last piece is told apart.
    cases pieces with
    | nil => rw [List.intercalate_singleton, own]
    | cons second rest =>
      rw [List.intercalate_cons_cons, List.append_assoc, List.singleton_append, splitAtChar_append,
        own, ih (by simp) fun piece among => clean piece (List.mem_cons_of_mem first among)]
      rfl

/-- Fewer pieces give a text that the text of all pieces begins with. -/
theorem intercalate_prefix {separator : List Char} {first second : List (List Char)} :
    List.intercalate separator first <+: List.intercalate separator (first ++ second) := by
  -- A separator stands before each piece but the first, and so the cases go by what follows a
  -- piece.
  induction first with
  | nil => exact List.nil_prefix
  | cons piece first ih =>
    cases first with
    | nil =>
      cases second with
      | nil => exact List.prefix_refl _
      | cons next second =>
        rw [List.intercalate_singleton, List.singleton_append, List.intercalate_cons_cons,
          List.append_assoc]
        exact List.prefix_append _ _
    | cons next first =>
      rw [List.cons_append, List.cons_append, List.intercalate_cons_cons,
        List.intercalate_cons_cons, ← List.cons_append]
      exact (List.prefix_append_right_inj _).mpr ih

end Text

/-- A path can be followed when it has no zero, is not empty and not too long. -/
theorem Files.checkPath_eq_ok {path : Path} :
    checkPath path = .ok () ↔
      '\x00' ∉ path.text.toList ∧ path.text ≠ "" ∧ path.text.utf8ByteSize < 4096 := by
  -- One check after the other, in the order in which they are made.
  unfold checkPath
  split
  · rename_i nul
    simp [List.contains_iff_mem.mp nul]
  · rename_i nul
    split
    · rename_i empty
      simp [String.isEmpty_iff.mp empty]
    · rename_i empty
      rw [String.isEmpty_iff] at empty
      rw [List.contains_iff_mem] at nul
      split
      · rename_i long
        simp [Nat.not_lt.mpr long]
      · rename_i short
        simp [nul, empty, Nat.not_le.mp short]

namespace Path

variable {absolute : Bool} {body outer : List Piece} {piece : Piece}

/-- A piece that is dropped where it comes last. -/
def IsIdle (absolute : Bool) (piece : Piece) (outer : List Piece) : Prop :=
  piece = [] ∨ (piece = ['.'] ∧ (absolute = true ∨ outer ≠ []))

/-- What is dropped leads nowhere else. -/
theorem IsIdle.idle (idle : IsIdle absolute piece outer) : piece = [] ∨ piece = ['.'] :=
  idle.imp id And.left

/-- An idle piece is dropped. -/
theorem dropIdle_of_idle (idle : IsIdle absolute piece outer) :
    dropIdle absolute (piece :: outer) = dropIdle absolute outer :=
  if_pos idle

/-- A piece that says something stays. -/
theorem dropIdle_of_said (said : ¬ IsIdle absolute piece outer) :
    dropIdle absolute (piece :: outer) = piece :: outer :=
  if_neg said

/-- What stays are the outermost pieces. -/
theorem dropIdle_suffix (absolute : Bool) (body : List Piece) : dropIdle absolute body <:+ body := by
  -- Induction on the pieces; dropping stops at the first one that is not idle.
  induction body with
  | nil => exact List.suffix_refl _
  | cons piece outer ih =>
    by_cases idle : IsIdle absolute piece outer
    · rw [dropIdle_of_idle idle]
      exact ih.trans (List.suffix_cons _ _)
    · exact (dropIdle_of_said idle).symm ▸ List.suffix_refl _

/-- What is left begins with a piece that says something. -/
theorem dropIdle_dropIdle (absolute : Bool) (body : List Piece) :
    dropIdle absolute (dropIdle absolute body) = dropIdle absolute body := by
  -- Induction on the pieces; the first one that is not idle is not idle the second time.
  induction body with
  | nil => rfl
  | cons piece outer ih =>
    by_cases idle : IsIdle absolute piece outer
    · rw [dropIdle_of_idle idle, ih]
    · rw [dropIdle_of_said idle, dropIdle_of_said idle]

/-- Only pieces that say nothing are dropped. -/
theorem exists_of_dropIdle (left : dropIdle absolute body = piece :: outer) :
    ∃ idle, body = idle ++ piece :: outer ∧ (∀ piece ∈ idle, piece = [] ∨ piece = ['.']) ∧
      piece ≠ [] := by
  -- The first piece that stays says something, or it is a dot that begins the path.
  induction body with
  | nil => simp [dropIdle] at left
  | cons first rest ih =>
    by_cases own : IsIdle absolute first rest
    · rw [dropIdle_of_idle own] at left
      obtain ⟨idle, rfl, silent, some_⟩ := ih left
      exact ⟨first :: idle, rfl, List.forall_mem_cons.mpr ⟨own.idle, silent⟩, some_⟩
    · rw [dropIdle_of_said own] at left
      obtain ⟨rfl, rfl⟩ := List.cons.inj left
      exact ⟨[], rfl, by simp, fun nothing => own (.inl nothing)⟩

/-- Idle pieces have no part in what is around. -/
theorem outerBodies_dropIdle (absolute : Bool) (body : List Piece) :
    outerBodies absolute (dropIdle absolute body) = outerBodies absolute body := by
  -- Induction on the pieces; the outer bodies skip idle pieces in the same way.
  induction body with
  | nil => rfl
  | cons piece outer ih =>
    by_cases idle : IsIdle absolute piece outer
    · rw [dropIdle_of_idle idle, ih]
      exact (if_pos idle).symm
    · rw [dropIdle_of_said idle]

/-- Pieces that a path can be written from: none has a slash, and those of a relative path do not
begin with an empty one. -/
structure Tidy (absolute : Bool) (body : List Piece) : Prop where
  clean : ∀ piece ∈ body, '/' ∉ piece
  begins : absolute = false → body.getLast? ≠ some []

/-- Fewer pieces are tidy as well. -/
theorem Tidy.suffix (tidy : Tidy absolute body) (fewer : outer <:+ body) : Tidy absolute outer where
  -- Fewer pieces have the same outermost one, if they have any.
  clean := fun piece among => tidy.clean piece (fewer.subset among)
  begins := by
    intro relative empty
    obtain ⟨front, rfl⟩ := fewer
    refine tidy.begins relative ?_
    rw [List.getLast?_append, empty]
    rfl

/-- The pieces of a path's body are tidy. -/
theorem tidy_body (path : Path) : Tidy path.isAbsolute path.body := by
  have fewer : path.body <:+ _ := dropIdle_suffix _ _
  constructor
  · intro piece among
    have among := List.mem_reverse.mp (fewer.subset among)
    split at among
    · exact Text.not_mem_of_mem_splitAtChar (List.mem_of_mem_tail among)
    · exact Text.not_mem_of_mem_splitAtChar among
  · intro relative empty
    rw [relative, if_neg Bool.false_ne_true] at fewer
    obtain ⟨front, whole⟩ := fewer
    -- The outermost piece is the first one, so that the path would begin with a slash or be empty.
    have first : path.pieces.head? = some [] := by
      rw [← List.getLast?_reverse, ← whole, List.getLast?_append, empty]
      rfl
    rcases Text.head?_of_splitAtChar first with nothing | slash
    · have none_ : path.body = [] := by
        rw [body, relative, pieces, nothing]
        rfl
      rw [none_] at empty
      simp at empty
    · rw [isAbsolute, slash] at relative
      simp at relative

/-- The letters of a path that is written from pieces. -/
theorem toList_ofBody (absolute : Bool) (body : List Piece) :
    (ofBody absolute body).text.toList =
      (if absolute then ['/'] else []) ++ List.intercalate ['/'] body.reverse := by
  -- The pieces are written with slashes between them, and a path from the root has one in front.
  have letters : (body.reverse.map fun piece => String.ofList piece).map String.toList =
      body.reverse := by
    rw [List.map_map]
    exact List.map_id'' (fun piece => String.toList_ofList) _
  rw [ofBody, String.toList_append, String.toList_intercalate, letters]
  cases absolute <;> rfl

/-- A path that is written from tidy pieces is read back as them. -/
theorem pieces_ofBody (tidy : Tidy absolute body) :
    (ofBody absolute body).pieces =
      (if absolute then [[]] else []) ++ if body = [] then [[]] else body.reverse := by
  -- The pieces hold no slash, and so the text is cut where they were joined.
  have cut : Text.splitAtChar '/' (List.intercalate ['/'] body.reverse) =
      if body = [] then [[]] else body.reverse := by
    split
    · rename_i nothing
      rw [nothing]
      rfl
    · rename_i some_
      refine Text.splitAtChar_intercalate (by simpa using some_) fun piece among => ?_
      exact tidy.clean piece (List.mem_reverse.mp among)
  rw [pieces, toList_ofBody]
  cases absolute with
  | false => exact cut
  | true =>
    simp only [if_true, List.cons_append, List.nil_append, Text.splitAtChar, cut]

/-- A path that is written from tidy pieces begins where it was to begin. -/
theorem isAbsolute_ofBody (tidy : Tidy absolute body) :
    (ofBody absolute body).isAbsolute = absolute := by
  rw [isAbsolute, toList_ofBody]
  cases absolute with
  | true => simp
  | false =>
    rw [if_neg Bool.false_ne_true, List.nil_append, decide_eq_false_iff_not]
    intro slash
    cases turned : body.reverse with
    | nil => simp [turned] at slash
    | cons first rest =>
      have outermost : body.getLast? = some first := by
        rw [← List.head?_reverse, turned]
        rfl
      cases first with
      | nil => exact tidy.begins rfl outermost
      | cons c letters =>
        -- The text begins with the first letter of the outermost piece.
        have own : (List.intercalate ['/'] ((c :: letters) :: rest)).head? = some c := by
          cases rest with
          | nil => rw [List.intercalate_singleton, List.head?_cons]
          | cons second rest => rw [List.intercalate_cons_cons, List.cons_append, List.cons_append,
              List.head?_cons]
        rw [turned, own, Option.some.injEq] at slash
        refine tidy.clean (c :: letters) (List.mem_of_getLast? outermost) ?_
        rw [slash]
        exact List.mem_cons_self

/-- A path that is written from what a body can be has that body. -/
theorem body_ofBody (tidy : Tidy absolute body) (kept : dropIdle absolute body = body) :
    (ofBody absolute body).body = body := by
  -- The pieces are read back; those from the root have an empty one in front, which is not counted.
  rw [Path.body, isAbsolute_ofBody tidy, pieces_ofBody tidy]
  by_cases nothing : body = []
  · subst nothing
    cases absolute <;> rfl
  · cases absolute with
    | true => simpa [nothing] using kept
    | false => simpa [nothing] using kept

/-- The paths around a path that is written from pieces are it and those around its outer pieces. -/
theorem ancestors_ofBody (tidy : Tidy absolute (piece :: outer))
    (said : ¬ IsIdle absolute piece outer) :
    (ofBody absolute (piece :: outer)).ancestors =
      ofBody absolute (piece :: outer) ::
        (ofBody absolute (dropIdle absolute outer)).ancestors := by
  -- The body of each path is the list of pieces that it is written from, so both sides go outwards
  -- alike.
  have tidy' := tidy.suffix ((dropIdle_suffix absolute outer).trans (List.suffix_cons _ _))
  rw [ancestors, ancestors, isAbsolute_ofBody tidy, isAbsolute_ofBody tidy',
    body_ofBody tidy (dropIdle_of_said said), body_ofBody tidy' (dropIdle_dropIdle _ _),
    outerBodies_dropIdle]
  exact congrArg (_ :: ·) (congrArg (List.map _) (if_neg said))

/-- The path around a path is written from the pieces around its last one. -/
theorem parent?_eq_some {path around : Path} (parent : path.parent? = some around) :
    ∃ piece outer, path.body = piece :: outer ∧
      around = ofBody path.isAbsolute (dropIdle path.isAbsolute outer) := by
  -- The empty body has no path around it.
  unfold parent? at parent
  split at parent
  · simp at parent
  · rename_i piece outer whole
    exact ⟨piece, outer, whole, (Option.some.inj parent).symm⟩

/-- The pieces of a path from the root begin with an empty one. -/
theorem pieces_of_absolute {path : Path} (absolute : path.isAbsolute = true) :
    ∃ rest, path.pieces = [] :: rest := by
  -- A path from the root begins with a slash, and the piece before it is empty.
  rw [isAbsolute, decide_eq_true_iff] at absolute
  rw [pieces]
  cases letters : path.text.toList with
  | nil => simp [letters] at absolute
  | cons c rest =>
    rw [letters, List.head?_cons, Option.some.injEq] at absolute
    exact ⟨_, by rw [Text.splitAtChar, if_pos absolute]⟩

/-- Behind the body of a path there are only pieces that say nothing more. -/
theorem pieces_of_body {path : Path} {outer : List Piece} (whole : path.body = piece :: outer) :
    ∃ idle, path.pieces =
        (if path.isAbsolute then [[]] else []) ++ (outer.reverse ++ piece :: idle) ∧
      (∀ piece ∈ idle, piece = [] ∨ piece = ['.']) ∧ piece ≠ [] := by
  -- The body was cut from the pieces read backwards; turned round again the dropped ones are at the
  -- end.
  obtain ⟨dropped, turned, silent, some_⟩ := exists_of_dropIdle whole
  have core := congrArg List.reverse turned
  rw [List.reverse_reverse, List.reverse_append, List.reverse_cons, List.append_assoc,
    List.singleton_append] at core
  refine ⟨dropped.reverse, ?_, fun piece among => silent piece (List.mem_reverse.mp among), some_⟩
  rw [← core]
  split
  · rename_i absolute
    obtain ⟨rest, pieces⟩ := pieces_of_absolute absolute
    rw [pieces]
    rfl
  · rfl

/-- Empty pieces are dropped. -/
theorem dropIdle_append {front : List Piece} (empty : ∀ piece ∈ front, piece = [])
    (rest : List Piece) : dropIdle absolute (front ++ rest) = dropIdle absolute rest := by
  -- Induction on the front; an empty piece is idle wherever it stands.
  induction front with
  | nil => rfl
  | cons piece front ih =>
    rw [List.cons_append, dropIdle_of_idle (Or.inl (empty piece List.mem_cons_self))]
    exact ih fun other among => empty other (List.mem_cons_of_mem piece among)

/-- The last piece of a path that is not empty is the last one of its body, unless it is a dot. -/
theorem body_of_withoutSlashes {path : Path} (cut : Files.withoutSlashes path = piece :: outer)
    (stays : piece ≠ ['.']) :
    ∃ inner, path.body = piece :: inner ∧
      outer.reverse = (if path.isAbsolute then [[]] else []) ++ inner.reverse := by
  obtain ⟨slashes, whole, empty⟩ := Files.pieces_eq_of_withoutSlashes cut
  have said := Files.ne_nil_of_withoutSlashes cut
  have kept : ∀ inner, ¬ IsIdle path.isAbsolute piece inner := by
    rintro inner (nothing | ⟨dot, -⟩)
    · exact said nothing
    · exact stays dot
  have empty' : ∀ piece ∈ slashes.reverse, piece = [] := fun other among =>
    empty other (List.mem_reverse.mp among)
  by_cases absolute : path.isAbsolute
  · -- The first piece is empty, and so it is not the last one.
    obtain ⟨rest, pieces⟩ := pieces_of_absolute absolute
    cases turned : outer.reverse with
    | nil =>
      rw [pieces, turned, List.nil_append, List.cons.injEq] at whole
      exact absurd whole.1.symm said
    | cons first inner =>
      rw [pieces, turned, List.cons_append, List.cons.injEq] at whole
      refine ⟨inner.reverse, ?_, ?_⟩
      · rw [body, if_pos absolute, pieces, List.tail_cons, whole.2, List.reverse_append,
          List.reverse_cons, List.append_assoc, dropIdle_append empty', List.singleton_append,
          dropIdle_of_said (kept _)]
      · rw [if_pos absolute, List.reverse_reverse, ← whole.1]
        rfl
  · refine ⟨outer, ?_, by rw [if_neg absolute, List.nil_append]⟩
    rw [body, if_neg absolute, whole, List.reverse_append, List.reverse_cons,
      List.reverse_reverse, List.append_assoc, dropIdle_append empty', List.singleton_append,
      dropIdle_of_said (kept _)]

/-- A path that is written from fewer pieces is empty, or can be followed if one from more pieces can.
-/
theorem checkPath_ofBody {fewer : List Piece}
    (checked : Files.checkPath (ofBody absolute body) = .ok ()) (suffix : fewer <:+ body) :
    (ofBody absolute fewer).text = "" ∨ Files.checkPath (ofBody absolute fewer) = .ok () := by
  obtain ⟨inner, rfl⟩ := suffix
  obtain ⟨nul, -, short⟩ := Files.checkPath_eq_ok.mp checked
  -- The text from fewer pieces is what the whole text begins with.
  have shorter : (ofBody absolute fewer).text.toList <+:
      (ofBody absolute (inner ++ fewer)).text.toList := by
    rw [toList_ofBody, toList_ofBody, List.reverse_append, List.prefix_append_right_inj]
    exact Text.intercalate_prefix
  obtain ⟨rest, whole⟩ := shorter
  have text : (ofBody absolute fewer).text ++ String.ofList rest =
      (ofBody absolute (inner ++ fewer)).text :=
    String.toList_injective (by rw [String.toList_append, String.toList_ofList, whole])
  refine Classical.or_iff_not_imp_left.mpr fun some_ => Files.checkPath_eq_ok.mpr ⟨?_, some_, ?_⟩
  · rw [← whole, List.mem_append, not_or] at nul
    exact nul.1
  · rw [← text, String.utf8ByteSize_append] at short
    omega

end Path

end ShaderBuild
