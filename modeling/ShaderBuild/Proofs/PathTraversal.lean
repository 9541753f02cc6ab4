import ShaderBuild.Proofs.Sibling

/-! Files that agree on the way of a path cannot be told apart by following it. -/

namespace ShaderBuild

namespace Location

/-- Where one piece leads from a location. -/
def next (here : Location) (piece : Path.Piece) : Location :=
  if piece = [] ∨ piece = ['.'] then here
  else if piece = ['.', '.'] then here.up
  else here ++ [String.ofList piece]

/-- The first piece is followed first. -/
theorem follow_cons (here : Location) (piece : Path.Piece) (pieces : List Path.Piece) :
    here.follow (piece :: pieces) = (here.next piece).follow pieces := by
  -- The three kinds of pieces.
  rw [follow, next]
  split
  · rfl
  · split <;> rfl

/-- The locations that pieces leave, one for each piece. -/
def way (here : Location) : List Path.Piece → List Location
  | [] => []
  | piece :: rest => here :: way (here.next piece) rest

/-- The way of pieces one after the other is that of the first ones and goes on from there. -/
theorem way_append (here : Location) (first second : List Path.Piece) :
    here.way (first ++ second) = here.way first ++ (here.follow first).way second := by
  -- Piece by piece.
  induction first generalizing here with
  | nil => rfl
  | cons piece first ih => rw [List.cons_append, way, way, ih, follow_cons, List.cons_append]

/-- The last piece has no part in the way, for nothing is left behind it. -/
theorem way_concat (here : Location) (pieces : List Path.Piece) (last other : Path.Piece) :
    here.way (pieces ++ [last]) = here.way (pieces ++ [other]) := by
  -- The way has the locations that are left; the end is not left.
  rw [way_append, way_append]
  rfl

/-- Without double dots pieces lead inwards. -/
theorem prefix_follow {here : Location} {pieces : List Path.Piece}
    (inwards : ['.', '.'] ∉ pieces) : here <+: here.follow pieces := by
  induction pieces generalizing here with
  | nil => exact List.prefix_refl here
  | cons piece pieces ih =>
    obtain ⟨outward, rest⟩ := not_or.mp (mt List.mem_cons.mpr inwards)
    rw [follow_cons, next]
    split
    · exact ih rest
    · rw [if_neg (Ne.symm outward)]
      -- Only a double dot leads outwards; any other piece is put behind.
      exact (List.prefix_append here _).trans (ih rest)

/-- Without double dots what is left is around the end. -/
theorem prefix_follow_of_mem_way {here place : Location} {pieces : List Path.Piece}
    (inwards : ['.', '.'] ∉ pieces) (left : place ∈ here.way pieces) :
    place <+: here.follow pieces := by
  -- Induction on the pieces: the location that is left first is around everything behind it.
  induction pieces generalizing here with
  | nil => exact absurd left List.not_mem_nil
  | cons piece pieces ih =>
    rcases List.mem_cons.mp left with rfl | later
    · exact prefix_follow inwards
    · rw [follow_cons]
      exact ih (mt (List.mem_cons_of_mem piece) inwards) later

end Location

/-- The locations that a path leaves. -/
def Path.way (path : Path) : List Location :=
  (Files.start path).way path.pieces

/-- The locations that are looked at when a path is followed: those on its way, and its place. -/
def Path.trail (path : Path) : List Location :=
  path.place :: path.way

/-- No character is encoded with the highest byte. -/
theorem Text.not_mem_utf8EncodeChar (c : Char) : 0xFF ∉ String.utf8EncodeChar c := by
  have same : c.toNat = c.val.toNat := rfl
  unfold String.utf8EncodeChar
  simp only
  -- However many bytes there are, each of them has a bit that is not set.
  split
  · simp [← UInt8.toNat_inj]
    omega
  · split
    · simp [← UInt8.toNat_inj]
      omega
    · split
      · simp [← UInt8.toNat_inj]
        omega
      · simp [← UInt8.toNat_inj]
        omega

namespace Files

variable {files other : Files}

/-- The same stands at some locations. -/
def AgreeOn (files other : Files) (places : List Location) : Prop :=
  ∀ place ∈ places, files.get? place = other.get? place

/-- Files that agree on some locations agree on fewer. -/
theorem AgreeOn.mono {places fewer : List Location} (agree : files.AgreeOn other places)
    (subset : fewer ⊆ places) : files.AgreeOn other fewer :=
  fun place among => agree place (subset among)

/-- A piece that can be entered leads where it leads at all. -/
theorem next_of_enter {here there : Location} {piece : Path.Piece}
    (entered : files.enter here piece = .ok there) : there = here.next piece := by
  unfold enter at entered
  rw [Location.next]
  -- Only a directory can be left.
  split at entered
  · simp at entered
  · simp at entered
  · split at entered
    · rename_i idle
      rw [if_pos idle]
      exact (Except.ok.inj entered).symm
    · rename_i idle
      rw [if_neg idle]
      split at entered
      · rename_i outward
        rw [if_pos outward]
        exact (Except.ok.inj entered).symm
      · rename_i outward
        rw [if_neg outward]
        split at entered
        · exact (Except.ok.inj entered).symm
        · simp at entered

/-- A walk looks at the locations on its way only. -/
theorem walk_congr {here : Location} {pieces : List Path.Piece}
    (agree : files.AgreeOn other (here.way pieces)) :
    files.walk here pieces = other.walk here pieces := by
  induction pieces generalizing here with
  | nil => rfl
  | cons piece pieces ih =>
    -- The way begins at the location itself, so the first piece is entered alike.
    have first : files.enter here piece = other.enter here piece := by
      unfold enter
      rw [agree here List.mem_cons_self]
    rw [walk_cons, walk_cons, ← first]
    cases entered : files.enter here piece with
    | error fault => rfl
    | ok there =>
      obtain rfl := next_of_enter entered
      exact ih (agree.mono (List.subset_cons_self _ _))

/-- A walk that comes to its end has left directories only. -/
theorem directory_of_walk {here place : Location} {pieces : List Path.Piece}
    (walked : files.walk here pieces = .ok place) :
    ∀ left ∈ here.way pieces, files.get? left = some .directory := by
  induction pieces generalizing here with
  | nil => simp [Location.way]
  | cons piece pieces ih =>
    rw [walk_cons] at walked
    cases entered : files.enter here piece with
    | error fault => simp [entered, Except.bind] at walked
    | ok there =>
      obtain rfl := next_of_enter entered
      simp only [entered, Except.bind] at walked
      intro left among
      rcases List.mem_cons.mp among with rfl | later
      · -- What is neither a directory nor leads on is a fault.
        unfold enter at entered
        split at entered
        · simp at entered
        · simp at entered
        · rename_i found
          exact found
      · exact ih walked left later

/-- Where a path leads depends on the locations on its way only. -/
theorem locate_congr {path : Path} (agree : files.AgreeOn other path.way) :
    files.locate path = other.locate path := by
  -- The check looks at no files, and the walk only at those on the way.
  unfold locate
  rw [walk_congr agree]

/-- What is read depends on the locations that the path looks at only. -/
theorem read_congr {path : Path} (agree : files.AgreeOn other path.trail) :
    files.read path = other.read path := by
  -- The path leads to the same place in both, and the same stands there.
  unfold read
  rw [← locate_congr (agree.mono (List.subset_cons_self _ _))]
  cases located : files.locate path with
  | error fault => rfl
  | ok place =>
    simp only [bind, Except.bind]
    rw [place_of_locate located, agree path.place List.mem_cons_self]

/-- The text that is read depends on the locations that the path looks at only. -/
theorem readText_congr {path : Path} (agree : files.AgreeOn other path.trail) :
    files.readText path = other.readText path := by
  -- A text is decoded from the bytes that are read.
  unfold readText
  rw [read_congr agree]

/-- What can be read stands behind directories, and its path can be followed. -/
theorem way_of_read {path : Path} {bytes : List UInt8} (read_ : files.read path = .ok bytes) :
    checkPath path = .ok () ∧ ∀ left ∈ path.way, files.get? left = some .directory := by
  -- What is read was located, and every location that a walk leaves is a directory.
  have located := (read_eq_ok_iff_locate.mp read_).1
  obtain ⟨checked, walked⟩ := locate_eq_ok_iff.mp located
  exact ⟨checked, directory_of_walk walked⟩

/-- A text that can be read stands behind directories, and its path can be followed. -/
theorem way_of_readText {path : Path} {text : String} (read_ : files.readText path = .ok text) :
    checkPath path = .ok () ∧ ∀ left ∈ path.way, files.get? left = some .directory := by
  -- A text is read from bytes.
  obtain ⟨bytes, stands, -⟩ := readText_eq_ok_iff.mp read_
  exact way_of_read stands

/-- Behind what is no directory nothing can be read. -/
theorem readText_of_obstacle {path : Path} {place : Location} (among : place ∈ path.way)
    (closed : files.get? place ≠ some .directory) :
    ∃ fault, files.readText path = .error fault := by
  -- A text that is read would make every location on the way a directory.
  cases read_ : files.readText path with
  | error fault => exact ⟨fault, rfl⟩
  | ok text => exact absurd ((way_of_readText read_).2 place among) closed

/-- Where no text stands none can be read. -/
theorem readText_of_no_text {path : Path}
    (none_ : ∀ bytes text, files.get? path.place = some (.file bytes) →
      textOfBytes? bytes ≠ some text) :
    ∃ fault, files.readText path = .error fault := by
  -- A text that is read was decoded from a file at the place.
  cases read_ : files.readText path with
  | error fault => exact ⟨fault, rfl⟩
  | ok text =>
    obtain ⟨bytes, stands, holds⟩ := readText_eq_ok_iff.mp read_
    exact absurd holds (none_ bytes text (get?_of_read stands))

/-- Where no file is no text can be read. -/
theorem readText_of_no_file {path : Path}
    (none_ : ∀ bytes, files.get? path.place ≠ some (.file bytes)) :
    ∃ fault, files.readText path = .error fault :=
  -- A text would stand in a file.
  readText_of_no_text fun bytes _ file => absurd file (none_ bytes)

/-- Bytes among which the highest one is encode no text. -/
theorem textOfBytes?_eq_none {bytes : List UInt8} (among : 0xFF ∈ bytes) :
    textOfBytes? bytes = none := by
  -- The encoding of a letter never has the highest byte.
  refine dif_neg ?_
  rintro ⟨letters, encoded⟩
  have data : bytes.toArray = (letters.flatMap String.utf8EncodeChar).toArray :=
    (congrArg ByteArray.data encoded).trans List.data_toByteArray
  rw [List.toArray_inj data] at among
  obtain ⟨letter, -, own⟩ := List.mem_flatMap.mp among
  exact Text.not_mem_utf8EncodeChar letter own

end Files

/-- A text without a slash that is put behind a path leaves its way, for it joins the last piece. -/
theorem Path.way_append {path : Path} {text : String} (checked : Files.checkPath path = .ok ())
    (clean : '/' ∉ text.toList) : (path.append text).way = path.way := by
  -- The text only makes the last piece longer, and the last piece is not left.
  obtain ⟨front, last, pieces⟩ : ∃ front last, path.pieces = front ++ [last] := by
    rcases List.eq_nil_or_concat path.pieces with none_ | ⟨front, last, cut⟩
    · exact absurd none_ (Text.splitAtChar_ne_nil _ _)
    · exact ⟨front, last, cut.trans (List.concat_eq_append ..)⟩
  have longer : (path.append text).pieces = front ++ [last ++ text.toList] := by
    rw [Path.pieces, append, String.toList_append]
    exact Text.splitAtChar_append_of_not_mem pieces clean
  rw [way, way, Files.start_append checked, longer, pieces]
  exact Location.way_concat _ _ _ _

end ShaderBuild
