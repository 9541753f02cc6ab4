import ShaderBuild.Glsl.Compiler
import ShaderBuild.Proofs.Position
import ShaderBuild.Proofs.StageChoice

/-! A text without its stage pragma keeps the places of all characters on other lines. -/

namespace ShaderBuild

/-- The first of some line bodies that is a stage pragma, with its number from zero. -/
def firstPragma? (bodies : List (List Char)) : Option (Nat × List Char) :=
  bodies.zipIdx.findSome? fun (body, index) => (stagePragma? body).map fun word => (index, word)

/-- The text in which nothing but its line end is left of one line. -/
def emptyLine (index : Nat) (text : List Char) : List Char :=
  ((Text.splitBehind '\n' text).modify index Text.endOf).flatten

/-- A text in which one line was made empty: that line keeps its line end, and all other lines, and
all characters on them, are where they were. -/
structure LineEmptied (text emptied : List Char) (index : Nat) : Prop where
  feeds : emptied.count '\n' = text.count '\n'
  own : ∃ piece, (Text.splitBehind '\n' text)[index]? = some piece ∧
    (Text.splitBehind '\n' emptied)[index]?.getD [] = Text.endOf piece
  others : ∀ other, other ≠ index →
    (Text.splitBehind '\n' emptied)[other]? = (Text.splitBehind '\n' text)[other]?
  places : Text.placedOff (index + 1) emptied = Text.placedOff (index + 1) text

section Finding

variable {ls before after : List Text.Line} {line : Text.Line} {word : List Char}

/-- Counting the lines on the way or beforehand finds the same pragma. -/
theorem findSome?_zipIdx_bodies (start : Nat) :
    ((ls.map (·.body)).zipIdx start).findSome?
        (fun (body, index) => (stagePragma? body).map fun word => (index, word)) =
      (findPragmaIn ls).map fun found => (found.1 + start, found.2) := by
  induction ls generalizing start with
  | nil => rfl
  | cons line rest ih =>
    rw [List.map_cons, List.zipIdx_cons, List.findSome?_cons, findPragmaIn, ih]
    cases own : stagePragma? line.body with
    | some word => simp [own]
    | none =>
      -- One line more is before what is found in the rest.
      cases findPragmaIn rest with
      | none => simp [own]
      | some found => simp [own, Nat.add_comm 1 start, Nat.add_assoc]

/-- The pragma of a text is the first among its pieces without their line ends. -/
theorem findStagePragma_eq_firstPragma? (source : String) : findStagePragma source =
    firstPragma? ((Text.splitBehind '\n' source.toList).map Text.withoutEnd) := by
  -- Without their line ends the pieces are the bodies of the lines.
  have bodies : (Text.splitBehind '\n' source.toList).map Text.withoutEnd =
      (Text.lines source.toList).map (·.body) := by
    rw [Text.splitBehind_eq, List.map_map]
    refine List.map_congr_left fun line among => ?_
    obtain ⟨before, after, cut⟩ := List.append_of_mem among
    have clean := (cut ▸ Text.wellCut_lines source.toList).parts.2.1
    exact Text.withoutEnd_toList clean
  rw [bodies, firstPragma?, findSome?_zipIdx_bodies 0, findStagePragma]
  simp

/-- Lines that are no stage pragmas stay. -/
theorem blankPragmaIn_append (plain : ∀ earlier ∈ before, stagePragma? earlier.body = none)
    (ls : List Text.Line) : blankPragmaIn (before ++ ls) = before ++ blankPragmaIn ls := by
  -- The search goes on behind each of them.
  induction before with
  | nil => rfl
  | cons earlier before ih =>
    rw [List.forall_mem_cons] at plain
    rw [List.cons_append, blankPragmaIn, plain.1]
    simp only [ih plain.2, List.cons_append]

/-- A text without a stage pragma is compiled as it is. -/
theorem stripStagePragma_of_none {source : String} (none_ : findStagePragma source = none) :
    stripStagePragma source = source := by
  -- All lines stay, and they make up the text.
  have plain : ∀ line ∈ Text.lines source.toList, stagePragma? line.body = none := by
    intro line among
    exact stagePragma?_eq_none_iff.mpr (findPragmaIn_eq_none_iff.mp none_ line among)
  have same := blankPragmaIn_append plain []
  rw [blankPragmaIn, List.append_nil] at same
  rw [stripStagePragma, same, Text.unlines_lines, String.ofList_toList]

/-- The first stage pragma of a text loses its body. -/
theorem toList_stripStagePragma {source : String}
    (cut : Text.lines source.toList = before ++ line :: after)
    (first : ∀ earlier ∈ before, ∀ word, ¬ PragmaLine earlier.body word)
    (own : PragmaLine line.body word) :
    (stripStagePragma source).toList = Text.unlines (before ++ line.blanked :: after) := by
  -- The lines before the first pragma are passed over.
  have plain : ∀ earlier ∈ before, stagePragma? earlier.body = none :=
    fun earlier among => stagePragma?_eq_none_iff.mpr (first earlier among)
  rw [stripStagePragma, String.toList_ofList, cut, blankPragmaIn_append plain, blankPragmaIn,
    stagePragma?_eq_some_iff.mpr own]

end Finding

section Emptying

open Text (Line LineEnd)

variable {before after : List Line} {line : Line} {text emptied : List Char} {index : Nat}

/-- A text around one of its lines. -/
theorem unlines_around (before after : List Line) (line : Line) :
    Text.unlines (before ++ line :: after) =
      Text.unlines before ++ (line.toList ++ Text.unlines after) := by
  -- Lines are put together one after the other.
  rw [Text.unlines, List.flatMap_append, List.flatMap_cons]
  rfl

/-- A line without its body is its line end. -/
theorem toList_blanked (line : Line) : line.blanked.toList = line.ending.toList :=
  List.nil_append _

/-- The lines of a text in which one line was made empty. A last line without a line end is gone. -/
theorem lines_blanked (cut : Text.WellCut (before ++ line :: after)) :
    Text.lines (Text.unlines (before ++ line.blanked :: after)) =
      before ++ if line.ending = .none then [] else line.blanked :: after := by
  -- The line end alone is a line, unless there is none.
  obtain ⟨closed, clean, last, cut'⟩ := cut.parts
  rw [unlines_around, Text.lines_append closed]
  split
  next open_ =>
    rw [toList_blanked, open_, (last open_).2]
    rfl
  next ends =>
    rw [Text.lines_line (Text.clean_blanked line) ends, Text.lines_unlines cut']

/-- An element in the middle is changed by its number. -/
theorem modify_middle {α : Type} (before : List α) (own : α) (after : List α) (change : α → α) :
    (before ++ own :: after).modify before.length change = before ++ change own :: after := by
  -- Induction on the elements before.
  induction before with
  | nil => rfl
  | cons other before ih => exact congrArg (other :: ·) ih

/-- Taking the body out of a line is leaving only the line end of that piece. -/
theorem emptyLine_unlines (cut : Text.WellCut (before ++ line :: after)) :
    emptyLine before.length (Text.unlines (before ++ line :: after)) =
      Text.unlines (before ++ line.blanked :: after) := by
  -- The piece with the number of the line is the line with its line end.
  obtain ⟨-, clean, -, -⟩ := cut.parts
  have size : before.length = (before.map Line.toList).length := List.length_map _ |>.symm
  rw [emptyLine, Text.splitBehind_eq, Text.lines_unlines cut, List.map_append, List.map_cons, size,
    modify_middle, Text.endOf_toList clean, unlines_around, toList_blanked, List.flatten_append]
  rfl

/-- Making one line empty leaves everything on the other lines where it is. -/
theorem lineEmptied_blanked (cut : Text.WellCut (before ++ line :: after)) :
    LineEmptied (Text.unlines (before ++ line :: after))
      (Text.unlines (before ++ line.blanked :: after)) before.length := by
  obtain ⟨closed, clean, last, -⟩ := cut.parts
  refine ⟨?feeds, ?own, ?others, ?places⟩
  case feeds =>
    -- The body has no line feed.
    have same : line.blanked.toList.count '\n' = line.toList.count '\n' := by
      rw [toList_blanked, Line.toList, List.count_append,
        List.count_eq_zero_of_not_mem clean.feedless, Nat.zero_add]
    simp only [unlines_around, List.count_append, same]
  case own =>
    refine ⟨line.toList, ?_, ?_⟩
    · rw [Text.splitBehind_eq, Text.lines_unlines cut]
      simp
    · rw [Text.splitBehind_eq, lines_blanked cut, Text.endOf_toList clean]
      split
      next open_ => simp [open_, LineEnd.toList]
      next ends => simp [toList_blanked]
  case others =>
    intro other elsewhere
    rw [Text.splitBehind_eq, Text.splitBehind_eq, lines_blanked cut, Text.lines_unlines cut,
      List.getElem?_map, List.getElem?_map]
    congr 1
    rcases Nat.lt_or_gt_of_ne elsewhere with earlier | later
    · rw [List.getElem?_append_left earlier, List.getElem?_append_left earlier]
    · obtain ⟨more, rfl⟩ : ∃ more, other = before.length + (more + 1) :=
        ⟨other - before.length - 1, by omega⟩
      rw [List.getElem?_append_right (by omega), List.getElem?_append_right (by omega),
        Nat.add_sub_cancel_left, List.getElem?_cons_succ]
      split
      next open_ => rw [(last open_).2, List.getElem?_nil, List.getElem?_nil]
      next ends => rw [List.getElem?_cons_succ]
  case places =>
    rw [unlines_around, unlines_around,
      Text.placedOff_eq closed clean fun open_ => (last open_).2,
      Text.placedOff_eq closed (Text.clean_blanked line) fun open_ => (last open_).2]

end Emptying

/-- A message of the backend about a character on another line is the same message about that
character of the text as it was before. -/
theorem LineEmptied.backendFault {text emptied : List Char} {index : Nat} {c : Char}
    (same : LineEmptied text emptied index) (fault : Glsl.SourceFault × Program.Span)
    (begins : Text.BeginsAt emptied fault.2.start c)
    (elsewhere : (Text.positionOf emptied fault.2.start).1 ≠ index + 1) :
    ∃ start, Text.BeginsAt text start c ∧
      Glsl.backendFault text (fault.1, ⟨start, fault.2.stop⟩) =
        Glsl.backendFault emptied fault := by
  -- The character is listed on another line, so it is listed there for both texts.
  have listed : (c, Text.positionOf emptied fault.2.start) ∈
      Text.placedOff (index + 1) emptied := by
    rw [Text.placedOff, List.mem_filter]
    exact ⟨Text.mem_placed_iff.mpr ⟨_, begins, rfl⟩, by simpa using elsewhere⟩
  rw [same.places, Text.placedOff, List.mem_filter] at listed
  obtain ⟨start, begins', there⟩ := Text.mem_placed_iff.mp listed.1
  refine ⟨start, begins', ?_⟩
  simp only [Glsl.backendFault, Glsl.placeOfSpan, there]

/-- Without a stage pragma the text stays. Otherwise the line that tells the stage is the one that
is made empty, and messages about other lines point at the same places in both texts. -/
theorem stripStagePragma_keeps_places (source : String) :
    findStagePragma source =
      firstPragma? ((Text.splitBehind '\n' source.toList).map Text.withoutEnd) ∧
    (¬ HasPragma source → stripStagePragma source = source) ∧
    (HasPragma source → ∃ index word, findStagePragma source = some (index, word) ∧
      stripStagePragma source = String.ofList (emptyLine index source.toList) ∧
      LineEmptied source.toList (stripStagePragma source).toList index ∧
      (∀ name options (row : UInt32), options.stage = none →
        row.toNat = min (index + 1) 0xFFFFFFFF →
        resolveStage name source options =
          stageVerdict name .pragma row
            ("unknown shader stage `" ++ String.ofList word ++ "` in #pragma")
            (StageName.parse word)) ∧
      ∀ fault c, Text.BeginsAt (stripStagePragma source).toList fault.2.start c →
        (Text.positionOf (stripStagePragma source).toList fault.2.start).1 ≠ index + 1 →
        ∃ start, Text.BeginsAt source.toList start c ∧
          Glsl.backendFault source.toList (fault.1, ⟨start, fault.2.stop⟩) =
            Glsl.backendFault (stripStagePragma source).toList fault) := by
  -- The text is cut at the pragma's line; each statement is then one about the three parts.
  refine ⟨findStagePragma_eq_firstPragma? source, fun plain => ?_, fun has => ?_⟩
  · exact stripStagePragma_of_none (findStagePragma_eq_none_iff.mpr plain)
  · cases found : findStagePragma source with
    | none => exact absurd has (findStagePragma_eq_none_iff.mp found)
    | some pair =>
      obtain ⟨index, word⟩ := pair
      obtain ⟨before, line, after, cut, rfl, first, own⟩ := findPragmaIn_eq_some_iff.mp found
      have well : Text.WellCut (before ++ line :: after) := cut ▸ Text.wellCut_lines source.toList
      have whole : source.toList = Text.unlines (before ++ line :: after) := by
        rw [← cut, Text.unlines_lines]
      have stripped := toList_stripStagePragma cut first own
      have emptied : LineEmptied source.toList (stripStagePragma source).toList before.length := by
        rw [stripped, whole]
        exact lineEmptied_blanked well
      refine ⟨before.length, word, rfl, ?_, emptied, ?_, ?_⟩
      · rw [whole, emptyLine_unlines well, ← stripped, String.ofList_toList]
      · exact fun name options row free numbered => resolveStage_of_pragma free found numbered
      · exact fun fault c => emptied.backendFault fault

/-- Behind a pragma on a line of its own everything stays on its line, whatever ends the lines. -/
theorem stripStagePragma_mixed_ends :
    stripStagePragma "é\r\n\t#pragma shader_stage(vert)\r\nb\r\rc" = "é\r\n\r\nb\r\rc" ∧
    LineEmptied "é\r\n\t#pragma shader_stage(vert)\r\nb\r\rc".toList
      "é\r\n\r\nb\r\rc".toList 1 ∧
    resolveStage "x" "é\r\n\t#pragma shader_stage(vert)\r\nb\r\rc" {} =
      .ok (.vertex, .pragma) ∧
    (∃ start, Text.BeginsAt "é\r\n\t#pragma shader_stage(vert)\r\nb\r\rc".toList start 'c' ∧
      Glsl.backendFault "é\r\n\t#pragma shader_stage(vert)\r\nb\r\rc".toList
          (.notUint, ⟨start, 10⟩) =
        ⟨3, 4, Glsl.SourceFault.notUint.message⟩) ∧
    stripStagePragma "#version 450\r" = "#version 450\r" := by
  have has : HasPragma "é\r\n\t#pragma shader_stage(vert)\r\nb\r\rc" := by
    by_contra plain
    rw [← findStagePragma_eq_none_iff] at plain
    exact absurd plain (by decide)
  obtain ⟨-, -, loses⟩ :=
    stripStagePragma_keeps_places "é\r\n\t#pragma shader_stage(vert)\r\nb\r\rc"
  obtain ⟨-, keeps, -⟩ := stripStagePragma_keeps_places "#version 450\r"
  obtain ⟨index, word, found, -, emptied, stage, places⟩ := loses has
  have pragma_ : findStagePragma "é\r\n\t#pragma shader_stage(vert)\r\nb\r\rc" =
      some (1, "vert".toList) := by decide
  obtain ⟨rfl, rfl⟩ : 1 = index ∧ "vert".toList = word := by
    rw [pragma_] at found
    exact Prod.mk.inj (Option.some.inj found)
  have stripped : stripStagePragma "é\r\n\t#pragma shader_stage(vert)\r\nb\r\rc" =
      "é\r\n\r\nb\r\rc" := by decide
  rw [stripped] at emptied places
  -- The last character stands nine bytes behind the beginning of what is left.
  have begins : Text.BeginsAt "é\r\n\r\nb\r\rc".toList 9 'c' :=
    ⟨"é\r\n\r\nb\r\r".toList, [], by decide, by decide⟩
  obtain ⟨start, begins', same⟩ := places (.notUint, ⟨9, 10⟩) 'c' begins (by decide)
  refine ⟨stripped, emptied, ?_, ⟨start, begins', ?_⟩, keeps ?_⟩
  · rw [stage "x" {} 2 rfl (by decide)]
    decide
  · rw [same]
    decide
  · rw [← findStagePragma_eq_none_iff]
    decide

end ShaderBuild
