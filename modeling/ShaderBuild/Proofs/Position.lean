import ShaderBuild.Proofs.Lines
import ShaderBuild.Text.Position
import ShaderBuild.Toml.Extent

/-! The line and the column of a character depend only on what is before it. -/

namespace ShaderBuild.Text

open Toml (byteCount)

/-- The line and the column behind a character. -/
def Position.next (place : Nat × Nat) (c : Char) : Nat × Nat :=
  if c = '\n' then (place.1 + 1, 1) else (place.1, place.2 + c.utf8Size)

/-- The line and the column behind some characters. -/
def Position.behind (place : Nat × Nat) (text : List Char) : Nat × Nat :=
  text.foldl Position.next place

/-- The characters of a text that begins at some place, each with its line and its column. -/
def placedFrom (place : Nat × Nat) : List Char → List (Char × (Nat × Nat))
  | [] => []
  | c :: rest => (c, place) :: placedFrom (Position.next place c) rest

/-- The characters of a text, each with its line and its column. -/
def placed (text : List Char) : List (Char × (Nat × Nat)) :=
  placedFrom (1, 1) text

/-- The characters of a text that stand on other lines than a given one. -/
def placedOff (line : Nat) (text : List Char) : List (Char × (Nat × Nat)) :=
  (placed text).filter fun entry => entry.2.1 ≠ line

/-- A character begins some bytes behind the beginning of a text. -/
def BeginsAt (text : List Char) (offset : Nat) (c : Char) : Prop :=
  ∃ before after, text = before ++ c :: after ∧ byteCount before = offset

section Places

variable {place there : Nat × Nat} {text left right : List Char} {c : Char}

/-- The places behind a text come behind its parts. -/
theorem behind_append (place : Nat × Nat) (left right : List Char) :
    Position.behind place (left ++ right) = Position.behind (Position.behind place left) right :=
  List.foldl_append

/-- Some bytes into a text, those of its beginning are behind. -/
theorem positionFrom_append (place : Nat × Nat) (left right : List Char) (offset : Nat) :
    positionFrom place.1 place.2 (byteCount left + offset) (left ++ right) =
      positionFrom (Position.behind place left).1 (Position.behind place left).2 offset right := by
  -- Every character of the beginning takes its own bytes off the offset.
  induction left generalizing place with
  | nil =>
    rw [byteCount, Nat.zero_add]
    rfl
  | cons c left ih =>
    have positive : 0 < c.utf8Size := Char.utf8Size_pos c
    obtain ⟨count, whole⟩ : ∃ count, byteCount (c :: left) + offset = count + 1 :=
      ⟨byteCount (c :: left) + offset - 1, by simp only [byteCount]; omega⟩
    have rest : count + 1 - c.utf8Size = byteCount left + offset := by
      simp only [byteCount] at whole
      omega
    have behind : Position.behind place (c :: left) =
        Position.behind (Position.next place c) left := rfl
    rw [whole, List.cons_append, positionFrom, rest, behind, ← ih (Position.next place c)]
    -- The column grows, or a line feed begins the next line.
    by_cases feed : c = '\n'
    · rw [if_pos feed, Position.next, if_pos feed]
    · rw [if_neg feed, Position.next, if_neg feed]

/-- The place of the character behind a text's beginning is the one behind that beginning. -/
theorem positionOf_append (left right : List Char) :
    positionOf (left ++ right) (byteCount left) = Position.behind (1, 1) left := by
  -- The walk through the first text ends behind it with no bytes left to go.
  have behind := positionFrom_append (1, 1) left right 0
  rw [Nat.add_zero] at behind
  rw [positionOf, behind]
  cases right <;> rfl

/-- The characters of two texts stand behind each other. -/
theorem placedFrom_append (place : Nat × Nat) (left right : List Char) :
    placedFrom place (left ++ right) =
      placedFrom place left ++ placedFrom (Position.behind place left) right := by
  -- Induction on the first text, from any place.
  induction left generalizing place with
  | nil => rfl
  | cons c left ih => exact congrArg _ (ih (Position.next place c))

/-- A character is listed with the place that is behind everything before it. -/
theorem mem_placedFrom_iff : (c, there) ∈ placedFrom place text ↔
    ∃ before after, text = before ++ c :: after ∧ Position.behind place before = there := by
  -- The character is the first one, or it is listed for the rest.
  induction text generalizing place with
  | nil => simp [placedFrom]
  | cons d text ih =>
    rw [placedFrom, List.mem_cons, ih]
    constructor
    · rintro (same | ⟨before, after, rfl, rfl⟩)
      · obtain ⟨rfl, rfl⟩ := Prod.mk.inj same
        exact ⟨[], text, rfl, rfl⟩
      · exact ⟨d :: before, after, rfl, rfl⟩
    · rintro ⟨before, after, whole, rfl⟩
      cases before with
      | nil =>
        obtain ⟨rfl, rfl⟩ := List.cons.inj whole
        exact .inl rfl
      | cons e before =>
        obtain ⟨rfl, rfl⟩ := List.cons.inj whole
        exact .inr ⟨before, after, rfl, rfl⟩

/-- A character is listed with the position that its first byte has. -/
theorem mem_placed_iff : (c, there) ∈ placed text ↔
    ∃ offset, BeginsAt text offset c ∧ positionOf text offset = there := by
  -- The offset of a character is the number of bytes before it.
  rw [placed, mem_placedFrom_iff]
  constructor
  · rintro ⟨before, after, rfl, rfl⟩
    exact ⟨_, ⟨before, after, rfl, rfl⟩, positionOf_append before (c :: after)⟩
  · rintro ⟨_, ⟨before, after, rfl, rfl⟩, rfl⟩
    exact ⟨before, after, rfl, (positionOf_append before (c :: after)).symm⟩

end Places

section Rows

variable {place : Nat × Nat} {line : Line} {ls before after : List Line} {text : List Char}
  {entry : Char × (Nat × Nat)}

/-- Without a line feed the line stays the same. -/
theorem fst_behind_of_feedless (place : Nat × Nat) (feedless : '\n' ∉ text) :
    (Position.behind place text).1 = place.1 := by
  -- Induction on the text; only a line feed leads to another line.
  induction text generalizing place with
  | nil => rfl
  | cons c text ih =>
    rw [List.mem_cons, not_or] at feedless
    have stays : (Position.next place c).1 = place.1 := by
      rw [Position.next, if_neg (Ne.symm feedless.1)]
    exact (ih (Position.next place c) feedless.2).trans stays

/-- Behind a line with a line end the next line begins. -/
theorem behind_line (place : Nat × Nat) (clean : line.Clean) (ends : line.ending ≠ .none) :
    Position.behind place line.toList = (place.1 + 1, 1) := by
  -- The body stays on the line, and the line feed begins the next one.
  have same := fst_behind_of_feedless place clean.feedless
  rw [Line.toList, behind_append]
  cases ending : line.ending with
  | none => exact absurd ending ends
  | lf =>
    show Position.next _ '\n' = _
    rw [Position.next, if_pos rfl, same]
  | crlf =>
    show Position.next (Position.next _ '\r') '\n' = _
    rw [Position.next, if_pos rfl, Position.next, if_neg (by decide), same]

/-- Behind some lines with line ends there are as many lines more. -/
theorem behind_unlines (number : Nat) (closed : Closed ls) :
    Position.behind (number, 1) (unlines ls) = (number + ls.length, 1) := by
  -- Each line with a line end counts one.
  induction ls generalizing number with
  | nil => rfl
  | cons line rest ih =>
    obtain ⟨clean, ends⟩ := closed line List.mem_cons_self
    have split : unlines (line :: rest) = line.toList ++ unlines rest := List.flatMap_cons
    rw [split, behind_append, behind_line _ clean ends,
      ih (number + 1) fun other among => closed other (.tail _ among), List.length_cons]
    congr 1
    omega

/-- Without a line feed all characters stand on the line that the text begins on. -/
theorem row_of_feedless (feedless : '\n' ∉ text) (among : entry ∈ placedFrom place text) :
    entry.2.1 = place.1 := by
  -- Induction on the text; the character in front stands on the line of the place itself.
  induction text generalizing place with
  | nil => simp [placedFrom] at among
  | cons c text ih =>
    rw [List.mem_cons, not_or] at feedless
    rcases List.mem_cons.mp among with rfl | later
    · rfl
    · rw [ih feedless.2 later, Position.next, if_neg (Ne.symm feedless.1)]

/-- All characters of a line stand on it. -/
theorem row_of_mem_line (clean : line.Clean) (among : entry ∈ placedFrom place line.toList) :
    entry.2.1 = place.1 := by
  -- Only the very last character can be a line feed.
  have same := fst_behind_of_feedless place clean.feedless
  rw [Line.toList, placedFrom_append, List.mem_append] at among
  rcases among with inBody | inEnd
  · exact row_of_feedless clean.feedless inBody
  · cases ending : line.ending with
    | none => simp [ending, LineEnd.toList, placedFrom] at inEnd
    | lf =>
      simp only [ending, LineEnd.toList, placedFrom, List.mem_singleton] at inEnd
      rw [inEnd, same]
    | crlf =>
      simp only [ending, LineEnd.toList, placedFrom, List.mem_cons, List.not_mem_nil,
        or_false] at inEnd
      rcases inEnd with rfl | rfl
      · exact same
      · rw [Position.next, if_neg (by decide)]
        exact same

/-- Characters of lines with line ends stand on these lines. -/
theorem row_lt_of_mem_unlines {number : Nat} (closed : Closed ls)
    (among : entry ∈ placedFrom (number, 1) (unlines ls)) : entry.2.1 < number + ls.length := by
  -- The characters of the first line have its number, and the others are counted from the next.
  induction ls generalizing number with
  | nil => simp [unlines, placedFrom] at among
  | cons line rest ih =>
    obtain ⟨clean, ends⟩ := closed line List.mem_cons_self
    have split : unlines (line :: rest) = line.toList ++ unlines rest := List.flatMap_cons
    rw [split, placedFrom_append, behind_line _ clean ends, List.mem_append] at among
    rw [List.length_cons]
    rcases among with own | later
    · rw [row_of_mem_line clean own]
      omega
    · have := ih (fun other among => closed other (.tail _ among)) later
      omega

/-- No character stands on a line before the one that its text begins on. -/
theorem row_le_of_mem (among : entry ∈ placedFrom place text) : place.1 ≤ entry.2.1 := by
  -- A number never gets smaller from one character to the next.
  induction text generalizing place with
  | nil => simp [placedFrom] at among
  | cons c text ih =>
    rcases List.mem_cons.mp among with rfl | later
    · exact Nat.le_refl _
    · have further : place.1 ≤ (Position.next place c).1 := by
        rw [Position.next]
        split
        · exact Nat.le_succ _
        · exact Nat.le_refl _
      exact Nat.le_trans further (ih later)

/-- The characters on the other lines than one are those of the lines before it and behind it. -/
theorem placedOff_eq (closed : Closed before) (clean : line.Clean)
    (last : line.ending = .none → after = []) :
    placedOff (before.length + 1) (unlines before ++ (line.toList ++ unlines after)) =
      placed (unlines before) ++ placedFrom (before.length + 2, 1) (unlines after) := by
  have begins : Position.behind (1, 1) (unlines before) = (before.length + 1, 1) := by
    rw [behind_unlines 1 closed, Nat.add_comm]
  rw [placedOff, placed, placedFrom_append, placedFrom_append, begins, List.filter_append,
    List.filter_append]
  -- Earlier lines have smaller numbers, and later ones larger numbers.
  have earlier : (placedFrom (1, 1) (unlines before)).filter
      (fun entry => entry.2.1 ≠ before.length + 1) = placed (unlines before) := by
    rw [placed, List.filter_eq_self]
    intro entry among
    have := row_lt_of_mem_unlines closed among
    simp only [ne_eq, decide_eq_true_eq]
    omega
  have own : (placedFrom (before.length + 1, 1) line.toList).filter
      (fun entry => entry.2.1 ≠ before.length + 1) = [] := by
    rw [List.filter_eq_nil_iff]
    intro entry among
    simp [row_of_mem_line clean among]
  rw [earlier, own, List.nil_append]
  congr 1
  by_cases open_ : line.ending = .none
  · rw [last open_]
    rfl
  · rw [behind_line _ clean open_, List.filter_eq_self]
    intro entry among
    have := row_le_of_mem among
    simp only [ne_eq, decide_eq_true_eq]
    omega

end Rows

end ShaderBuild.Text
