import ShaderBuild.Text.Ranges

/-! The sets of characters that a pattern speaks of, and how new ones are made of them. -/

namespace ShaderBuild.Pattern

/-- Some characters, as ranges of their numbers, the first and last of each included. The ranges
stand in no order and may overlap, but none of them is empty. -/
structure CharSet where
  ranges : List (Nat × Nat)
  deriving DecidableEq, Repr

namespace CharSet

/-- No character. -/
def empty : CharSet :=
  ⟨[]⟩

/-- A single character. -/
def single (c : Char) : CharSet :=
  ⟨[(c.toNat, c.toNat)]⟩

/-- All characters. -/
def full : CharSet :=
  ⟨[(0, 0xD7FF), (0xE000, 0x10FFFF)]⟩

/-- All numbers that fit a byte. -/
def bytes : CharSet :=
  ⟨[(0, 0xFF)]⟩

/-- Whether a set has no character. -/
def isEmpty (set : CharSet) : Bool :=
  set.ranges.isEmpty

/-- Whether all characters of a set are ASCII characters. -/
def isAscii (set : CharSet) : Bool :=
  set.ranges.all fun range => range.2 < 0x80

/-- Whether a character is in a set. -/
def contains (set : CharSet) (number : Nat) : Bool :=
  Text.inRanges set.ranges number

/-- The characters of two sets. -/
def union (first second : CharSet) : CharSet :=
  ⟨first.ranges ++ second.ranges⟩

/-- What a range and another one share, if anything. -/
def shared (first second : Nat × Nat) : Option (Nat × Nat) :=
  let low := max first.1 second.1
  let high := min first.2 second.2
  if low ≤ high then some (low, high) else none

/-- The characters that two sets share. -/
def inter (first second : CharSet) : CharSet :=
  ⟨first.ranges.flatMap fun range => second.ranges.filterMap (shared range)⟩

/-- What is left of a range when another one is taken out of it. -/
def without (range hole : Nat × Nat) : List (Nat × Nat) :=
  if hole.2 < range.1 ∨ range.2 < hole.1 then [range]
  else
    (if range.1 < hole.1 then [(range.1, hole.1 - 1)] else []) ++
      (if hole.2 < range.2 then [(hole.2 + 1, range.2)] else [])

/-- The characters of a set that are not in another one. -/
def diff (first second : CharSet) : CharSet :=
  ⟨second.ranges.foldl (fun ranges hole => ranges.flatMap (without · hole)) first.ranges⟩

/-- The characters that are in exactly one of two sets. -/
def symmDiff (first second : CharSet) : CharSet :=
  (first.diff second).union (second.diff first)

/-- A set with the other case of its ASCII letters. -/
def withBothCases (set : CharSet) : CharSet :=
  let move := fun (letters : Nat × Nat) (shift : Nat → Nat) =>
    (set.ranges.filterMap (shared letters)).map fun range => (shift range.1, shift range.2)
  ⟨set.ranges ++ move (0x41, 0x5A) (· + 0x20) ++ move (0x61, 0x7A) (· - 0x20)⟩

/-- A union holds what one of its parts holds. -/
theorem contains_union {first second : CharSet} {number : Nat} :
    (first.union second).contains number = (first.contains number || second.contains number) := by
  -- The ranges of both stand one after the other.
  simp [contains, union, Text.inRanges]

/-- What two ranges share lies in both of them. -/
theorem shared_iff {first second : Nat × Nat} {number : Nat} :
    (∃ range ∈ shared first second, range.1 ≤ number ∧ number ≤ range.2) ↔
      (first.1 ≤ number ∧ number ≤ first.2) ∧ second.1 ≤ number ∧ number ≤ second.2 := by
  -- The shared range goes from the later start to the earlier end.
  unfold shared
  dsimp only
  split
  · simp only [Option.mem_some, exists_eq_left']
    omega
  · simp only [Option.mem_def, reduceCtorEq, false_and, exists_false, false_iff]
    omega

/-- The shared part of two sets holds what both hold. -/
theorem contains_inter {first second : CharSet} {number : Nat} :
    (first.inter second).contains number = (first.contains number && second.contains number) := by
  -- A number in both lies in a range of each, and in what these two share.
  rw [Bool.eq_iff_iff, Bool.and_eq_true]
  simp only [contains, Text.inRanges_iff, inter, List.mem_flatMap, List.mem_filterMap]
  constructor
  · rintro ⟨range, ⟨left, inLeft, right, inRight, both⟩, inside⟩
    have lies := shared_iff.1 ⟨range, both, inside⟩
    exact ⟨⟨left, inLeft, lies.1⟩, ⟨right, inRight, lies.2⟩⟩
  · rintro ⟨⟨left, inLeft, first⟩, ⟨right, inRight, second⟩⟩
    obtain ⟨range, both, inside⟩ := shared_iff.2 ⟨first, second⟩
    exact ⟨range, ⟨left, inLeft, right, inRight, both⟩, inside⟩

/-- A range without another one holds what only the former holds. -/
theorem without_iff {range hole : Nat × Nat} {number : Nat} :
    (∃ piece ∈ without range hole, piece.1 ≤ number ∧ number ≤ piece.2) ↔
      (range.1 ≤ number ∧ number ≤ range.2) ∧ ¬(hole.1 ≤ number ∧ number ≤ hole.2) := by
  -- What is left lies before the hole or behind it.
  unfold without
  split
  · simp
    omega
  · split <;> split <;> simp <;> omega

/-- Taking one range out of some others leaves what only the others hold. -/
theorem inRanges_flatMap_without {ranges : List (Nat × Nat)} {hole : Nat × Nat} {number : Nat} :
    Text.inRanges (ranges.flatMap (without · hole)) number = true ↔
      Text.inRanges ranges number = true ∧ ¬(hole.1 ≤ number ∧ number ≤ hole.2) := by
  -- The hole is taken out of each range on its own.
  simp only [Text.inRanges_iff, List.mem_flatMap]
  constructor
  · rintro ⟨piece, ⟨range, inside, left⟩, lies⟩
    have both := without_iff.1 ⟨piece, left, lies⟩
    exact ⟨⟨range, inside, both.1⟩, both.2⟩
  · rintro ⟨⟨range, inside, lies⟩, free⟩
    obtain ⟨piece, left, both⟩ := without_iff.2 ⟨lies, free⟩
    exact ⟨piece, ⟨range, inside, left⟩, both⟩

/-- A difference holds what only its first part holds. -/
theorem contains_diff {first second : CharSet} {number : Nat} :
    (first.diff second).contains number = true ↔
      first.contains number = true ∧ ¬second.contains number = true := by
  -- One hole after the other is taken out of all ranges that are left.
  have general : ∀ (holes ranges : List (Nat × Nat)),
      Text.inRanges (holes.foldl (fun ranges hole => ranges.flatMap (without · hole)) ranges)
          number = true ↔
        Text.inRanges ranges number = true ∧ ¬Text.inRanges holes number = true := by
    intro holes
    induction holes with
    | nil => intro ranges; simp [Text.inRanges]
    | cons hole holes ih =>
      intro ranges
      rw [List.foldl_cons, ih, inRanges_flatMap_without]
      simp only [Text.inRanges_iff, List.mem_cons, exists_eq_or_imp, not_or, and_assoc]
  exact general second.ranges first.ranges

end CharSet

end ShaderBuild.Pattern
