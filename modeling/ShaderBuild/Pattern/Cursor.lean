import ShaderBuild.Pattern.Modes

/-! Reading a written pattern from its start, and refusing it at its first fault. -/

namespace ShaderBuild.Pattern

/-- What is left of a pattern behind blanks and comments. A comment begins with a hash and goes up
to the end of the line. -/
def skipBlanks (inComment : Bool) : List Char → List Char
  | [] => []
  | c :: rest =>
    if inComment then skipBlanks (c != '\n') rest
    else if Text.isBlank c then skipBlanks false rest
    else if c = '#' then skipBlanks true rest
    else c :: rest

/-- Skipping leaves no more than there was. -/
theorem length_skipBlanks_le (inComment : Bool) (text : List Char) :
    (skipBlanks inComment text).length ≤ text.length := by
  -- Characters are only dropped.
  induction text generalizing inComment with
  | nil => simp [skipBlanks]
  | cons c rest ih =>
    have inside := ih true
    have outside := ih false
    have after := ih (c != '\n')
    simp only [skipBlanks, List.length_cons]
    split
    · omega
    · split
      · omega
      · split
        · omega
        · simp

/-- What is left once nothing without a meaning comes next. -/
def settle (spaced : Bool) (rest : List Char) : List Char :=
  if spaced then skipBlanks false rest else rest

/-- Settling leaves no more than there was. -/
theorem length_settle_le (spaced : Bool) (rest : List Char) :
    (settle spaced rest).length ≤ rest.length := by
  -- Either nothing happens or blanks are skipped.
  unfold settle
  split
  · exact length_skipBlanks_le false rest
  · exact Nat.le_refl _

/-- The characters of a kind that come next, and what is left behind them. -/
def run (spaced : Bool) (allowed : Char → Bool) : List Char → List Char × List Char
  | [] => ([], [])
  | c :: rest =>
    if allowed c then
      let (more, after) := run spaced allowed (settle spaced rest)
      (c :: more, after)
    else ([], c :: rest)
termination_by text => text.length
decreasing_by
  have shorter := length_settle_le spaced rest
  simp only [List.length_cons]
  omega

/-- How far a pattern has been read. -/
structure Cursor where
  rest : List Char
  modes : Modes := {}
  /-- The names of groups and where they stand. -/
  names : List (List Char × Span) := []
  /-- The first part that means nothing. -/
  meaningless : Option Fault := none

/-- Reading a part of a pattern. -/
abbrev Reading := StateT Cursor (Except Fault)

namespace Reading

/-- What is left of the pattern. -/
def rest : Reading (List Char) :=
  return (← get).rest

/-- The modes that hold here. -/
def modes : Reading Modes :=
  return (← get).modes

/-- Goes on from another place. -/
def goTo (rest : List Char) : Reading Unit :=
  modify fun cursor => { cursor with rest := rest }

/-- Changes the modes that hold from here. -/
def useModes (modes : Modes) : Reading Unit :=
  modify fun cursor => { cursor with modes := modes }

/-- Refuses the pattern. -/
def refuse (problem : Problem) (span : Span) (other : Option Span := none) : Reading α :=
  throw ⟨problem, span, other⟩

/-- Skips what has no meaning. -/
def skip : Reading Unit :=
  modify fun cursor => { cursor with rest := settle cursor.modes.spaced cursor.rest }

/-- Takes a character. -/
def bump : Reading Unit :=
  modify fun cursor => { cursor with rest := cursor.rest.tail }

/-- Takes a character and what has no meaning behind it. -/
def advance : Reading Unit := do
  bump
  skip

/-- Takes the characters of a kind that come next, with what has no meaning between them. -/
def takeRun (allowed : Char → Bool) : Reading (List Char) := do
  let (taken, after) := run (← modes).spaced allowed (← rest)
  goTo after
  return taken

/-- The part from a place up to here. -/
def since (start : List Char) : Reading Span :=
  return .between start (← rest)

/-- The meaning of a part, or a stand-in when it has none. -/
def mean (span : Span) (standIn : α) (meaning : Except Problem α) : Reading α :=
  match meaning with
  | .ok value => return value
  | .error problem => do
    modify fun cursor =>
      { cursor with meaningless := cursor.meaningless.or (some ⟨problem, span, none⟩) }
    return standIn

end Reading

end ShaderBuild.Pattern
