import ShaderBuild.Pattern.Bracket
import ShaderBuild.Pattern.Group

/-! Written patterns: alternatives of pieces, classes and groups that may be repeated. -/

namespace ShaderBuild.Pattern

/-- A row of parts that have been read, the last one first. A change of modes stands in the row but
is no part: it cannot be repeated. -/
abbrev Row := List (Option Pattern)

/-- The pattern of a row. -/
def Row.pattern (row : Row) : Pattern :=
  match row.reverse.filterMap id with
  | [] => .nothing
  | part :: parts => parts.foldl .both part

/-- The pattern of some alternatives and a last one. -/
def withAlternative (before : Option Pattern) (row : Row) : Pattern :=
  match before with
  | none => row.pattern
  | some before => .either before row.pattern

namespace Reading

/-- Takes the decimal number of a count. Blanks may stand around it in every mode. -/
def count : Reading (Except Fault Nat) := do
  goTo ((← rest).dropWhile Text.isBlank)
  let start ← rest
  let digits ← takeRun Char.isDigit
  let span ← since start
  let _ ← takeRun Text.isBlank
  if digits = [] then return .error ⟨.missingCount, span, none⟩
  let value := digits.foldl (fun value digit => 10 * value + (digit.toNat - 48)) 0
  if 0x100000000 ≤ value then return .error ⟨.wideCount, span, none⟩
  return .ok value

/-- The last part of a row, which a sign of repetition is about, and what is before it. -/
def lastPart (row : Row) : Reading (Pattern × Row) := do
  match row with
  | some part :: row => return (part, row)
  | _ => refuse .nothingToRepeat (.here (← rest))

/-- Takes the question mark that may follow a sign of repetition. -/
def laziness : Reading Unit := do
  if (← rest).head? = some '?' then bump

/-- Takes a sign of repetition. -/
def repetition (least : Nat) (most : Option Nat) (row : Row) : Reading Row := do
  let (part, row) ← lastPart row
  bump
  laziness
  return some (part.repeats least most) :: row

/-- Takes a count of repetitions in braces. -/
def countedRepetition (row : Row) : Reading Row := do
  let start ← rest
  let (part, row) ← lastPart row
  let unlessOver := do
    if (← rest) = [] then refuse .unclosedCount (← since start)
  advance
  unlessOver
  let least ← count
  unlessOver
  let (least, most) ←
    if (← rest).head? = some ',' then do
      advance
      unlessOver
      if (← rest).head? = some '\x7d' then pure (← least, none)
      else do
        let least ← least
        pure (least, some (← (← count)))
    else do
      let least ← least
      pure (least, some least)
  if (← rest).head? ≠ some '\x7d' then refuse .unclosedCount (← since start)
  advance
  laziness
  if most.any (· < least) then refuse .emptyCountRange (← since start)
  return some (part.repeats least most) :: row

/-- Takes alternatives up to the end of the pattern, or of the group that a parenthesis opened. -/
def alternatives (opened : Option Span) : Nat → Option Pattern → Row → Reading Pattern
  | 0, before, row => return withAlternative before row
  | fuel + 1, before, row => do
    skip
    match ← rest with
    | [] =>
      match opened with
      | none => return withAlternative before row
      | some paren => refuse .unclosedGroup paren
    | c :: tail =>
      match c with
      | ')' =>
        if opened.isNone then refuse .unopenedGroup (.char (c :: tail))
        bump
        return withAlternative before row
      | '|' =>
        bump
        alternatives opened fuel (some (withAlternative before row)) []
      | '(' =>
        let outer ← modes
        match ← openGroup with
        | .modes modes =>
          useModes modes
          alternatives opened fuel before (none :: row)
        | .group paren modes =>
          useModes modes
          let body ← alternatives (some paren) fuel none []
          -- Modes that were changed in a group hold up to its end.
          useModes outer
          alternatives opened fuel before (some body :: row)
      | '[' =>
        let set ← bracket
        alternatives opened fuel before (some (.one set) :: row)
      | '?' => alternatives opened fuel before (← repetition 0 (some 1) row)
      | '*' => alternatives opened fuel before (← repetition 0 none row)
      | '+' => alternatives opened fuel before (← repetition 1 none row)
      | '\x7b' => alternatives opened fuel before (← countedRepetition row)
      | _ =>
        let placed ← piece
        let part ← mean placed.span .nothing ((← modes).pattern placed.piece)
        alternatives opened fuel before (some part :: row)

end Reading

/-- Reads a pattern. -/
def read (text : List Char) : Except Refusal Pattern := do
  match (Reading.alternatives none (text.length + 1) none []).run { rest := text } with
  | .error fault => throw (.malformed fault)
  | .ok (pattern, cursor) =>
    if let some fault := cursor.meaningless then throw (.malformed fault)
    if sizeLimit < 32 * pattern.size then throw .tooLarge
    if pattern.asksUnknown then throw .unknownCondition
    return pattern

end ShaderBuild.Pattern
