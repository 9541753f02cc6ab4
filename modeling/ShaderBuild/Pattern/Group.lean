import ShaderBuild.Pattern.Cursor
import ShaderBuild.Text.Letter

/-! How a group begins: with a name, with modes, or with neither. -/

namespace ShaderBuild.Pattern

/-- What an opening parenthesis begins. -/
inductive Begin where
  /-- Modes for what follows; nothing is left open. -/
  | modes (modes : Modes)
  /-- A group, its parenthesis, and the modes within it. -/
  | group (span : Span) (modes : Modes)

/-- A letter for a mode, or a dash, and where it stands. -/
structure FlagMark where
  /-- The mode; none for a dash. -/
  flag : Option Flag
  span : Span
  deriving DecidableEq, Repr

/-- Takes letters for modes up to a colon or a closing parenthesis. A dash stands once, before the
letters of modes that are turned off. -/
def flagMarks (marks : List FlagMark) : List Char → Except Fault (List FlagMark × List Char)
  | [] => .error ⟨.unfinishedFlags, .here [], none⟩
  | c :: rest => do
    let span := Span.char (c :: rest)
    if c = ':' || c = ')' then
      match marks.getLast? with
      | some ⟨none, span⟩ => throw ⟨.danglingNegation, span, none⟩
      | _ => return (marks, c :: rest)
    let flag ←
      if c = '-' then pure none
      else
        match Flag.ofLetter? c with
        | some flag => pure (some flag)
        | none => throw ⟨.unknownFlag, span, none⟩
    -- No letter may stand twice, not even once on each side of the dash.
    match marks.find? (·.flag = flag) with
    | some earlier =>
      throw ⟨if flag.isNone then .repeatedNegation else .repeatedFlag, span, earlier.span⟩
    | none => flagMarks (marks ++ [⟨flag, span⟩]) rest

/-- The modes once some letters have been read. -/
def Modes.change (modes : Modes) (marks : List FlagMark) : Modes :=
  let turnedOn := marks.takeWhile (·.flag.isSome)
  let turnedOff := marks.drop turnedOn.length
  let modes := (turnedOn.filterMap (·.flag)).foldl (Modes.set · true) modes
  (turnedOff.filterMap (·.flag)).foldl (Modes.set · false) modes

/-- Whether a character can stand in the name of a group. -/
def isNameChar (isFirst : Bool) (c : Char) : Bool :=
  if isFirst then c = '_' || Text.isLetter c
  else c = '_' || c = '.' || c = '[' || c = ']' || Text.isLetterOrNumeral c

/-- The name of a group up to the closing bracket, which is left. -/
def nameBefore (isFirst : Bool) : List Char → Except Fault (List Char × List Char)
  | [] => .error ⟨.unfinishedName, .here [], none⟩
  | c :: rest => do
    if c = '>' then return ([], c :: rest)
    if !isNameChar isFirst c then throw ⟨.nameChar, .char (c :: rest), none⟩
    let (name, after) ← nameBefore false rest
    return (c :: name, after)

namespace Reading

/-- Takes the name of a group. No two groups have the same name. -/
def groupName : Reading Unit := do
  let start ← rest
  let (name, stop) ← nameBefore true start
  goTo stop.tail
  if name = [] then refuse .emptyName (.here start)
  let span := Span.between start stop
  match (← get).names.find? (·.1 = name) with
  | some (_, earlier) => refuse .repeatedName span (some earlier)
  | none => modify fun cursor => { cursor with names := (name, span) :: cursor.names }

/-- Whether the condition on what comes before or behind begins here, and what is left behind its
signs. -/
def lookAround? (text : List Char) : Option (List Char) :=
  ["?=", "?!", "?<=", "?<!"].findSome? fun signs => Text.dropLeading? signs.toList text

/-- Takes an opening parenthesis and what belongs to it. -/
def openGroup : Reading Begin := do
  let start ← rest
  let paren := Span.char start
  advance
  let inside ← rest
  if let some behind := lookAround? inside then refuse .lookAround (.between start behind)
  match inside with
  | '?' :: 'P' :: '<' :: text | '?' :: '<' :: text =>
    goTo text
    groupName
    return .group paren (← modes)
  | '?' :: text =>
    if text = [] then refuse .unclosedGroup paren
    let (marks, stop) ← flagMarks [] text
    goTo stop.tail
    let modes := (← modes).change marks
    if stop.head? = some ')' then
      -- A question mark with nothing behind it has nothing to repeat.
      if marks = [] then refuse .nothingToRepeat (.here inside)
      return .modes modes
    else return .group paren modes
  | _ => return .group paren (← modes)

end Reading

end ShaderBuild.Pattern
