import ShaderBuild.Pattern.Cursor
import ShaderBuild.Text.Hex

/-! Single pieces of a written pattern: characters, and what follows a backslash. -/

namespace ShaderBuild.Pattern

/-- A piece and where it stands. -/
structure Placed where
  piece : Piece
  span : Span
  deriving DecidableEq, Repr

/-- The value of some hexadecimal digits. -/
def hexNumber (digits : List Char) : Nat :=
  digits.foldl (fun value digit => 16 * value + (Text.hexValue? digit).getD 0) 0

/-- The character of a number, unless the number has none. -/
def charOfNumber? (number : Nat) : Option Char :=
  if number.isValidChar then some (Char.ofNat number) else none

/-- Whether a character is a hexadecimal digit. -/
def isHexDigit (c : Char) : Bool :=
  (Text.hexValue? c).isSome

/-- Whether a backslash before a character makes it stand for itself: all of ASCII but letters,
digits and angle brackets. -/
def standsForItself (c : Char) : Bool :=
  c.toNat < 0x80 && !c.isAlphanum && c != '<' && c != '>'

/-- The character that a letter stands for behind a backslash. -/
def controlOfLetter? : Char → Option Char
  | 'a' => some '\x07'
  | 'f' => some '\x0c'
  | 't' => some '\t'
  | 'n' => some '\n'
  | 'r' => some '\r'
  | 'v' => some '\x0b'
  | _ => none

/-- The class that a letter stands for behind a backslash, and whether all others are meant. -/
def shorthandOfLetter? : Char → Option (Shorthand × Bool)
  | 'd' => some (.digit, false)
  | 's' => some (.space, false)
  | 'w' => some (.word, false)
  | 'D' => some (.digit, true)
  | 'S' => some (.space, true)
  | 'W' => some (.word, true)
  | _ => none

/-- The condition that a letter or sign stands for behind a backslash. -/
def lookOfLetter? : Char → Option Look
  | 'A' => some .textStart
  | 'z' => some .textEnd
  | 'b' => some .wordBoundary
  | 'B' => some .noWordBoundary
  | '<' => some .wordStart
  | '>' => some .wordEnd
  | _ => none

/-- The condition of a word that stands in braces. -/
def lookOfWord? : String → Option Look
  | "start" => some .wordStart
  | "end" => some .wordEnd
  | "start-half" => some .wordStartHalf
  | "end-half" => some .wordEndHalf
  | _ => none

/-- How many hexadecimal digits follow a letter. -/
def hexWidth : Char → Nat
  | 'x' => 2
  | 'u' => 4
  | _ => 8

namespace Reading

/-- Takes a number of hexadecimal digits. -/
def hexDigits : Nat → Reading (List Char)
  | 0 => return []
  | count + 1 => do
    match ← rest with
    | [] => refuse .unfinishedEscape (.here [])
    | c :: tail =>
      if !isHexDigit c then refuse .hexDigit (.char (c :: tail))
      advance
      return c :: (← hexDigits count)

/-- The character of some digits that stand between two places. -/
def hexChar (digits start stop : List Char) : Reading Char :=
  match charOfNumber? (hexNumber digits) with
  | some c => return c
  | none => refuse .wideHex (.between start stop)

/-- Takes a character that is written as a number, behind the letter that says so. -/
def hex (letter : Char) : Reading Piece := do
  advance
  let start ← rest
  match start with
  | [] => refuse .unfinishedEscape (.here [])
  | '\x7b' :: inside =>
    advance
    let digits ← takeRun isHexDigit
    let stop ← rest
    match stop with
    | [] => refuse .unfinishedEscape (.between start [])
    | '\x7d' :: _ =>
      advance
      if digits = [] then refuse .emptyHex (← since start)
      return .literal (← hexChar digits inside stop) false
    | _ => refuse .hexDigit (.char stop)
  | _ =>
    let digits ← hexDigits (hexWidth letter)
    return .literal (← hexChar digits start (← rest)) (letter = 'x')

/-- Takes a property, behind the letter that says so. -/
def property : Reading Piece := do
  advance
  match ← rest with
  | [] => refuse .unfinishedEscape (.here [])
  | '\x7b' :: _ =>
    advance
    let text ← takeRun (· != '\x7d')
    if (← rest) = [] then refuse .unfinishedEscape (.here [])
    bump
    return .property text
  | c :: tail =>
    if c = '\\' then refuse .propertyName (.char (c :: tail))
    advance
    return .property [c]

/-- Takes the word in braces that may follow the sign of a word's boundary. What is in the braces
may also be a count; then nothing is taken. -/
def boundaryWord (start : List Char) : Reading (Option Look) := do
  let brace ← rest
  let isLetter := fun (c : Char) => c.isAlpha || c = '-'
  advance
  match ← rest with
  | [] => refuse .unfinishedWord (← since start)
  | c :: tail =>
    if !isLetter c then
      goTo brace
      return none
    let word ← takeRun isLetter
    let stop ← rest
    if stop.head? ≠ some '\x7d' then refuse .unclosedWord (← since brace)
    bump
    match lookOfWord? (String.ofList word) with
    | some condition => return some condition
    | none => refuse .unknownWord (.between (c :: tail) stop)

/-- Takes a backslash and what belongs to it. -/
def escape : Reading Placed := do
  let start ← rest
  bump
  let behind ← rest
  match behind with
  | [] => refuse .unfinishedEscape (← since start)
  | c :: _ =>
    if c.isDigit then
      bump
      refuse .backreference (← since start)
    let piece ←
      if c = 'x' || c = 'u' || c = 'U' then hex c
      else if c = 'p' || c = 'P' then property
      else do
        bump
        if standsForItself c then pure (.literal c false)
        else if let some control := controlOfLetter? c then pure (.literal control false)
        else if let some (kind, negated) := shorthandOfLetter? c then
          pure (.shorthand kind negated)
        else if let some condition := lookOfLetter? c then
          if c = 'b' && (← rest).head? = some '\x7b' then
            pure (.look ((← boundaryWord start).getD condition))
          else pure (.look condition)
        else refuse .unknownEscape (← since start)
    return ⟨piece, ← since start⟩

/-- Takes a single piece outside brackets. -/
def piece : Reading Placed := do
  let start ← rest
  match start with
  | '\\' :: _ => escape
  | c :: _ =>
    bump
    let piece : Piece :=
      match c with
      | '.' => .dot
      | '^' => .look .lineStart
      | '$' => .look .lineEnd
      | c => .literal c false
    return ⟨piece, ← since start⟩
  | [] => refuse .unfinishedEscape (.here [])

end Reading

end ShaderBuild.Pattern
