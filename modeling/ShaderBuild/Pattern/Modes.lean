import ShaderBuild.Pattern.Basic
import ShaderBuild.Pattern.Fault

/-! What the pieces of a pattern mean under the modes that its letters turn on and off. -/

namespace ShaderBuild.Pattern

/-- A mode that a letter turns on or off. -/
inductive Flag where
  | ignoreCase
  | multiLine
  | dotAll
  | swapGreed
  | unicode
  | anyLineEnd
  | spaced
  deriving DecidableEq, Repr

/-- The mode of a letter. -/
def Flag.ofLetter? : Char → Option Flag
  | 'i' => some ignoreCase
  | 'm' => some multiLine
  | 's' => some dotAll
  | 'U' => some swapGreed
  | 'u' => some unicode
  | 'R' => some anyLineEnd
  | 'x' => some spaced
  | _ => none

/-- The modes of a part of a pattern. Which of several parts of a text follows a pattern is not
asked, so greed is no mode here. -/
structure Modes where
  ignoreCase : Bool := false
  /-- Lines have ends of their own. -/
  multiLine : Bool := false
  /-- A dot stands for line ends, too. -/
  dotAll : Bool := false
  /-- Characters of all scripts are looked at, and not bytes. -/
  unicode : Bool := true
  /-- A carriage return also ends a line. -/
  anyLineEnd : Bool := false
  /-- Blanks and comments in the pattern mean nothing. -/
  spaced : Bool := false
  deriving DecidableEq, Repr

/-- The modes with one of them turned on or off. -/
def Modes.set (modes : Modes) (turnedOn : Bool) : Flag → Modes
  | .ignoreCase => { modes with ignoreCase := turnedOn }
  | .multiLine => { modes with multiLine := turnedOn }
  | .dotAll => { modes with dotAll := turnedOn }
  | .swapGreed => modes
  | .unicode => { modes with unicode := turnedOn }
  | .anyLineEnd => { modes with anyLineEnd := turnedOn }
  | .spaced => { modes with spaced := turnedOn }

/-- A class of characters with a one-letter name. -/
inductive Shorthand where
  | digit
  | space
  | word
  deriving DecidableEq, Repr

/-- A piece of a pattern as it is written. -/
inductive Piece where
  /-- A character, and whether it is written as a byte. -/
  | literal (c : Char) (isByte : Bool)
  | dot
  | look (condition : Look)
  | shorthand (kind : Shorthand) (negated : Bool)
  /-- The characters of a property, and what is written as its name. -/
  | property (name : List Char)
  deriving DecidableEq, Repr

/-- A set of ASCII characters by the name that it has in brackets. -/
def CharSet.named? : String → Option CharSet
  | "alnum" => some ⟨[(0x30, 0x39), (0x41, 0x5A), (0x61, 0x7A)]⟩
  | "alpha" => some ⟨[(0x41, 0x5A), (0x61, 0x7A)]⟩
  | "ascii" => some ⟨[(0x00, 0x7F)]⟩
  | "blank" => some ⟨[(0x09, 0x09), (0x20, 0x20)]⟩
  | "cntrl" => some ⟨[(0x00, 0x1F), (0x7F, 0x7F)]⟩
  | "digit" => some ⟨[(0x30, 0x39)]⟩
  | "graph" => some ⟨[(0x21, 0x7E)]⟩
  | "lower" => some ⟨[(0x61, 0x7A)]⟩
  | "print" => some ⟨[(0x20, 0x7E)]⟩
  | "punct" => some ⟨[(0x21, 0x2F), (0x3A, 0x40), (0x5B, 0x60), (0x7B, 0x7E)]⟩
  | "space" => some ⟨[(0x09, 0x0D), (0x20, 0x20)]⟩
  | "upper" => some ⟨[(0x41, 0x5A)]⟩
  | "word" => some ⟨[(0x30, 0x39), (0x41, 0x5A), (0x5F, 0x5F), (0x61, 0x7A)]⟩
  | "xdigit" => some ⟨[(0x30, 0x39), (0x41, 0x46), (0x61, 0x66)]⟩
  | _ => none

/-- The ASCII characters of a class. -/
def Shorthand.ascii (kind : Shorthand) : CharSet :=
  let name :=
    match kind with
    | digit => "digit"
    | space => "space"
    | word => "word"
  (CharSet.named? name).getD .empty

/-- The name of a property without what does not count: case, blanks, lines between words, and a
leading "is". -/
def propertyKey (name : List Char) : List Char :=
  let key := name.map Text.lowerAscii
  let key :=
    match key with
    | 'i' :: 's' :: rest => rest
    | key => key
  key.filter fun c => c.toNat < 0x80 && c != ' ' && c != '_' && c != '-'

/-- What is wrong with a property. Three short names could be those of values, too. -/
def propertyProblem (name : List Char) : Problem :=
  if ["cf", "sc", "lc"].contains (String.ofList (propertyKey name)) then .unknownPropertyValue
  else .unknownProperty

namespace Modes

/-- The condition that a written one stands for. -/
def condition (modes : Modes) : Look → Look
  | .textStart => .textStart
  | .textEnd => .textEnd
  | .lineStart =>
    if !modes.multiLine then .textStart
    else if modes.anyLineEnd then .anyLineStart
    else .lineStart
  | .lineEnd =>
    if !modes.multiLine then .textEnd
    else if modes.anyLineEnd then .anyLineEnd
    else .lineEnd
  | word => if modes.unicode then .unknown else word

/-- The characters that a dot stands for. -/
def dot (modes : Modes) : CharSet :=
  if modes.dotAll then .full
  else if modes.anyLineEnd then .diff .full ⟨[(0x0A, 0x0A), (0x0D, 0x0D)]⟩
  else .diff .full (.single '\n')

/-- A set of bytes that are characters. -/
def wholeChars (set : CharSet) : Except Problem CharSet :=
  if set.isAscii then .ok set else .error .strayBytes

/-- The number of a character in brackets. -/
def number (modes : Modes) (c : Char) (isByte : Bool) : Except Problem Nat :=
  if modes.unicode || c.toNat < 0x80 then .ok c.toNat
  else if isByte then .error .strayBytes
  else .error .scriptNotAllowed

/-- The set that a class with a one-letter name stands for. -/
def shorthand (modes : Modes) (kind : Shorthand) (negated : Bool) : Except Problem CharSet :=
  if modes.unicode then .error .unknownClass
  else wholeChars (if negated then .diff .bytes kind.ascii else kind.ascii)

/-- What is wrong with a property in these modes. -/
def propertyFault (modes : Modes) (name : List Char) : Problem :=
  if modes.unicode then propertyProblem name else .scriptNotAllowed

/-- A set with both cases of its letters where case does not count. -/
def folded (modes : Modes) (set : CharSet) : Except Problem CharSet :=
  if !modes.ignoreCase then .ok set
  else if !modes.unicode then .ok set.withBothCases
  else if set.isEmpty then .ok set
  else .error .unknownCase

/-- The set that a class in brackets stands for, once its items have been put together. -/
def bracket (modes : Modes) (negated : Bool) (set : CharSet) : Except Problem CharSet := do
  let set ← modes.folded set
  if modes.unicode then return if negated then .diff .full set else set
  else wholeChars (if negated then .diff .bytes set else set)

/-- The pattern that a character stands for. -/
def literal (modes : Modes) (c : Char) (isByte : Bool) : Except Problem Pattern :=
  if modes.unicode then
    if modes.ignoreCase then .error .unknownCase else .ok (.one (.single c))
  else if isByte && 0x80 ≤ c.toNat then .error .strayBytes
  else
    let set := CharSet.single c
    .ok (.one (if modes.ignoreCase then set.withBothCases else set))

/-- The pattern that a piece stands for outside brackets. -/
def pattern (modes : Modes) : Piece → Except Problem Pattern
  | .literal c isByte => modes.literal c isByte
  | .dot => if modes.unicode then .ok (.one modes.dot) else .error .strayBytes
  | .look condition => .ok (.look (modes.condition condition))
  | .shorthand kind negated => (modes.shorthand kind negated).map .one
  | .property name => .error (modes.propertyFault name)

end Modes

end ShaderBuild.Pattern
