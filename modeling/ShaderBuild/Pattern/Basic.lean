import ShaderBuild.Pattern.CharSet

/-! Patterns of texts, and what it means that a text has a part that follows one. -/

namespace ShaderBuild

namespace Pattern

/-- A condition on a position of a text. -/
inductive Look where
  | textStart
  | textEnd
  | lineStart
  | lineEnd
  /-- As `lineStart`, where lines may also end in carriage returns. -/
  | anyLineStart
  /-- As `lineEnd`, where lines may also end in carriage returns. -/
  | anyLineEnd
  | wordBoundary
  | noWordBoundary
  | wordStart
  | wordEnd
  | wordStartHalf
  | wordEndHalf
  /-- A condition on words of all scripts, of which nothing is known. -/
  | unknown
  deriving DecidableEq, Repr

/-- Whether a character is a letter, a digit or an underscore of ASCII. -/
def isWordChar (c : Char) : Bool :=
  c.isAlphanum || c = '_'

/-- Whether a condition holds between two characters of a text, or at one of its ends. -/
def Look.holds (look : Look) (before after : Option Char) : Bool :=
  let wordBefore := before.any isWordChar
  let wordAfter := after.any isWordChar
  match look with
  | textStart => before.isNone
  | textEnd => after.isNone
  | lineStart => before.all (· = '\n')
  | lineEnd => after.all (· = '\n')
  | anyLineStart => before.all fun c => c = '\n' || (c = '\r' && after != some '\n')
  | anyLineEnd => after.all fun c => c = '\r' || (c = '\n' && before != some '\r')
  | wordBoundary => wordBefore != wordAfter
  | noWordBoundary => wordBefore == wordAfter
  | wordStart => !wordBefore && wordAfter
  | wordEnd => wordBefore && !wordAfter
  | wordStartHalf => !wordBefore
  | wordEndHalf => !wordAfter
  | unknown => false

end Pattern

/-- What a part of a text must look like. -/
inductive Pattern where
  /-- The part is empty. -/
  | nothing
  /-- The part is one character of a set. -/
  | one (set : Pattern.CharSet)
  /-- The part is empty and a condition holds where it stands. -/
  | look (condition : Pattern.Look)
  | both (first second : Pattern)
  | either (first second : Pattern)
  /-- A number of parts, each of which follows a pattern. -/
  | repeated (body : Pattern) (least : Nat) (most : Option Nat)
  deriving DecidableEq, Repr

namespace Pattern

/-- Ascending positions of two sets, each position once. -/
def merge : List Nat → List Nat → List Nat
  | [], second => second
  | first, [] => first
  | p :: first, q :: second =>
    if p < q then p :: merge first (q :: second)
    else if q < p then q :: merge (p :: first) second
    else p :: merge first second

/-- Takes a step again and again, as long as it changes something. -/
def times (step : List Nat → List Nat) : Nat → List Nat → List Nat
  | 0, positions => positions
  | count + 1, positions =>
    let next := step positions
    if next = positions then positions else times step count next

/-- Takes a step at most a number of times, and keeps all positions on the way. -/
def upTo (step : List Nat → List Nat) (count : Nat) (positions : List Nat) : List Nat :=
  times (fun positions => merge positions (step positions)) count positions

/-- The positions of a text that a pattern leads to from some ascending positions. -/
def ends (text : Array Char) : Pattern → List Nat → List Nat
  | nothing, positions => positions
  | one set, positions => positions.filterMap fun position =>
    match text[position]? with
    | some c => if set.contains c.toNat then some (position + 1) else none
    | none => none
  | look condition, positions => positions.filter fun position =>
    condition.holds (if position = 0 then none else text[position - 1]?) text[position]?
  | both first second, positions => second.ends text (first.ends text positions)
  | either first second, positions =>
    merge (first.ends text positions) (second.ends text positions)
  | repeated body least most, positions =>
    -- Without an end every round reaches a new position, or there is none left to reach.
    upTo (body.ends text) (most.elim (text.size + 1) (· - least))
      (times (body.ends text) least positions)

/-- Whether a text has a part that follows a pattern. -/
def occurs (pattern : Pattern) (text : List Char) : Bool :=
  let text := text.toArray
  !(pattern.ends text (List.range (text.size + 1))).isEmpty


/-- Whether a pattern asks for a condition of which nothing is known. -/
def asksUnknown : Pattern → Bool
  | nothing | one _ => false
  | look condition => condition = .unknown
  | both first second | either first second => first.asksUnknown || second.asksUnknown
  | repeated body _ _ => body.asksUnknown

/-- The number of steps of a pattern in which everything repeated is written out. A character takes
a step for each of its bytes, and a set as many as the bytes of its characters ask for. -/
def size : Pattern → Nat
  | nothing | look _ => 1
  | one set =>
    match set.ranges with
    | [(low, high)] => if low = high then (Char.ofNat low).utf8Size else if high < 0x80 then 2 else 13
    | _ => if set.isAscii then 2 else 13
  | both first second => first.size + second.size
  | either first second => first.size + second.size + 2
  | repeated body least most => body.size * most.getD (max 1 least) + (most.getD 1 - least) + 1

/-- A pattern a number of times. None at all leave nothing. -/
def repeats (body : Pattern) (least : Nat) (most : Option Nat) : Pattern :=
  if most = some 0 then nothing else repeated body least most

/-- The positions of two sets are those of both. -/
theorem mem_merge {first second : List Nat} {position : Nat} :
    position ∈ merge first second ↔ position ∈ first ∨ position ∈ second := by
  -- Each step takes the smaller of the two first positions.
  fun_induction merge first second with
  | case1 => simp
  | case2 => simp
  | case3 p first q second before ih => grind
  | case4 p first q second notBefore after ih => grind
  | case5 p first q second notBefore notAfter ih => grind

end Pattern

end ShaderBuild
