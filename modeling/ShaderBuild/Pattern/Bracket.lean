import ShaderBuild.Pattern.Piece

/-! Classes of characters in brackets, with signs for what their parts share or do not share. -/

namespace ShaderBuild.Pattern

/-- How two lists in a class are put together. -/
inductive Joint where
  | inter
  | diff
  | symmDiff
  deriving DecidableEq, Repr

/-- The set that two sets make. -/
def Joint.apply : Joint → CharSet → CharSet → CharSet
  | inter => .inter
  | diff => .diff
  | symmDiff => .symmDiff

/-- The items of a class that have been read. -/
structure Items where
  set : CharSet := .empty
  /-- From the first item to the last one. -/
  span : Span
  isEmpty : Bool := true
  deriving DecidableEq, Repr

/-- No items yet. -/
def Items.start (rest : List Char) : Items :=
  { span := .here rest }

/-- Adds an item. -/
def Items.push (items : Items) (set : CharSet) (span : Span) : Items :=
  { set := items.set.union set
    span := if items.isEmpty then span else items.span.join span
    isEmpty := false }

/-- The beginning of a class. -/
structure Opening where
  start : List Char
  /-- The bracket and what belongs to it. -/
  span : Span
  negated : Bool

/-- The named class of ASCII characters that comes next, whether all others are meant, and what is
left behind it. -/
def namedClass? : List Char → Option (CharSet × Bool × List Char)
  | '[' :: ':' :: text =>
    let (negated, text) :=
      match text with
      | '^' :: text => (true, text)
      | text => (false, text)
    let name := text.takeWhile (· != ':')
    match text.dropWhile (· != ':') with
    | ':' :: ']' :: after =>
      (CharSet.named? (String.ofList name)).map fun set => (set, negated, after)
    | _ => none
  | _ => none

/-- The sign behind a dash. Where blanks mean nothing it may stand behind some, and behind the mark
of a comment. -/
def signBehind? (spaced : Bool) (text : List Char) : Option Char :=
  if spaced then
    match text.dropWhile Text.isBlank with
    | '#' :: text => (text.dropWhile Text.isBlank).head?
    | text => text.head?
  else text.head?

namespace Reading

/-- Takes a character or an escape within brackets. -/
def item : Reading Placed := do
  let start ← rest
  match start with
  | '\\' :: _ => escape
  | c :: _ =>
    bump
    return ⟨.literal c false, ← since start⟩
  | [] => refuse .unclosedClass (.here [])

/-- The characters of an item. -/
def itemSet (item : Placed) : Reading CharSet := do
  let modes ← modes
  match item.piece with
  | .literal c isByte =>
    mean item.span .empty ((modes.number c isByte).map fun number => ⟨[(number, number)]⟩)
  | .shorthand kind negated => mean item.span .empty (modes.shorthand kind negated)
  | .property name => mean item.span .empty (.error (modes.propertyFault name))
  | .dot | .look _ => refuse .classEscape item.span

/-- The character that an end of a range is, and its number. -/
def bound (item : Placed) : Reading (Char × Except Problem Nat) := do
  match item.piece with
  | .literal c isByte => return (c, (← modes).number c isByte)
  | _ => refuse .rangeBound item.span

/-- Takes a range, or a single item; a dash before a closing bracket or another dash begins no end
of a range. -/
def range (opening : Opening) : Reading (CharSet × Span) := do
  let first ← item
  skip
  match ← rest with
  | [] => refuse .unclosedClass opening.span
  | c :: tail =>
    let sign := signBehind? (← modes).spaced tail
    if c != '-' || sign = some ']' || sign = some '-' then return (← itemSet first, first.span)
    advance
    if (← rest) = [] then refuse .unclosedClass opening.span
    let last ← item
    let (low, lowNumber) ← bound first
    let (high, highNumber) ← bound last
    let span := first.span.join last.span
    if high < low then refuse .emptyRange span
    let lowNumber ← mean first.span low.toNat lowNumber
    let highNumber ← mean last.span high.toNat highNumber
    return (⟨[(lowNumber, highNumber)]⟩, span)

/-- Takes the dashes that a class may begin with; they stand for themselves. -/
def leadingDashes (start : List Char) : Nat → Items → Reading Items
  | 0, items => return items
  | fuel + 1, items => do
    match ← rest with
    | '-' :: tail =>
      advance
      if (← rest) = [] then refuse .unclosedClass (.here start)
      leadingDashes start fuel (items.push (.single '-') (.between ('-' :: tail) tail))
    | _ => return items

/-- Takes the beginning of a class: the bracket, a sign that negates the class, and dashes or a
closing bracket that stand for themselves. -/
def openClass : Reading (Opening × Items) := do
  let start ← rest
  advance
  let unlessOver := do
    if (← rest) = [] then refuse .unclosedClass (← since start)
  unlessOver
  let negated := (← rest).head? = some '^'
  if negated then
    advance
    unlessOver
  let first ← rest
  let items ← leadingDashes start first.length (.start first)
  match ← rest with
  | ']' :: tail =>
    if items.isEmpty then
      advance
      unlessOver
      let items := items.push (.single ']') (.between (']' :: tail) tail)
      return (⟨start, ← since start, negated⟩, items)
    else return (⟨start, ← since start, negated⟩, items)
  | _ => return (⟨start, ← since start, negated⟩, items)

/-- Puts the items behind a sign together with those before it. -/
def joinItems (before : Option (Joint × Items)) (items : Items) : Reading Items := do
  match before with
  | none => return items
  | some (joint, first) =>
    let modes ← modes
    let right ← mean items.span items.set (modes.folded items.set)
    let left ← mean first.span first.set (modes.folded first.set)
    return ⟨joint.apply left right, first.span.join items.span, false⟩

/-- Takes the items of a class up to its closing bracket. -/
def classItems (opening : Opening) :
    Nat → Option (Joint × Items) → Items → Reading (CharSet × Span)
  | 0, _, _ => refuse .unclosedClass opening.span
  | fuel + 1, before, items => do
    skip
    let start ← rest
    let join := fun joint (behind : List Char) => do
      goTo behind
      classItems opening fuel (some (joint, ← joinItems before items)) (.start behind)
    match start with
    | [] => refuse .unclosedClass opening.span
    | ']' :: _ =>
      let whole ← joinItems before items
      bump
      let span ← since opening.start
      return (← mean span .empty ((← modes).bracket opening.negated whole.set), span)
    | '&' :: '&' :: behind => join .inter behind
    | '-' :: '-' :: behind => join .diff behind
    | '~' :: '~' :: behind => join .symmDiff behind
    | '[' :: _ =>
      match namedClass? start with
      | some (set, negated, behind) =>
        goTo behind
        let span := Span.between start behind
        let set ← mean span .empty ((← modes).bracket negated set)
        classItems opening fuel before (items.push set span)
      | none =>
        let (inner, first) ← openClass
        let (set, span) ← classItems inner fuel none first
        classItems opening fuel before (items.push set span)
    | _ =>
      let (set, span) ← range opening
      classItems opening fuel before (items.push set span)

/-- Takes a class in brackets. -/
def bracket : Reading CharSet := do
  let fuel := (← rest).length
  let (opening, items) ← openClass
  let (set, _) ← classItems opening fuel none items
  return set

end Reading

end ShaderBuild.Pattern
