import ShaderBuild.Text.Blank
import ShaderBuild.Text.Lines

/-! What can be wrong with a written pattern, and how a message points at it. -/

namespace ShaderBuild.Pattern

/-- A part of a written pattern. Readers see only what is left of the pattern, so a part is known by
the number of characters that are left where it begins and where it ends. -/
structure Span where
  before : Nat
  after : Nat
  deriving DecidableEq, Repr

namespace Span

/-- The part between what is left at its start and what is left at its end. -/
def between (start stop : List Char) : Span :=
  ⟨start.length, stop.length⟩

/-- The first character of what is left. -/
def char (rest : List Char) : Span :=
  between rest rest.tail

/-- The place between what has been read and what is left. -/
def here (rest : List Char) : Span :=
  between rest rest

/-- The part from the start of one part to the end of another. -/
def join (first last : Span) : Span :=
  ⟨first.before, last.after⟩

end Span

/-- What can be wrong with a part of a pattern. -/
inductive Problem where
  | unclosedClass
  | emptyRange
  | rangeBound
  | classEscape
  | wideCount
  | emptyHex
  | wideHex
  | hexDigit
  | unfinishedEscape
  | unknownEscape
  | danglingNegation
  | repeatedFlag
  | repeatedNegation
  | unfinishedFlags
  | unknownFlag
  | repeatedName
  | emptyName
  | nameChar
  | unfinishedName
  | unclosedGroup
  | unopenedGroup
  | emptyCountRange
  | missingCount
  | unclosedCount
  | nothingToRepeat
  | unclosedWord
  | unknownWord
  | unfinishedWord
  | propertyName
  | backreference
  | lookAround
  /-- A character of another script where only bytes are looked at. -/
  | scriptNotAllowed
  /-- Bytes that are part of no character. -/
  | strayBytes
  | unknownProperty
  | unknownPropertyValue
  /-- Digits, blanks and words of all scripts are not known. -/
  | unknownClass
  /-- The two cases of letters of all scripts are not known. -/
  | unknownCase
  deriving DecidableEq, Repr

/-- The wording of a problem. -/
def Problem.message : Problem → String
  | unclosedClass => "unclosed character class"
  | emptyRange => "invalid character class range, the start must be <= the end"
  | rangeBound => "invalid range boundary, must be a literal"
  | classEscape => "invalid escape sequence found in character class"
  | wideCount => "decimal literal invalid"
  | emptyHex => "hexadecimal literal empty"
  | wideHex => "hexadecimal literal is not a Unicode scalar value"
  | hexDigit => "invalid hexadecimal digit"
  | unfinishedEscape => "incomplete escape sequence, reached end of pattern prematurely"
  | unknownEscape => "unrecognized escape sequence"
  | danglingNegation => "dangling flag negation operator"
  | repeatedFlag => "duplicate flag"
  | repeatedNegation => "flag negation operator repeated"
  | unfinishedFlags => "expected flag but got end of regex"
  | unknownFlag => "unrecognized flag"
  | repeatedName => "duplicate capture group name"
  | emptyName => "empty capture group name"
  | nameChar => "invalid capture group character"
  | unfinishedName => "unclosed capture group name"
  | unclosedGroup => "unclosed group"
  | unopenedGroup => "unopened group"
  | emptyCountRange =>
    "invalid repetition count range, the start must be <= the end"
  | missingCount => "repetition quantifier expects a valid decimal"
  | unclosedCount => "unclosed counted repetition"
  | nothingToRepeat => "repetition operator missing expression"
  | unclosedWord =>
    "special word boundary assertion is either unclosed or contains an invalid character"
  | unknownWord =>
    "unrecognized special word boundary assertion, " ++
      "valid choices are: start, end, start-half or end-half"
  | unfinishedWord =>
    "found either the beginning of a special word boundary or a bounded repetition " ++
      "on a \\b with an opening brace, but no closing brace"
  | propertyName => "invalid Unicode character class"
  | backreference => "backreferences are not supported"
  | lookAround => "look-around, including look-ahead and look-behind, is not supported"
  | scriptNotAllowed => "Unicode not allowed here"
  | strayBytes => "pattern can match invalid UTF-8"
  | unknownProperty => "Unicode property not found"
  | unknownPropertyValue => "Unicode property value not found"
  | unknownClass =>
    "Unicode-aware Perl class not found (make sure the unicode-perl feature is enabled)"
  | unknownCase =>
    "Unicode-aware case insensitivity matching is not available " ++
      "(make sure the unicode-case feature is enabled)"

/-- A problem and the part of the pattern that has it. -/
structure Fault where
  problem : Problem
  span : Span
  /-- An earlier part that the problem is about, too. -/
  other : Option Span := none
  deriving DecidableEq, Repr

/-- A place in a pattern, both numbers counted from zero. -/
structure Spot where
  line : Nat
  column : Nat
  deriving DecidableEq, Repr

/-- The place behind some first characters. -/
def Spot.behind (head : List Char) : Spot :=
  let pieces := Text.splitAtChar '\n' head
  ⟨pieces.length - 1, (pieces.getLast?.getD []).length⟩

/-- The start and the end of a part of a pattern. -/
def Span.spots (pattern : List Char) (span : Span) : Spot × Spot :=
  (.behind (pattern.take (pattern.length - span.before)),
    .behind (pattern.take (pattern.length - span.after)))

/-- Marks below some columns, each pair of them the start and the end of a part; every part gets a
mark. The marks begin at a column that is given. -/
def marks (column : Nat) : List (Nat × Nat) → List Char
  | [] => []
  | (start, stop) :: parts =>
    let count := max 1 (stop - start)
    List.replicate (start - column) ' ' ++ List.replicate count '^' ++
      marks (max column start + count) parts

namespace Fault

/-- The parts that a message points at, the first one first. -/
def parts (fault : Fault) : List Span :=
  match fault.other with
  | none => [fault.span]
  | some other =>
    if fault.span.before ≤ other.before then [other, fault.span] else [fault.span, other]

/-- The lines of a pattern, each with marks below the parts that lie in it. Lines are numbered when
there are several. -/
def excerpt (pattern : List Char) (fault : Fault) : String :=
  let lines := (Text.lines pattern).map (·.body)
  let count := if pattern.getLast? = some '\n' then lines.length + 1 else lines.length
  let width := if count ≤ 1 then 0 else (toString count).length
  let places := fault.parts.map (Span.spots pattern)
  "".intercalate <| lines.zipIdx.map fun (line, index) =>
    let number := toString (index + 1)
    let gutter :=
      if width = 0 then "    " else "".pushn ' ' (width - number.length) ++ number ++ ": "
    let below := places.filterMap fun (start, stop) =>
      if start.line = index ∧ stop.line = index then some (start.column, stop.column) else none
    gutter ++ String.ofList line ++ "\n" ++
      if below.isEmpty then ""
      else "".pushn ' ' gutter.length ++ String.ofList (marks 0 below) ++ "\n"

/-- The places of the parts that span several lines. -/
def longParts (pattern : List Char) (fault : Fault) : List String :=
  (fault.parts.map (Span.spots pattern)).filterMap fun (start, stop) =>
    if start.line = stop.line then none
    else
      some <| "on line " ++ toString (start.line + 1) ++
        " (column " ++ toString (start.column + 1) ++
        ") through line " ++ toString (stop.line + 1) ++ " (column " ++ toString stop.column ++ ")"

/-- The whole message: the pattern, marks below the parts at fault, and the problem. -/
def render (pattern : List Char) (fault : Fault) : String :=
  let excerpt := fault.excerpt pattern
  let error := "error: " ++ fault.problem.message
  if '\n' ∈ pattern then
    let divider := "".pushn '~' 79 ++ "\n"
    let notes := fault.longParts pattern
    "regex parse error:\n" ++ divider ++ excerpt ++ divider ++
      (if notes.isEmpty then "" else "\n".intercalate notes ++ "\n") ++ error
  else "regex parse error:\n" ++ excerpt ++ error

end Fault

/-- Why a written pattern cannot be used. -/
inductive Refusal where
  | malformed (fault : Fault)
  /-- It asks for a condition of which nothing is known. -/
  | unknownCondition
  /-- It would take too much room. -/
  | tooLarge
  deriving DecidableEq, Repr

/-- The bytes that a pattern may take. -/
def sizeLimit : Nat := 10485760

/-- The message for a pattern. -/
def Refusal.message (pattern : List Char) : Refusal → String
  | malformed fault => fault.render pattern
  | unknownCondition => "error building NFA"
  | tooLarge => "Compiled regex exceeds size limit of " ++ toString sizeLimit ++ " bytes."

/-- Behind the first characters of a line the column is their number. -/
theorem Spot.behind_of_line {head : List Char} (plain : '\n' ∉ head) :
    Spot.behind head = ⟨0, head.length⟩ := by
  -- Without a line feed there is one piece, the whole text.
  have whole : ∀ text : List Char, '\n' ∉ text → Text.splitAtChar '\n' text = [text] := by
    intro text
    induction text with
    | nil => intro _; rfl
    | cons c rest ih =>
      intro free
      simp only [List.mem_cons, not_or] at free
      simp [Text.splitAtChar, Ne.symm free.1, ih free.2]
  simp [Spot.behind, whole head plain]

end ShaderBuild.Pattern
