import ShaderBuild.Number.Shortest
import ShaderBuild.Program.Shape
import ShaderBuild.Text.Hex
import ShaderBuild.Text.Identifier

/-! The words of a shader's text: names, numbers and marks with their places. -/

namespace ShaderBuild.Glsl

open ShaderBuild.Program (Span)

/-- Marks made of one to three characters. -/
inductive Mark where
  | leftParen
  | rightParen
  | leftBrace
  | rightBrace
  | leftBracket
  | rightBracket
  | leftAngle
  | rightAngle
  | comma
  | semicolon
  | colon
  | dot
  | bang
  | dash
  | tilde
  | plus
  | star
  | slash
  | percent
  | bar
  | caret
  | ampersand
  | question
  | assign
  | addAssign
  | subAssign
  | mulAssign
  | divAssign
  | modAssign
  | leftShiftAssign
  | rightShiftAssign
  | andAssign
  | xorAssign
  | orAssign
  | increment
  | decrement
  | logicalOr
  | logicalAnd
  | logicalXor
  | lessEqual
  | greaterEqual
  | equal
  | notEqual
  | leftShift
  | rightShift
  deriving DecidableEq, Repr

namespace Mark

/-- The mark's name in messages about the program. -/
def name : Mark → String
  | leftParen => "LeftParen"
  | rightParen => "RightParen"
  | leftBrace => "LeftBrace"
  | rightBrace => "RightBrace"
  | leftBracket => "LeftBracket"
  | rightBracket => "RightBracket"
  | leftAngle => "LeftAngle"
  | rightAngle => "RightAngle"
  | comma => "Comma"
  | semicolon => "Semicolon"
  | colon => "Colon"
  | dot => "Dot"
  | bang => "Bang"
  | dash => "Dash"
  | tilde => "Tilde"
  | plus => "Plus"
  | star => "Star"
  | slash => "Slash"
  | percent => "Percent"
  | bar => "VerticalBar"
  | caret => "Caret"
  | ampersand => "Ampersand"
  | question => "Question"
  | assign => "Assign"
  | addAssign => "AddAssign"
  | subAssign => "SubAssign"
  | mulAssign => "MulAssign"
  | divAssign => "DivAssign"
  | modAssign => "ModAssign"
  | leftShiftAssign => "LeftShiftAssign"
  | rightShiftAssign => "RightShiftAssign"
  | andAssign => "AndAssign"
  | xorAssign => "XorAssign"
  | orAssign => "OrAssign"
  | increment => "Increment"
  | decrement => "Decrement"
  | logicalOr => "LogicalOr"
  | logicalAnd => "LogicalAnd"
  | logicalXor => "LogicalXor"
  | lessEqual => "LessEqual"
  | greaterEqual => "GreaterEqual"
  | equal => "Equal"
  | notEqual => "NotEqual"
  | leftShift => "LeftShift"
  | rightShift => "RightShift"

/-- The mark's name in messages about directives, where four marks go by another name. -/
def directiveName : Mark → String
  | equal => "EqualEqual"
  | assign => "Equal"
  | dash => "Minus"
  | bar => "Pipe"
  | mark => mark.name

/-- How the marks are written; a mark that begins like another one comes before it. -/
def spellings : List (List Char × Mark) :=
  [("<<=", leftShiftAssign), (">>=", rightShiftAssign), ("+=", addAssign), ("-=", subAssign),
    ("*=", mulAssign), ("/=", divAssign), ("%=", modAssign), ("&=", andAssign),
    ("^=", xorAssign), ("|=", orAssign), ("++", increment), ("--", decrement),
    ("||", logicalOr), ("&&", logicalAnd), ("^^", logicalXor), ("<=", lessEqual),
    (">=", greaterEqual), ("==", equal), ("!=", notEqual), ("<<", leftShift),
    (">>", rightShift), ("(", leftParen), (")", rightParen), ("\x7b", leftBrace),
    ("\x7d", rightBrace), ("[", leftBracket), ("]", rightBracket), ("<", leftAngle),
    (">", rightAngle), (",", comma), (";", semicolon), (":", colon), (".", dot),
    ("!", bang), ("-", dash), ("~", tilde), ("+", plus), ("*", star), ("/", slash),
    ("%", percent), ("|", bar), ("^", caret), ("&", ampersand), ("?", question),
    ("=", assign)].map fun entry => (entry.1.toList, entry.2)

end Mark

/-- A whole number as it is written. -/
structure IntegerText where
  value : Nat
  signed : Bool
  deriving DecidableEq, Repr

/-- The number as messages show it; all whole numbers are of 32 bits. -/
def IntegerText.describe (number : IntegerText) : String :=
  "Integer \x7b value: " ++ toString number.value ++ ", signed: " ++
    (if number.signed then "true" else "false") ++ ", width: 32 \x7d"

/-- A number with a fraction or an exponent: its value in single precision. -/
structure FloatText where
  bits : UInt32
  deriving DecidableEq, Repr

/-- The number as messages show it. -/
def FloatText.describe (number : FloatText) : String :=
  "Float \x7b value: " ++ Number.describeFloat Number.single number.bits.toNat ++
    ", width: 32 \x7d"

/-- A word of the text. -/
inductive Lexeme where
  | newline
  | hash
  | name (text : String)
  | integer (number : IntegerText)
  | float (number : FloatText)
  | punct (mark : Mark)
  deriving DecidableEq, Repr

/-- The word as messages about directives show it. -/
def Lexeme.describe : Lexeme → String
  | newline => "NewLine"
  | hash => "Hash"
  | name text => "Ident(\"" ++ text ++ "\")"
  | integer number => "Integer(" ++ number.describe ++ ")"
  | float number => "Float(" ++ number.describe ++ ")"
  | punct mark => "Punct(" ++ mark.directiveName ++ ")"

/-- Why a piece of text is no word, or why a directive makes no sense. -/
inductive LexicalFault where
  | unexpectedCharacter
  | integerOverflow
  | floatParsing
  /-- A suffix asks for a number of 16 bits. -/
  | narrowNumber
  /-- A suffix asks for a number of 64 bits. -/
  | wideNumber
  | unexpectedHash
  | unexpectedNewline
  | unexpectedWord (word : Lexeme)
  | errorDirective
  | unknownDirective
  | redefined
  | undefinedMacro
  | tooFewArguments
  | tooManyArguments
  | repeatedParameter
  | endOfInput
  | lineOverflow
  | divisionByZero
  | remainderByZero
  | elifOutside
  | elseOutside
  | endifOutside
  | elifAfterElse
  | secondElse
  | unfinishedBlock
  deriving DecidableEq, Repr

/-- The name of the fault. -/
def LexicalFault.describe : LexicalFault → String
  | unexpectedCharacter => "UnexpectedCharacter"
  | integerOverflow => "IntegerOverflow"
  | floatParsing => "FloatParsingError"
  | narrowNumber => "NotSupported16BitLiteral"
  | wideNumber => "NotSupported64BitLiteral"
  | unexpectedHash => "UnexpectedHash"
  | unexpectedNewline => "UnexpectedNewLine"
  | unexpectedWord word => "UnexpectedToken(" ++ word.describe ++ ")"
  | errorDirective => "ErrorDirective"
  | unknownDirective => "UnknownDirective"
  | redefined => "DefineRedefined"
  | undefinedMacro => "MacroNotDefined"
  | tooFewArguments => "TooFewDefineArguments"
  | tooManyArguments => "TooManyDefineArguments"
  | repeatedParameter => "DuplicateParameter"
  | endOfInput => "UnexpectedEndOfInput"
  | lineOverflow => "LineOverflow"
  | divisionByZero => "DivisionByZero"
  | remainderByZero => "RemainderByZero"
  | elifOutside => "ElifOutsideOfBlock"
  | elseOutside => "ElseOutsideOfBlock"
  | endifOutside => "EndifOutsideOfBlock"
  | elifAfterElse => "ElifAfterElse"
  | secondElse => "MoreThanOneElse"
  | unfinishedBlock => "UnfinishedBlock"

/-- A character, the bytes that it takes up, and the line that it is in, the first one being 1. -/
structure Letter where
  char : Char
  start : Nat
  stop : Nat
  line : Nat := 1

namespace Letter

/-- The characters of a text with their places, from a byte on. -/
def ofChars : Nat → List Char → List Letter
  | _, [] => []
  | place, c :: rest =>
    { char := c, start := place, stop := place + c.utf8Size } :: ofChars (place + c.utf8Size) rest

/-- One line feed for each line end, whichever of the four ways it is written. -/
def joinLineEnds : List Letter → List Letter
  | a :: b :: rest =>
    if (a.char = '\r' ∧ b.char = '\n') ∨ (a.char = '\n' ∧ b.char = '\r') then
      { char := '\n', start := a.start, stop := b.stop } :: joinLineEnds rest
    else if a.char = '\r' then { a with char := '\n' } :: joinLineEnds (b :: rest)
    else a :: joinLineEnds (b :: rest)
  | [a] => [if a.char = '\r' then { a with char := '\n' } else a]
  | [] => []

/-- Tells each letter its line, from a line on. -/
def numberLines : Nat → List Letter → List Letter
  | _, [] => []
  | line, a :: rest =>
    { a with line } :: numberLines (if a.char = '\n' then line + 1 else line) rest

/-- Drops each backslash that ends a line, together with the line end. What follows begins where
the first backslash stood: that is the place of `held` once a line has been joined. -/
def joinLines : Option Nat → List Letter → List Letter
  | held, a :: b :: rest =>
    if a.char = '\\' ∧ b.char = '\n' then joinLines (held.or (some a.start)) rest
    else { a with start := held.getD a.start } :: joinLines none (b :: rest)
  | held, [a] => [{ a with start := held.getD a.start }]
  | _, [] => []

/-- Where a character stands with respect to comments. -/
inductive Region where
  | code
  /-- A comment up to the end of the line; the line end takes the place of the comment. -/
  | lineComment (start : Nat)
  | blockComment

/-- Puts a blank in place of each block comment and drops the line comments. -/
def blankComments : Region → List Letter → List Letter
  | .code, a :: b :: rest =>
    if a.char = '/' ∧ b.char = '/' then blankComments (.lineComment a.start) rest
    else if a.char = '/' ∧ b.char = '*' then
      { a with char := ' ', stop := b.stop } :: blankComments .blockComment rest
    else a :: blankComments .code (b :: rest)
  | .code, short => short
  | .lineComment start, a :: rest =>
    if a.char = '\n' then { a with start } :: blankComments .code rest
    else blankComments (.lineComment start) rest
  | .lineComment _, [] => []
  | .blockComment, a :: b :: rest =>
    if a.char = '*' ∧ b.char = '/' then blankComments .code rest
    else blankComments .blockComment (b :: rest)
  | .blockComment, _ => []

/-- The characters that words are made of. -/
def ofText (text : String) : List Letter :=
  blankComments .code (joinLines none (numberLines 1 (joinLineEnds (ofChars 0 text.toList))))

/-- A blank within a line. -/
def isSpace (letter : Letter) : Bool :=
  letter.char = ' ' || letter.char = '\t' || letter.char = '\x0b' || letter.char = '\x0c'

/-- A decimal digit. -/
def isDigit (letter : Letter) : Bool := letter.char.isDigit

/-- A hexadecimal digit. -/
def isHexDigit (letter : Letter) : Bool := (Text.hexValue? letter.char).isSome

/-- A character that can begin a name. -/
def beginsName (letter : Letter) : Bool := letter.char = '_' || Text.beginsIdentifier letter.char

/-- A character that a name can go on with. -/
def continuesName (letter : Letter) : Bool := Text.continuesIdentifier letter.char

/-- The place where some characters end, or the given place when there are none. -/
def endOf (start : Nat) (letters : List Letter) : Nat :=
  (letters.getLast?.map (·.stop)).getD start

/-- The text of some characters. -/
def textOf (letters : List Letter) : List Char := letters.map (·.char)

end Letter

/-- A word or a fault, its place, and whether a blank or a line end is before it. -/
structure Scanned where
  word : Except LexicalFault Lexeme
  span : Span
  spaced : Bool
  /-- The number of the line that the word begins in. -/
  line : Nat
  /-- Whether a line end or the beginning of the text is the last thing before the word. -/
  startsLine : Bool

/-- The value of some digits; a digit that the base does not have makes it meaningless. -/
def digitsValue? (base : Nat) (digits : List Char) : Option Nat :=
  if digits.isEmpty then none
  else
    digits.foldl (fun value c => do
      let value ← value
      let digit ← Text.hexValue? c
      if digit < base then some (value * base + digit) else none) (some 0)

/-- Whether the letters begin with one of some characters. -/
def beginsWith (chars : List Char) (letters : List Letter) : Bool :=
  (letters.head?.map fun letter => chars.contains letter.char).getD false

/-- Ends a number, when no suffix asks for a width that numbers do not have. Such a suffix is a
fault, and its letters are left where they are. -/
def unlessSuffixed (wide narrow : List Char) (word : Except LexicalFault Lexeme)
    (rest : List Letter) : Except LexicalFault Lexeme :=
  if beginsWith wide rest then .error .wideNumber
  else if beginsWith narrow rest then .error .narrowNumber
  else word

/-- Ends a whole number behind its digits: a letter makes it unsigned. -/
def scanInteger (base : Nat) (digits rest : List Letter) :
    Except LexicalFault Lexeme × List Letter :=
  let signed := !beginsWith ['u', 'U'] rest
  let rest := if signed then rest else rest.drop 1
  let word :=
    match digitsValue? base (Letter.textOf digits) with
    | some value =>
      if value < 0x10000000000000000 then .ok (.integer ⟨value, signed⟩)
      else .error .integerOverflow
    | none => .error .integerOverflow
  (unlessSuffixed ['l', 'L'] ['s', 'S'] word rest, rest)

/-- The exponent after some digits: its value, if it has digits, and what follows. -/
def scanExponent (letters : List Letter) : Option Int × List Letter :=
  if !beginsWith ['e', 'E'] letters then (some 0, letters)
  else
    let rest := letters.drop 1
    let negative := beginsWith ['-'] rest
    let rest := if beginsWith ['-', '+'] rest then rest.drop 1 else rest
    let value := (digitsValue? 10 (Letter.textOf (rest.takeWhile Letter.isDigit))).map fun n =>
      if negative then -(n : Int) else n
    (value, rest.dropWhile Letter.isDigit)

/-- Ends a number with a fraction or an exponent behind the digits of its fraction. -/
def scanFloat (whole fraction rest : List Letter) : Except LexicalFault Lexeme × List Letter :=
  let (exponent, rest) := scanExponent rest
  let word :=
    match digitsValue? 10 (Letter.textOf (whole ++ fraction)), exponent with
    | some digits, some exponent =>
      let bits := Number.single.ofDecimal digits (exponent - fraction.length)
      .ok (.float ⟨UInt32.ofNat bits⟩)
    | _, _ => .error .floatParsing
  let word := unlessSuffixed ['l', 'L'] ['h', 'H'] word rest
  (word, if beginsWith ['f', 'F'] rest then rest.drop 1 else rest)

/-- The base of a number and where its digits begin: a zero in front means eight, and a zero with
an x sixteen. -/
def numberBase (letters : List Letter) : Nat × List Letter :=
  match letters with
  | zero :: rest =>
    if zero.char ≠ '0' then (10, letters)
    else if beginsWith ['x', 'X'] rest then (16, rest.drop 1)
    else (8, letters)
  | [] => (10, [])

/-- Reads a number, the first digit or point of which is known to be there. A fraction has decimal
digits whatever the base is. -/
def scanNumber (letters : List Letter) : Except LexicalFault Lexeme × List Letter :=
  let (base, letters) := numberBase letters
  let isDigit := if base = 16 then Letter.isHexDigit else Letter.isDigit
  let whole := letters.takeWhile isDigit
  let rest := letters.dropWhile isDigit
  if beginsWith ['.'] rest then
    let more := rest.drop 1
    scanFloat whole (more.takeWhile Letter.isDigit) (more.dropWhile Letter.isDigit)
  else if beginsWith ['e', 'E'] rest then scanFloat whole [] rest
  else scanInteger base whole rest

/-- Whether the letters begin a number. -/
def beginsNumber (letters : List Letter) : Bool :=
  match letters with
  | a :: b :: _ => a.isDigit || (a.char = '.' && b.isDigit)
  | [a] => a.isDigit
  | [] => false

/-- The mark that the letters begin with, and how many of them it takes. -/
def scanMark? (letters : List Letter) : Option (Mark × Nat) :=
  let text := (letters.take 3).map (·.char)
  (Mark.spellings.find? fun entry => entry.1.isPrefixOf text).map fun entry =>
    (entry.2, entry.1.length)

/-- Reads the next word. A character that begins no word takes the next two with it. -/
def scanWord (letters : List Letter) : Except LexicalFault Lexeme × List Letter :=
  match letters with
  | [] => (.ok .newline, [])
  | first :: rest =>
    if first.char = '\n' then (.ok .newline, rest)
    else if first.char = '#' then (.ok .hash, rest)
    else if first.beginsName then
      (.ok (.name (String.ofList (Letter.textOf (letters.takeWhile Letter.continuesName)))),
        letters.dropWhile Letter.continuesName)
    else if beginsNumber letters then scanNumber letters
    else
      match scanMark? letters with
      | some (mark, used) => (.ok (.punct mark), letters.drop used)
      | none => (.error .unexpectedCharacter, rest.drop 2)

/-- Reads words as long as there are any; each takes at least one letter. A line end closes the
last line. -/
def scanLetters (textEnd lastLine : Nat) : Nat → Bool → List Letter → List Scanned
  | 0, _, _ => []
  | fuel + 1, startsLine, letters =>
    match letters.dropWhile Letter.isSpace with
    | [] => [⟨.ok .newline, ⟨textEnd, textEnd⟩, true, lastLine, startsLine⟩]
    | first :: rest =>
      let (word, after) := scanWord (first :: rest)
      let used := (first :: rest).take ((first :: rest).length - after.length)
      let span : Span :=
        match word with
        | .ok _ => ⟨first.start, Letter.endOf first.stop used⟩
        | .error _ => .none
      let spaced := (letters.head?.map Letter.isSpace).getD false
      let endsLine := match word with
        | .ok .newline => true
        | _ => false
      ⟨word, span, spaced, first.line, startsLine⟩ ::
        scanLetters textEnd lastLine fuel endsLine after

/-- The words of a text. -/
def scan (text : String) : List Scanned :=
  let letters := Letter.ofText text
  let lastLine := (letters.getLast?.map (·.line)).getD 1
  scanLetters text.utf8ByteSize lastLine (letters.length + 1) true letters

end ShaderBuild.Glsl
