import ShaderBuild.Toml.Value

/-! The texts of strings, numbers, truth values and moments. -/

namespace ShaderBuild.Toml

/-- Reads something from the start of a text. -/
abbrev Reader (α : Type) := List Char → Option (α × List Char)

/-- Spaces and tabs. -/
def isGap (c : Char) : Bool :=
  c = ' ' || c = '\t'

/-- The text without the gaps at its start. -/
def skipGaps (text : List Char) : List Char :=
  text.dropWhile isGap

/-- The rest after a line end, when one is there. -/
def lineEnd? : List Char → Option (List Char)
  | '\n' :: rest => some rest
  | '\r' :: '\n' :: rest => some rest
  | _ => none

/-- Characters that may stand in comments and, but for their marks, in strings. -/
def isShown (c : Char) : Bool :=
  c = '\t' || (' ' ≤ c && c ≤ '~') || '\x80' ≤ c

/-- The character that a two-letter escape stands for. -/
def simpleEscape? : Char → Option Char
  | 'b' => some '\x08'
  | 't' => some '\t'
  | 'n' => some '\n'
  | 'f' => some '\x0c'
  | 'r' => some '\r'
  | '"' => some '"'
  | '\\' => some '\\'
  | _ => none

/-- The value of some hexadecimal digits. -/
def hexNumber? (digits : List Char) : Option Nat :=
  digits.foldlM (fun value c => (Text.hexValue? c).map (16 * value + ·)) 0

/-- The character with a number; numbers of halves of pairs and numbers too large have none. -/
def charOf? (number : Nat) : Option Char :=
  if number.isValidChar then some (Char.ofNat number) else none

/-- The character of an escape that gives its number in so many digits. -/
def numberedEscape? (count : Nat) (text : List Char) : Option (Char × List Char) := do
  let digits := text.take count
  if digits.length < count then none
  let c ← (hexNumber? digits).bind charOf?
  return (c, text.drop count)

/-- The character of an escape, its backslash already read. -/
def escape? : List Char → Option (Char × List Char)
  | 'u' :: rest => numberedEscape? 4 rest
  | 'U' :: rest => numberedEscape? 8 rest
  | c :: rest => (simpleEscape? c).map (·, rest)
  | [] => none

/-- Reads a string between double quotes, the first of them already read. -/
def readQuoted : Nat → List Char → Reader String
  | 0, _, _ => none
  | fuel + 1, done, text =>
    match text with
    | '"' :: rest => some (String.ofList done.reverse, rest)
    | '\\' :: rest => do
      let (c, rest) ← escape? rest
      readQuoted fuel (c :: done) rest
    | c :: rest => if isShown c then readQuoted fuel (c :: done) rest else none
    | [] => none

/-- Reads a string between single quotes, the first of them already read. -/
def readLiteral : List Char → Reader String
  | done, '\'' :: rest => some (String.ofList done.reverse, rest)
  | done, c :: rest => if isShown c then readLiteral (c :: done) rest else none
  | _, [] => none

/-- What a run of quotes in a long string says. -/
inductive QuoteRun where
  /-- So many quotes that belong to the string. -/
  | inside (count : Nat)
  /-- The end, after so many quotes that belong to the string. -/
  | closing (count : Nat)

/-- Fewer than three quotes belong to the string; the last three of up to five end it. -/
def quoteRun (count : Nat) : QuoteRun :=
  if count < 3 then .inside count else .closing (min (count - 3) 2)

/-- The rest after the line end, gaps and further line ends that a backslash joins. -/
def joinedLines? (text : List Char) : Option (List Char) :=
  (lineEnd? (skipGaps text)).map dropLines
where
  /-- Drops gaps and line ends. -/
  dropLines : List Char → List Char
    | ' ' :: rest => dropLines rest
    | '\t' :: rest => dropLines rest
    | '\n' :: rest => dropLines rest
    | '\r' :: '\n' :: rest => dropLines rest
    | rest => rest

/-- Reads a string between triple quotes of either kind, the first three already read. -/
def readLong (mark : Char) (escapes : Bool) : Nat → List Char → Reader String
  | 0, _, _ => none
  | fuel + 1, done, text =>
    match lineEnd? text with
    | some rest => readLong mark escapes fuel ('\n' :: done) rest
    | none =>
      match text with
      | [] => none
      | c :: rest =>
        if c = mark then
          -- Up to two quotes may stand inside the string, also right before its end.
          match quoteRun (text.takeWhile (· = mark)).length with
          | .inside count =>
            readLong mark escapes fuel (List.replicate count mark ++ done) (text.drop count)
          | .closing count =>
            some (String.ofList (List.replicate count mark ++ done).reverse, text.drop (count + 3))
        else if c = '\\' ∧ escapes = true then
          -- A backslash at the end of a line takes the blanks of the next lines with it.
          match joinedLines? rest with
          | some rest => readLong mark escapes fuel done rest
          | none =>
            match escape? rest with
            | some (c, rest) => readLong mark escapes fuel (c :: done) rest
            | none => none
        else if isShown c then readLong mark escapes fuel (c :: done) rest
        else none

/-- A line end right after the opening quotes does not count. -/
def dropFirstLineEnd (text : List Char) : List Char :=
  (lineEnd? text).getD text

/-- Reads a string of any kind. -/
def readString : Reader String
  | '"' :: '"' :: '"' :: rest => readLong '"' true (rest.length + 1) [] (dropFirstLineEnd rest)
  | '"' :: rest => readQuoted (rest.length + 1) [] rest
  | '\'' :: '\'' :: '\'' :: rest =>
    readLong '\'' false (rest.length + 1) [] (dropFirstLineEnd rest)
  | '\'' :: rest => readLiteral [] rest
  | _ => none

/-- The digits at the start of a text; an underscore must stand between two of them. -/
def readDigits (isDigit : Char → Bool) : Reader (List Char)
  | c :: rest => if isDigit c then some (more [c] rest) else none
  | [] => none
where
  /-- The digits so far, innermost first, and those that follow. -/
  more : List Char → List Char → List Char × List Char
    | done, '_' :: c :: rest =>
      if isDigit c then more (c :: done) rest else (done.reverse, '_' :: c :: rest)
    | done, c :: rest => if isDigit c then more (c :: done) rest else (done.reverse, c :: rest)
    | done, [] => (done.reverse, [])

/-- The value of digits in a base. -/
def digitsValue (base : Nat) (digits : List Char) : Nat :=
  digits.foldl (fun value c => base * value + (Text.hexValue? c).getD 0) 0

/-- A sign and whether it is a minus. -/
def readSign : List Char → Bool × List Char
  | '+' :: rest => (false, rest)
  | '-' :: rest => (true, rest)
  | rest => (false, rest)

/-- Integers have 64 bits. -/
def signed64? (number : Int) : Option Value :=
  if -0x8000000000000000 ≤ number ∧ number < 0x8000000000000000 then some (.integer number)
  else none

/-- Reads an integer in a base, its mark already read. -/
def readBased (base : Nat) (isDigit : Char → Bool) (text : List Char) :
    Option (Value × List Char) := do
  let (digits, rest) ← readDigits isDigit text
  let value ← signed64? (digitsValue base digits)
  return (value, rest)

/-- The whole part of a decimal number: a lone zero, or digits that do not begin with one. -/
def readWhole (text : List Char) : Option (List Char × List Char) :=
  match text with
  | '0' :: rest => some (['0'], rest)
  | _ => readDigits Char.isDigit text

/-- The digits after a point, when there is one. -/
def readFraction (text : List Char) : Option (Option (List Char) × List Char) :=
  match text with
  | '.' :: rest => (readDigits Char.isDigit rest).map fun read => (some read.1, read.2)
  | _ => some (none, text)

/-- The exponent, when there is one. -/
def readExponent (text : List Char) : Option (Option Int × List Char) :=
  match text with
  | c :: rest =>
    if c = 'e' ∨ c = 'E' then
      let (negative, rest) := readSign rest
      (readDigits Char.isDigit rest).map fun read =>
        let amount : Int := digitsValue 10 read.1
        (some (if negative then -amount else amount), read.2)
    else some (none, text)
  | [] => some (none, text)

/-- The bit of the sign of a number of double precision. -/
def signBit : Nat := 0x8000000000000000

/-- The value of a decimal number with a point or an exponent; only negative ones may be too large.
-/
def floatOf? (negative : Bool) (digits : List Char) (exponent : Int) : Option Value :=
  let magnitude := Number.double.ofDecimal (digitsValue 10 digits) exponent
  if magnitude = Number.double.infinity ∧ negative = false then none
  else some (.float (if negative then signBit + magnitude else magnitude))

/-- Reads a decimal number. -/
def readDecimal (text : List Char) : Option (Value × List Char) := do
  let (negative, rest) := readSign text
  let (whole, rest) ← readWhole rest
  let (fraction, rest) ← readFraction rest
  let (exponent, rest) ← readExponent rest
  if fraction.isNone && exponent.isNone then
    let amount : Int := digitsValue 10 whole
    let value ← signed64? (if negative then -amount else amount)
    return (value, rest)
  else
    let places := fraction.getD []
    let value ← floatOf? negative (whole ++ places) (exponent.getD 0 - places.length)
    return (value, rest)

/-- Reads infinity or a value that is no number, after an optional sign. -/
def readSpecial (text : List Char) : Option (Value × List Char) :=
  let (negative, rest) := readSign text
  let signed := fun magnitude => Value.float (if negative then signBit + magnitude else magnitude)
  match rest with
  | 'i' :: 'n' :: 'f' :: rest => some (signed Number.double.infinity, rest)
  | 'n' :: 'a' :: 'n' :: rest => some (signed (Number.double.infinity + 0x8000000000000), rest)
  | _ => none

/-- Reads exactly so many decimal digits. -/
def readFixed (count : Nat) (text : List Char) : Option (Nat × List Char) :=
  let digits := text.take count
  if digits.length = count ∧ digits.all Char.isDigit then
    some (digitsValue 10 digits, text.drop count)
  else none

/-- Reads a character. -/
def readMark (mark : Char) : List Char → Option (List Char)
  | c :: rest => if c = mark then some rest else none
  | [] => none

/-- The number of days of a month. -/
def daysIn (year month : Nat) : Nat :=
  if month = 2 then
    if year % 4 = 0 ∧ (year % 100 ≠ 0 ∨ year % 400 = 0) then 29 else 28
  else if month = 4 ∨ month = 6 ∨ month = 9 ∨ month = 11 then 30
  else 31

/-- Reads a date. -/
def readDate (text : List Char) : Option (Date × List Char) := do
  let (year, rest) ← readFixed 4 text
  let rest ← readMark '-' rest
  let (month, rest) ← readFixed 2 rest
  let rest ← readMark '-' rest
  let (day, rest) ← readFixed 2 rest
  if 1 ≤ month ∧ month ≤ 12 ∧ 1 ≤ day ∧ day ≤ daysIn year month then
    return (⟨year, month, day⟩, rest)
  else none

/-- Reads the fraction of a second: nine digits count. -/
def readSecondFraction (text : List Char) : Option (Nat × List Char) :=
  match text with
  | '.' :: rest =>
    let digits := rest.takeWhile Char.isDigit
    if digits = [] then none
    else
      let kept := digits.take 9
      some (digitsValue 10 kept * Nat.pow 10 (9 - kept.length), rest.dropWhile Char.isDigit)
  | _ => some (0, text)

/-- Reads a time of day. A point that no digit follows stays where it is. -/
def readClock (text : List Char) : Option (Clock × List Char) := do
  let (hour, rest) ← readFixed 2 text
  let rest ← readMark ':' rest
  let (minute, rest) ← readFixed 2 rest
  let rest ← readMark ':' rest
  let (second, rest) ← readFixed 2 rest
  if hour ≤ 23 ∧ minute ≤ 59 ∧ second ≤ 60 then
    let (billionths, rest) := (readSecondFraction rest).getD (0, rest)
    return (⟨hour, minute, second, billionths⟩, rest)
  else none

/-- Reads an offset, when there is one. -/
def readOffset (text : List Char) : Option (Option Offset × List Char) :=
  match text with
  | c :: rest =>
    if c = 'Z' ∨ c = 'z' then some (some .zulu, rest)
    else if c = '+' ∨ c = '-' then do
      let (hour, rest) ← readFixed 2 rest
      let rest ← readMark ':' rest
      let (minute, rest) ← readFixed 2 rest
      if hour ≤ 23 ∧ minute ≤ 59 then
        return (some (.minutes (c = '+') (60 * hour + minute)), rest)
      else none
    else some (none, text)
  | [] => some (none, text)

/-- Reads the time that follows a date, when there is one. -/
def readClockAfter (date : Date) (text : List Char) : Option (Moment × List Char) :=
  match text with
  | c :: rest =>
    if c = 'T' ∨ c = 't' ∨ c = ' ' then
      match readClock rest with
      | some (clock, rest) =>
        (readOffset rest).map fun read => (.dayTime date clock read.1, read.2)
      | none => some (.day date, text)
    else some (.day date, text)
  | [] => some (.day date, text)

/-- Reads a moment. -/
def readMoment (text : List Char) : Option (Moment × List Char) :=
  match readDate text with
  | some (date, rest) => readClockAfter date rest
  | none => (readClock text).map fun read => (.time read.1, read.2)

/-- Reads a number or a moment. -/
def readNumber (text : List Char) : Option (Value × List Char) :=
  match text with
  | '0' :: 'x' :: rest => readBased 16 (fun c => (Text.hexValue? c).isSome) rest
  | '0' :: 'o' :: rest => readBased 8 (fun c => '0' ≤ c && c ≤ '7') rest
  | '0' :: 'b' :: rest => readBased 2 (fun c => c = '0' || c = '1') rest
  | _ =>
    match readMoment text with
    | some (moment, rest) => some (.moment moment, rest)
    | none => (readDecimal text).or (readSpecial text)

/-- Reads a value that holds no other values. -/
def readScalar (text : List Char) : Option (Value × List Char) :=
  match text with
  | 't' :: 'r' :: 'u' :: 'e' :: rest => some (.boolean true, rest)
  | 'f' :: 'a' :: 'l' :: 's' :: 'e' :: rest => some (.boolean false, rest)
  | c :: _ =>
    if c = '"' ∨ c = '\'' then (readString text).map fun read => (.string read.1, read.2)
    else readNumber text
  | [] => none

end ShaderBuild.Toml
