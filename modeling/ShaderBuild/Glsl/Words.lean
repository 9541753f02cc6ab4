import ShaderBuild.Glsl.Bench

/-! The words of the program one after the other, with the next one in view. -/

namespace ShaderBuild.Glsl

open ShaderBuild.Program

/-- A word of a directive that has no place there. -/
def misplacedWord (word : Word) : SourceFault × Span :=
  (.lexical (.unexpectedWord word.lexeme), word.span)

/-- What is wrong with the profile that follows a version. -/
def profileFaults : List Word → List (SourceFault × Span)
  | [] => []
  | word :: rest =>
    (match word.lexeme with
      | .name "core" => []
      | .name other => [(.invalidProfile other, word.span)]
      | _ => [misplacedWord word]) ++
      (rest.head?.map misplacedWord).toList

/-- What a version directive says, and what is wrong with it. -/
def readVersion (isFirst : Bool) (words : List Word) (span : Span) :
    Option Nat × List (SourceFault × Span) :=
  let late := if isFirst then [] else [(SourceFault.versionNotFirst, span)]
  match words with
  | [] => (none, late ++ [(.lexical .unexpectedNewline, span)])
  | word :: rest =>
    match word.lexeme with
    | .integer number =>
      if [440, 450, 460].contains number.value then
        (some number.value, late ++ profileFaults rest)
      else
        (none, late ++ [(.invalidVersion number.value, word.span)] ++ profileFaults rest)
    | _ => (none, late ++ [misplacedWord word] ++ profileFaults rest)

/-- What is wrong with the word at a place of a directive that has to pass a test. -/
def wordFaults (fits : Lexeme → Bool) (span : Span) : Option Word → List (SourceFault × Span)
  | none => [(.lexical .unexpectedNewline, span)]
  | some word => if fits word.lexeme then [] else [misplacedWord word]

/-- Whether a word tells what to do about an extension. -/
def isBehavior : Lexeme → Bool
  | .name text => ["require", "enable", "warn", "disable"].contains text
  | _ => false

/-- Whether a word is a name. -/
def isName : Lexeme → Bool
  | .name _ => true
  | _ => false

/-- What is wrong with an extension directive: it has a name, a colon and a behavior. -/
def extensionFaults (words : List Word) (span : Span) : List (SourceFault × Span) :=
  wordFaults isName span words[0]? ++
    wordFaults (fun lexeme => lexeme = .punct .colon) span words[1]? ++
    wordFaults isBehavior span words[2]? ++
    (words[3]?.map misplacedWord).toList

/-- Goes to the next word; what stands before it is dealt with on the way. -/
def Bench.advance (bench : Bench) : List Item → Bench × Option (Token × Span)
  | [] => ({ bench with items := [] }, none)
  | .word word :: rest =>
    match tokenOfLexeme? word.lexeme with
    | some token => ({ bench with items := rest }, some (token, word.span))
    | none => bench.advance rest
  | .fault fault span :: rest =>
    { bench with faults := bench.faults.push (.lexical fault, span) }.advance rest
  | .version isFirst words span :: rest =>
    let (version, faults) := readVersion isFirst words span
    { bench with
      version := version.getD bench.version
      faults := bench.faults ++ faults.toArray }.advance rest
  | .extension words span :: rest =>
    { bench with faults := bench.faults ++ (extensionFaults words span).toArray }.advance rest

namespace Reading

/-- The next word, left where it is. -/
def peek? : Reading (Option Token) := do
  let bench ← get
  match bench.held with
  | (token, _) :: _ => return some token
  | [] =>
    match bench.advance bench.items with
    | (bench, some found) =>
      set { bench with held := [found] }
      return some found.1
    | (bench, none) =>
      set bench
      return none

/-- Takes the next word. -/
def next? : Reading (Option (Token × Span)) := do
  let bench ← get
  match bench.held with
  | found :: held =>
    set { bench with held, lastSpan := found.2 }
    return some found
  | [] =>
    match bench.advance bench.items with
    | (bench, some found) =>
      set { bench with lastSpan := found.2 }
      return some found
    | (bench, none) =>
      set bench
      return none

/-- Puts a word back. -/
def putBack (found : Token × Span) : Reading Unit :=
  modify fun bench => { bench with held := found :: bench.held }

/-- The text must not end here. -/
def endOfFile : Reading α := do
  stop .endOfFile (← get).lastSpan

/-- Takes the next word, which has to be there. -/
def take : Reading (Token × Span) := do
  match ← next? with
  | some found => return found
  | none => endOfFile

/-- The next word, which has to be there, left where it is. -/
def peek : Reading Token := do
  match ← peek? with
  | some token => return token
  | none => endOfFile

/-- Takes a certain word. -/
def expect (token : Token) : Reading Span := do
  let (found, span) ← take
  if found = token then return span else stop (.unexpected found [.token token]) span

/-- Takes a certain mark. -/
def expectMark (mark : Mark) : Reading Span := expect (.punct mark)

/-- Takes a certain word if it is the next one. -/
def takeIf (token : Token) : Reading (Option Span) := do
  if (← peek?) = some token then return (← next?).map (·.2) else return none

/-- Takes a certain mark if it is the next word. -/
def takeMark (mark : Mark) : Reading (Option Span) := takeIf (.punct mark)

/-- Takes a name. -/
def expectName : Reading (String × Span) := do
  match ← take with
  | (.name text, span) => return (text, span)
  | (found, span) => stop (.unexpected found [.aName]) span

/-- Whether a word begins a type. -/
def beginsType (token : Token) : Reading Bool := do
  match token with
  | .typeName _ | .key .voidKey | .key .structKey => return true
  | .name text => return ((← get).structs.lookup text).isSome
  | _ => return false

/-- Whether the next word begins a type. -/
def peekType : Reading Bool := do
  match ← peek? with
  | some token => beginsType token
  | none => return false

/-- Whether a word is a qualifier of a declaration. -/
def isQualifier : Token → Bool
  | .interpolation _ | .sampling _ | .precision _ | .memory _ _ => true
  | .key word =>
    [Keyword.invariantKey, .constKey, .inKey, .outKey, .uniformKey, .sharedKey, .bufferKey,
      .restrictKey, .layoutKey].contains word
  | _ => false

/-- Whether the next word is a qualifier of a declaration. -/
def peekQualifier : Reading Bool := do
  return ((← peek?).map isQualifier).getD false

end Reading

end ShaderBuild.Glsl
