import ShaderBuild.Glsl.Condition

/-! Lines that begin with a hash define macros, choose parts of the text and tell the version. -/

namespace ShaderBuild.Glsl

open ShaderBuild.Program (Span)

/-- A part of the text that depends on a condition. -/
structure Choice where
  /-- Whether the current branch is taken. -/
  taken : Bool
  /-- Whether no later branch may be taken. -/
  settled : Bool
  sawElse : Bool
  span : Span

/-- What the program's words are read from. -/
inductive Item where
  | word (word : Word)
  | fault (fault : LexicalFault) (span : Span)
  | version (isFirst : Bool) (words : List Word) (span : Span)
  | extension (words : List Word) (span : Span)

/-- A fault as an item. -/
def Item.ofMisfit (misfit : Misfit) : Item := .fault misfit.1 misfit.2

/-- What has been learned from the text before some place. -/
structure Outlook where
  macros : Macros := []
  choices : List Choice := []
  /-- Nothing but blanks has been seen. -/
  untouched : Bool := true
  /-- How far the numbers of lines differ from their count. -/
  lineShift : Int := 0

namespace Outlook

/-- Whether the text at this place counts. -/
def isOpen (outlook : Outlook) : Bool := outlook.choices.all (·.taken)

/-- Begins a part that depends on a condition. -/
def choose (outlook : Outlook) (holds : Bool) (span : Span) : Outlook :=
  let counts := outlook.isOpen
  { outlook with choices := ⟨holds && counts, holds || !counts, false, span⟩ :: outlook.choices }

end Outlook

/-- Reading what stands in the line of a directive behind its name. The words that have been read
are gone even when a fault is found. -/
abbrev LineReading := ExceptT Misfit (StateM (List Scanned))

namespace LineReading

/-- Takes the next word. -/
def next : LineReading Word := do
  match ← get with
  | [] => throw (.endOfInput, .none)
  | item :: rest =>
    set rest
    match item.word with
    | .ok lexeme => return ⟨lexeme, item.span, item.spaced, item.line⟩
    | .error fault => throw (fault, item.span)

/-- Gives up at a word that has no place in the line. -/
def refuse (word : Word) : LineReading α :=
  match word.lexeme with
  | .newline => throw (.unexpectedNewline, word.span)
  | .hash => throw (.unexpectedHash, word.span)
  | other => throw (.unexpectedWord other, word.span)

/-- Takes a name. -/
def name : LineReading (String × Span) := do
  let word ← next
  match word.lexeme with
  | .name text => return (text, word.span)
  | _ => refuse word

/-- Takes the end of the line. -/
def lineEnd : LineReading Unit := do
  let word ← next
  match word.lexeme with
  | .newline => return ()
  | _ => refuse word

/-- The words up to the end of the line and what is behind it; a fault or a hash ends them. -/
def splitLine : List Scanned → Except Misfit (List Word) × List Scanned
  | [] => (.ok [], [])
  | item :: rest =>
    match item.word with
    | .error fault => (.error (fault, item.span), rest)
    | .ok .newline => (.ok [], rest)
    | .ok .hash => (.error (.unexpectedHash, item.span), rest)
    | .ok lexeme =>
      let (words, after) := splitLine rest
      (words.map (⟨lexeme, item.span, item.spaced, item.line⟩ :: ·), after)

/-- Takes all words of the line and its end. -/
def restOfLine : LineReading (List Word) := do
  let (words, after) := splitLine (← get)
  set after
  match words with
  | .ok words => return words
  | .error misfit => throw misfit

/-- Takes the parameters of a macro behind one of them, up to the closing parenthesis. -/
def moreParameters : Nat → List String → LineReading (List String)
  | 0, names => return names
  | fuel + 1, names => do
    let word ← next
    match word.lexeme with
    | .punct .rightParen => return names
    | .punct .comma =>
      let (text, place) ← name
      if names.contains text then throw (.repeatedParameter, place)
      moreParameters fuel (names ++ [text])
    | _ => refuse word

/-- Takes the parameters of a macro, of which there may be none, and the closing parenthesis. -/
def parameters : LineReading (List String) := do
  let word ← next
  match word.lexeme with
  | .punct .rightParen => return []
  | .name text => moreParameters (← get).length [text]
  | _ => refuse word

/-- Whether the next word is a parenthesis that follows without a blank. -/
def callFollows : LineReading Bool := do
  match ← get with
  | ⟨.ok (.punct .leftParen), _, false, _, _⟩ :: _ => return true
  | _ => return false

/-- Takes the definition of a macro: its name, its parameters if it has any, and its body. -/
def definition : LineReading (String × Span × Macro) := do
  let (text, place) ← name
  if ← callFollows then
    let _ ← next
    let parameters ← parameters
    return (text, place, ⟨some parameters, ← restOfLine⟩)
  else return (text, place, ⟨none, ← restOfLine⟩)

end LineReading

/-- Adds a macro; a second definition has to agree with the first one. -/
def addMacro (macros : Macros) (name : String) (place : Span) (found : Macro) :
    Except Misfit Macros :=
  match macros.lookup name with
  | none => .ok ((name, found) :: macros)
  | some old => if old.agrees found then .ok macros else .error (.redefined, place)

/-- Directives that choose between parts of the text. -/
def isChoice (name : String) : Bool :=
  ["if", "ifdef", "ifndef", "elif", "else", "endif"].contains name

/-- Carries out a directive that chooses between parts of the text. -/
def chooseBranch (outlook : Outlook) (name : String) (span : Span) :
    LineReading (Outlook × List Item) := do
  let holdsHere : LineReading Bool := do
    let words ← LineReading.restOfLine
    evaluateCondition outlook.macros outlook.lineShift span words
  match name, outlook.choices with
  | "ifdef", _ | "ifndef", _ =>
    -- Choices in a part that is left out are counted but not looked at.
    if !outlook.isOpen then return (outlook.choose false span, [])
    let (text, _) ← LineReading.name
    LineReading.lineEnd
    let defined := (outlook.macros.lookup text).isSome
    return (outlook.choose (defined == (name == "ifdef")) span, [])
  | "if", _ =>
    if !outlook.isOpen then return (outlook.choose false span, [])
    return (outlook.choose (← holdsHere) span, [])
  | "elif", [] => throw (.elifOutside, span)
  | "elif", choice :: outer =>
    let replace := fun choice => { outlook with choices := choice :: outer }
    if choice.sawElse then throw (.elifAfterElse, span)
    -- Once a part has been taken, the conditions of the later ones do not matter.
    if choice.settled then return (replace { choice with taken := false }, [])
    let holds ← holdsHere
    return (replace { choice with taken := holds, settled := holds }, [])
  | "else", [] => throw (.elseOutside, span)
  | "else", choice :: outer =>
    if choice.sawElse then throw (.secondElse, span)
    LineReading.lineEnd
    let choice := { choice with taken := !choice.settled, settled := true, sawElse := true }
    return ({ outlook with choices := choice :: outer }, [])
  | _, [] => throw (.endifOutside, span)
  | _, _ :: outer =>
    let outlook := { outlook with choices := outer }
    -- The part has ended even when something else follows in the line.
    try
      LineReading.lineEnd
      return (outlook, [])
    catch misfit => return (outlook, [.ofMisfit misfit])

/-- Carries out a directive. -/
def carryOut (outlook : Outlook) (name : String) (span : Span) :
    LineReading (Outlook × List Item) := do
  if isChoice name then chooseBranch outlook name span
  -- Only directives that choose between parts count in a part that is left out.
  else if !outlook.isOpen then return (outlook, [])
  else
    match name with
    | "version" => return (outlook, [.version outlook.untouched (← LineReading.restOfLine) span])
    | "extension" => return (outlook, [.extension (← LineReading.restOfLine) span])
    | "pragma" =>
      let _ ← LineReading.restOfLine
      return (outlook, [])
    | "line" =>
      let word ← LineReading.next
      match word.lexeme with
      | .integer number =>
        LineReading.lineEnd
        if 0x100000000 ≤ number.value then throw (.lineOverflow, word.span)
        -- The number is that of the next line.
        return ({ outlook with lineShift := (number.value : Int) - (word.line + 1 : Nat) }, [])
      | _ => LineReading.refuse word
    | "define" =>
      let (text, place, found) ← LineReading.definition
      let macros ← addMacro outlook.macros text place found
      return ({ outlook with macros }, [])
    | "undef" =>
      let (text, _) ← LineReading.name
      LineReading.lineEnd
      return ({ outlook with macros := outlook.macros.filter fun entry => entry.1 ≠ text }, [])
    | "error" => throw (.errorDirective, span)
    | _ => throw (.unknownDirective, span)

/-- Carries out the directive behind a hash; the words that it leaves over come back. -/
def carryOutLine (outlook : Outlook) (items : List Scanned) :
    Outlook × List Item × List Scanned :=
  let directive : LineReading (Outlook × List Item) := do
    let (text, span) ← LineReading.name
    carryOut outlook text span
  match directive.run.run items with
  | (.ok (outlook, found), rest) => ({ outlook with untouched := false }, found, rest)
  | (.error misfit, rest) => ({ outlook with untouched := false }, [.ofMisfit misfit], rest)

/-- The words of the text up to the next fault or hash. -/
def plainWords : List Scanned → List Word
  | [] => []
  | item :: rest =>
    match item.word with
    | .error _ | .ok .hash => []
    | .ok .newline => plainWords rest
    | .ok lexeme => ⟨lexeme, item.span, item.spaced, item.line⟩ :: plainWords rest

/-- What is behind some words; line ends between them do not count. -/
def dropWords : Nat → List Scanned → List Scanned
  | 0, items => items
  | _, [] => []
  | count + 1, item :: rest =>
    match item.word with
    | .ok .newline => dropWords (count + 1) rest
    | _ => dropWords count rest

/-- How many words a macro call at the head of the text takes in behind its name. -/
def callLength (macros : Macros) (word : Word) (following : List Word) : Nat :=
  match callee? macros [] word with
  | some (_, ⟨some _, _⟩) =>
    match callOf following with
    | .closed _ used => used
    | .unclosed => following.length
    | .none => 0
  | _ => 0

/-- An expanded word as an item. -/
def itemOf : Except Misfit Word → Item
  | .ok word => .word word
  | .error misfit => .ofMisfit misfit

/-- Carries out the directives and expands the text between them. Every step takes at least one
word. -/
def itemsFrom : Nat → Outlook → List Scanned → List Item
  | 0, outlook, _ | _, outlook, [] =>
    outlook.choices.map fun choice => .fault .unfinishedBlock choice.span
  | fuel + 1, outlook, item :: rest =>
    match item.word with
    -- What cannot be read is reported in parts that are left out, too.
    | .error fault => .fault fault item.span :: itemsFrom fuel outlook rest
    | .ok .newline => itemsFrom fuel outlook rest
    | .ok .hash =>
      -- A hash begins a directive only where nothing stands before it.
      if item.startsLine then
        let (next, found, rest) := carryOutLine outlook rest
        found ++ itemsFrom fuel next rest
      else if outlook.isOpen then .fault .unexpectedHash item.span :: itemsFrom fuel outlook rest
      else itemsFrom fuel outlook rest
    | .ok lexeme =>
      if !outlook.isOpen then itemsFrom fuel outlook rest
      else
        let word : Word := ⟨lexeme, item.span, item.spaced, item.line⟩
        let following := plainWords rest
        let used := callLength outlook.macros word following
        let words := word :: following.take used
        (expand outlook.macros outlook.lineShift words).map itemOf ++
          itemsFrom fuel { outlook with untouched := false } (dropWords used rest)

/-- The words of a text after its directives have been carried out. -/
def itemsOf (macros : Macros) (text : String) : List Item :=
  let words := scan text
  itemsFrom words.length { macros } words

end ShaderBuild.Glsl
