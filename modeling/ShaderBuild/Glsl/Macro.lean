import ShaderBuild.Glsl.Lexeme
import ShaderBuild.Options

/-! Macros: names that stand for words, which keep their own places. -/

namespace ShaderBuild.Glsl

open ShaderBuild.Program (Span)

/-- A word with its place. -/
structure Word where
  lexeme : Lexeme
  span : Span
  /-- Whether a blank or a line end is before the word. -/
  spaced : Bool := true
  /-- The number of the line that the word begins in. -/
  line : Nat := 1
  deriving DecidableEq, Repr

/-- A fault with its place. -/
abbrev Misfit := LexicalFault × Span

/-- A macro: its parameters, if it takes any, and the words that it stands for. -/
structure Macro where
  parameters : Option (List String)
  body : List Word

/-- Whether two macros stand for the same words. -/
def Macro.agrees (a b : Macro) : Bool :=
  a.parameters = b.parameters && a.body.map (·.lexeme) = b.body.map (·.lexeme)

/-- The macros by their names. -/
abbrev Macros := List (String × Macro)

/-- What stands behind the name of a macro that takes arguments. -/
inductive Call where
  | none
  | unclosed
  /-- The arguments of a call, and how many words it takes up. -/
  | closed (arguments : List (List Word)) (used : Nat)

/-- Splits the words of a call into arguments; the answer also tells how many words it takes. -/
def argumentsFrom : List Word → Nat → List Word → List (List Word) → Nat → Call
  | [], _, _, _, _ => .unclosed
  | word :: rest, depth, current, done, used =>
    match word.lexeme, depth with
    | .punct .leftParen, _ => argumentsFrom rest (depth + 1) (word :: current) done (used + 1)
    | .punct .rightParen, 0 => .closed (current.reverse :: done).reverse (used + 1)
    | .punct .rightParen, depth + 1 =>
      argumentsFrom rest depth (word :: current) done (used + 1)
    | .punct .comma, 0 => argumentsFrom rest 0 [] (current.reverse :: done) (used + 1)
    | _, _ => argumentsFrom rest depth (word :: current) done (used + 1)

/-- The call that the words begin with. -/
def callOf : List Word → Call
  | word :: rest =>
    if word.lexeme = .punct .leftParen then argumentsFrom rest 0 [] [] 1 else .none
  | [] => .none

/-- The body of a macro with its parameters replaced. -/
def substitute (bindings : List (String × List Word)) (body : List Word) : List Word :=
  body.flatMap fun word =>
    match word.lexeme with
    | .name name => (bindings.lookup name).getD [word]
    | _ => [word]

/-- The macro that a word names, unless it is being replaced already. -/
def callee? (macros : Macros) (hidden : List String) (word : Word) : Option (String × Macro) :=
  match word.lexeme with
  | .name name =>
    if hidden.contains name then none else (macros.lookup name).map fun found => (name, found)
  | _ => none

/-- The parameters of a call with their arguments, which must be as many. -/
def bindArguments (span : Span) (parameters : List String) (arguments : List (List Word)) :
    Except Misfit (List (String × List Word)) :=
  let arguments := if parameters.isEmpty && arguments = [[]] then [] else arguments
  if arguments.length < parameters.length then .error (.tooFewArguments, span)
  else if parameters.length < arguments.length then .error (.tooManyArguments, span)
  else .ok (parameters.zip arguments)

/-- What a word is replaced by that asks for the number of its line: the number counts from where
the text last said, and within a macro the line of the outermost call counts. -/
def answerLine (shift : Int) (callLine : Option Nat) (word : Word) : Except Misfit Word :=
  if word.lexeme = .name "__LINE__" then
    let line := (callLine.getD word.line : Int) + shift
    if line < 0 ∨ 0x100000000 ≤ line then .error (.lineOverflow, word.span)
    else .ok { word with lexeme := .integer ⟨line.toNat, true⟩ }
  else .ok word

/-- Replaces macros by what they stand for; within its own words a macro is left alone. -/
def expandWords (macros : Macros) (shift : Int) :
    Nat → List String → Option Nat → List Word → List (Except Misfit Word)
  | 0, _, callLine, words => words.map (answerLine shift callLine)
  | _, _, _, [] => []
  | depth + 1, hidden, callLine, word :: rest =>
    match callee? macros hidden word with
    | none =>
      answerLine shift callLine word :: expandWords macros shift (depth + 1) hidden callLine rest
    | some (name, found) =>
      let inner := some (callLine.getD word.line)
      -- What a macro stands for is expanded again, with the macro itself hidden.
      match found.parameters with
      | none =>
        expandWords macros shift depth (name :: hidden) inner found.body ++
          expandWords macros shift (depth + 1) hidden callLine rest
      | some parameters =>
        match callOf rest with
        -- A name that takes arguments but has none behind it stands for itself.
        | .none => .ok word :: expandWords macros shift (depth + 1) hidden callLine rest
        | .unclosed => [.error (.endOfInput, word.span)]
        | .closed arguments used =>
          match bindArguments word.span parameters arguments with
          | .ok bindings =>
            expandWords macros shift depth (name :: hidden) inner
              (substitute bindings found.body) ++
              expandWords macros shift (depth + 1) hidden callLine (rest.drop used)
          | .error fault =>
            .error fault :: expandWords macros shift (depth + 1) hidden callLine (rest.drop used)
termination_by depth _ _ words => (depth, words.length)
decreasing_by
  all_goals simp_wf
  all_goals first
    | exact Prod.Lex.left _ _ (by omega)
    | exact Prod.Lex.right _ (by omega)

/-- Words with all macros replaced; every macro can hide each other one at most once. -/
def expand (macros : Macros) (shift : Int) (words : List Word) : List (Except Misfit Word) :=
  expandWords macros shift (macros.length + 1) [] none words

/-- Why a value given from outside cannot be a macro, and the number of the line of the fault. -/
structure BadMacro where
  fault : LexicalFault
  span : Span
  line : Nat

/-- A macro given from outside: the words of its value, which are on any number of lines but hold
no hash. -/
def macroOfValue (value : String) : Except BadMacro Macro := do
  let words ← (scan value).mapM fun item =>
    match item.word with
    | .error fault => .error (⟨fault, item.span, 1⟩ : BadMacro)
    | .ok .newline => .ok none
    | .ok .hash => .error ⟨.unexpectedHash, item.span, item.line⟩
    | .ok lexeme => .ok (some (⟨lexeme, item.span, item.spaced, item.line⟩ : Word))
  return ⟨none, words.filterMap id⟩

/-- The macros given from outside; the first bad one in the order of the names is reported. -/
def macrosOf (defines : Defines) : Except BadMacro Macros :=
  defines.entries.mapM fun entry => do
    let found ← macroOfValue entry.2
    return (entry.1, found)

end ShaderBuild.Glsl
