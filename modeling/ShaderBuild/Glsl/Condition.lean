import ShaderBuild.Glsl.Macro

/-! The conditions of directives: whole numbers of 64 bits, the operators on them, and macros. -/

namespace ShaderBuild.Glsl

open ShaderBuild.Program (Span)

/-- How tightly the operators of a condition bind. -/
def conditionPower : Mark → Option Nat
  | .logicalOr => some 1
  | .logicalAnd => some 2
  | .bar => some 3
  | .caret => some 4
  | .ampersand => some 5
  | .equal | .notEqual => some 6
  | .leftAngle | .rightAngle | .lessEqual | .greaterEqual => some 7
  | .leftShift | .rightShift => some 8
  | .plus | .dash => some 9
  | .star | .slash | .percent => some 10
  | _ => none

/-- A truth value as a number. -/
def numberOf (truth : Bool) : Int := if truth then 1 else 0

/-- The value of an operator in a condition; results that do not fit wrap. -/
def conditionValue (mark : Mark) (a b : Int) : Except LexicalFault Int :=
  let wrap := fun n : Int => (Int64.ofInt n).toInt
  let bits := fun n : Int => (Int64.ofInt n).toUInt64
  let ofBits := fun n : UInt64 => n.toInt64.toInt
  match mark with
  | .logicalOr => .ok (numberOf (a ≠ 0 || b ≠ 0))
  | .logicalAnd => .ok (numberOf (a ≠ 0 && b ≠ 0))
  | .bar => .ok (ofBits (bits a ||| bits b))
  | .caret => .ok (ofBits (bits a ^^^ bits b))
  | .ampersand => .ok (ofBits (bits a &&& bits b))
  | .equal => .ok (numberOf (a = b))
  | .notEqual => .ok (numberOf (a ≠ b))
  | .leftAngle => .ok (numberOf (a < b))
  | .rightAngle => .ok (numberOf (b < a))
  | .lessEqual => .ok (numberOf (a ≤ b))
  | .greaterEqual => .ok (numberOf (b ≤ a))
  | .leftShift => .ok (ofBits (bits a <<< bits b))
  | .rightShift => .ok (wrap (a >>> b.toNat))
  | .plus => .ok (wrap (a + b))
  | .dash => .ok (wrap (a - b))
  | .star => .ok (wrap (a * b))
  | .slash => if b = 0 then .error .divisionByZero else .ok (wrap (Int.tdiv a b))
  | .percent => if b = 0 then .error .remainderByZero else .ok (wrap (Int.tmod a b))
  | other => .error (.unexpectedWord (.punct other))

mutual

/-- Reads an operand of a condition. -/
def readOperand (span : Span) : Nat → List Word →
    Except Misfit (Int × List Word)
  | 0, _ => .error (.unexpectedNewline, span)
  | _, [] => .error (.unexpectedNewline, span)
  | fuel + 1, word :: rest =>
    match word.lexeme with
    | .integer number => .ok (number.value, rest)
    -- All macros have been replaced before, so a name that is left has no value.
    | .name _ => .error (.undefinedMacro, word.span)
    | .punct .plus => readOperand span fuel rest
    | .punct .dash => do
      let (value, rest) ← readOperand span fuel rest
      return (-value, rest)
    | .punct .tilde => do
      let (value, rest) ← readOperand span fuel rest
      return (-value - 1, rest)
    | .punct .bang => do
      let (value, rest) ← readOperand span fuel rest
      return (numberOf (value = 0), rest)
    | .punct .leftParen => do
      let (value, rest) ← readCondition span fuel 0 rest
      match rest with
      | close :: rest =>
        if close.lexeme = .punct .rightParen then return (value, rest)
        else .error (.unexpectedWord close.lexeme, close.span)
      | [] => .error (.unexpectedNewline, span)
    | other => .error (.unexpectedWord other, word.span)

/-- Reads a condition whose operators bind more tightly than a limit. -/
def readCondition (span : Span) : Nat → Nat → List Word →
    Except Misfit (Int × List Word)
  | 0, _, _ => .error (.unexpectedNewline, span)
  | fuel + 1, limit, words => do
    let (value, rest) ← readOperand span fuel words
    readOperators span fuel limit value rest

/-- Goes on with the operators after an operand. -/
def readOperators (span : Span) : Nat → Nat → Int → List Word →
    Except Misfit (Int × List Word)
  | 0, _, value, words => .ok (value, words)
  | _, _, value, [] => .ok (value, [])
  | fuel + 1, limit, value, word :: rest =>
    match word.lexeme with
    | .punct mark =>
      match conditionPower mark with
      | some power =>
        if power ≤ limit then .ok (value, word :: rest)
        else do
          let (right, rest) ← readCondition span fuel power rest
          match conditionValue mark value right with
          | .ok value => readOperators span fuel limit value rest
          | .error fault => .error (fault, word.span)
      | none => .ok (value, word :: rest)
    | _ => .ok (value, word :: rest)

end

/-- Replaces each question whether a macro is defined by its answer. -/
def answerDefined (macros : Macros) : List Word → List Word
  | [] => []
  | word :: rest =>
    let answer := fun name => { word with
      lexeme := .integer ⟨if (macros.lookup name).isSome then 1 else 0, true⟩ }
    match word.lexeme, rest with
    | .name "defined", ⟨.name name, _, _, _⟩ :: rest => answer name :: answerDefined macros rest
    | .name "defined", ⟨.punct .leftParen, _, _, _⟩ :: ⟨.name name, _, _, _⟩ ::
        ⟨.punct .rightParen, _, _, _⟩ :: rest => answer name :: answerDefined macros rest
    | _, rest => word :: answerDefined macros rest

/-- Whether a condition holds. -/
def evaluateCondition (macros : Macros) (shift : Int) (span : Span) (words : List Word) :
    Except Misfit Bool := do
  let words ← (expand macros shift (answerDefined macros words)).mapM id
  let (value, rest) ← readCondition span (4 * words.length + 4) 0 words
  match rest with
  | [] => return value ≠ 0
  | word :: _ => throw (.unexpectedWord word.lexeme, word.span)

end ShaderBuild.Glsl
