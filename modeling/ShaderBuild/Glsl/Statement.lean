import ShaderBuild.Glsl.Declaration

/-! Statements as they are written, without those that control does not pass to. -/

namespace ShaderBuild.Glsl

open ShaderBuild.Program

namespace Reading

/-- Adds a statement that control does not pass; the first such place in a body is kept. -/
def pushLast (statement : Statement) (ended : Option Nat) : Reading (Option Nat) := do
  pushStatement statement
  return ended.or (some (← body).size)

/-- Drops the statements behind a place. -/
def cull (ended : Option Nat) : Reading Unit := do
  match ended with
  | none => pure ()
  | some size => setBody ((← body).take size)

/-- Leaves the loop unless a condition holds. -/
def leaveUnless (condition : ExprId) (span : Span) : Reading Unit := do
  let negated ← addExpression (.unary .logicalNot condition) span
  restartEmit
  pushStatement (.branch negated [.leave] [])

/-- Whether the next statement is a declaration: a type that a parenthesis follows is a term. -/
def beginsDeclaration : Reading Bool := do
  if ← peekQualifier then return true
  if ← peekType then
    let found ← take
    let isTerm := (← peek) = .punct .leftParen
    putBack found
    return !isTerm
  return false

/-- Reads what comes before the loop in the head of a loop with three parts. -/
def parseLoopStart (n : Nat) (insideLoop : Bool) : Reading Unit := do
  match ← takeMark .semicolon with
  | some _ => return ()
  | none =>
    if (← peekType) || (← peekQualifier) then
      let _ ← parseDeclaration n ⟨false, insideLoop⟩ none
    else
      parseEffect n
      let _ ← expectMark .semicolon

/-- Reads the condition in the head of a loop with three parts; it may declare a variable. -/
def parseLoopCondition (n : Nat) : Reading Unit := do
  match ← takeMark .semicolon with
  | some _ => return ()
  | none =>
    let (condition, span) ←
      if (← peekType) || (← peekQualifier) then do
        let qualifiers ← parseQualifiers n {}
        let (type, start) ← parseTypeNonVoid n
        let (name, _) ← expectName
        let _ ← expectMark .assign
        let (value, valueSpan) ← parseInitializer n type
        let place ← declareLocal qualifiers
          { type, name := some name, init := none, span := start.join valueSpan }
        restartEmit
        pushStatement (.store place value)
        pure (value, valueSpan)
      else parseValue n
    leaveUnless condition span
    let _ ← expectMark .semicolon

/-- Reads what happens between two rounds in the head of a loop with three parts. -/
def parseLoopStep (n : Nat) : Reading Unit := do
  if (← peek) = .punct .rightParen then return ()
  parseEffect n

mutual

/-- Reads a statement, if there is one, and says where control stops passing in the body. -/
def parseStatement : Nat → Bool → Option Nat → Reading (Option (Option Nat))
  | 0, _, _ => endOfFile
  | n + 1, insideLoop, ended => do
    if ← beginsDeclaration then
      let found ← parseDeclaration n ⟨false, insideLoop⟩ none
      return found.map fun _ => ended
    else
      let token ← peek
      match token with
      | .key .continueKey =>
        let _ ← take
        let ended ← pushLast .again ended
        let _ ← expectMark .semicolon
        return some ended
      | .key .breakKey =>
        let _ ← take
        let ended ← pushLast .leave ended
        let _ ← expectMark .semicolon
        return some ended
      | .key .discardKey =>
        let _ ← take
        let ended ← pushLast .kill ended
        let _ ← expectMark .semicolon
        return some ended
      | .key .returnKey =>
        let _ ← take
        let value ←
          match ← takeMark .semicolon with
          | some _ => pure none
          | none => do
            beginTerms
            let term ← parseTerm n
            let _ ← expectMark .semicolon
            pure (some (← lowerValue term))
        restartEmit
        return some (← pushLast (.ret value) ended)
      | .key .ifKey =>
        let _ ← take
        let _ ← expectMark .leftParen
        let (condition, _) ← parseValue n
        let _ ← expectMark .rightParen
        -- What happens in a branch does not stop control behind it.
        let (_, accept) ← newBody (parseStatement n insideLoop none)
        let (_, reject) ← newBody do
          match ← takeIf (.key .elseKey) with
          | some _ =>
            let _ ← parseStatement n insideLoop none
          | none => pure ()
        pushStatement (.branch condition accept.toList reject.toList)
        return some ended
      | .key .whileKey =>
        let _ ← take
        let (_, inner) ← newBody do
          let _ ← expectMark .leftParen
          beginTerms
          let term ← parseTerm n
          let _ ← expectMark .rightParen
          -- The test comes first and leaves the loop when it fails.
          leaveUnless (← lowerValue term) term.span
          let _ ← parseStatement n true none
        pushStatement (.loop inner.toList [])
        return some ended
      | .key .doKey =>
        let _ ← take
        let (_, inner) ← newBody do
          let innerEnd ← parseStatement n true none
          let _ ← expect (.key .whileKey)
          let _ ← expectMark .leftParen
          beginTerms
          let term ← parseTerm n
          let _ ← expectMark .rightParen
          leaveUnless (← lowerValue term) term.span
          -- The test is dropped where the body never comes to its end.
          cull (innerEnd.bind id)
        pushStatement (.loop inner.toList [])
        return some ended
      | .key .forKey =>
        let _ ← take
        pushScope
        let _ ← expectMark .leftParen
        parseLoopStart n insideLoop
        let (_, head) ← newBody (parseLoopCondition n)
        -- The step is written before the body but runs after it, so it has a body of its own.
        let (_, continuing) ← newBody (parseLoopStep n)
        let _ ← expectMark .rightParen
        let (_, inner) ← continueBody head (parseStatement n true none)
        popScope
        pushStatement (.loop inner.toList continuing.toList)
        return some ended
      | .punct .leftBrace =>
        let _ ← take
        let (innerEnd, inner) ← newBody (parseCompound n insideLoop)
        pushStatement (.block inner.toList)
        -- Where control stops in a block, it also stops behind the block.
        if innerEnd.isSome then return some (ended.or (some (← body).size))
        return some ended
      | .punct .semicolon =>
        let _ ← take
        return some ended
      -- Any other word has to begin a term.
      | _ =>
        parseEffect n
        let _ ← expectMark .semicolon
        return some ended

/-- Reads statements up to and with a closing brace, in a scope of their own. -/
def parseCompound : Nat → Bool → Reading (Option Nat)
  | 0, _ => endOfFile
  | n + 1, insideLoop => do
    pushScope
    let ended ← parseStatements n insideLoop none
    cull ended
    popScope
    return ended

/-- Reads statements up to and with a closing brace. -/
def parseStatements : Nat → Bool → Option Nat → Reading (Option Nat)
  | 0, _, _ => endOfFile
  | n + 1, insideLoop, ended => do
    match ← takeMark .rightBrace with
    | some _ => return ended
    | none =>
      match ← parseStatement n insideLoop ended with
      | some ended => parseStatements n insideLoop ended
      | none =>
        let (token, span) ← take
        stop (.unexpected token [.token (.punct .rightBrace)]) span

end

end Reading

end ShaderBuild.Glsl
