import ShaderBuild.Glsl.Expression

/-! The words in front of a declaration that say where its variable lives and how it is used. -/

namespace ShaderBuild.Glsl

open ShaderBuild.Program

/-- Where the variables of a declaration live. -/
inductive Storage where
  | space (space : AddressSpace)
  | input
  | output
  | constant
  deriving DecidableEq, Repr

/-- What an entry in the parentheses of a layout says. -/
inductive LayoutValue where
  | standard (layout : BlockLayout)
  | number (value : Nat)
  | flag
  deriving DecidableEq, Repr

/-- An entry of a layout; the standards have no key of their own. -/
structure LayoutEntry where
  key : Option String
  value : LayoutValue
  span : Span

/-- The qualifiers of a declaration; each use takes one away, so that the rest is unexpected. -/
structure Qualifiers where
  span : Span := .none
  storage : Storage × Span := (.space .function, .none)
  invariance : Option Span := none
  interpolation : Option (Interpolation × Span) := none
  sampling : Option (Sampling × Span) := none
  precision : Option Span := none
  memory : Option ((Bool × Bool) × Span) := none
  layout : List LayoutEntry := []

namespace Qualifiers

/-- Adds an entry in place of an older one of its key. -/
def addEntry (qualifiers : Qualifiers) (entry : LayoutEntry) : Qualifiers :=
  { qualifiers with
    layout := (qualifiers.layout.filter fun old => old.key ≠ entry.key) ++ [entry] }

/-- Takes the entry of a key away. -/
def takeEntry (qualifiers : Qualifiers) (key : Option String) :
    Option LayoutEntry × Qualifiers :=
  (qualifiers.layout.find? fun entry => entry.key = key,
    { qualifiers with layout := qualifiers.layout.filter fun entry => entry.key ≠ key })

end Qualifiers

namespace Reading

/-- Takes the number of a key away; an entry without a number counts as zero. -/
def takeNumber (qualifiers : Qualifiers) (key : String) :
    Reading (Option Nat × Qualifiers) := do
  let (entry, qualifiers) := qualifiers.takeEntry (some key)
  match entry with
  | none => return (none, qualifiers)
  | some ⟨_, .number value, _⟩ => return (some value, qualifiers)
  | some ⟨_, _, span⟩ =>
    report .qualifierNotUint span
    return (some 0, qualifiers)

/-- Takes a key without a number away, and says whether it was there. -/
def takeFlag (qualifiers : Qualifiers) (key : String) : Reading (Bool × Qualifiers) := do
  let (entry, qualifiers) := qualifiers.takeEntry (some key)
  match entry with
  | none => return (false, qualifiers)
  | some ⟨_, .flag, _⟩ => return (true, qualifiers)
  | some ⟨_, _, span⟩ =>
    report .qualifierWithValue span
    return (true, qualifiers)

/-- Reports a qualifier that is left. -/
def reportLeft (kind : QualifierKind) : Option Span → Reading Unit
  | none => pure ()
  | some span => report (.uselessQualifier kind) span

/-- Reports entries that are left. -/
def reportEntries : List LayoutEntry → Reading Unit
  | [] => pure ()
  | entry :: rest => do
    report .unexpectedQualifier entry.span
    reportEntries rest

/-- Reports the qualifiers that nothing has used. -/
def reportUnused (qualifiers : Qualifiers) : Reading Unit := do
  reportLeft .invariance qualifiers.invariance
  reportLeft .interpolation (qualifiers.interpolation.map (·.2))
  reportLeft .sampling (qualifiers.sampling.map (·.2))
  reportLeft .memory (qualifiers.memory.map (·.2))
  reportEntries qualifiers.layout

/-- The storage that a keyword asks for. -/
def storageOf : Keyword → Option Storage
  | .constKey => some .constant
  | .inKey => some .input
  | .outKey => some .output
  | .uniformKey => some (.space .uniform)
  | .sharedKey => some (.space .workGroup)
  | .bufferKey => some (.space (.storage true true))
  | _ => none

/-- Notes that a qualifier was given before. -/
def reportTwice (kind : QualifierKind) (before : Bool) (span : Span) : Reading Unit :=
  if before then report (.qualifierTwice kind) span else pure ()

/-- Takes a qualifier into account. -/
def addQualifier (qualifiers : Qualifiers) (token : Token) (span : Span) :
    Reading Qualifiers := do
  let qualifiers := { qualifiers with span := qualifiers.span.join span }
  match token with
  | .key .invariantKey =>
    reportTwice .invariance qualifiers.invariance.isSome span
    return { qualifiers with invariance := some span }
  | .interpolation value =>
    reportTwice .interpolation qualifiers.interpolation.isSome span
    return { qualifiers with interpolation := some (value, span) }
  | .sampling value =>
    reportTwice .sampling qualifiers.sampling.isSome span
    return { qualifiers with sampling := some (value, span) }
  | .precision _ =>
    reportTwice .precision qualifiers.precision.isSome span
    return { qualifiers with precision := some span }
  | .memory load store =>
    -- Words about memory take permissions away; taking the same one away twice is a mistake.
    let ((oldLoad, oldStore), oldSpan) := qualifiers.memory.getD ((true, true), .none)
    if !((oldLoad || load) && (oldStore || store)) then report .memoryTwice span
    return { qualifiers with
      memory := some ((oldLoad && load, oldStore && store), oldSpan.join span) }
  | .key word =>
    match storageOf word with
    | some storage =>
      reportTwice .storage (qualifiers.storage.1 ≠ .space .function) span
      return { qualifiers with storage := (storage, span) }
    | none => return qualifiers
  | _ => return qualifiers

/-- The number of an entry; a mistake in it counts as zero. -/
def entryNumber (n : Nat) : Reading (Nat × Span) :=
  try parseUint n
  catch fault => do
    report fault.1 fault.2
    return (0, .none)

/-- Reads an entry of a layout. -/
def parseEntry (n : Nat) (qualifiers : Qualifiers) : Reading Qualifiers := do
  let (token, span) ← take
  match token with
  | .name "std140" => return qualifiers.addEntry ⟨none, .standard .std140, span⟩
  | .name "std430" => return qualifiers.addEntry ⟨none, .standard .std430, span⟩
  | .name key =>
    match ← takeMark .assign with
    | none => return qualifiers.addEntry ⟨some key, .flag, span⟩
    | some _ =>
      let (value, stop) ← entryNumber n
      return qualifiers.addEntry ⟨some key, .number value, span.join stop⟩
  | other =>
    report (.unexpected other [.aName]) span
    return qualifiers

/-- Reads the entries of a layout. -/
def parseEntries : Nat → Qualifiers → Reading Qualifiers
  | 0, _ => endOfFile
  | n + 1, qualifiers => do
    let qualifiers ← parseEntry n qualifiers
    match ← takeMark .comma with
    | some _ => parseEntries n qualifiers
    | none => return qualifiers

/-- Reads qualifiers as long as there are any. -/
def parseQualifiers : Nat → Qualifiers → Reading Qualifiers
  | 0, _ => endOfFile
  | n + 1, qualifiers => do
    if !(← peekQualifier) then return qualifiers
    let (token, span) ← take
    if token = .key .layoutKey then
      let _ ← expectMark .leftParen
      let qualifiers ← parseEntries n qualifiers
      let stop ← expectMark .rightParen
      parseQualifiers n { qualifiers with span := qualifiers.span.join stop }
    else if token = .key .restrictKey then
      parseQualifiers n { qualifiers with span := qualifiers.span.join span }
    else parseQualifiers n (← addQualifier qualifiers token span)

end Reading

end ShaderBuild.Glsl
