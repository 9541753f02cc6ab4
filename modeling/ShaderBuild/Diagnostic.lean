/-! Messages about a place in a shader's text. -/

namespace ShaderBuild

/-- A message and its one-based line and column. -/
structure Diagnostic where
  line : UInt32
  column : UInt32
  message : String
  deriving DecidableEq, Repr

namespace Diagnostic

/-- A message at a place; zero coordinates become one. -/
def located (line column : UInt32) (message : String) : Diagnostic :=
  ⟨max line 1, max column 1, message⟩

/-- A message without a usable place points at the start of the text. -/
def unlocated (message : String) : Diagnostic :=
  .located 1 1 message

/-- The line, the column and the message, each after a colon. -/
def render (d : Diagnostic) : String :=
  s!"{d.line.toNat}:{d.column.toNat}: " ++ d.message

/-- The diagnostics on one line, in order. -/
def join (ds : List Diagnostic) : String :=
  "; ".intercalate (ds.map render)

/-- A place never has a zero coordinate. -/
theorem one_le_located (line column : UInt32) (message : String) :
    1 ≤ (Diagnostic.located line column message).line ∧
      1 ≤ (Diagnostic.located line column message).column := by
  -- The larger of a number and one is at least one.
  constructor <;> simp only [Diagnostic.located] <;>
    · rw [show max _ (1 : UInt32) = if _ ≤ (1 : UInt32) then 1 else _ from rfl]
      split
      · exact UInt32.le_refl 1
      · rename_i h; exact UInt32.le_of_lt (UInt32.not_le.mp h)

end Diagnostic

end ShaderBuild
