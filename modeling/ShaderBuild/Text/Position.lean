/-! Lines and columns of places in a text. -/

namespace ShaderBuild.Text

/-- The line and the column of a byte, when a text begins at a given line and column. Columns count
bytes. -/
def positionFrom (line column : Nat) : Nat → List Char → Nat × Nat
  | _, [] => (line, column)
  | 0, _ => (line, column)
  | offset + 1, c :: rest =>
    if c = '\n' then positionFrom (line + 1) 1 (offset + 1 - c.utf8Size) rest
    else positionFrom line (column + c.utf8Size) (offset + 1 - c.utf8Size) rest

/-- The one-based line and column of a byte of a text. -/
def positionOf (text : List Char) (offset : Nat) : Nat × Nat :=
  positionFrom 1 1 offset text

end ShaderBuild.Text
