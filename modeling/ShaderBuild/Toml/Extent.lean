import ShaderBuild.Text.Blank

/-! Parts of a document's text, and how a message points at them. -/

namespace ShaderBuild.Toml

/-- The number of bytes that some characters take. -/
def byteCount : List Char → Nat
  | [] => 0
  | c :: rest => c.utf8Size + byteCount rest

/-- A part of a text. Readers see only what is left of the text, so a part is known by the bytes
that are left where it begins and by those that are left where it ends. -/
structure Extent where
  before : Nat
  after : Nat
  deriving DecidableEq, Repr

namespace Extent

/-- The part of a text between what is left at its start and what is left at its end. -/
def between (start stop : List Char) : Extent :=
  ⟨byteCount start, byteCount stop⟩

/-- The part from the start of one part to the end of another. -/
def join (first last : Extent) : Extent :=
  ⟨first.before, last.after⟩

/-- The number of bytes of a part. -/
def size (extent : Extent) : Nat :=
  extent.before - extent.after

end Extent

/-- The characters that take up the first bytes of a text. -/
def takeBytes : Nat → List Char → List Char
  | 0, _ => []
  | _, [] => []
  | count + 1, c :: rest => c :: takeBytes (count + 1 - c.utf8Size) rest

/-- What stands before a part of a text. -/
def Extent.preceding (text : List Char) (extent : Extent) : List Char :=
  takeBytes (byteCount text - extent.before) text

/-- A line of a text: its number, its characters, and a column of it, counted from zero. -/
structure Spot where
  line : Nat
  column : Nat
  content : List Char
  deriving DecidableEq, Repr

/-- The line in which a part begins. Columns count characters. -/
def Extent.spot (text : List Char) (extent : Extent) : Spot :=
  let pieces := Text.splitAtChar '\n' (extent.preceding text)
  let line := pieces.length
  { line := line
    column := (pieces.getLast?.getD []).length
    content := ((Text.splitAtChar '\n' text)[line - 1]?).getD [] }

/-- Points at a part of a text: its line and column, the line itself, and marks below the part. At
least one mark is set, and none behind the end of the line. -/
def Extent.render (text : List Char) (extent : Extent) : String :=
  let spot := extent.spot text
  let number := toString spot.line
  let gutter := String.ofList (List.replicate (number.length + 1) ' ') ++ "|"
  let marks := max 1 (min extent.size (byteCount spot.content - spot.column))
  s!"TOML parse error at line {spot.line}, column {spot.column + 1}\n" ++
    gutter ++ "\n" ++
    number ++ " | " ++ String.ofList spot.content ++ "\n" ++
    gutter ++ String.ofList (List.replicate (spot.column + 1) ' ' ++ List.replicate marks '^') ++
    "\n"

end ShaderBuild.Toml
