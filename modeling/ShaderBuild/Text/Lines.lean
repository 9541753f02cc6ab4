/-! Texts cut into lines that remember how each of them ended. -/

namespace ShaderBuild.Text

/-- What stands at the end of a line. -/
inductive LineEnd where
  | none
  | lf
  | crlf
  deriving DecidableEq, Repr

/-- The characters of a line end. -/
def LineEnd.toList : LineEnd → List Char
  | .none => []
  | .lf => ['\n']
  | .crlf => ['\r', '\n']

/-- A line and the line end after it. -/
structure Line where
  body : List Char
  ending : LineEnd
  deriving DecidableEq, Repr

/-- The line as it stands in the text. -/
def Line.toList (line : Line) : List Char :=
  line.body ++ line.ending.toList

/-- The line with its body removed. -/
def Line.blanked (line : Line) : Line :=
  { line with body := [] }

/-- Puts one more character in front of the first of some lines. -/
def consToFirst (c : Char) : List Line → List Line
  | [] => [⟨[c], .none⟩]
  | line :: lines => { line with body := c :: line.body } :: lines

/-- Cuts a text at its line feeds; a carriage return before a line feed belongs to the line end. -/
def lines : List Char → List Line
  | [] => []
  | '\n' :: rest => ⟨[], .lf⟩ :: lines rest
  | '\r' :: '\n' :: rest => ⟨[], .crlf⟩ :: lines rest
  | c :: rest => consToFirst c (lines rest)

/-- The text that some lines make up. -/
def unlines (ls : List Line) : List Char :=
  ls.flatMap Line.toList

/-- Putting a character in front of the first line puts it in front of the text. -/
theorem unlines_consToFirst (c : Char) (ls : List Line) :
    unlines (consToFirst c ls) = c :: unlines ls := by
  -- The first line takes the character, or becomes a line of its own.
  cases ls <;> simp [consToFirst, unlines, Line.toList, LineEnd.toList]

/-- Cutting a text into lines loses nothing. -/
theorem unlines_lines (text : List Char) : unlines (lines text) = text := by
  -- Each clause of the cut gives back the characters it took.
  fun_induction lines text with
  | case1 => rfl
  | case2 rest ih => simpa [unlines, Line.toList, LineEnd.toList] using ih
  | case3 rest ih => simpa [unlines, Line.toList, LineEnd.toList] using ih
  | case4 c rest _ _ ih => rw [unlines_consToFirst, ih]

end ShaderBuild.Text
