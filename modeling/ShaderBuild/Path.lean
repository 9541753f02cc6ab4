import ShaderBuild.Text.Blank

/-! Paths as texts, read as pieces between slashes. -/

namespace ShaderBuild

/-- A path as it is written. -/
structure Path where
  text : String
  deriving DecidableEq, Repr

namespace Path

/-- What stands between two slashes. -/
abbrev Piece := List Char

/-- The pieces of a path, outermost first. -/
def pieces (path : Path) : List Piece :=
  Text.splitAtChar '/' path.text.toList

/-- Paths that begin at the root. -/
def isAbsolute (path : Path) : Bool :=
  path.text.toList.head? = some '/'

/-- Drops pieces that say nothing, innermost first; a single dot that begins a path stays. -/
def dropIdle (absolute : Bool) : List Piece → List Piece
  | [] => []
  | piece :: outer =>
    if piece = [] ∨ (piece = ['.'] ∧ (absolute ∨ outer ≠ [])) then dropIdle absolute outer
    else piece :: outer

/-- The pieces that follow the root, or all pieces of a relative path, innermost first. -/
def body (path : Path) : List Piece :=
  dropIdle path.isAbsolute (if path.isAbsolute then path.pieces.tail else path.pieces).reverse

/-- The text of a path from its pieces, innermost first. -/
def ofBody (absolute : Bool) (body : List Piece) : Path :=
  ⟨(if absolute then "/" else "") ++
    "/".intercalate (body.reverse.map fun piece => String.ofList piece)⟩

/-- The pieces of every path around a path, each innermost first, nearest path first. -/
def outerBodies (absolute : Bool) : List Piece → List (List Piece)
  | [] => []
  | piece :: outer =>
    if piece = [] ∨ (piece = ['.'] ∧ (absolute ∨ outer ≠ [])) then outerBodies absolute outer
    else dropIdle absolute outer :: outerBodies absolute outer

/-- The path around a path; the root and the empty path have none. -/
def parent? (path : Path) : Option Path :=
  match path.body with
  | [] => none
  | _ :: outer => some (ofBody path.isAbsolute (dropIdle path.isAbsolute outer))

/-- The path and every path around it, nearest first. -/
def ancestors (path : Path) : List Path :=
  path :: (outerBodies path.isAbsolute path.body).map (ofBody path.isAbsolute)

/-- The last piece, unless it leads elsewhere than to a name. -/
def fileName? (path : Path) : Option (List Char) :=
  match path.body with
  | [] => none
  | name :: _ => if name = ['.'] ∨ name = ['.', '.'] then none else some name

/-- A name cut at its last dot. -/
def cutAtLastDot (name : List Char) : Option (List Char × List Char) :=
  let after := name.reverse.takeWhile (· ≠ '.')
  match name.reverse.dropWhile (· ≠ '.') with
  | [] => none
  | _ :: before => some (before.reverse, after.reverse)

/-- What follows the last dot of the file name; a dot that begins the name does not count. -/
def extension? (path : Path) : Option (List Char) := do
  let name ← path.fileName?
  let (before, after) ← cutAtLastDot name
  if before = [] then none else some after

/-- The name that a file's shader goes by: the file name, or else the whole path. -/
def logicalName (path : Path) : String :=
  match path.fileName? with
  | some name => String.ofList name
  | none => path.text

/-- A path below a directory. -/
def join (directory : Path) (name : String) : Path :=
  if directory.text.isEmpty || directory.text.toList.getLast? = some '/' then
    ⟨directory.text ++ name⟩
  else ⟨directory.text ++ "/" ++ name⟩

/-- The path with a text put behind it. -/
def append (path : Path) (text : String) : Path :=
  ⟨path.text ++ text⟩

/-- The extensions of shader files. -/
def shaderExtensions : List String := ["vert", "frag", "comp", "glsl"]

/-- Shader files are told by their extension; the case of ASCII letters does not matter. -/
def isShaderFile (path : Path) : Bool :=
  match path.extension? with
  | none => false
  | some extension =>
    shaderExtensions.any fun known => Text.eqIgnoringCase extension known.toList

/-- A name cut at its last dot is put together again by that dot. -/
theorem append_of_cutAtLastDot {name before after : List Char}
    (cut : cutAtLastDot name = some (before, after)) : name = before ++ '.' :: after := by
  -- The reversed name is what stands before the first dot, that dot, and the rest.
  have whole := List.takeWhile_append_dropWhile (p := (· ≠ '.')) (l := name.reverse)
  unfold cutAtLastDot at cut
  cases rest : name.reverse.dropWhile (· ≠ '.') with
  | nil => simp only [rest] at cut; exact absurd cut (by simp)
  | cons dot tail =>
    simp only [rest, Option.some.injEq, Prod.mk.injEq] at cut
    have isDot : dot = '.' := by
      have := List.head?_dropWhile_not (p := (· ≠ '.')) (l := name.reverse)
      simp only [rest, List.head?_cons] at this
      simpa using this
    rw [rest] at whole
    have := congrArg List.reverse whole
    simp only [List.reverse_append, List.reverse_cons, List.reverse_reverse, List.append_assoc,
      List.singleton_append] at this
    subst isDot
    rw [← cut.1, ← cut.2]
    exact this.symm

end Path

end ShaderBuild
