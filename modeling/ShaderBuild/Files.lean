import ShaderBuild.Association
import ShaderBuild.Path

/-! Files by their locations, and operations on them that say why they fail. -/

namespace ShaderBuild

/-- Names from the working directory inwards; leading double dots lead out of it. -/
abbrev Location := List String

namespace Location

/-- The root of all absolute paths. -/
def root : Location := ["/"]

/-- The directory around a location; the root is its own surrounding. -/
def up (place : Location) : Location :=
  match place.getLast? with
  | none => [".."]
  | some name =>
    if name = ".." then place ++ [".."] else if place = root then root else place.dropLast

/-- Directories that are there whatever else is: the working directory, those around it, the root.
-/
def isFixed (place : Location) : Bool :=
  place.all (· == "..") || place == root

end Location

/-- What stands at a location. -/
inductive Item where
  | file (bytes : List UInt8)
  | directory
  deriving DecidableEq, Repr

/-- Why an operation on files fails. -/
inductive FileFault where
  | missing
  | occupied
  | notDirectory
  | isDirectory
  | nameTooLong
  | nulInName
  | notText
  deriving DecidableEq, Repr

/-- The reason as a user reads it. -/
def FileFault.message : FileFault → String
  | missing => "No such file or directory (os error 2)"
  | occupied => "File exists (os error 17)"
  | notDirectory => "Not a directory (os error 20)"
  | isDirectory => "Is a directory (os error 21)"
  | nameTooLong => "File name too long (os error 36)"
  | nulInName => "file name contained an unexpected NUL byte"
  | notText => "stream did not contain valid UTF-8"

/-- What stands where. A later entry of a location does not count. -/
structure Files where
  entries : List (Location × Item) := []
  deriving DecidableEq, Repr

namespace Files

/-- Nothing but the directories that are always there. -/
def empty : Files := {}

/-- What stands at a location. -/
def get? (files : Files) (place : Location) : Option Item :=
  if place.isFixed then some .directory else files.entries.lookup place

/-- Puts something at a location in place of what stood there. -/
def set (files : Files) (place : Location) (item : Item) : Files :=
  ⟨(place, item) :: files.entries.filter (·.1 != place)⟩

/-- Empties a location. -/
def erase (files : Files) (place : Location) : Files :=
  ⟨files.entries.filter (·.1 != place)⟩

/-- Empties a location and everything below it. -/
def eraseBelow (files : Files) (place : Location) : Files :=
  ⟨files.entries.filter fun entry => !place.isPrefixOf entry.1⟩

/-- Names have at most 255 bytes. -/
def fitsName (piece : Path.Piece) : Bool :=
  (String.ofList piece).utf8ByteSize ≤ 255

/-- Follows pieces from a location; every location that is left must be a directory. -/
def walk (files : Files) (here : Location) : List Path.Piece → Except FileFault Location
  | [] => .ok here
  | piece :: rest =>
    match files.get? here with
    | none => .error .missing
    | some (.file _) => .error .notDirectory
    | some .directory =>
      if piece = [] ∨ piece = ['.'] then files.walk here rest
      else if piece = ['.', '.'] then files.walk here.up rest
      else if fitsName piece then files.walk (here ++ [String.ofList piece]) rest
      else .error .nameTooLong

/-- What every path must satisfy before it is followed. -/
def checkPath (path : Path) : Except FileFault Unit :=
  if path.text.toList.contains '\x00' then .error .nulInName
  else if path.text.isEmpty then .error .missing
  else if 4096 ≤ path.text.utf8ByteSize then .error .nameTooLong
  else .ok ()

/-- Where a path begins. -/
def start (path : Path) : Location :=
  if path.isAbsolute then Location.root else []

/-- Where a path leads; nothing need stand there. -/
def locate (files : Files) (path : Path) : Except FileFault Location := do
  checkPath path
  files.walk (start path) path.pieces

/-- What a path leads to. -/
def find? (files : Files) (path : Path) : Option Item :=
  match files.locate path with
  | .ok place => files.get? place
  | .error _ => none

/-- Whether a path leads to anything. -/
def isThere (files : Files) (path : Path) : Bool :=
  (files.find? path).isSome

/-- Whether a path leads to a directory. -/
def isDirectory (files : Files) (path : Path) : Bool :=
  files.find? path == some .directory

/-- The bytes of the file that a path leads to. -/
def read (files : Files) (path : Path) : Except FileFault (List UInt8) := do
  let place ← files.locate path
  match files.get? place with
  | some (.file bytes) => .ok bytes
  | some .directory => .error .isDirectory
  | none => .error .missing

/-- The text that some bytes encode. -/
def textOfBytes? (bytes : List UInt8) : Option String :=
  String.fromUTF8? (ByteArray.mk bytes.toArray)

/-- The text of the file that a path leads to. -/
def readText (files : Files) (path : Path) : Except FileFault String := do
  let bytes ← files.read path
  match textOfBytes? bytes with
  | some text => .ok text
  | none => .error .notText

/-- How the last name of a path stands to what it leads to. -/
inductive Target where
  /-- A name in a directory; slashes may follow it. -/
  | named (place : Location) (slashed : Bool)
  /-- A dot, two dots or the root. -/
  | around
  deriving DecidableEq, Repr

/-- The pieces up to the last one that is not empty, innermost first. -/
def withoutSlashes (path : Path) : List Path.Piece :=
  path.pieces.reverse.dropWhile (· == [])

/-- The place that a path names for something new or for removal; its directory must be there. -/
def target (files : Files) (path : Path) : Except FileFault Target := do
  checkPath path
  match withoutSlashes path with
  | [] => .ok .around
  | name :: outer =>
    -- The idle piece makes sure that the walk ends in a directory.
    let place ← files.walk (start path) (outer.reverse ++ [[]])
    if name = ['.'] ∨ name = ['.', '.'] then .ok .around
    else if fitsName name then
      .ok (.named (place ++ [String.ofList name]) (path.text.toList.getLast? == some '/'))
    else .error .nameTooLong

/-- Replaces or makes a file. -/
def write (files : Files) (path : Path) (bytes : List UInt8) : Except FileFault Files := do
  match ← files.target path with
  | .around => .error .isDirectory
  | .named _ true => .error .isDirectory
  | .named place false =>
    if files.get? place = some .directory then .error .isDirectory
    else .ok (files.set place (.file bytes))

/-- Makes a directory in a directory that is there. -/
def makeDirectory (files : Files) (path : Path) : Except FileFault Files := do
  match ← files.target path with
  | .around => .error .occupied
  | .named place _ =>
    if (files.get? place).isSome then .error .occupied else .ok (files.set place .directory)

/-- Makes the first of some nested directories after those around it; an empty path needs nothing.
-/
def makeNested (files : Files) : List Path → Except FileFault Unit × Files
  | [] => (.ok (), files)
  | path :: around =>
    if path.text.isEmpty then (.ok (), files)
    else
      let settle := fun (files : Files) (fault : FileFault) =>
        if files.isDirectory path then (.ok (), files) else (.error fault, files)
      match files.makeDirectory path with
      | .ok files => (.ok (), files)
      | .error .missing =>
        match files.makeNested around with
        | (.error fault, files) => (.error fault, files)
        | (.ok (), files) =>
          match files.makeDirectory path with
          | .ok files => (.ok (), files)
          | .error fault => settle files fault
      | .error fault => settle files fault

/-- Makes a directory and those around it, as far as they are missing. -/
def makeDirectories (files : Files) (path : Path) : Except FileFault Unit × Files :=
  files.makeNested path.ancestors

/-- Removes a file. -/
def remove (files : Files) (path : Path) : Except FileFault Files := do
  match ← files.target path with
  | .around => .error .isDirectory
  | .named place slashed =>
    match files.get? place with
    | none => .error .missing
    | some .directory => .error .isDirectory
    | some (.file _) => if slashed then .error .notDirectory else .ok (files.erase place)

/-- Moves a file to another place and replaces the file there. -/
def rename (files : Files) (source goal : Path) : Except FileFault Files := do
  let from_ ← files.locate source
  match files.get? from_, ← files.target goal with
  | none, _ => .error .missing
  | _, .around => .error .occupied
  | some .directory, _ => .error .notDirectory
  | some (.file _), .named _ true => .error .notDirectory
  | some (.file bytes), .named place false =>
    if files.get? place = some .directory then .error .isDirectory
    else .ok ((files.erase from_).set place (.file bytes))

/-- Puts something at a path, after the directories around it, or empties the place. -/
def place (files : Files) (path : Path) : Option Item → Files
  | none =>
    match files.locate path with
    | .ok place => files.eraseBelow place
    | .error _ => files
  | some .directory => (files.makeDirectories path).2
  | some (.file bytes) =>
    let files := (path.parent?.map fun around => (files.makeDirectories around).2).getD files
    match files.write path bytes with
    | .ok files => files
    | .error _ => files

/-- The names in a directory and what they stand for. -/
def list? (files : Files) (path : Path) : Option (List (String × Item)) :=
  match files.locate path with
  | .error _ => none
  | .ok place =>
    if files.get? place = some .directory then
      some (files.entries.filterMap fun entry =>
        match entry.1.getLast? with
        | some name => if entry.1.dropLast = place then some (name, entry.2) else none
        | none => none)
    else none

/-- A location holds what was put there, unless it is always a directory. -/
theorem get?_set_self {files : Files} {place : Location} {item : Item}
    (free : place.isFixed = false) : (files.set place item).get? place = some item := by
  -- The new entry comes first.
  simp [get?, set, free]

/-- Putting something at a location changes no other one. -/
theorem get?_set_of_ne {files : Files} {place other : Location} {item : Item}
    (apart : other ≠ place) : (files.set place item).get? other = files.get? other := by
  -- The new entry is for another location, and the filter drops only entries of that one.
  have away : (other == place) = false := by simpa using apart
  simp only [get?, set, List.lookup_cons, away, Association.lookup_filter_of_ne _ apart]

/-- Emptying a location changes no other one. -/
theorem get?_erase_of_ne {files : Files} {place other : Location} (apart : other ≠ place) :
    (files.erase place).get? other = files.get? other := by
  -- The filter drops only entries of the emptied location.
  simp only [get?, erase, Association.lookup_filter_of_ne _ apart]

/-- Nothing stands at an emptied location, unless it is always a directory. -/
theorem get?_erase_self {files : Files} {place : Location} (free : place.isFixed = false) :
    (files.erase place).get? place = none := by
  -- No entry of the location passes the filter.
  simp only [get?, erase, free, Bool.false_eq_true, if_false, Association.lookup_filter_self]

end Files

end ShaderBuild
