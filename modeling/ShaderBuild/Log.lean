/-! What the program notes about its work, and which of the notes are shown. -/

namespace ShaderBuild.Log

/-- How much a note matters. -/
inductive Level where
  | error
  | warn
  | info
  | debug
  | trace
  deriving DecidableEq, Repr

namespace Level

/-- A rank that grows as the notes matter less. -/
def rank : Level → Nat
  | error => 1
  | warn => 2
  | info => 3
  | debug => 4
  | trace => 5

/-- The level's name, padded to five characters. -/
def padded : Level → String
  | error => "ERROR"
  | warn => "WARN "
  | info => "INFO "
  | debug => "DEBUG"
  | trace => "TRACE"

end Level

/-- A note: its level, the part of the program that it comes from, and its text. -/
structure Note where
  level : Level
  source : String
  text : String
  deriving DecidableEq, Repr

/-- The note as a line, its time left out. -/
def Note.render (note : Note) : String :=
  "[" ++ note.level.padded ++ " " ++ note.source ++ "] " ++ note.text

end ShaderBuild.Log
