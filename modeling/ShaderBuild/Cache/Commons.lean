import ShaderBuild.Cache.Session

/-! Several caches that work on one disk, whose owners take turns. -/

namespace ShaderBuild

/-- The owners of caches, and the disk that they share. -/
structure Commons where
  disk : Disk
  sessions : List Session

/-- The owner with a disk as the others have left it. -/
def Session.onDisk (session : Session) (disk : Disk) : Session :=
  { session with service := { session.service with disk := disk } }

namespace Commons

/-- An owner whose turn it is. -/
def session? (commons : Commons) (index : Nat) : Option Session :=
  commons.sessions[index]?.map (·.onDisk commons.disk)

/-- One of the owners does something. -/
def perform (commons : Commons) (turn : Nat × Deed) : Commons :=
  match commons.session? turn.1 with
  | none => commons
  | some session =>
    let after := session.perform turn.2
    ⟨after.service.disk, commons.sessions.set turn.1 after⟩

/-- One turn after the other. -/
def run (commons : Commons) (turns : List (Nat × Deed)) : Commons :=
  turns.foldl perform commons

end Commons

end ShaderBuild
