import ShaderBuild.Cache.Session

/-! A program that reads files itself and asks a cache for their texts. -/

namespace ShaderBuild

/-- What happens to such a program. -/
inductive Errand where
  /-- Other programs change files. -/
  | edit (files : Files)
  /-- The program reads a file and asks for its text. -/
  | ask (path : Path)

/-- A program with a cache, and how its requests have ended, file by file. When the compiler breaks
down the program does so as well. -/
structure Client where
  session : Session
  ends : List (Path × Except Failure Shared) := []
  broken : Bool := false

namespace Client

/-- A client of a cache that has asked for nothing yet. -/
def of (service : Service) : Client := { session := ⟨service, true⟩ }

/-- The client after something ended for a file. -/
def ended (client : Client) (path : Path) (result : Except Failure Shared) : Client :=
  { client with ends := client.ends ++ [(path, result)] }

/-- Asks for a text under the name of its file. -/
def get (client : Client) (path : Path) (text : String) : Client :=
  let request : Request := ⟨path.logicalName, text⟩
  let after := { client with session := client.session.perform (.get request) }
  match client.session.answer? request with
  | some (.returned result) => after.ended path result
  | _ => { after with broken := true }

/-- Lets something happen. -/
def act (client : Client) : Errand → Client
  | .edit files =>
    let service := client.session.service
    { client with session := { client.session with
      service := { service with disk := service.disk.withFiles files } } }
  | .ask path =>
    if client.broken then client
    else
      match client.session.service.disk.files.readText path with
      | .ok text => client.get path text
      | .error fault => client.ended path (.error (.file path.text fault.message))

/-- Lets one thing happen after the other. -/
def run (client : Client) (errands : List Errand) : Client :=
  errands.foldl act client

end Client

end ShaderBuild
