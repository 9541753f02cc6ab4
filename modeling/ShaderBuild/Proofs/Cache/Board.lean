import ShaderBuild.Cache.Crowd
import ShaderBuild.Proofs.Cache.Shelf

/-! What requests share, and what one step of a request can do to it. -/

namespace ShaderBuild

/-- What the owner of a cache sets, and no request changes. -/
structure Setting where
  compiler : Compiler
  options : Options
  memoryLimit : Option Nat
  diskDirectory : Option Path

namespace Setting

/-- A module is not larger than the limit, if there is one. -/
def Fits (setting : Setting) (bytecode : Bytecode) : Prop :=
  ∀ limit, setting.memoryLimit = some limit → bytecode.byteLength ≤ limit

/-- How the compiler ends on a request. -/
def outcome (setting : Setting) (request : Request) : CompileOutcome :=
  setting.compiler.compile request setting.options

/-- What a leader has when the compiler comes back. -/
inductive Makes (setting : Setting) (request : Request) : Answer → Prop where
  | module {shared : Shared} (compiled : setting.outcome request = .finished (.ok shared.bytecode))
    (fits : setting.Fits shared.bytecode) : Makes setting request (.returned (.ok shared))
  /-- The module is larger than the limit and is not even put on the disk. -/
  | large {bytecode : Bytecode} {limit : Nat}
    (compiled : setting.outcome request = .finished (.ok bytecode))
    (bounded : setting.memoryLimit = some limit) (large : limit < bytecode.byteLength) :
    Makes setting request (.returned (.error (.cacheExhausted bytecode.byteLength limit)))
  | failure {failure : Failure} (failed : setting.outcome request = .finished (.error failure)) :
    Makes setting request (.returned (.error failure))
  | breakdown {message : String} (broke : setting.outcome request = .panicked message) :
    Makes setting request (.panicked message)

end Setting

/-- A compiler that writes modules of one word and breaks down on an empty text. -/
def Compiler.curt : Compiler where
  identifier := "curt"
  compile := fun request _ =>
    if request.source = "" then .panicked "no source" else .finished (.ok ⟨[spirvMagic], by simp⟩)
  notes := fun _ _ => []

/-- A new cache in front of a compiler. -/
def Service.ofCompiler (compiler : Compiler) : Service :=
  { cache := { compiler := compiler } }

/-- The settings of a cache. -/
def Cache.setting (cache : Cache) : Setting :=
  ⟨cache.compiler, cache.options, cache.memoryLimit, cache.diskDirectory⟩

/-- The settings, the entries, the flights that have a leader, the flights that are waited for, and
the name of the next flight. -/
structure Board where
  setting : Setting
  shelf : Shelf
  inFlight : List (Fingerprint × FlightId)
  flights : List (FlightId × Flight)
  nextFlight : FlightId

/-- What the requests to a service share. -/
def Service.board (service : Service) : Board :=
  ⟨service.cache.setting, service.cache.shelf, service.cache.inFlight, service.flights,
    service.nextFlight⟩

namespace Board

/-- The flight that the table has for a key. -/
def leader? (board : Board) (key : Fingerprint) : Option FlightId :=
  board.inFlight.lookup key

/-- The flight with a name. -/
def flight? (board : Board) (id : FlightId) : Option Flight :=
  board.flights.lookup id

/-- The board with other entries. -/
def withShelf (board : Board) (shelf : Shelf) : Board :=
  { board with shelf := shelf }

/-- Puts a flight in, in place of what had its name. -/
def setFlight (board : Board) (id : FlightId) (flight : Flight) : Board :=
  { board with flights := (id, flight) :: board.flights.filter (·.1 != id) }

/-- Forgets a flight. -/
def dropFlight (board : Board) (id : FlightId) : Board :=
  { board with flights := board.flights.filter (·.1 != id) }

/-- A new flight for a key, with nobody waiting. -/
def open_ (board : Board) (key : Fingerprint) : Board :=
  { board.setFlight board.nextFlight {} with
    inFlight := (key, board.nextFlight) :: board.inFlight
    nextFlight := board.nextFlight + 1 }

/-- Takes a key out of the table of flights. -/
def leave (board : Board) (key : Fingerprint) : Board :=
  { board with inFlight := board.inFlight.filter (·.1 != key) }

/-- The board after a module was put in memory and the oldest entries made room for it. -/
def keep (board : Board) (key : Fingerprint) (shared : Shared) : Board :=
  board.withShelf
    ((board.shelf.room board.setting.memoryLimit shared.bytecode.byteLength).2.insert key shared).2

/-- A flight that was put in is found, and every other one is what it was. -/
theorem flight?_setFlight (board : Board) (id other : FlightId) (flight : Flight) :
    (board.setFlight id flight).flight? other =
      if other = id then some flight else board.flight? other := by
  -- The new flight comes first, and only an older one of its name is dropped.
  simp only [flight?, setFlight, List.lookup_cons]
  split
  · rename_i same
    simp [beq_iff_eq.mp same]
  · rename_i away
    have apart : other ≠ id := by simpa using away
    rw [if_neg apart, Association.lookup_filter_of_ne _ apart]

/-- A flight that was forgotten is not found, and every other one is what it was. -/
theorem flight?_dropFlight (board : Board) (id other : FlightId) :
    (board.dropFlight id).flight? other = if other = id then none else board.flight? other := by
  -- Only the flight of that name is filtered out.
  simp only [flight?, dropFlight]
  split
  · rename_i same
    rw [same, Association.lookup_filter_self]
  · rename_i apart
    rw [Association.lookup_filter_of_ne _ apart]

/-- A key that left the table has no flight, and every other one has what it had. -/
theorem leader?_leave (board : Board) (key other : Fingerprint) :
    (board.leave key).leader? other = if other = key then none else board.leader? other := by
  -- Only the flight of that key is filtered out.
  simp only [leader?, leave]
  split
  · rename_i same
    rw [same, Association.lookup_filter_self]
  · rename_i apart
    rw [Association.lookup_filter_of_ne _ apart]

/-- A key with a new flight has that one, and every other key has what it had. -/
theorem leader?_open_ (board : Board) (key other : Fingerprint) :
    (board.open_ key).leader? other =
      if other = key then some board.nextFlight else board.leader? other := by
  -- The new flight comes first.
  simp only [leader?, open_, List.lookup_cons]
  split
  · rename_i same
    simp [beq_iff_eq.mp same]
  · rename_i away
    have apart : other ≠ key := by simpa using away
    simp [apart]

/-- Putting a module in memory gives its key that module and takes no other key's but to make room.
-/
theorem held?_keep (board : Board) (key : Fingerprint) (shared : Shared) :
    (board.keep key shared).shelf.held? key = some shared := by
  -- The module goes in after room was made.
  simp [keep, withShelf, Shelf.held?_insert]

/-- Putting a module in memory never brings one back for another key. -/
theorem held?_keep_of_ne {board : Board} {key other : Fingerprint}
    {shared : Shared} (apart : other ≠ key) (absent : board.shelf.held? other = none) :
    (board.keep key shared).shelf.held? other = none := by
  -- What was not there is not there after room was made, and the insertion is for another key.
  simp only [keep, withShelf, Shelf.held?_insert, if_neg apart]
  exact Shelf.held?_room_of_none absent

/-- A module that stays in memory while another one is kept, or makes room for that under a limit. -/
theorem held?_keep_cases (board : Board) {key other : Fingerprint} (shared : Shared)
    (apart : other ≠ key) :
    (board.keep key shared).shelf.held? other = board.shelf.held? other ∨
      (board.keep key shared).shelf.held? other = none ∧
        ∃ limit, board.setting.memoryLimit = some limit := by
  simp only [keep, withShelf, Shelf.held?_insert, if_neg apart]
  -- Without a limit no room is made.
  cases limited : board.setting.memoryLimit with
  | none => exact Or.inl rfl
  | some limit =>
    rcases Shelf.held?_room (some limit) shared.bytecode.byteLength board.shelf other with gone | same
    · exact Or.inr ⟨gone, limit, rfl⟩
    · exact Or.inl same

end Board

/-- How what a leader has made becomes its answer, what those who wait are told, and what is then
in memory. -/
inductive Board.Settles (job : Job) (board : Board) :
    Answer → Answer → Except Failure Shared → Board → Prop where
  /-- The module fits under the limit and is kept. -/
  | stored {shared : Shared} (fits : board.setting.Fits shared.bytecode) :
    Settles job board (.returned (.ok shared)) (.returned (.ok shared)) (.ok shared)
      ((board.leave job.key).keep job.key shared)
  /-- The module is larger than the limit. -/
  | refused {shared : Shared} {limit : Nat} (bounded : board.setting.memoryLimit = some limit)
    (large : limit < shared.bytecode.byteLength) :
    Settles job board (.returned (.ok shared))
      (.returned (.error (.cacheExhausted shared.bytecode.byteLength limit)))
      (.error (.cacheExhausted shared.bytecode.byteLength limit)) (board.leave job.key)
  /-- There is no module. -/
  | failed {failure : Failure} :
    Settles job board (.returned (.error failure)) (.returned (.error failure))
      (.error failure) (board.leave job.key)
  /-- The compiler broke down. -/
  | panicked {message : String} :
    Settles job board (.panicked message) (.panicked message)
      (.error (.toolchain job.request.name
        "compiler panicked while other requests were waiting on it")) (board.leave job.key)

/-- What one step of a request can do. -/
inductive Board.Step (job : Job) : Phase → Board → Phase → Board → Prop where
  /-- The key is in memory. -/
  | hit {board : Board} {shared : Shared} (found : board.shelf.held? job.key = some shared) :
    Step job .arriving board (.answered (.returned (.ok shared)))
      (board.withShelf (board.shelf.touch job.key).2)
  /-- Another request leads a flight for the key. -/
  | join {board : Board} {id : FlightId} (absent : board.shelf.held? job.key = none)
    (underway : board.leader? job.key = some id) :
    Step job .arriving board (.following id)
      ((board.withShelf (board.shelf.touch job.key).2).setFlight id
        { (board.flight? id).getD {} with followers := ((board.flight? id).getD {}).followers + 1 })
  /-- The request is the first for its key. -/
  | lead {board : Board} (absent : board.shelf.held? job.key = none)
    (free : board.leader? job.key = none) :
    Step job .arriving board (.leading board.nextFlight)
      ((board.withShelf (board.shelf.touch job.key).2).open_ job.key)
  /-- The module is on the disk. -/
  | load {board : Board} {id : FlightId} {shared : Shared} :
    Step job (.leading id) board (.produced id (.returned (.ok shared))) board
  /-- The compiler is called. -/
  | call {board : Board} {id : FlightId} : Step job (.leading id) board (.compiling id) board
  /-- The compiler comes back. -/
  | comeBack {board : Board} {id : FlightId} {made : Answer}
    (makes : board.setting.Makes job.request made) :
    Step job (.compiling id) board (.produced id made) board
  /-- The leader leaves the table of flights. -/
  | settle {board after : Board} {id : FlightId} {made final : Answer}
    {told : Except Failure Shared} (settles : board.Settles job made final told after) :
    Step job (.produced id made) board (.settled id final) after
  /-- Nobody waits to be told. -/
  | close {board : Board} {id : FlightId} {answer : Answer}
    (alone : ((board.flight? id).getD {}).followers = 0) :
    Step job (.settled id answer) board (.answered answer) (board.dropFlight id)
  /-- Those who wait are told. -/
  | tell {board : Board} {id : FlightId} {answer : Answer}
    (awaited : ((board.flight? id).getD {}).followers ≠ 0) :
    Step job (.settled id answer) board (.answered answer)
      (board.setFlight id
        { (board.flight? id).getD {} with outcome := some (Service.outcomeFor job answer) })
  /-- There is nothing to be told yet. -/
  | wait {board : Board} {id : FlightId}
    (silent : ∀ flight, board.flight? id = some flight → flight.outcome = none) :
    Step job (.following id) board (.following id) board
  /-- One of those who wait hears the outcome. -/
  | hear {board : Board} {id : FlightId} {followers : Nat} {outcome : Except Failure Shared}
    (told : board.flight? id = some ⟨followers, some outcome⟩) (more : 1 < followers) :
    Step job (.following id) board (.answered (.returned outcome))
      (board.setFlight id ⟨followers - 1, some outcome⟩)
  /-- The last of those who wait hears the outcome. -/
  | hearLast {board : Board} {id : FlightId} {followers : Nat} {outcome : Except Failure Shared}
    (told : board.flight? id = some ⟨followers, some outcome⟩) (last : followers ≤ 1) :
    Step job (.following id) board (.answered (.returned outcome)) (board.dropFlight id)
  /-- A request that is answered stays so. -/
  | rest {board : Board} {answer : Answer} :
    Step job (.answered answer) board (.answered answer) board

/-- No step changes what the owner has set. -/
theorem Board.Step.setting {job : Job} {phase next : Phase} {board after : Board}
    (step : board.Step job phase next after) : after.setting = board.setting := by
  -- Only a leader that settles does more than to move requests and flights about.
  cases step with
  | settle settles => cases settles <;> rfl
  | _ => rfl

namespace Service

/-- A module fits under the limit, or else the limit is smaller and the failure names both. -/
theorem checkFits_cases (cache : Cache) (bytecode : Bytecode) :
    (cache.checkFits bytecode.byteLength = .ok () ∧ cache.setting.Fits bytecode) ∨
      ∃ limit, cache.memoryLimit = some limit ∧ limit < bytecode.byteLength ∧
        cache.checkFits bytecode.byteLength =
          .error (.cacheExhausted bytecode.byteLength limit) := by
  -- Only a limit can refuse a module.
  cases limited : cache.memoryLimit with
  | none =>
    refine Or.inl ⟨by simp [Cache.checkFits, limited], ?_⟩
    intro limit bounded
    simp [Cache.setting, limited] at bounded
  | some limit =>
    by_cases large : limit < bytecode.byteLength
    · exact Or.inr ⟨limit, rfl, large, by simp [Cache.checkFits, limited, large]⟩
    · refine Or.inl ⟨by simp [Cache.checkFits, limited, large], ?_⟩
      intro other bounded
      simp only [Cache.setting, limited, Option.some.injEq] at bounded
      omega

/-- Giving handles up leaves the board. -/
theorem board_releaseEntries (service : Service) (entries : List Entry) :
    (service.releaseEntries entries).board = service.board := by
  -- One handle after the other goes.
  induction entries generalizing service with
  | nil => rfl
  | cons entry entries ih => exact ih (service.release entry.shared)

/-- Giving a cache up empties the memory. -/
theorem board_close (service : Service) :
    service.close.board = service.board.withShelf service.board.shelf.clear := by
  unfold close
  simp only
  -- Whether the release is noted does not matter.
  split
  · exact board_releaseEntries _ _
  · exact board_releaseEntries _ _

/-- One more handle to an answer leaves the board. -/
theorem board_retainAnswer (service : Service) (answer : Except Failure Shared) :
    (service.retainAnswer answer).board = service.board := by
  -- An answer without a module has no handle.
  cases answer <;> rfl

/-- Giving the handle of an answer up leaves the board. -/
theorem board_releaseAnswer (service : Service) (answer : Except Failure Shared) :
    (service.releaseAnswer answer).board = service.board := by
  -- An answer without a module has no handle.
  cases answer <;> rfl

/-- Removing an unreadable file leaves the board. -/
theorem board_discardFile (service : Service) (path : Path) (failure : Failure) :
    (service.discardFile path failure).board = service.board := by
  -- Only the files and the notes change.
  unfold discardFile
  simp only
  split <;> rfl

/-- Looking on the disk leaves the board. -/
theorem board_loadFromDisk (service : Service) (job : Job) :
    (service.loadFromDisk job).2.board = service.board := by
  -- A file may be removed, and notes are made.
  unfold loadFromDisk
  split
  · rfl
  · split
    · rfl
    · split
      · rfl
      · exact board_discardFile ..

/-- Writing to the disk leaves the board. -/
theorem board_storeToDisk (service : Service) (job : Job) (bytecode : Bytecode) :
    (service.storeToDisk job bytecode).board = service.board := by
  -- Only the files and the notes change.
  unfold storeToDisk
  split
  · rfl
  · split <;> rfl

end Service

end ShaderBuild
