import ShaderBuild.Cache.Shelf
import ShaderBuild.Compiler
import ShaderBuild.Files.AtomicWrite
import ShaderBuild.Settings
import ShaderBuild.Text.Quoted

/-! A cache and what it works with: heap, files, flights and notes. -/

namespace ShaderBuild

/-- How a cache has been used. -/
structure Stats where
  /-- Requests answered from memory. -/
  hits : Nat := 0
  /-- Requests that looked on the disk or compiled. -/
  misses : Nat := 0
  /-- Misses answered from the disk. -/
  diskHits : Nat := 0
  /-- Calls of the compiler. -/
  compilations : Nat := 0
  /-- Calls of the compiler that returned a failure. -/
  failures : Nat := 0
  /-- Requests that waited for another one's compile. -/
  coalesced : Nat := 0
  /-- Entries that made room for others. -/
  evictions : Nat := 0
  deriving DecidableEq, Repr

/-- The counters as a note shows them. -/
def Stats.render (stats : Stats) : String :=
  "CacheStats \x7b hits: " ++ toString stats.hits ++ ", misses: " ++ toString stats.misses ++
    ", disk_hits: " ++ toString stats.diskHits ++ ", compilations: " ++
    toString stats.compilations ++ ", failures: " ++ toString stats.failures ++ ", coalesced: " ++
    toString stats.coalesced ++ ", evictions: " ++ toString stats.evictions ++ " \x7d"

/-- A flight names a compile that several requests share. -/
abbrev FlightId := Nat

/-- A shared compile: the requests that wait for it, and how it ended. -/
structure Flight where
  followers : Nat := 0
  outcome : Option (Except Failure Shared) := none

/-- A cache in front of a compiler. -/
structure Cache where
  compiler : Compiler
  options : Options := {}
  memoryLimit : Option Nat := none
  diskDirectory : Option Path := none
  shelf : Shelf := {}
  /-- The flights that have a leader, key by key. -/
  inFlight : List (Fingerprint × FlightId) := []
  stats : Stats := {}

namespace Cache

/-- The key of a request. -/
def keyOf (cache : Cache) (request : Request) : Fingerprint :=
  .compute cache.compiler.identifier request cache.options

/-- The file of a key, when there is a disk tier. -/
def diskPath? (cache : Cache) (key : Fingerprint) : Option Path :=
  cache.diskDirectory.map fun directory =>
    directory.join (String.ofList key.toText ++ ".spv")

/-- Refuses a module that is larger than the limit. -/
def checkFits (cache : Cache) (size : Nat) : Except Failure Unit :=
  match cache.memoryLimit with
  | some limit => if limit < size then .error (.cacheExhausted size limit) else .ok ()
  | none => .ok ()

/-- The cache with other counters. -/
def count (cache : Cache) (change : Stats → Stats) : Cache :=
  { cache with stats := change cache.stats }

end Cache

/-- A cache at work. -/
structure Service where
  cache : Cache
  heap : Heap := .empty
  disk : Disk := {}
  flights : List (FlightId × Flight) := []
  nextFlight : FlightId := 0
  notes : List Log.Note := []

namespace Service

/-- The part of the program that the cache's notes come from. -/
def noteSource : String := "avd_shader::cache"

/-- Makes notes. -/
def noteAll (service : Service) (notes : List Log.Note) : Service :=
  { service with notes := service.notes ++ notes }

/-- Makes a note. -/
def note (service : Service) (level : Log.Level) (text : String) : Service :=
  service.noteAll [⟨level, noteSource, text⟩]

/-- The service with other counters. -/
def count (service : Service) (change : Stats → Stats) : Service :=
  { service with cache := service.cache.count change }

/-- The service with other entries in memory. -/
def withShelf (service : Service) (shelf : Shelf) : Service :=
  { service with cache := { service.cache with shelf := shelf } }

/-- One more handle to a module. -/
def retain (service : Service) (shared : Shared) : Service :=
  { service with heap := service.heap.retain shared.handle }

/-- Gives a handle up. -/
def release (service : Service) (shared : Shared) : Service :=
  { service with heap := service.heap.release shared.handle }

/-- One more handle to a module that was answered. -/
def retainAnswer (service : Service) : Except Failure Shared → Service
  | .ok shared => service.retain shared
  | .error _ => service

/-- Gives up the handle of an answer. -/
def releaseAnswer (service : Service) : Except Failure Shared → Service
  | .ok shared => service.release shared
  | .error _ => service

/-- Gives up the handles of some entries. -/
def releaseEntries (service : Service) (entries : List Entry) : Service :=
  entries.foldl (fun service entry => service.release entry.shared) service

/-- Puts a module on the heap; the first handle goes to the caller. -/
def allocate (service : Service) (bytecode : Bytecode) : Shared × Service :=
  let (handle, heap) := service.heap.allocate bytecode
  (⟨handle, bytecode⟩, { service with heap := heap })

/-- The flight with a name. -/
def flight? (service : Service) (flight : FlightId) : Option Flight :=
  service.flights.lookup flight

/-- Puts a flight in, in place of what had its name. -/
def setFlight (service : Service) (id : FlightId) (flight : Flight) : Service :=
  { service with flights := (id, flight) :: service.flights.filter (·.1 != id) }

/-- Forgets a flight. -/
def dropFlight (service : Service) (id : FlightId) : Service :=
  { service with flights := service.flights.filter (·.1 != id) }

/-- Empties the memory. Handles that callers have stay good. -/
def flush (service : Service) : Service :=
  let entries := service.cache.shelf.entries
  ((service.withShelf service.cache.shelf.clear).releaseEntries (entries.map (·.2))).note .info
    s!"Flushed {entries.length} shader cache entries"

/-- Removes the file of a key, when there is one. -/
def removeFile (service : Service) (key : Fingerprint) : Bool × Service :=
  match service.cache.diskPath? key with
  | none => (false, service)
  | some path =>
    match service.disk.files.remove path with
    | .ok files => (true, { service with disk := service.disk.withFiles files })
    | .error _ => (false, service)

/-- Takes the entry of a key out of the memory. -/
def removeEntry (service : Service) (key : Fingerprint) : Bool × Service :=
  match service.cache.shelf.remove key with
  | (none, _) => (false, service)
  | (some entry, shelf) => (true, (service.withShelf shelf).release entry.shared)

/-- Forgets a key in memory and on the disk, and tells whether anything was there. -/
def invalidate (service : Service) (key : Fingerprint) : Bool × Service :=
  let (fromMemory, service) := service.removeEntry key
  let (fromDisk, service) := service.removeFile key
  (fromMemory || fromDisk, service)

/-- Uses a directory for the disk tier, and makes it if needed. -/
def useDirectory (service : Service) (directory : Path) : Except Failure Unit × Service :=
  match service.disk.files.makeDirectories directory with
  | (.error fault, files) =>
    (.error (.file directory.text fault.message),
      { service with disk := service.disk.withFiles files })
  | (.ok (), files) =>
    let service := { service with
      disk := service.disk.withFiles files
      cache := { service.cache with diskDirectory := some directory } }
    (.ok (), service.note .info ("Shader disk cache at " ++ Text.quoted directory.text))

/-- Gives up what the cache holds. -/
def close (service : Service) : Service :=
  let shelf := service.cache.shelf
  let closed :=
    (service.withShelf shelf.clear).releaseEntries (shelf.entries.map (·.2))
  if shelf.entries.isEmpty then closed
  else closed.note .debug
    s!"Releasing shader cache ({shelf.size} entries, {shelf.resident} bytes)"

/-- Puts another cache in the place of the one that was closed. -/
def withCache (service : Service) (cache : Cache) : Service :=
  { service with cache := cache }

/-- Sets up an empty cache as the settings say. They do not say here whether a cache is wanted. -/
def configure (service : Service) (compiler : Compiler) (cache : CacheSettings)
    (compiles : CompilerSettings) : Except Failure Unit × Service :=
  match compiles.options with
  | .error failure => (.error failure, service)
  | .ok options =>
    let service := service.withCache
      { compiler := compiler, options := options, memoryLimit := cache.memoryLimit }
    match cache.diskDirectory with
    | none => (.ok (), service)
    | some directory => service.useDirectory directory

end Service

end ShaderBuild
