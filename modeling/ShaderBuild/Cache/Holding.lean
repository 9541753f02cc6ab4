import ShaderBuild.Cache.Session

/-! A program that keeps what it gets from a cache under names and in slots. -/

namespace ShaderBuild

/-- A session with a cache, the handles that are kept under names, each with the module that it was
made for, and the slots that are full. -/
structure Holding where
  session : Session
  holds : List (String × Shared) := []
  slots : List (String × CompiledShader) := []

/-- What a program can do. -/
inductive Act where
  /-- Something is done with the cache. The handle that a request comes with is given up at once. -/
  | use (deed : Deed)
  /-- A request whose handle is kept under a name. -/
  | keep (request : Request) (name : String)
  /-- A request whose handle is put in a slot. -/
  | fill (request : Request) (slot : String)
  /-- A module that does not come from the cache is put in a slot, for nobody else. -/
  | own (bytecode : Bytecode) (slot : String)
  /-- A module that does not come from the cache is shared, and its handle is kept under a name. -/
  | share (bytecode : Bytecode) (name : String)
  /-- One more handle to what is kept under a name is kept under another one. -/
  | clone (source name : String)
  /-- One more handle to what is kept under a name is put in a slot. -/
  | tag (source slot : String)
  /-- A second holder of what is in a slot is put in another one. -/
  | copy (source slot : String)
  /-- What is kept under a name is given up. -/
  | drop (name : String)
  /-- What is in a slot is freed. -/
  | free (slot : String)

/-- The handle that a request is granted at some point of a session, if it is. -/
def Session.granted? (session : Session) (request : Request) : Option Shared :=
  match session.answer? request with
  | some (.returned (.ok shared)) => some shared
  | _ => none

namespace Holding

/-- A program with a cache and empty hands. -/
def of (service : Service) : Holding := { session := { service := service } }

/-- Where the modules of the program live. -/
def heap (holding : Holding) : Heap := holding.session.service.heap

/-- The program with other handles to its modules. -/
def withHeap (holding : Holding) (heap : Heap) : Holding :=
  { holding with
    session := { holding.session with service := { holding.session.service with heap := heap } } }

/-- What is in a slot. -/
def slot? (holding : Holding) (slot : String) : Slot := holding.slots.lookup slot

/-- Gives up what is kept under a name, if anything is. -/
def dropHold (holding : Holding) (name : String) : Holding :=
  match holding.holds.lookup name with
  | none => holding
  | some shared =>
    { holding.withHeap (holding.heap.release shared.handle) with
      holds := holding.holds.filter (·.1 != name) }

/-- Frees what is in a slot, if anything is. -/
def freeSlot (holding : Holding) (slot : String) : Holding :=
  let (heap, left) := freeShader holding.heap (holding.slot? slot)
  { holding.withHeap heap with
    slots := left.toList.map (slot, ·) ++ holding.slots.filter (·.1 != slot) }

/-- Keeps a handle under a name. -/
def keepAs (holding : Holding) (name : String) (shared : Shared) : Holding :=
  let holding := holding.dropHold name
  { holding with holds := (name, shared) :: holding.holds }

/-- Puts a module in a slot. -/
def putIn (holding : Holding) (slot : String) (shader : CompiledShader) : Holding :=
  let holding := holding.freeSlot slot
  { holding with slots := (slot, shader) :: holding.slots }

/-- Makes a request and goes on with the handle that it is granted. -/
def ask (holding : Holding) (request : Request) (goOn : Holding → Shared → Holding) : Holding :=
  let asked := { holding with session := holding.session.perform (.get request) }
  match holding.session.granted? request with
  | none => asked
  | some shared => goOn asked shared

/-- Does something. -/
def perform (holding : Holding) : Act → Holding
  | .use (.get request) =>
    holding.ask request fun asked shared => asked.withHeap (asked.heap.release shared.handle)
  | .use deed => { holding with session := holding.session.perform deed }
  | .keep request name => holding.ask request fun asked shared => asked.keepAs name shared
  | .fill request slot =>
    holding.ask request fun asked shared => asked.putIn slot (.shared shared.handle)
  | .own bytecode slot => holding.putIn slot (.owned bytecode)
  | .share bytecode name =>
    let (handle, heap) := holding.heap.allocate bytecode
    (holding.withHeap heap).keepAs name ⟨handle, bytecode⟩
  | .clone source name =>
    match holding.holds.lookup source with
    | none => holding
    | some shared => (holding.withHeap (holding.heap.retain shared.handle)).keepAs name shared
  | .tag source slot =>
    match holding.holds.lookup source with
    | none => holding
    | some shared =>
      (holding.withHeap (holding.heap.retain shared.handle)).putIn slot (.shared shared.handle)
  | .copy source slot =>
    match holding.slot? source with
    | none => holding.freeSlot slot
    | some shader => (holding.withHeap (shader.duplicate holding.heap)).putIn slot shader
  | .drop name => holding.dropHold name
  | .free slot => holding.freeSlot slot

/-- Does one thing after the other. -/
def run (holding : Holding) (acts : List Act) : Holding :=
  acts.foldl perform holding

end Holding

end ShaderBuild
