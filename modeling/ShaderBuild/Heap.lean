import ShaderBuild.Bytecode

/-! Handles to modules, counted when they are shared and owned by one holder otherwise. -/

namespace ShaderBuild

/-- A handle names the cell of its module. -/
abbrev Handle := Nat

/-- A module and the number of handles to it. -/
structure Cell where
  bytecode : Bytecode
  count : Nat
  deriving DecidableEq

/-- The cells in use, and the name of the next one. -/
structure Heap where
  cells : List (Handle × Cell) := []
  next : Handle := 0
  deriving DecidableEq

namespace Heap

/-- No cell is in use. -/
def empty : Heap := {}

/-- The cell of a handle. -/
def cell? (heap : Heap) (handle : Handle) : Option Cell :=
  heap.cells.lookup handle

/-- The module of a handle. -/
def bytecode? (heap : Heap) (handle : Handle) : Option Bytecode :=
  (heap.cell? handle).map (·.bytecode)

/-- The words of a handle's module; a handle that nobody holds has none. -/
def words (heap : Heap) (handle : Handle) : List UInt32 :=
  ((heap.bytecode? handle).map (·.words)).getD []

/-- The number of handles to a module. -/
def count (heap : Heap) (handle : Handle) : Nat :=
  ((heap.cell? handle).map (·.count)).getD 0

/-- A new cell with one handle. -/
def allocate (heap : Heap) (bytecode : Bytecode) : Handle × Heap :=
  (heap.next, ⟨(heap.next, ⟨bytecode, 1⟩) :: heap.cells, heap.next + 1⟩)

/-- One more handle to a cell. -/
def retain (heap : Heap) (handle : Handle) : Heap :=
  { heap with
    cells := heap.cells.map fun entry =>
      if entry.1 = handle then (entry.1, { entry.2 with count := entry.2.count + 1 }) else entry }

/-- One handle less; a cell without handles is gone. -/
def release (heap : Heap) (handle : Handle) : Heap :=
  { heap with
    cells := heap.cells.filterMap fun entry =>
      if entry.1 = handle then
        if entry.2.count ≤ 1 then none
        else some (entry.1, { entry.2 with count := entry.2.count - 1 })
      else some entry }

end Heap

/-- A module in the hands of a caller. -/
inductive CompiledShader where
  /-- The caller alone has it. -/
  | owned (bytecode : Bytecode)
  /-- The caller has one of its handles. -/
  | shared (handle : Handle)
  deriving DecidableEq

namespace CompiledShader

/-- Whether other handles to the module may exist. -/
def isShared : CompiledShader → Bool
  | owned _ => false
  | shared _ => true

/-- The words of the module. -/
def words (heap : Heap) : CompiledShader → List UInt32
  | owned bytecode => bytecode.words
  | shared handle => heap.words handle

/-- The number of words. -/
def wordCount (heap : Heap) (shader : CompiledShader) : Nat := (shader.words heap).length

/-- The size of the module in bytes. -/
def byteLength (heap : Heap) (shader : CompiledShader) : Nat := 4 * shader.wordCount heap

/-- The image of the module in a file. -/
def toBytes (heap : Heap) (shader : CompiledShader) : List UInt8 :=
  bytesOfWords (shader.words heap)

/-- A second holder: an owned module is copied, and a shared one gets one more handle. -/
def duplicate (heap : Heap) : CompiledShader → Heap
  | owned _ => heap
  | shared handle => heap.retain handle

/-- Gives the module up: only the caller's own handle goes. -/
def release (heap : Heap) : CompiledShader → Heap
  | owned _ => heap
  | shared handle => heap.release handle

/-- Two modules are equal when their words are, however they are held. -/
def sameWords (heap : Heap) (left right : CompiledShader) : Bool :=
  left.words heap == right.words heap

end CompiledShader

/-- A place for at most one module. -/
abbrev Slot := Option CompiledShader

/-- Releases what a slot holds and leaves it empty; an empty slot stays as it is. -/
def freeShader (heap : Heap) : Slot → Heap × Slot
  | none => (heap, none)
  | some shader => (shader.release heap, none)

end ShaderBuild
