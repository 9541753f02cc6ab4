import ShaderBuild.Glsl.Bench
import ShaderBuild.Program.Traits

/-! Where the members of structures and the elements of arrays lie. -/

namespace ShaderBuild.Glsl

open ShaderBuild.Program

/-- The standards for the members of blocks. -/
inductive BlockLayout where
  | std140
  | std430
  deriving DecidableEq, Repr

/-- The alignment and the size of a type. -/
def extentOf (types : TypeTable) : Nat → TypeId → Nat × Nat
  | 0, _ => (1, 0)
  | fuel + 1, id =>
    match types.shape id with
    | .scalar scalar => (scalar.width, scalar.width)
    | .vector size scalar =>
      (Traits.vectorUnits size * scalar.width, size.toNat * scalar.width)
    | .array base size stride =>
      let count := match size with | .constant n => n | .dynamic => 1
      ((extentOf types fuel base).1, count * stride)
    | .struct members span =>
      (members.foldl (fun align member => max align (extentOf types fuel member.type).1) 1, span)
    | .pointer _ _ | .valuePointer _ _ _ => (1, 0)

/-- The distance between elements of a type that follow each other. -/
def strideOf (types : TypeTable) (id : TypeId) : Nat :=
  let (align, size) := extentOf types (id + 1) id
  Traits.roundUp align size

/-- A type as it lies in a block, its alignment and its size. -/
structure Placed where
  type : TypeId
  align : Nat
  size : Nat

namespace Reading

/-- The place in the text of a type. -/
def spanOfType (id : TypeId) : Reading Span := do
  return ((← theModule).types[id]?.map (·.span)).getD .none

/-- The name of a type. -/
def nameOfType (id : TypeId) : Reading (Option String) := do
  return ((← theModule).types[id]?.bind (·.name))

/-- The members of a structure, laid out one after the other from an offset on; the answer holds
the greatest alignment and the end as well. -/
def placeMembers (place : TypeId → Reading Placed) :
    List Member → Nat → Nat → Reading (List Member × Nat × Nat)
  | [], align, offset => pure ([], align, offset)
  | member :: rest, align, offset => do
    let placed ← place member.type
    let offset := Traits.roundUp placed.align offset
    let (members, align, stop) ←
      placeMembers place rest (max align placed.align) (offset + placed.size)
    return ({ member with type := placed.type, offset } :: members, align, stop)

/-- Lays a type out for a block. Arrays and structures become types of their own, because their
strides and offsets depend on the standard. -/
def placeType (layout : BlockLayout) (span : Span) : Nat → TypeId → Reading Placed
  | 0, id => return ⟨id, 1, 0⟩
  | fuel + 1, id => do
    match ← shapeOfType id with
    | .scalar scalar => return ⟨id, scalar.width, scalar.width⟩
    | .vector size scalar =>
      return ⟨id, Traits.vectorUnits size * scalar.width, size.toNat * scalar.width⟩
    | .array base size _ => do
      let element ← placeType layout span fuel base
      let name ← nameOfType id
      -- Elements of arrays begin at full rows of sixteen bytes unless the layout packs them.
      let align := match layout with | .std430 => element.align | .std140 => max element.align 16
      let stride := Traits.roundUp align element.size
      let count := match size with | .constant n => n | .dynamic => 1
      let type ← insertType name (.array element.type size stride) (← spanOfType id)
      return ⟨type, align, count * stride⟩
    | .struct members _ => do
      let name ← nameOfType id
      let (members, align, stop) ← placeMembers (placeType layout span fuel) members 1 0
      -- The size is rounded up so that structures can stand one behind the other.
      let size := Traits.roundUp align stop
      let type ← insertType name (.struct members size) (← spanOfType id)
      return ⟨type, align, size⟩
    | _ => do
      report .invalidMember span
      return ⟨id, 1, 0⟩

/-- An array of each of some sizes, the last size innermost. -/
def arrayOfSizes (span : Span) : List ArraySize → TypeId → Reading TypeId
  | [], type => pure type
  | size :: rest, type => do
    let inner ← arrayOfSizes span rest type
    let stride := strideOf (← theModule).types inner
    insertType none (.array inner size stride) span

end Reading

end ShaderBuild.Glsl
