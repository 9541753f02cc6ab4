/-! The types of shader values: scalars, vectors, arrays, structures and pointers to them. -/

namespace ShaderBuild.Program

/-- What a scalar counts as. -/
inductive ScalarKind where
  | sint
  | uint
  | float
  | bool
  deriving DecidableEq, Repr

/-- The kind's name in messages. -/
def ScalarKind.name : ScalarKind → String
  | sint => "Sint"
  | uint => "Uint"
  | float => "Float"
  | bool => "Bool"

/-- A kind and the width of its values in bytes. -/
structure Scalar where
  kind : ScalarKind
  width : Nat
  deriving DecidableEq, Repr

namespace Scalar

/-- Signed numbers of 32 bits. -/
def i32 : Scalar := ⟨.sint, 4⟩

/-- Unsigned numbers of 32 bits. -/
def u32 : Scalar := ⟨.uint, 4⟩

/-- Single-precision numbers. -/
def f32 : Scalar := ⟨.float, 4⟩

/-- Double-precision numbers. -/
def f64 : Scalar := ⟨.float, 8⟩

/-- Truth values. -/
def boolean : Scalar := ⟨.bool, 1⟩

/-- The scalar as messages show it. -/
def describe (scalar : Scalar) : String :=
  "Scalar \x7b kind: " ++ scalar.kind.name ++ ", width: " ++ toString scalar.width ++ " \x7d"

/-- How far a number type reaches among the implicit conversions; truth values take no part. -/
def power? (scalar : Scalar) : Option Nat :=
  match scalar.kind with
  | .sint => some 0
  | .uint => some 1
  | .float => some (if scalar.width = 4 then 2 else 3)
  | .bool => none

end Scalar

/-- The number of components of a vector. -/
inductive VectorSize where
  | bi
  | tri
  | quad
  deriving DecidableEq, Repr

namespace VectorSize

/-- The size as a number. -/
def toNat : VectorSize → Nat
  | bi => 2
  | tri => 3
  | quad => 4

/-- The size's name in messages. -/
def name : VectorSize → String
  | bi => "Bi"
  | tri => "Tri"
  | quad => "Quad"

/-- Every size, smallest first. -/
def all : List VectorSize := [bi, tri, quad]

end VectorSize

/-- Where a variable lives. -/
inductive AddressSpace where
  | function
  | privateSpace
  | workGroup
  | uniform
  | storage (load store : Bool)
  | pushConstant
  deriving DecidableEq, Repr

/-- The access rights of a storage space, as messages show them. -/
def describeAccess (load store : Bool) : String :=
  match load, store with
  | true, true => "StorageAccess(LOAD | STORE)"
  | true, false => "StorageAccess(LOAD)"
  | false, true => "StorageAccess(STORE)"
  | false, false => "StorageAccess(0x0)"

/-- The space as messages show it. -/
def AddressSpace.describe : AddressSpace → String
  | function => "Function"
  | privateSpace => "Private"
  | workGroup => "WorkGroup"
  | uniform => "Uniform"
  | storage load store =>
    "Storage \x7b access: " ++ describeAccess load store ++ " \x7d"
  | pushConstant => "PushConstant"

/-- Values that the pipeline provides or takes. -/
inductive BuiltIn where
  | position
  | baseInstance
  | baseVertex
  | instanceIndex
  | pointSize
  | vertexIndex
  | drawId
  | fragDepth
  | pointCoord
  | frontFacing
  | primitiveIndex
  | sampleIndex
  | globalInvocationId
  | localInvocationId
  | localInvocationIndex
  | workGroupId
  | workGroupSize
  | numWorkGroups
  deriving DecidableEq, Repr

/-- The value's name in messages. -/
def BuiltIn.describe : BuiltIn → String
  | position => "Position \x7b invariant: false \x7d"
  | baseInstance => "BaseInstance"
  | baseVertex => "BaseVertex"
  | instanceIndex => "InstanceIndex"
  | pointSize => "PointSize"
  | vertexIndex => "VertexIndex"
  | drawId => "DrawID"
  | fragDepth => "FragDepth"
  | pointCoord => "PointCoord"
  | frontFacing => "FrontFacing"
  | primitiveIndex => "PrimitiveIndex"
  | sampleIndex => "SampleIndex"
  | globalInvocationId => "GlobalInvocationId"
  | localInvocationId => "LocalInvocationId"
  | localInvocationIndex => "LocalInvocationIndex"
  | workGroupId => "WorkGroupId"
  | workGroupSize => "WorkGroupSize"
  | numWorkGroups => "NumWorkGroups"

/-- How a value is carried from the vertices to the fragments between them. -/
inductive Interpolation where
  | perspective
  | linear
  | flat
  deriving DecidableEq, Repr

/-- Where within a pixel an input is evaluated. -/
inductive Sampling where
  | centroid
  | sample
  deriving DecidableEq, Repr

/-- What connects a value to the pipeline. -/
inductive Binding where
  | builtIn (value : BuiltIn)
  | location (location : Nat) (interpolation : Option Interpolation) (sampling : Option Sampling)
  deriving DecidableEq, Repr

/-- The place of a type in the module's table. -/
abbrev TypeId := Nat

/-- A part of a structure. -/
structure Member where
  name : Option String
  type : TypeId
  binding : Option Binding
  offset : Nat
  deriving DecidableEq, Repr

/-- The number of elements of an array, or that only run time tells it. -/
inductive ArraySize where
  | constant (size : Nat)
  | dynamic
  deriving DecidableEq, Repr

/-- What a type is made of. -/
inductive Shape where
  | scalar (scalar : Scalar)
  | vector (size : VectorSize) (scalar : Scalar)
  | pointer (base : TypeId) (space : AddressSpace)
  /-- A pointer to a scalar or vector that need not be in the table. -/
  | valuePointer (size : Option VectorSize) (scalar : Scalar) (space : AddressSpace)
  | array (base : TypeId) (size : ArraySize) (stride : Nat)
  | struct (members : List Member) (span : Nat)
  deriving DecidableEq, Repr

/-- The place of something in a table, as messages show it. -/
def describeIndex (index : Nat) : String := "[" ++ toString index ++ "]"

/-- A value that may be missing, as messages show it. -/
def describeOption (describe : α → String) : Option α → String
  | none => "None"
  | some value => "Some(" ++ describe value ++ ")"

/-- A list, as messages show it. -/
def describeList (items : List String) : String :=
  "[" ++ ", ".intercalate items ++ "]"

/-- A part of a structure, as messages show it. -/
def Member.describe (member : Member) : String :=
  "StructMember \x7b name: " ++ describeOption (fun name => "\"" ++ name ++ "\"") member.name ++
    ", ty: " ++ describeIndex member.type ++ ", binding: None, offset: " ++
    toString member.offset ++ " \x7d"

namespace Shape

/-- The shape as messages show it. -/
def describe : Shape → String
  | scalar s => "Scalar(" ++ s.describe ++ ")"
  | vector size s => "Vector \x7b size: " ++ size.name ++ ", scalar: " ++ s.describe ++ " \x7d"
  | pointer base space =>
    "Pointer \x7b base: " ++ describeIndex base ++ ", space: " ++ space.describe ++ " \x7d"
  | valuePointer size s space =>
    "ValuePointer \x7b size: " ++ describeOption VectorSize.name size ++ ", scalar: " ++
      s.describe ++ ", space: " ++ space.describe ++ " \x7d"
  | array base size stride =>
    "Array \x7b base: " ++ describeIndex base ++ ", size: " ++
      (match size with
        | .constant n => "Constant(" ++ toString n ++ ")"
        | .dynamic => "Dynamic") ++ ", stride: " ++ toString stride ++ " \x7d"
  | struct members span =>
    "Struct \x7b members: " ++ describeList (members.map Member.describe) ++ ", span: " ++
      toString span ++ " \x7d"

/-- The scalar that a scalar or vector is made of. -/
def components? : Shape → Option Scalar
  | scalar s | vector _ s | valuePointer _ s _ => some s
  | _ => none

/-- The space that a pointer points into. -/
def pointerSpace? : Shape → Option AddressSpace
  | pointer _ space | valuePointer _ _ space => some space
  | _ => none

end Shape

/-- A range of bytes in a shader's text; a range from zero to zero points nowhere. -/
structure Span where
  start : Nat
  stop : Nat
  deriving DecidableEq, Repr

namespace Span

/-- The span that points nowhere. -/
def none : Span := ⟨0, 0⟩

/-- Whether the span points into the text. -/
def isDefined (span : Span) : Bool := span ≠ .none

/-- The smallest span around two; one that points nowhere adds nothing. -/
def join (a b : Span) : Span :=
  if !a.isDefined then b
  else if !b.isDefined then a
  else ⟨min a.start b.start, max a.stop b.stop⟩

end Span

/-- An entry of the type table: equal entries are kept once. -/
structure TypeEntry where
  name : Option String
  shape : Shape
  span : Span
  deriving Repr

/-- The types of a module in the order in which they were first used. -/
abbrev TypeTable := Array TypeEntry

namespace TypeTable

/-- The place of a type among some entries, counted from a start. -/
def indexFrom (name : Option String) (shape : Shape) : List TypeEntry → Nat → Option TypeId
  | [], _ => .none
  | entry :: rest, i =>
    if entry.name = name ∧ entry.shape = shape then some i else indexFrom name shape rest (i + 1)

/-- Puts a type into the table unless it is there, and says where it is. -/
def insert (table : TypeTable) (name : Option String) (shape : Shape) (span : Span) :
    TypeTable × TypeId :=
  match indexFrom name shape table.toList 0 with
  | some id => (table, id)
  | .none => (table.push ⟨name, shape, span⟩, table.size)

/-- The shape of a type; a missing type counts as a truth value. -/
def shape (table : TypeTable) (id : TypeId) : Shape :=
  match table[id]? with
  | some entry => entry.shape
  | .none => .scalar .boolean

end TypeTable

end ShaderBuild.Program
