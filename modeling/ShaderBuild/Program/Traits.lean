import ShaderBuild.Program.Fault

/-! What a type may be used for, and how its values lie in memory. -/

namespace ShaderBuild.Program

/-- The uses that a type admits, and why it does not suit memory that the host sees. -/
structure Traits where
  data : Bool := true
  sized : Bool := true
  copy : Bool := true
  ioShareable : Bool := true
  hostShareable : Bool := true
  argument : Bool := true
  constructible : Bool := true
  alignment : Nat := 4
  size : Nat := 4
  uniformLayout : Except (TypeId × LayoutFault) Nat := .ok 4
  storageLayout : Except (TypeId × LayoutFault) Nat := .ok 4

namespace Traits

/-- The uses as messages list them. -/
def describe (traits : Traits) : String :=
  let names :=
    [(traits.data, "DATA"), (traits.sized, "SIZED"), (traits.copy, "COPY"),
      (traits.ioShareable, "IO_SHAREABLE"), (traits.hostShareable, "HOST_SHAREABLE"),
      (traits.argument, "ARGUMENT"), (traits.constructible, "CONSTRUCTIBLE"),
      (true, "CREATION_RESOLVED")]
  "TypeFlags(" ++ " | ".intercalate ((names.filter (·.1)).map (·.2)) ++ ")"

/-- The smallest multiple of an alignment that is not below an offset. -/
def roundUp (alignment offset : Nat) : Nat :=
  if alignment = 0 then offset else (offset + alignment - 1) / alignment * alignment

/-- Values of a scalar type. -/
def ofScalar (id : TypeId) (scalar : Scalar) : Traits :=
  let shareable := scalar.kind ≠ .bool
  { ioShareable := shareable
    hostShareable := shareable
    alignment := scalar.width
    size := scalar.width
    uniformLayout := if shareable then .ok scalar.width else .error (id, .notHostShareable)
    storageLayout := if shareable then .ok scalar.width else .error (id, .notHostShareable) }

/-- The alignment of a vector, in components. -/
def vectorUnits : VectorSize → Nat
  | .bi => 2
  | .tri => 4
  | .quad => 4

/-- Values of a vector type. -/
def ofVector (id : TypeId) (size : VectorSize) (scalar : Scalar) : Traits :=
  let alignment := vectorUnits size * scalar.width
  let base := ofScalar id scalar
  { base with
    alignment
    size := size.toNat * scalar.width
    uniformLayout := base.uniformLayout.map fun _ => alignment
    storageLayout := base.storageLayout.map fun _ => alignment }

/-- Pointers. -/
def ofPointer (space : AddressSpace) : Traits :=
  let passable :=
    match space with
    | .function | .privateSpace | .workGroup => true
    | _ => false
  { data := false, ioShareable := false, hostShareable := false, constructible := false
    argument := passable
    uniformLayout := .error (0, .notHostShareable)
    storageLayout := .error (0, .notHostShareable) }

/-- A layout of an array whose elements follow each other at a stride. -/
def arrayLayout (id : TypeId) (stride least : Nat) (element : Except (TypeId × LayoutFault) Nat) :
    Except (TypeId × LayoutFault) Nat :=
  match element with
  | .error fault => .error fault
  | .ok alignment =>
    let alignment := max alignment least
    if stride % alignment = 0 then .ok alignment else .error (id, .arrayStride stride alignment)

/-- Arrays. -/
def ofArray (id : TypeId) (element : Traits) (size : ArraySize) (stride : Nat) : Traits :=
  let known := size ≠ .dynamic
  { data := element.data
    sized := known && element.sized
    copy := known && element.copy
    ioShareable := false
    hostShareable := element.hostShareable
    argument := known && element.argument
    constructible := known && element.constructible
    alignment := element.alignment
    size := match size with
      | .constant n => n * stride
      | .dynamic => stride
    uniformLayout := arrayLayout id stride 16 element.uniformLayout
    storageLayout := arrayLayout id stride 0 element.storageLayout }

/-- Takes a member into a layout. -/
def memberLayout (id : TypeId) (index : Nat) (member : Member) (traits : Traits)
    (least : Nat) (layout : Except (TypeId × LayoutFault) Nat)
    (memberLayout : Except (TypeId × LayoutFault) Nat) : Except (TypeId × LayoutFault) Nat :=
  if !traits.hostShareable then
    match layout with
    | .ok _ => .error (member.type, .notHostShareable)
    | .error fault => .error fault
  else
    match layout, memberLayout with
    | .error fault, _ => .error fault
    | .ok _, .error fault => .error fault
    | .ok current, .ok alignment =>
      if member.offset % alignment = 0 then .ok (max current (max least alignment))
      else .error (id, .memberOffset index member.offset alignment)

/-- Takes the members of a structure into account, from a place on. -/
def addMembers (id : TypeId) (traitsOf : TypeId → Traits) :
    List Member → Nat → Nat → Traits → Traits
  | [], _, _, traits => traits
  | member :: rest, index, lowest, traits =>
    let base := traitsOf member.type
    -- Members must not begin before the one before them has ended.
    let overlaps := member.offset < lowest
    let next : Traits :=
      { data := traits.data && base.data
        sized := traits.sized && base.sized
        copy := traits.copy && base.copy
        ioShareable := traits.ioShareable && base.ioShareable
        hostShareable := traits.hostShareable && base.hostShareable && !overlaps
        argument := traits.argument && base.argument
        constructible := traits.constructible && base.constructible
        alignment := max traits.alignment base.alignment
        size := traits.size
        uniformLayout :=
          memberLayout id index member base 16 traits.uniformLayout base.uniformLayout
        storageLayout :=
          memberLayout id index member base 0 traits.storageLayout base.storageLayout }
    addMembers id traitsOf rest (index + 1) (member.offset + base.size) next

/-- Structures. -/
def ofStruct (id : TypeId) (traitsOf : TypeId → Traits) (members : List Member) (span : Nat) :
    Traits :=
  addMembers id traitsOf members 0 0
    { alignment := 1, size := span, uniformLayout := .ok 16, storageLayout := .ok 1 }

/-- Only the last member of a structure may be without a known size. -/
def checkMembers (traitsOf : TypeId → Traits) : List Member → Except ShapeFault Unit
  | [] => .ok ()
  | member :: rest =>
    let traits := traitsOf member.type
    if !traits.data then .error (.memberData member.type)
    else if !traits.sized && !rest.isEmpty then .error (.dynamicMember member.name member.type)
    else checkMembers traitsOf rest

/-- What a type may be used for, given the same of the types before it. -/
def ofShape (known : Array Traits) (id : TypeId) : Shape → Except ShapeFault Traits
  | .scalar scalar =>
    if scalar = .f64 then .error .doublePrecision else .ok (ofScalar id scalar)
  | .vector size scalar =>
    if scalar = .f64 then .error .doublePrecision else .ok (ofVector id size scalar)
  | .pointer base space =>
    let traits := known.getD base {}
    if traits.sized || space matches .storage .. then .ok (ofPointer space)
    else .error (.pointerToUnsized base space)
  | .valuePointer _ _ space => .ok (ofPointer space)
  | .array base size stride =>
    let element := known.getD base {}
    if element.data && element.sized then .ok (ofArray id element size stride)
    else .error (.arrayBase base)
  | .struct members span =>
    let traitsOf := fun type => known.getD type {}
    if members.isEmpty then .error .emptyStruct
    else (checkMembers traitsOf members).map fun _ => ofStruct id traitsOf members span

/-- What the types of a table may be used for. -/
def ofTable : List TypeEntry → Array Traits → Except (ModuleFault × Span) (Array Traits)
  | [], known => .ok known
  | entry :: rest, known =>
    match ofShape known known.size entry.shape with
    | .ok traits => ofTable rest (known.push traits)
    | .error fault => .error (.type known.size (entry.name.getD "") fault, entry.span)

end Traits

end ShaderBuild.Program
