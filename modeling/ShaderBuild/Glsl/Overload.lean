import ShaderBuild.Glsl.Bench

/-! The functions of a name and the choice among them by the types of the arguments. -/

namespace ShaderBuild.Glsl

open ShaderBuild.Program

/-- How an argument becomes the parameter. -/
inductive Conversion where
  | unset
  | exact
  | floatToDouble
  | intToFloat
  | intToDouble
  | other
  deriving DecidableEq, Repr

/-- The conversion from one scalar to another; none leads to a type that reaches less far. -/
def scalarConversion (target source : Scalar) : Option Conversion :=
  let reaches :=
    match target.power?, source.power? with
    | _, none => true
    | none, some _ => false
    | some t, some s => s ≤ t
  if !reaches then none
  else if target = .f64 ∧ source = .f32 then some .floatToDouble
  else if target = .f32 ∧ (source.kind = .sint ∨ source.kind = .uint) then some .intToFloat
  else if target = .f64 ∧ (source.kind = .sint ∨ source.kind = .uint) then some .intToDouble
  else some .other

/-- The conversion from one shape to another: only scalars, and vectors of one size. -/
def shapeConversion : Shape → Shape → Option Conversion
  | .scalar target, .scalar source => scalarConversion target source
  | .vector targetSize target, .vector sourceSize source =>
    if targetSize = sourceSize then scalarConversion target source else none
  | _, _ => none

/-- Whether a conversion is better than another one; nothing is said when neither is. -/
def isBetter : Conversion → Conversion → Option Bool
  | _, .exact => some false
  | _, .unset => some true
  | .floatToDouble, _ => some true
  | _, .floatToDouble => some false
  | .intToFloat, .intToDouble => some true
  | .intToDouble, .intToFloat => some false
  | _, _ => none

/-- How an overload compares with the best one before it. -/
structure Weighing where
  exact : Bool := true
  superior : Option Bool := none
  ambiguous : Bool := false
  conversions : List Conversion := []

/-- Compares the conversions of an overload with the best ones so far, argument by argument; an
overload that an argument does not fit is out of the question. -/
def weigh : List (Shape × Passing) → List Shape → List Conversion → Weighing → Option Weighing
  | (parameter, passing) :: parameters, argument :: arguments, old :: olds, weighing =>
    if parameter = argument then
      weigh parameters arguments olds
        { weighing with conversions := weighing.conversions ++ [.exact] }
    -- An argument that goes in and comes back cannot be converted both ways.
    else if passing = .both then none
    else
      let found :=
        if passing.isPlace then shapeConversion argument parameter
        else shapeConversion parameter argument
      match found with
      | none => none
      | some conversion =>
        let weighing := { weighing with exact := false }
        let keep := fun (w : Weighing) (c : Conversion) =>
          weigh parameters arguments olds { w with conversions := w.conversions ++ [c] }
        match isBetter conversion old, weighing.superior with
        | none, _ => keep weighing .unset
        -- Better in one argument and worse in another means that neither overload wins.
        | some true, some false => keep { weighing with ambiguous := true } .unset
        | some true, _ => keep { weighing with superior := some true } conversion
        | some false, some true => keep { weighing with ambiguous := true } .unset
        | some false, _ => keep { weighing with superior := some false } .unset
  | _, _, _, weighing => some weighing

/-- The choice among overloads so far. -/
structure Choosing where
  best : Option Overload := none
  conversions : List Conversion
  ambiguous : Bool := false

/-- Chooses among overloads, in order. -/
def chooseFrom (types : TypeTable) (arguments : List Shape) : List Overload → Choosing → Choosing
  | [], choosing => choosing
  | overload :: rest, choosing =>
    if overload.parameters.length ≠ arguments.length then
      chooseFrom types arguments rest choosing
    else
      let parameters := (overload.parameters.map types.shape).zip overload.passing
      match weigh parameters arguments choosing.conversions {} with
      | none => chooseFrom types arguments rest choosing
      | some weighing =>
        -- Exact types end the search.
        if weighing.exact then { choosing with best := some overload, ambiguous := false }
        else
          let choosing :=
            { choosing with ambiguous := choosing.ambiguous || weighing.ambiguous }
          match weighing.superior with
          | some true =>
            chooseFrom types arguments rest
              { choosing with best := some overload, conversions := weighing.conversions }
          | some false => chooseFrom types arguments rest choosing
          | none =>
            chooseFrom types arguments rest
              { choosing with best := some overload, ambiguous := true }

/-- The overload that a call takes, and whether another one would do as well. -/
def chooseOverload (types : TypeTable) (arguments : List Shape) (overloads : List Overload) :
    Option Overload × Bool :=
  let choosing :=
    chooseFrom types arguments overloads { conversions := arguments.map fun _ => .unset }
  (choosing.best, choosing.ambiguous)

/-- Functions of one number, or of each component of a vector. -/
def mathOfOne (name : String) : Option MathFunction :=
  [("floor", MathFunction.floor), ("ceil", .ceil), ("fract", .fract), ("trunc", .trunc),
    ("sqrt", .sqrt), ("inversesqrt", .inverseSqrt), ("sin", .sin), ("cos", .cos), ("tan", .tan),
    ("exp", .exp), ("exp2", .exp2), ("log", .log), ("log2", .log2), ("radians", .radians),
    ("degrees", .degrees), ("normalize", .normalize), ("length", .length)].lookup name

/-- Functions of two numbers or vectors. -/
def mathOfTwo (name : String) : Option MathFunction :=
  [("dot", MathFunction.dot), ("distance", .distance), ("reflect", .reflect)].lookup name

/-- A scalar, then vectors of it. -/
def scalarFirst : List (Option VectorSize) := none :: VectorSize.all.map some

/-- The shape of a scalar or of a vector of it. -/
def sized (size : Option VectorSize) (scalar : Scalar) : Shape :=
  match size with
  | some size => .vector size scalar
  | none => .scalar scalar

/-- The parameters and bodies of the functions of a name that take numbers of one float type. -/
def floatFunctions (name : String) (scalar : Scalar) : List (List Shape × BuiltInFunction) :=
  if name = "mix" then
    let each := scalarFirst.map fun size =>
      ([sized size scalar, sized size scalar, sized size scalar], BuiltInFunction.math .mix)
    let uniform := VectorSize.all.map fun size =>
      ([Shape.vector size scalar, .vector size scalar, .scalar scalar],
        BuiltInFunction.mixScalar (some size))
    each ++ uniform
  else if name = "cross" then
    [([.vector .tri scalar, .vector .tri scalar], .math .cross)]
  else
    match mathOfOne name, mathOfTwo name with
    | some function, _ => scalarFirst.map fun size => ([sized size scalar], .math function)
    | none, some function =>
      scalarFirst.map fun size => ([sized size scalar, sized size scalar], .math function)
    | none, none => []

/-- The functions of a name that do not depend on the width of the float type. -/
def plainFunctions (name : String) : List (List Shape × BuiltInFunction) :=
  if name = "mix" then
    [Scalar.i32, .u32, .f32].flatMap fun scalar =>
      (VectorSize.all.map some ++ [none]).map fun size =>
        ([sized size scalar, sized size scalar, sized size .boolean], .choose)
  else []

namespace Reading

/-- Adds functions that come with the language; the types of their parameters join the table. -/
def addBuiltIns : List (List Shape × BuiltInFunction) → Array Overload → Reading (Array Overload)
  | [], overloads => pure overloads
  | (shapes, function) :: rest, overloads => do
    let parameters ← shapes.mapM fun shape => insertType none shape .none
    addBuiltIns rest (overloads.push
      { parameters
        passing := shapes.map fun _ => .copied
        body := .builtIn function
        defined := false
        isVoid := false })

/-- The functions of a name; those of the language join them when the name first occurs, and those
of double precision when the arguments ask for it. -/
def declarationsOf (name : String) (doubles : Bool) : Reading Declarations := do
  let known := ((← get).functions.lookup name).getD {}
  let known ←
    if known.standard then pure known
    else do
      let overloads ← addBuiltIns (plainFunctions name ++ floatFunctions name .f32) known.overloads
      pure { known with overloads, standard := true }
  let known ←
    if !doubles || known.doubles then pure known
    else do
      let overloads ← addBuiltIns (floatFunctions name .f64) known.overloads
      pure { known with overloads, doubles := true }
  modify fun bench =>
    { bench with
      functions := (name, known) :: bench.functions.filter fun entry => entry.1 ≠ name }
  return known

/-- Replaces the functions of a name. -/
def setDeclarations (name : String) (declarations : Declarations) : Reading Unit :=
  modify fun bench =>
    { bench with
      functions := (name, declarations) :: bench.functions.filter fun entry => entry.1 ≠ name }

/-- Whether a shape is made of numbers of double precision. -/
def isDouble (shape : Shape) : Bool := shape.components? = some .f64

end Reading

end ShaderBuild.Glsl
