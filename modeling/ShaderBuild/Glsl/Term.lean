import ShaderBuild.Number.Shortest
import ShaderBuild.Program.Module

/-! Expressions as they are written, before they become values and instructions. -/

namespace ShaderBuild.Glsl

open ShaderBuild.Program

/-- What a name in scope refers to. -/
structure Reference where
  expression : ExprId
  /-- Whether the expression is an address that the value has to be read from. -/
  load : Bool
  mutable_ : Bool
  /-- The constant and its type, when the name is that of one. -/
  constant : Option (Nat × TypeId) := none
  deriving DecidableEq, Repr

/-- Where a term stands, and how many terms of its statement were made before it. -/
structure TermPlace where
  order : Nat
  span : Span
  deriving DecidableEq, Repr

/-- What is called: a type makes a value of itself. -/
inductive Callee where
  | type (id : TypeId)
  | function (name : String)
  deriving DecidableEq, Repr

/-- A term of the language. -/
inductive Term where
  | literal (place : TermPlace) (value : Literal)
  | name (place : TermPlace) (reference : Reference)
  | access (place : TermPlace) (base index : Term)
  | field (place : TermPlace) (base : Term) (name : String)
  | unary (place : TermPlace) (op : UnaryOp) (operand : Term)
  | binary (place : TermPlace) (op : BinaryOp) (left right : Term)
  | call (place : TermPlace) (callee : Callee) (arguments : List Term)
  | conditional (place : TermPlace) (condition accept reject : Term)
  | assign (place : TermPlace) (target value : Term)
  | step (place : TermPlace) (op : BinaryOp) (isAfter : Bool) (operand : Term)
  | method (place : TermPlace) (base : Term) (name : String) (arguments : List Term)

/-- A constant value as messages show it. -/
def describeLiteral : Literal → String
  | .f64 bits => "F64(" ++ Number.describeFloat Number.double bits.toNat ++ ")"
  | .f32 bits => "F32(" ++ Number.describeFloat Number.single bits.toNat ++ ")"
  | .u32 value => "U32(" ++ toString value.toNat ++ ")"
  | .i32 value => "I32(" ++ toString value.toInt ++ ")"
  | .bool value => if value then "Bool(true)" else "Bool(false)"

/-- What is called, as messages show it. -/
def Callee.describe : Callee → String
  | type id => "TypeConstructor(" ++ describeIndex id ++ ")"
  | function name => "Function(\"" ++ name ++ "\")"

namespace Term

/-- Where the term stands. -/
def place : Term → TermPlace
  | literal place _ | name place _ | access place _ _ | field place _ _ | unary place _ _
  | binary place _ _ _ | call place _ _ | conditional place _ _ _ | assign place _ _
  | step place _ _ _ | method place _ _ _ => place

/-- The part of the text that the term takes up. -/
def span (term : Term) : Span := term.place.span

/-- The term's number, as messages show it. -/
def number (term : Term) : String := describeIndex term.place.order

/-- What the term does, as messages show it. -/
def describeKind : Term → String
  | literal _ value => "Literal(" ++ describeLiteral value ++ ")"
  | name _ _ => "Variable"
  | access _ base index =>
    "Access \x7b base: " ++ base.number ++ ", index: " ++ index.number ++ " \x7d"
  | field _ base item => "Select \x7b base: " ++ base.number ++ ", field: \"" ++ item ++ "\" \x7d"
  | unary _ op operand =>
    "Unary \x7b op: " ++ op.name ++ ", expr: " ++ operand.number ++ " \x7d"
  | binary _ op left right =>
    "Binary \x7b left: " ++ left.number ++ ", op: " ++ op.name ++ ", right: " ++ right.number ++
      " \x7d"
  | call _ callee arguments =>
    "Call(FunctionCall \x7b kind: " ++ callee.describe ++ ", args: " ++
      describeList (arguments.map number) ++ " \x7d)"
  | conditional _ condition accept reject =>
    "Conditional \x7b condition: " ++ condition.number ++ ", accept: " ++ accept.number ++
      ", reject: " ++ reject.number ++ " \x7d"
  | assign _ target value =>
    "Assign \x7b tgt: " ++ target.number ++ ", value: " ++ value.number ++ " \x7d"
  | step _ op isAfter operand =>
    "PrePostfix \x7b op: " ++ op.name ++ ", postfix: " ++ (if isAfter then "true" else "false") ++
      ", expr: " ++ operand.number ++ " \x7d"
  | method _ base item arguments =>
    "Method \x7b expr: " ++ base.number ++ ", name: \"" ++ item ++ "\", args: " ++
      describeList (arguments.map number) ++ " \x7d"

/-- The term as messages show it. -/
def describe (term : Term) : String :=
  "HirExpr \x7b kind: " ++ term.describeKind ++ ", meta: Span \x7b start: " ++
    toString term.span.start ++ ", end: " ++ toString term.span.stop ++ " \x7d \x7d"

end Term

end ShaderBuild.Glsl
