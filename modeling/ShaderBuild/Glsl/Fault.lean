import ShaderBuild.Glsl.Token
import ShaderBuild.Program.Fold

/-! What can be wrong with the text of a program, and how it is said. -/

namespace ShaderBuild.Glsl

open ShaderBuild.Program

/-- What was expected in place of a word. -/
inductive Expected where
  | token (token : Token)
  | aType
  | aName
  | anInteger
  | aFloat
  | aBool
  | theEnd
  deriving DecidableEq, Repr

/-- The expectation in messages. -/
def Expected.describe : Expected → String
  | token found => found.describe
  | aType => "a type"
  | aName => "identifier"
  | anInteger => "integer literal"
  | aFloat => "float literal"
  | aBool => "bool literal"
  | theEnd => "end of file"

/-- A list of alternatives in a sentence. -/
def orList : List String → String
  | [] => ""
  | [one] => one
  | [one, two] => one ++ " or " ++ two
  | one :: rest => one ++ ", " ++ orList rest

/-- The kinds of qualifiers that a declaration takes at most once. -/
inductive QualifierKind where
  | invariance
  | interpolation
  | storage
  | sampling
  | precision
  | memory
  deriving DecidableEq, Repr

/-- The kind's name in messages. -/
def QualifierKind.name : QualifierKind → String
  | invariance => "invariant"
  | interpolation => "interpolation"
  | storage => "storage"
  | sampling => "sampling"
  | precision => "precision"
  | memory => "memory"

/-- What a qualifier is good for that stands where it does nothing. -/
def QualifierKind.restriction : QualifierKind → String
  | invariance => "Invariant qualifier can only be used in in/out variables"
  | interpolation => "Interpolation qualifiers can only be used in in/out variables"
  | sampling => "Sampling qualifiers can only be used in in/out variables"
  | memory => "Memory qualifiers can only be used in storage variables"
  | storage | precision => "Unexpected qualifier"

/-- A mistake in the text of a program. -/
inductive SourceFault where
  | endOfFile
  | invalidVersion (number : Nat)
  | invalidProfile (name : String)
  | versionNotFirst
  | unexpected (found : Token) (expected : List Expected)
  | lexical (fault : LexicalFault)
  | notImplemented (what : String)
  | unknownVariable (name : String)
  | unknownType (name : String)
  | unknownField (name : String)
  | declaredTwice (name : String)
  | missingEntryPoint
  | notUint
  | intOverflow
  | zeroArraySize
  | voidType
  | voidDeclaration
  | invalidMember
  | qualifierTwice (kind : QualifierKind)
  | memoryTwice
  | uselessQualifier (kind : QualifierKind)
  | unexpectedQualifier
  | qualifierNotUint
  | qualifierWithValue
  | constWithoutValue
  | bindingRequired
  | localStorage
  | precisionOfType
  | functionDefined
  | prototypeDefined
  | unknownFunction (name : String)
  | ambiguousFunction (name : String)
  | returnsVoid
  | notWritable
  /-- A term that is no place to store into. -/
  | notAPlace (term : String)
  | repeatedComponents (name : String)
  | swizzleSize (name : String)
  | invalidSwizzle (name : String)
  | noFields (name : String)
  | badConstructor
  | tooManyArguments
  | emptyArray
  | noStep
  | methodArguments
  | unknownMethod (name : String)
  | noType (fault : TypeFault)
  | folding (fault : FoldFault)
  deriving DecidableEq, Repr

/-- The sentence about the mistake. -/
def SourceFault.message : SourceFault → String
  | endOfFile => "Unexpected end of file"
  | invalidVersion number => "Invalid version: " ++ toString number
  | invalidProfile name => "Invalid profile: " ++ name
  | versionNotFirst => "#version must occur first in shader"
  | unexpected found expected =>
    "Expected " ++ orList (expected.map (·.describe)) ++ ", found " ++ found.describe
  | lexical fault => fault.describe
  | notImplemented what => "Not implemented: " ++ what
  | unknownVariable name => "Unknown variable: " ++ name
  | unknownType name => "Unknown type: " ++ name
  | unknownField name => "Unknown field: " ++ name
  | declaredTwice name => "Variable already declared: " ++ name
  | missingEntryPoint => "Missing entry point"
  | notUint => "Expected a uint constant"
  | intOverflow => "int constant overflows"
  | zeroArraySize => "Array size must be greater than zero"
  | voidType => "Type can't be void"
  | voidDeclaration => "Declaration cannot have void type"
  | invalidMember => "Invalid struct member type"
  | qualifierTwice kind =>
    "Cannot use more than one " ++ kind.name ++ " qualifier per declaration"
  | memoryTwice => "The same memory qualifier can only be used once"
  | uselessQualifier kind => kind.restriction
  | unexpectedQualifier => "Unexpected qualifier"
  | qualifierNotUint => "Qualifier expects a uint value"
  | qualifierWithValue => "Qualifier doesn't expect a value"
  | constWithoutValue => "const values must have an initializer"
  | bindingRequired => "uniform/buffer blocks require layout(binding=X)"
  | localStorage => "Locals cannot have a storage qualifier"
  | precisionOfType => "Precision statement can only work on floats and ints"
  | functionDefined => "Function already defined"
  | prototypeDefined => "Prototype already defined"
  | unknownFunction name => "Unknown function '" ++ name ++ "'"
  | ambiguousFunction name => "Ambiguous best function for '" ++ name ++ "'"
  | returnsVoid => "Expression returns void"
  | notWritable => "Variable cannot be used in LHS position"
  | notAPlace term => term ++ " cannot be in the left hand side"
  | repeatedComponents name =>
    "swizzle cannot have duplicate components in left-hand-side expression for \"\"" ++ name ++
      "\"\""
  | swizzleSize name => "Bad swizzle size for \"\"" ++ name ++ "\"\""
  | invalidSwizzle name => "Invalid swizzle for vector \"" ++ name ++ "\""
  | noFields name => "Can't lookup field on this type \"" ++ name ++ "\""
  | badConstructor => "Bad type constructor"
  | tooManyArguments => "Constructor: Too many arguments"
  | emptyArray => "There must be at least one argument"
  | noStep => "Increment/decrement only works on scalar/vector/matrix"
  | methodArguments => ".length() doesn't take any arguments"
  | unknownMethod name => "unknown method '" ++ name ++ "'"
  | noType fault => "Can't resolve type: " ++ fault.describe
  | folding fault => fault.message

end ShaderBuild.Glsl
