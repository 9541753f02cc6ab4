/-! The instructions of a module and their words. -/

namespace ShaderBuild.Spirv

/-- An instruction: its number and its operands as words. -/
structure Instruction where
  opcode : Nat
  operands : List UInt32
  deriving DecidableEq, Repr

/-- The first word of an instruction holds the number of its words and its number. -/
def Instruction.words (instruction : Instruction) : List UInt32 :=
  UInt32.ofNat ((instruction.operands.length + 1) * 65536 + instruction.opcode) ::
    instruction.operands

/-- Packs bytes into words, four to a word and lowest first; missing bytes are zero. -/
def packBytes : List UInt8 → List UInt32
  | [] => []
  | [a] => [a.toUInt32]
  | [a, b] => [a.toUInt32 ||| (b.toUInt32 <<< 8)]
  | [a, b, c] => [a.toUInt32 ||| (b.toUInt32 <<< 8) ||| (c.toUInt32 <<< 16)]
  | a :: b :: c :: d :: rest =>
    (a.toUInt32 ||| (b.toUInt32 <<< 8) ||| (c.toUInt32 <<< 16) ||| (d.toUInt32 <<< 24)) ::
      packBytes rest

/-- A text as operands: its bytes and at least one zero byte. -/
def textWords (text : String) : List UInt32 :=
  packBytes (text.toUTF8.toList ++ [0])

namespace Op

/-- The numbers of the instructions that are written. -/
def name : Nat := 5
def memberName : Nat := 6
def extension : Nat := 10
def extInstImport : Nat := 11
def extInst : Nat := 12
def memoryModel : Nat := 14
def entryPoint : Nat := 15
def executionMode : Nat := 16
def capability : Nat := 17
def typeVoid : Nat := 19
def typeBool : Nat := 20
def typeInt : Nat := 21
def typeFloat : Nat := 22
def typeVector : Nat := 23
def typeArray : Nat := 28
def typeRuntimeArray : Nat := 29
def typeStruct : Nat := 30
def typePointer : Nat := 32
def typeFunction : Nat := 33
def constantTrue : Nat := 41
def constantFalse : Nat := 42
def constant : Nat := 43
def constantComposite : Nat := 44
def constantNull : Nat := 46
def function : Nat := 54
def functionParameter : Nat := 55
def functionEnd : Nat := 56
def functionCall : Nat := 57
def var : Nat := 59
def load : Nat := 61
def store : Nat := 62
def accessChain : Nat := 65
def decorate : Nat := 71
def memberDecorate : Nat := 72
def vectorExtractDynamic : Nat := 77
def vectorShuffle : Nat := 79
def compositeConstruct : Nat := 80
def compositeExtract : Nat := 81
def convertFToU : Nat := 109
def convertFToS : Nat := 110
def convertSToF : Nat := 111
def convertUToF : Nat := 112
def bitcast : Nat := 124
def sNegate : Nat := 126
def fNegate : Nat := 127
def iAdd : Nat := 128
def fAdd : Nat := 129
def iSub : Nat := 130
def fSub : Nat := 131
def iMul : Nat := 132
def fMul : Nat := 133
def uDiv : Nat := 134
def sDiv : Nat := 135
def fDiv : Nat := 136
def uMod : Nat := 137
def sRem : Nat := 138
def fRem : Nat := 140
def vectorTimesScalar : Nat := 142
def dot : Nat := 148
def any : Nat := 154
def all : Nat := 155
def logicalEqual : Nat := 164
def logicalNotEqual : Nat := 165
def logicalOr : Nat := 166
def logicalAnd : Nat := 167
def logicalNot : Nat := 168
def select : Nat := 169
def iEqual : Nat := 170
def iNotEqual : Nat := 171
def uGreaterThan : Nat := 172
def sGreaterThan : Nat := 173
def uGreaterThanEqual : Nat := 174
def sGreaterThanEqual : Nat := 175
def uLessThan : Nat := 176
def sLessThan : Nat := 177
def uLessThanEqual : Nat := 178
def sLessThanEqual : Nat := 179
def fOrdEqual : Nat := 180
def fOrdNotEqual : Nat := 182
def fUnordNotEqual : Nat := 183
def fOrdLessThan : Nat := 184
def fOrdGreaterThan : Nat := 186
def fOrdLessThanEqual : Nat := 188
def fOrdGreaterThanEqual : Nat := 190
def shiftRightLogical : Nat := 194
def shiftRightArithmetic : Nat := 195
def shiftLeftLogical : Nat := 196
def bitwiseOr : Nat := 197
def bitwiseXor : Nat := 198
def bitwiseAnd : Nat := 199
def not : Nat := 200
def loopMerge : Nat := 246
def selectionMerge : Nat := 247
def label : Nat := 248
def branch : Nat := 249
def branchConditional : Nat := 250
def kill : Nat := 252
def ret : Nat := 253
def returnValue : Nat := 254

end Op

/-- Storage classes. -/
inductive StorageClass where
  | input
  | uniform
  | output
  | workGroup
  | privateClass
  | function
  | pushConstant
  | storageBuffer
  deriving DecidableEq, Repr

/-- The number of a storage class. -/
def StorageClass.word : StorageClass → UInt32
  | input => 1
  | uniform => 2
  | output => 3
  | workGroup => 4
  | privateClass => 6
  | function => 7
  | pushConstant => 9
  | storageBuffer => 12

namespace Decoration

/-- The numbers of the decorations that are written. -/
def block : UInt32 := 2
def arrayStride : UInt32 := 6
def builtIn : UInt32 := 11
def noPerspective : UInt32 := 13
def flat : UInt32 := 14
def centroid : UInt32 := 16
def nonWritable : UInt32 := 24
def nonReadable : UInt32 := 25
def location : UInt32 := 30
def binding : UInt32 := 33
def descriptorSet : UInt32 := 34
def offset : UInt32 := 35

end Decoration

end ShaderBuild.Spirv
