import ShaderBuild.Failure

/-! Compiled modules as words, and the byte streams that files hold. -/

namespace ShaderBuild

/-- The first word of every module. -/
def spirvMagic : UInt32 := 0x07230203

/-- A module: at least one word. -/
structure Bytecode where
  words : List UInt32
  nonempty : words ≠ []
  deriving DecidableEq

namespace Bytecode

/-- Words make a module unless there are none. -/
def ofWords (words : List UInt32) : Except Failure Bytecode :=
  if h : words = [] then .error (.contractViolation .emptyBytecode) else .ok ⟨words, h⟩

/-- The number of words. -/
def wordCount (bytecode : Bytecode) : Nat := bytecode.words.length

/-- The size of the module in bytes. -/
def byteLength (bytecode : Bytecode) : Nat := 4 * bytecode.wordCount

end Bytecode

/-- The bytes of a word, lowest first. -/
def littleEndian (word : UInt32) : List UInt8 :=
  [word.toUInt8, (word >>> 8).toUInt8, (word >>> 16).toUInt8, (word >>> 24).toUInt8]

/-- The bytes of a word, highest first. -/
def bigEndian (word : UInt32) : List UInt8 :=
  (littleEndian word).reverse

/-- The word whose bytes, lowest first, are given. -/
def wordOfBytes (b0 b1 b2 b3 : UInt8) : UInt32 :=
  b0.toUInt32 ||| (b1.toUInt32 <<< 8) ||| (b2.toUInt32 <<< 16) ||| (b3.toUInt32 <<< 24)

/-- The image of a module in a file: each word with its lowest byte first. -/
def bytesOfWords (words : List UInt32) : List UInt8 :=
  words.flatMap littleEndian

/-- Reads groups of four bytes, lowest first; bytes that fill no group are dropped. -/
def groupsLittle : List UInt8 → List UInt32
  | b0 :: b1 :: b2 :: b3 :: rest => wordOfBytes b0 b1 b2 b3 :: groupsLittle rest
  | _ => []

/-- Reads groups of four bytes, highest first; bytes that fill no group are dropped. -/
def groupsBig : List UInt8 → List UInt32
  | b0 :: b1 :: b2 :: b3 :: rest => wordOfBytes b3 b2 b1 b0 :: groupsBig rest
  | _ => []

/-- Reads a byte stream in the byte order that its first word shows. -/
def wordsOfBytes (bytes : List UInt8) : Except Failure (List UInt32) :=
  match bytes with
  | b0 :: b1 :: b2 :: b3 :: _ =>
    if bytes.length % 4 ≠ 0 then .error (.contractViolation (.byteLength bytes.length))
    else if wordOfBytes b0 b1 b2 b3 = spirvMagic then .ok (groupsLittle bytes)
    else if wordOfBytes b3 b2 b1 b0 = spirvMagic then .ok (groupsBig bytes)
    else .error (.contractViolation (.missingMagic (wordOfBytes b0 b1 b2 b3)))
  | _ => .error (.contractViolation (.byteLength bytes.length))

/-- Reads a module from a byte stream. -/
def Bytecode.ofBytes (bytes : List UInt8) : Except Failure Bytecode :=
  match wordsOfBytes bytes with
  | .ok words => Bytecode.ofWords words
  | .error failure => .error failure

end ShaderBuild
