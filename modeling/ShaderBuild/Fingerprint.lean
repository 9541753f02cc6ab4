import ShaderBuild.Digest
import ShaderBuild.Options
import ShaderBuild.Text.Hex

/-! Keys: the hash of a byte stream that spells out every input of a compile. -/

namespace ShaderBuild

/-- What a compile depends on. -/
structure Request where
  name : String
  source : String
  deriving DecidableEq, Repr

/-- The eight bytes of a length, lowest first. -/
def lengthBytes (length : Nat) : List UInt8 :=
  (List.range 8).map fun i => UInt8.ofNat (length >>> (8 * i))

/-- A text's bytes after their number. -/
def textField (text : String) : List UInt8 :=
  let bytes := text.toUTF8.toList
  lengthBytes bytes.length ++ bytes

/-- A truth value as one byte. -/
def flagByte (flag : Bool) : UInt8 :=
  if flag then 1 else 0

/-- The name of the key's format. -/
def keyFormat : String := "avd-shader/1"

/-- The definitions after their number, in the order of their names. -/
def definesField (defines : Defines) : List UInt8 :=
  lengthBytes defines.entries.length ++
    defines.entries.flatMap fun entry => textField entry.1 ++ textField entry.2

/-- The options as bytes. -/
def optionsField (options : Options) : List UInt8 :=
  [match options.stage with
    | none => 0
    | some stage => stage.tag,
    options.spirvVersion.1, options.spirvVersion.2, flagByte options.debugInfo,
    flagByte options.flipVertexY] ++ definesField options.defines

/-- The byte stream that stands for a request to a compiler. -/
def keyStream (compilerId : String) (request : Request) (options : Options) : List UInt8 :=
  textField keyFormat ++ textField compilerId ++ textField request.name ++
    textField request.source ++ optionsField options

/-- The key of a request: 128 bits. -/
structure Fingerprint where
  bits : BitVec 128
  deriving DecidableEq

namespace Fingerprint

instance : Ord Fingerprint := ⟨fun a b => compare a.bits.toNat b.bits.toNat⟩

/-- The key of a request to a compiler under some options. -/
def compute (compilerId : String) (request : Request) (options : Options) : Fingerprint :=
  ⟨Digest.hash128 (keyStream compilerId request options)⟩

/-- Thirty-two small hexadecimal digits. -/
def toText (fingerprint : Fingerprint) : List Char :=
  Text.hexFixed 32 fingerprint.bits.toNat

/-- Why a text is no key. -/
inductive ParseError where
  | empty
  | invalidDigit
  | overflow
  deriving DecidableEq, Repr

/-- What is said of a text that is no key. -/
def ParseError.message : ParseError → String
  | empty => "cannot parse integer from empty string"
  | invalidDigit => "invalid digit found in string"
  | overflow => "number too large to fit in target type"

/-- Reads digits onto a number; the first one that is no digit or does not fit ends the reading. -/
def parseDigits (value : Nat) : List Char → Except ParseError Nat
  | [] => .ok value
  | c :: rest =>
    match Text.hexValue? c with
    | none => .error .invalidDigit
    | some digit =>
      if 16 * value + digit < 0x100000000000000000000000000000000 then
        parseDigits (16 * value + digit) rest
      else .error .overflow

/-- Reads a key: hexadecimal digits after an optional plus sign. -/
def parse (text : List Char) : Except ParseError Fingerprint :=
  match text with
  | [] => .error .empty
  | ['+'] => .error .invalidDigit
  | '+' :: digits => (parseDigits 0 digits).map fun value => ⟨BitVec.ofNat 128 value⟩
  | digits => (parseDigits 0 digits).map fun value => ⟨BitVec.ofNat 128 value⟩

/-- A key's text has thirty-two characters. -/
theorem length_toText (fingerprint : Fingerprint) : fingerprint.toText.length = 32 :=
  -- The width of the text is fixed, whatever the number is.
  Text.length_hexFixed 32 _

/-- Puts a key into an ascending list without repetitions. -/
def insertSorted (key : Fingerprint) : List Fingerprint → List Fingerprint
  | [] => [key]
  | head :: rest =>
    if key.bits < head.bits then key :: head :: rest
    else if key = head then head :: rest
    else head :: insertSorted key rest

/-- The keys of a list in ascending order, each once. -/
def sortUnique (keys : List Fingerprint) : List Fingerprint :=
  keys.foldr insertSorted []

end Fingerprint

end ShaderBuild
