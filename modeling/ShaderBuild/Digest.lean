/-! The 128-bit hash XXH3 with seed zero, for inputs of every length. -/

namespace ShaderBuild.Digest

/-- The primes of the algorithm. -/
def prime32One : UInt64 := 0x9E3779B1
def prime32Two : UInt64 := 0x85EBCA77
def prime32Three : UInt64 := 0xC2B2AE3D
def prime64One : UInt64 := 0x9E3779B185EBCA87
def prime64Two : UInt64 := 0xC2B2AE3D27D4EB4F
def prime64Three : UInt64 := 0x165667B19E3779F9
def prime64Four : UInt64 := 0x85EBCA77C2B2AE63
def prime64Five : UInt64 := 0x27D4EB2F165667C5
def primeMixOne : UInt64 := 0x165667919E3779F9
def primeMixTwo : UInt64 := 0x9FB21C651E98DF25

/-- The constant bytes that inputs are mixed with. -/
def secret : Array UInt8 := #[
  0xb8, 0xfe, 0x6c, 0x39, 0x23, 0xa4, 0x4b, 0xbe, 0x7c, 0x01, 0x81, 0x2c, 0xf7, 0x21, 0xad, 0x1c,
  0xde, 0xd4, 0x6d, 0xe9, 0x83, 0x90, 0x97, 0xdb, 0x72, 0x40, 0xa4, 0xa4, 0xb7, 0xb3, 0x67, 0x1f,
  0xcb, 0x79, 0xe6, 0x4e, 0xcc, 0xc0, 0xe5, 0x78, 0x82, 0x5a, 0xd0, 0x7d, 0xcc, 0xff, 0x72, 0x21,
  0xb8, 0x08, 0x46, 0x74, 0xf7, 0x43, 0x24, 0x8e, 0xe0, 0x35, 0x90, 0xe6, 0x81, 0x3a, 0x26, 0x4c,
  0x3c, 0x28, 0x52, 0xbb, 0x91, 0xc3, 0x00, 0xcb, 0x88, 0xd0, 0x65, 0x8b, 0x1b, 0x53, 0x2e, 0xa3,
  0x71, 0x64, 0x48, 0x97, 0xa2, 0x0d, 0xf9, 0x4e, 0x38, 0x19, 0xef, 0x46, 0xa9, 0xde, 0xac, 0xd8,
  0xa8, 0xfa, 0x76, 0x3f, 0xe3, 0x9c, 0x34, 0x3f, 0xf9, 0xdc, 0xbb, 0xc7, 0xc7, 0x0b, 0x4f, 0x1d,
  0x8a, 0x51, 0xe0, 0x4b, 0xcd, 0xb4, 0x59, 0x31, 0xc8, 0x9f, 0x7e, 0xc9, 0xd9, 0x78, 0x73, 0x64,
  0xea, 0xc5, 0xac, 0x83, 0x34, 0xd3, 0xeb, 0xc3, 0xc5, 0x81, 0xa0, 0xff, 0xfa, 0x13, 0x63, 0xeb,
  0x17, 0x0d, 0xdd, 0x51, 0xb7, 0xf0, 0xda, 0x49, 0xd3, 0x16, 0x55, 0x26, 0x29, 0xd4, 0x68, 0x9e,
  0x2b, 0x16, 0xbe, 0x58, 0x7d, 0x47, 0xa1, 0xfc, 0x8f, 0xf8, 0xb8, 0xd1, 0x7a, 0xd0, 0x31, 0xce,
  0x45, 0xcb, 0x3a, 0x8f, 0x95, 0x16, 0x04, 0x28, 0xaf, 0xd7, 0xfb, 0xca, 0xbb, 0x4b, 0x40, 0x7e]

/-- The 32-bit number at an offset, lowest byte first. -/
def read32 (bytes : Array UInt8) (offset : Nat) : UInt32 :=
  (List.range 4).foldr (fun i acc => (acc <<< 8) ||| (bytes.getD (offset + i) 0).toUInt32) 0

/-- The 64-bit number at an offset, lowest byte first. -/
def read64 (bytes : Array UInt8) (offset : Nat) : UInt64 :=
  (read32 bytes offset).toUInt64 ||| ((read32 bytes (offset + 4)).toUInt64 <<< 32)

/-- A 128-bit value as its two halves. -/
structure Wide where
  low : UInt64
  high : UInt64

/-- The full product of two numbers. -/
def multiply (a b : UInt64) : Wide :=
  let product := a.toNat * b.toNat
  ⟨UInt64.ofNat product, UInt64.ofNat (product >>> 64)⟩

/-- The two halves of a product, combined. -/
def foldedProduct (a b : UInt64) : UInt64 :=
  let product := multiply a b
  product.low ^^^ product.high

/-- The bytes of a 32-bit number in the other order. -/
def swap32 (x : UInt32) : UInt32 :=
  (x <<< 24) ||| ((x &&& (0xFF00 : UInt32)) <<< 8) ||| ((x >>> 8) &&& (0xFF00 : UInt32)) |||
    (x >>> 24)

/-- The bytes of a 64-bit number in the other order. -/
def swap64 (x : UInt64) : UInt64 :=
  ((swap32 x.toUInt32).toUInt64 <<< 32) ||| (swap32 (x >>> 32).toUInt32).toUInt64

/-- The closing mix of medium and long inputs. -/
def avalanche (h : UInt64) : UInt64 :=
  let h := (h ^^^ (h >>> 37)) * primeMixOne
  h ^^^ (h >>> 32)

/-- The closing mix of the shortest inputs. -/
def avalancheShort (h : UInt64) : UInt64 :=
  let h := (h ^^^ (h >>> 33)) * prime64Two
  let h := (h ^^^ (h >>> 29)) * prime64Three
  h ^^^ (h >>> 32)

/-- The hash of no bytes. -/
def hashEmpty : Wide :=
  ⟨avalancheShort (read64 secret 64 ^^^ read64 secret 72),
    avalancheShort (read64 secret 80 ^^^ read64 secret 88)⟩

/-- The hash of one to three bytes. -/
def hashTiny (input : Array UInt8) : Wide :=
  let length := input.size
  let first := (input.getD 0 0).toUInt32
  let middle := (input.getD (length / 2) 0).toUInt32
  let last := (input.getD (length - 1) 0).toUInt32
  let low := (first <<< 16) ||| (middle <<< 24) ||| last ||| (UInt32.ofNat length <<< 8)
  let swapped := swap32 low
  let high := (swapped <<< 13) ||| (swapped >>> 19)
  ⟨avalancheShort (low.toUInt64 ^^^ (read32 secret 0 ^^^ read32 secret 4).toUInt64),
    avalancheShort (high.toUInt64 ^^^ (read32 secret 8 ^^^ read32 secret 12).toUInt64)⟩

/-- The hash of four to eight bytes. -/
def hashSmall (input : Array UInt8) : Wide :=
  let length := input.size
  let value := (read32 input 0).toUInt64 + ((read32 input (length - 4)).toUInt64 <<< 32)
  let keyed := value ^^^ (read64 secret 16 ^^^ read64 secret 24)
  let product := multiply keyed (prime64One + (UInt64.ofNat length <<< 2))
  let high := product.high + (product.low <<< 1)
  let low := product.low ^^^ (high >>> 3)
  let low := (low ^^^ (low >>> 35)) * primeMixTwo
  ⟨low ^^^ (low >>> 28), avalanche high⟩

/-- The hash of nine to sixteen bytes. -/
def hashBrief (input : Array UInt8) : Wide :=
  let length := input.size
  let flipLow := read64 secret 32 ^^^ read64 secret 40
  let flipHigh := read64 secret 48 ^^^ read64 secret 56
  let inputLow := read64 input 0
  let inputHigh := read64 input (length - 8)
  let product := multiply (inputLow ^^^ inputHigh ^^^ flipLow) prime64One
  let low := product.low + (UInt64.ofNat (length - 1) <<< 54)
  let mixed := inputHigh ^^^ flipHigh
  let high := product.high + mixed + (mixed &&& (0xFFFFFFFF : UInt64)) * (prime32Two - 1)
  let low := low ^^^ swap64 high
  let product := multiply low prime64Two
  ⟨avalanche product.low, avalanche (product.high + high * prime64Two)⟩

/-- Sixteen bytes of input against sixteen bytes of the secret. -/
def mix16 (input : Array UInt8) (offset secretOffset : Nat) : UInt64 :=
  foldedProduct (read64 input offset ^^^ read64 secret secretOffset)
    (read64 input (offset + 8) ^^^ read64 secret (secretOffset + 8))

/-- Two groups of sixteen bytes go into the halves of a value. -/
def mix32 (input : Array UInt8) (acc : Wide) (one two secretOffset : Nat) : Wide :=
  let low := acc.low + mix16 input one secretOffset
  let low := low ^^^ (read64 input two + read64 input (two + 8))
  let high := acc.high + mix16 input two (secretOffset + 16)
  let high := high ^^^ (read64 input one + read64 input (one + 8))
  ⟨low, high⟩

/-- The last step for inputs of medium length. -/
def finishMedium (length : Nat) (acc : Wide) : Wide :=
  ⟨avalanche (acc.low + acc.high),
    0 - avalanche (acc.low * prime64One + acc.high * prime64Four +
      UInt64.ofNat length * prime64Two)⟩

/-- The hash of 17 to 128 bytes: pairs of groups from both ends, the inner ones first. -/
def hashMedium (input : Array UInt8) : Wide :=
  let length := input.size
  let pairs := (length - 1) / 32
  let acc := (List.range (pairs + 1)).foldr
    (fun i acc => mix32 input acc (16 * i) (length - 16 * (i + 1)) (32 * i))
    ⟨UInt64.ofNat length * prime64One, 0⟩
  finishMedium length acc

/-- The hash of 129 to 240 bytes: pairs of groups in order, with one mix after the fourth. -/
def hashLarge (input : Array UInt8) : Wide :=
  let length := input.size
  let acc := (List.range 4).foldl
    (fun acc i => mix32 input acc (32 * i) (32 * i + 16) (32 * i))
    ⟨UInt64.ofNat length * prime64One, 0⟩
  let acc : Wide := ⟨avalanche acc.low, avalanche acc.high⟩
  let acc := (List.range (length / 32 - 4)).foldl
    (fun acc i => mix32 input acc (32 * (i + 4)) (32 * (i + 4) + 16) (3 + 32 * i)) acc
  finishMedium length (mix32 input acc (length - 16) (length - 32) 103)

/-- The eight lanes before any input. -/
def lanes : Array UInt64 :=
  #[prime32Three, prime64One, prime64Two, prime64Three, prime64Four, prime32Two, prime64Five,
    prime32One]

/-- Takes 64 bytes into the lanes. -/
def accumulate (input : Array UInt8) (acc : Array UInt64) (offset secretOffset : Nat) :
    Array UInt64 :=
  Array.ofFn fun lane : Fin 8 =>
    let i := lane.val
    let key := read64 input (offset + 8 * i) ^^^ read64 secret (secretOffset + 8 * i)
    let neighbour := if i % 2 = 0 then i + 1 else i - 1
    acc.getD i 0 + read64 input (offset + 8 * neighbour) +
      (key &&& (0xFFFFFFFF : UInt64)) * (key >>> 32)

/-- Mixes the lanes after a block. -/
def scramble (acc : Array UInt64) : Array UInt64 :=
  Array.ofFn fun lane : Fin 8 =>
    let value := acc.getD lane.val 0
    ((value ^^^ (value >>> 47)) ^^^ read64 secret (128 + 8 * lane.val)) * prime32One

/-- Folds the lanes into one number. -/
def mergeLanes (acc : Array UInt64) (secretOffset : Nat) (start : UInt64) : UInt64 :=
  avalanche ((List.range 4).foldl (fun sum i =>
    sum + foldedProduct (acc.getD (2 * i) 0 ^^^ read64 secret (secretOffset + 16 * i))
      (acc.getD (2 * i + 1) 0 ^^^ read64 secret (secretOffset + 16 * i + 8))) start)

/-- Takes some stripes of a block into the lanes. -/
def accumulateStripes (input : Array UInt8) (acc : Array UInt64) (block stripes : Nat) :
    Array UInt64 :=
  (List.range stripes).foldl
    (fun acc i => accumulate input acc (1024 * block + 64 * i) (8 * i)) acc

/-- The hash of more than 240 bytes. -/
def hashLong (input : Array UInt8) : Wide :=
  let length := input.size
  let blocks := (length - 1) / 1024
  let acc := (List.range blocks).foldl
    (fun acc block => scramble (accumulateStripes input acc block 16)) lanes
  let acc := accumulateStripes input acc blocks ((length - 1 - 1024 * blocks) / 64)
  let acc := accumulate input acc (length - 64) 121
  ⟨mergeLanes acc 11 (UInt64.ofNat length * prime64One),
    mergeLanes acc 117 (~~~(UInt64.ofNat length * prime64Two))⟩

/-- The hash of some bytes, by their number. -/
def hashWide (input : Array UInt8) : Wide :=
  let length := input.size
  if length = 0 then hashEmpty
  else if length ≤ 3 then hashTiny input
  else if length ≤ 8 then hashSmall input
  else if length ≤ 16 then hashBrief input
  else if length ≤ 128 then hashMedium input
  else if length ≤ 240 then hashLarge input
  else hashLong input

/-- The hash of some bytes as one number. -/
def hash128 (bytes : List UInt8) : BitVec 128 :=
  let wide := hashWide bytes.toArray
  BitVec.append wide.high.toBitVec wide.low.toBitVec

end ShaderBuild.Digest
