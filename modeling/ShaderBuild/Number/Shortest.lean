import ShaderBuild.Number.Binary

/-! The fewest decimal digits that read back as a floating-point number. -/

namespace ShaderBuild.Number

/-- Decimal digits and the power of ten that belongs to the last of them. -/
structure Decimal where
  digits : Nat
  exponent : Int
  deriving DecidableEq, Repr

namespace BinaryFormat

/-- The value of a finite number as a quotient. -/
def quotient (format : BinaryFormat) (magnitude : Nat) : Nat × Nat :=
  let (mantissa, step) := format.decode magnitude
  (mantissa * Nat.pow 2 step, Nat.pow 2 format.scale)

/-- The largest exponent `k` with `10 ^ k ≤ num / den`, searched downwards from a start. -/
def log10Below (num den : Nat) : Nat → Int → Int
  | 0, k => k
  | fuel + 1, k =>
    let fits := if 0 ≤ k then den * Nat.pow 10 k.toNat ≤ num else den ≤ num * Nat.pow 10 (-k).toNat
    if fits then k else log10Below num den fuel (k - 1)

/-- A quotient scaled by a power of ten. -/
def scaleTen (num den : Nat) (power : Int) : Nat × Nat :=
  if 0 ≤ power then (num * Nat.pow 10 power.toNat, den)
  else (num, den * Nat.pow 10 (-power).toNat)

/-- Whether `digits * 10 ^ exponent` rounds to the number with the given bits. -/
def readsBack (format : BinaryFormat) (magnitude digits : Nat) (exponent : Int) : Bool :=
  format.ofDecimal digits exponent == magnitude

/-- Tries the neighbours of a number on the grids of more and more digits. -/
def searchDigits (format : BinaryFormat) (magnitude num den : Nat) (top : Int) :
    Nat → Nat → Decimal
  | 0, count =>
    let exponent := top - count
    let (n, d) := scaleTen num den (-exponent)
    ⟨n / d, exponent⟩
  | fuel + 1, count =>
    let exponent := top - count
    let (n, d) := scaleTen num den (-exponent)
    let low := n / d
    let lowFits := readsBack format magnitude low exponent
    let highFits := readsBack format magnitude (low + 1) exponent
    if lowFits && (!highFits || 2 * (n % d) ≤ d) then ⟨low, exponent⟩
    else if highFits then ⟨low + 1, exponent⟩
    else searchDigits format magnitude num den top fuel (count + 1)

/-- The shortest decimal of a finite number, the nearest one among those. -/
def shortest (format : BinaryFormat) (magnitude : Nat) : Decimal :=
  if magnitude = 0 then ⟨0, 0⟩
  else
    let (num, den) := format.quotient magnitude
    let top := log10Below num den 800 400
    searchDigits format magnitude num den top 17 0

end BinaryFormat

namespace Decimal

/-- Drops the zeros at the end of the digits. -/
def trimZeros : Nat → Decimal → Decimal
  | 0, d => d
  | fuel + 1, d =>
    if d.digits ≠ 0 ∧ d.digits % 10 = 0 then trimZeros fuel ⟨d.digits / 10, d.exponent + 1⟩ else d

/-- The number without an exponent; a whole number has no point. -/
def positional (d : Decimal) : String :=
  let d := d.trimZeros 400
  let text := (toString d.digits).toList
  if 0 ≤ d.exponent then String.ofList (text ++ List.replicate d.exponent.toNat '0')
  else
    let places := (-d.exponent).toNat
    let padded := List.replicate (places + 1 - text.length) '0' ++ text
    String.ofList (padded.take (padded.length - places)) ++ "." ++
      String.ofList (padded.drop (padded.length - places))

/-- One digit before the point and the exponent after the letter e. -/
def scientific (d : Decimal) : String :=
  let d := d.trimZeros 400
  let text := (toString d.digits).toList
  let exponent := d.exponent + (text.length - 1 : Nat)
  match text with
  | [] => "0e0"
  | [first] => String.singleton first ++ "e" ++ toString exponent
  | first :: rest => String.singleton first ++ "." ++ String.ofList rest ++ "e" ++ toString exponent

end Decimal

/-- A floating-point number in a message: a point is always there, and numbers from ten to the
sixteenth on or below a ten-thousandth are scientific. The bounds are numbers of the same format. -/
def describeFloat (format : BinaryFormat) (bits : Nat) : String :=
  let signBit := Nat.pow 2 (format.precision - 1 + format.exponentBits)
  let negative := signBit ≤ bits
  let magnitude := bits % signBit
  let sign := if negative then "-" else ""
  if format.infinity < magnitude then "NaN"
  else if magnitude = format.infinity then sign ++ "inf"
  else
    let decimal := format.shortest magnitude
    -- The bits of numbers without a sign are in the order of the numbers.
    let large := decide (format.ofDecimal 1 16 ≤ magnitude)
    let small := decide (0 < magnitude ∧ magnitude < format.ofDecimal 1 (-4))
    if large || small then sign ++ decimal.scientific
    else
      let text := decimal.positional
      sign ++ if text.toList.contains '.' then text else text ++ ".0"

/-- A floating-point number without an exponent; a finite one always has a point. -/
def describePositional (format : BinaryFormat) (bits : Nat) : String :=
  let signBit := Nat.pow 2 (format.precision - 1 + format.exponentBits)
  let sign := if signBit ≤ bits then "-" else ""
  let magnitude := bits % signBit
  if format.infinity < magnitude then "NaN"
  else if magnitude = format.infinity then sign ++ "inf"
  else
    let text := (format.shortest magnitude).positional
    sign ++ if text.toList.contains '.' then text else text ++ ".0"

end ShaderBuild.Number
