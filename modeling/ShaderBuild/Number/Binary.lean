/-! Binary floating-point formats over exact natural numbers: decoding and rounding to nearest. -/

namespace ShaderBuild.Number

/-- A format: the digits of its mantissa and the exponent of its smallest step. -/
structure BinaryFormat where
  precision : Nat
  /-- Minus the exponent of the smallest positive number. -/
  scale : Nat
  /-- The width of the exponent field. -/
  exponentBits : Nat

/-- Single precision. -/
def single : BinaryFormat := ⟨24, 149, 8⟩

/-- Double precision. -/
def double : BinaryFormat := ⟨53, 1074, 11⟩

namespace BinaryFormat

/-- The bits of infinity. -/
def infinity (format : BinaryFormat) : Nat :=
  (Nat.pow 2 format.exponentBits - 1) * Nat.pow 2 (format.precision - 1)

/-- A quotient rounded to the nearest whole number; a half goes to the even neighbour. -/
def roundQuotient (num den : Nat) : Nat :=
  let q := num / den
  let r := num % den
  if 2 * r < den then q
  else if den < 2 * r then q + 1
  else q + q % 2

/-- The largest exponent `k` with `2 ^ k ≤ num / den`, for a positive quotient. -/
def log2Quotient (num den : Nat) : Int :=
  let guess : Int := (Nat.log2 num : Int) - (Nat.log2 den : Int)
  let fits :=
    if 0 ≤ guess then den * Nat.pow 2 guess.toNat ≤ num
    else den ≤ num * Nat.pow 2 (-guess).toNat
  if fits then guess else guess - 1

/-- The bits of the number nearest to a quotient; a number too large becomes infinity. -/
def round (format : BinaryFormat) (num den : Nat) : Nat :=
  if num = 0 ∨ den = 0 then 0
  else
    let lowest : Int := -(format.scale : Int)
    let step := max (log2Quotient num den - ((format.precision : Int) - 1)) lowest
    let mantissa :=
      if 0 ≤ step then roundQuotient num (den * Nat.pow 2 step.toNat)
      else roundQuotient (num * Nat.pow 2 (-step).toNat) den
    min ((step - lowest).toNat * Nat.pow 2 (format.precision - 1) + mantissa) format.infinity

/-- The bits of the number nearest to `digits * 10 ^ exponent`. -/
def ofDecimal (format : BinaryFormat) (digits : Nat) (exponent : Int) : Nat :=
  if digits = 0 then 0
  else if 400 < exponent then format.infinity
  else if exponent < -(400 + (Nat.log2 digits : Int)) then 0
  else if 0 ≤ exponent then format.round (digits * Nat.pow 10 exponent.toNat) 1
  else format.round digits (Nat.pow 10 (-exponent).toNat)

/-- The mantissa and the step of a finite number, sign left out: its value is their product with
`2 ^ (step - scale)`. -/
def decode (format : BinaryFormat) (magnitude : Nat) : Nat × Nat :=
  let unit := Nat.pow 2 (format.precision - 1)
  let field := magnitude / unit
  if field = 0 then (magnitude, 0) else (magnitude % unit + unit, field - 1)

/-- Whether the bits, sign left out, are those of a finite number. -/
def isFinite (format : BinaryFormat) (magnitude : Nat) : Bool :=
  magnitude < format.infinity

/-- Rounding a quotient misses it by at most half a unit. -/
theorem roundQuotient_near (num : Nat) {den : Nat} (positive : 0 < den) :
    2 * (roundQuotient num den * den) ≤ 2 * num + den ∧
      2 * num ≤ 2 * (roundQuotient num den * den) + den := by
  -- The quotient and the remainder rebuild the number, and each branch compares the remainder.
  have whole := Nat.div_add_mod num den
  have small := Nat.mod_lt num positive
  rw [Nat.mul_comm] at whole
  unfold roundQuotient
  simp only
  split
  · omega
  · split
    · rw [Nat.add_mul]; omega
    · rcases Nat.mod_two_eq_zero_or_one (num / den) with h | h
      · rw [h]; simp only [Nat.add_zero]; omega
      · rw [h, Nat.add_mul]; omega

end BinaryFormat

end ShaderBuild.Number
