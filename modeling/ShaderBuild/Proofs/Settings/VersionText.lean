import Mathlib.Data.Nat.Digits.Defs
import ShaderBuild.Proofs.Trimming
import ShaderBuild.Settings

/-! A text names at most one version, and the reader of versions finds it. -/

namespace ShaderBuild

namespace Text

/-- The number that decimal digits spell, the highest one first. -/
def decimalNumber (digits : List Char) : Nat :=
  Nat.ofDigits 10 (digits.reverse.map fun c => c.toNat - '0'.toNat)

/-- A numeral and its value: at least one decimal digit, after an optional plus sign. -/
def Numeral (text : List Char) (value : Nat) : Prop :=
  ∃ digits, (text = digits ∨ text = '+' :: digits) ∧ digits ≠ [] ∧
    (∀ c ∈ digits, '0' ≤ c ∧ c ≤ '9') ∧ decimalNumber digits = value

section Numerals

variable {text before after digits : List Char}

/-- Digits are summed up from the highest one on. -/
theorem foldl_digits (digits : List Char) :
    digits.foldl (fun value c => 10 * value + (c.toNat - 48)) 0 = decimalNumber digits := by
  -- The library's sum adds in the other order, so the steps are turned first.
  have steps : (fun value (c : Char) => 10 * value + (c.toNat - 48)) =
      fun value c => (c.toNat - '0'.toNat) + 10 * value := by
    funext value c
    exact Nat.add_comm _ _
  rw [decimalNumber, Nat.ofDigits_eq_foldr, List.foldr_map, List.foldr_reverse, steps]
  rfl

/-- Digits are those of core. -/
theorem all_isDigit_iff : digits.all Char.isDigit = true ↔ ∀ c ∈ digits, '0' ≤ c ∧ c ≤ '9' := by
  -- Core asks for the same two bounds.
  simp only [List.all_eq_true, Char.isDigit, Bool.and_eq_true, decide_eq_true_eq]
  rfl

/-- A sign that stands before digits is the first character. -/
theorem ne_plus_of_digits (decimal : ∀ c ∈ digits, '0' ≤ c ∧ c ≤ '9') (rest : List Char) :
    digits ≠ '+' :: rest := by
  -- The plus sign is below the first digit.
  rintro rfl
  exact absurd (decimal '+' List.mem_cons_self).1 (by decide)

/-- What stands before the first dot of a text and what stands behind it. -/
theorem cutAtFirstDot_eq_some_iff :
    cutAtFirstDot text = some (before, after) ↔ '.' ∉ before ∧ text = before ++ '.' :: after := by
  have whole := List.takeWhile_append_dropWhile (p := (· ≠ '.')) (l := text)
  constructor
  · intro cut
    rw [cutAtFirstDot] at cut
    split at cut
    · simp at cut
    · rename_i c rest left
      obtain ⟨rfl, rfl⟩ := Prod.mk.inj (Option.some.inj cut)
      obtain ⟨clean, -⟩ := takeWhile_eq_iff.mp (rfl : text.takeWhile (· ≠ '.') = _)
      -- What is left begins with the dot.
      have stops := List.head?_dropWhile_not (· ≠ '.') text
      simp only [left, List.head?_cons] at stops
      obtain rfl : c = '.' := by simpa using stops
      exact ⟨clean, by rw [← left]; exact whole.symm⟩
  · rintro ⟨clean, rfl⟩
    have first : (before ++ '.' :: after).takeWhile (· ≠ '.') = before :=
      takeWhile_eq_iff.mpr ⟨clean, Or.inr ⟨after, rfl⟩⟩
    rw [first] at whole
    rw [cutAtFirstDot, List.append_cancel_left whole, first]

end Numerals

end Text

open Text

section Versions

variable {numeral : List Char} {byte : UInt8} {text : String} {version : UInt8 × UInt8}

/-- The number of digits, when they are digits and it fits into a byte. -/
def byteOfDigits? (digits : List Char) : Option UInt8 :=
  if digits.isEmpty || !digits.all Char.isDigit then none
  else if decimalNumber digits < 256 then some (UInt8.ofNat (decimalNumber digits)) else none

/-- Digits are read when there are any and their number fits into a byte. -/
theorem byteOfDigits?_eq_some_iff {digits : List Char} : byteOfDigits? digits = some byte ↔
    digits ≠ [] ∧ (∀ c ∈ digits, '0' ≤ c ∧ c ≤ '9') ∧ decimalNumber digits = byte.toNat := by
  -- There are two checks, and what passes both loses nothing in a byte.
  rw [← all_isDigit_iff, byteOfDigits?]
  constructor
  · intro read
    split at read
    · simp at read
    · rename_i filled
      split at read
      · rename_i fits
        obtain rfl := Option.some.inj read
        rw [UInt8.toNat_ofNat', Nat.mod_eq_of_lt fits]
        simpa using filled
      · simp at read
  · rintro ⟨filled, decimal, number⟩
    rw [decimal, number, if_pos byte.toNat_lt, UInt8.ofNat_toNat]
    simpa using filled

/-- A plus sign is skipped. -/
theorem byteOfNumeral?_plus (digits : List Char) :
    byteOfNumeral? ('+' :: digits) = byteOfDigits? digits := by
  -- Both count the digits behind the sign.
  rw [byteOfDigits?, ← foldl_digits]
  rfl

/-- Without a plus sign all of the text has to be digits. -/
theorem byteOfNumeral?_plain (unsigned : ∀ rest, numeral ≠ '+' :: rest) :
    byteOfNumeral? numeral = byteOfDigits? numeral := by
  -- The branch for the sign is not taken.
  rw [byteOfDigits?, ← foldl_digits]
  unfold byteOfNumeral?
  split
  · rename_i rest
    exact absurd rfl (unsigned rest)
  · rfl

/-- A numeral is read when its value fits into a byte, and nothing else is read. -/
theorem byteOfNumeral?_eq_some_iff :
    byteOfNumeral? numeral = some byte ↔ Numeral numeral byte.toNat := by
  -- A plus sign in front is no digit, and so it is taken off in one way only.
  by_cases signed : ∃ rest, numeral = '+' :: rest
  · obtain ⟨rest, rfl⟩ := signed
    rw [byteOfNumeral?_plus, byteOfDigits?_eq_some_iff]
    constructor
    · exact fun digits => ⟨rest, Or.inr rfl, digits⟩
    · rintro ⟨digits, same | same, some_, decimal, number⟩
      · exact absurd same.symm (ne_plus_of_digits decimal rest)
      · obtain rfl := List.tail_eq_of_cons_eq same
        exact ⟨some_, decimal, number⟩
  · rw [not_exists] at signed
    rw [byteOfNumeral?_plain signed, byteOfDigits?_eq_some_iff]
    constructor
    · exact fun digits => ⟨numeral, Or.inl rfl, digits⟩
    · rintro ⟨digits, rfl | same, digits_⟩
      · exact digits_
      · exact absurd same (signed digits)

/-- A text names a version: it has two numerals with a dot between them, and blanks at its ends
only. -/
def NamesVersion (text : String) (version : UInt8 × UInt8) : Prop :=
  ∃ before after, Trimmed text.toList (before ++ '.' :: after) ∧ '.' ∉ before ∧
    Numeral before version.1.toNat ∧ Numeral after version.2.toNat ∧
    version.1 = 1 ∧ version.2 ≤ 6

/-- The version that a text names is found. -/
theorem versionOfText?_eq_some_iff :
    versionOfText? text = some version ↔ NamesVersion text version := by
  obtain ⟨major, minor⟩ := version
  -- The text is trimmed and cut at its first dot, and both numerals are read.
  simp only [versionOfText?, Option.bind_eq_bind, Option.bind_eq_some_iff]
  constructor
  · rintro ⟨⟨before, after⟩, cut, first, major', second, minor', kept⟩
    split at kept
    · simp at kept
    · rename_i within
      obtain ⟨rfl, rfl⟩ := Prod.mk.inj (Option.some.inj kept)
      rw [not_or, not_not, UInt8.not_lt] at within
      obtain ⟨clean, whole⟩ := cutAtFirstDot_eq_some_iff.mp cut
      exact ⟨before, after, whole ▸ trimmed_trim _, clean, byteOfNumeral?_eq_some_iff.mp major',
        byteOfNumeral?_eq_some_iff.mp minor', within⟩
  · rintro ⟨before, after, trimmed, clean, first, second, one, six⟩
    refine ⟨(before, after), ?_, major, byteOfNumeral?_eq_some_iff.mpr first, minor,
      byteOfNumeral?_eq_some_iff.mpr second, ?_⟩
    · rw [trimmed.trim_eq]
      exact cutAtFirstDot_eq_some_iff.mpr ⟨clean, rfl⟩
    · exact if_neg fun outside => outside.elim (· one) (UInt8.not_lt.mpr six)

/-- A version is read from the texts that name it. -/
theorem parseVersion_eq_ok_iff : parseVersion text = .ok version ↔ NamesVersion text version := by
  -- The parser reports exactly what is not found.
  rw [← versionOfText?_eq_some_iff, parseVersion]
  cases versionOfText? text <;> simp

end Versions

end ShaderBuild
