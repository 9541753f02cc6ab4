import Mathlib.Data.Char
import Mathlib.Data.List.Induction
import Mathlib.Data.List.Lex
import Mathlib.Data.Nat.Digits.Defs
import ShaderBuild.Proofs.Cache.KeyFile

/-! The texts of keys compare as their numbers do, and every spelling of a number is read. -/

namespace ShaderBuild

namespace Text

/-- A hexadecimal digit of either case. -/
def HexDigit (c : Char) : Prop :=
  ('0' ≤ c ∧ c ≤ '9') ∨ ('a' ≤ c ∧ c ≤ 'f') ∨ ('A' ≤ c ∧ c ≤ 'F')

/-- A hexadecimal digit that is no capital. -/
def SmallDigit (c : Char) : Prop :=
  ('0' ≤ c ∧ c ≤ '9') ∨ ('a' ≤ c ∧ c ≤ 'f')

instance (c : Char) : Decidable (HexDigit c) := inferInstanceAs (Decidable (_ ∨ _))

instance (c : Char) : Decidable (SmallDigit c) := inferInstanceAs (Decidable (_ ∨ _))

/-- What a digit counts; other characters count nothing. -/
def digitValue (c : Char) : Nat :=
  (hexValue? c).getD 0

/-- The number that digits spell, the highest one first. -/
def hexNumber (digits : List Char) : Nat :=
  Nat.ofDigits 16 (digits.reverse.map digitValue)

section Digits

variable {c : Char} {value width : Nat} {digits : List Char}

/-- Small digits are digits. -/
theorem SmallDigit.hexDigit (small : SmallDigit c) : HexDigit c :=
  -- They are one of the two kinds of letters.
  small.imp_right Or.inl

/-- A character has a value if and only if it is a digit. -/
theorem hexValue?_eq_some : hexValue? c = some value ↔ HexDigit c ∧ digitValue c = value := by
  -- The three ranges of digits do not meet, so the branch taken tells the kind of digit.
  unfold digitValue hexValue? HexDigit
  split_ifs with decimal small capital
  · simp [decimal]
  · simp [small]
  · simp [capital]
  · simp [decimal, small, capital]

/-- What has no value is no digit. -/
theorem hexValue?_eq_none : hexValue? c = none ↔ ¬HexDigit c := by
  -- A character outside all three ranges is in the last branch.
  unfold hexValue? HexDigit
  split_ifs with decimal small capital
  · simp [decimal]
  · simp [small]
  · simp [capital]
  · simp [decimal, small, capital]

/-- The character written for a value below sixteen is a small digit. -/
theorem smallDigit_hexDigit (below : value < 16) : SmallDigit (hexDigit value) := by
  -- Sixteen values, each written and checked.
  have all : ∀ value : Fin 16, SmallDigit (hexDigit value.val) := by decide
  exact all ⟨value, below⟩

/-- A small digit is the one that is written for its value, which is below sixteen. -/
theorem hexDigit_digitValue (small : SmallDigit c) :
    hexDigit (digitValue c) = c ∧ digitValue c < 16 := by
  -- Small digits are among the first 128 characters, and each of those is checked.
  have below : c.toNat < 128 := by
    rcases small with ⟨-, last⟩ | ⟨-, last⟩
    · exact Nat.lt_of_le_of_lt (show c.toNat ≤ 57 from last) (by decide)
    · exact Nat.lt_of_le_of_lt (show c.toNat ≤ 102 from last) (by decide)
  have all : ∀ code : Fin 128, SmallDigit (Char.ofNat code.val) →
      hexDigit (digitValue (Char.ofNat code.val)) = Char.ofNat code.val ∧
        digitValue (Char.ofNat code.val) < 16 := by
    decide
  have written := all ⟨c.toNat, below⟩
  rw [Char.ofNat_toNat] at written
  exact written small

/-- The last digit counts once, and those before it sixteen times as much. -/
theorem hexNumber_append_singleton (front : List Char) (c : Char) :
    hexNumber (front ++ [c]) = 16 * hexNumber front + digitValue c := by
  -- The digits are given lowest first to the library's sum, so the last one comes in front.
  rw [hexNumber, List.reverse_append, List.map_append, Nat.ofDigits_append]
  simp [hexNumber, Nat.add_comm]

/-- The first digit counts sixteen times for each one behind it. -/
theorem hexNumber_cons (c : Char) (rest : List Char) :
    hexNumber (c :: rest) = digitValue c * 16 ^ rest.length + hexNumber rest := by
  -- In the library's order the first digit is the highest one, behind all others.
  rw [hexNumber, List.reverse_cons, List.map_append, Nat.ofDigits_append]
  simp [hexNumber, Nat.add_comm, Nat.mul_comm]

/-- Every character of a number of some width is a small digit. -/
theorem smallDigit_of_mem_hexFixed (among : c ∈ hexFixed width value) : SmallDigit c := by
  -- Induction on the width: the last character is written for a remainder by sixteen.
  induction width generalizing value with
  | zero => simp [hexFixed] at among
  | succ width ih =>
    rw [hexFixed, List.mem_append, List.mem_singleton] at among
    rcases among with among | rfl
    · exact ih among
    · exact smallDigit_hexDigit (Nat.mod_lt _ (by decide))

/-- The digits of a number that fits into the width spell it. -/
theorem hexNumber_hexFixed (fits : value < 16 ^ width) :
    hexNumber (hexFixed width value) = value := by
  -- Induction on the width: the quotient by sixteen has the digits in front, the remainder the last
  -- one.
  induction width generalizing value with
  | zero =>
    rw [Nat.pow_zero, Nat.lt_one_iff] at fits
    rw [fits]
    rfl
  | succ width ih =>
    rw [Nat.pow_succ] at fits
    have front := ih (Nat.div_lt_of_lt_mul (Nat.mul_comm _ 16 ▸ fits))
    have last : digitValue (hexDigit (value % 16)) = value % 16 := by
      rw [digitValue, hexValue?_hexDigit (Nat.mod_lt _ (by decide)), Option.getD_some]
    rw [hexFixed, hexNumber_append_singleton, front, last]
    omega

/-- Small digits are those of the number that they spell. -/
theorem hexFixed_hexNumber (small : ∀ c ∈ digits, SmallDigit c) :
    hexFixed digits.length (hexNumber digits) = digits := by
  -- Digit by digit from the end, as a number is written.
  induction digits using List.reverseRecOn with
  | nil => rfl
  | append_singleton front last ih =>
    obtain ⟨written, below⟩ := hexDigit_digitValue (small last (by simp))
    have before : (16 * hexNumber front + digitValue last) / 16 = hexNumber front := by omega
    have behind : (16 * hexNumber front + digitValue last) % 16 = digitValue last := by omega
    rw [List.length_append, List.length_singleton, hexFixed, hexNumber_append_singleton, before,
      behind, written, ih fun c among => small c (by simp [among])]

/-- With as many characters before them, the last characters decide only between the same. -/
theorem append_singleton_lt {left right : List Char} {a b : Char}
    (long : left.length = right.length) :
    left ++ [a] < right ++ [b] ↔ left < right ∨ left = right ∧ a < b := by
  -- Induction on the first text; the lengths keep the last characters opposite to each other.
  induction left generalizing right with
  | nil =>
    obtain rfl := List.eq_nil_of_length_eq_zero long.symm
    simp [List.cons_lt_cons_iff]
  | cons c left ih =>
    obtain ⟨d, right, rfl⟩ := List.exists_cons_of_length_eq_add_one long.symm
    have rest : left.length = right.length := by simpa using long
    simp only [List.cons_append, List.cons_lt_cons_iff, ih rest, List.cons.injEq]
    tauto

/-- Numbers that fit into a width compare as their digits do. -/
theorem hexFixed_lt {first second : Nat} (fits : first < 16 ^ width) (fits' : second < 16 ^ width) :
    hexFixed width first < hexFixed width second ↔ first < second := by
  have digit : ∀ a b : Fin 16, hexDigit a.val < hexDigit b.val ↔ a.val < b.val := by decide
  -- The digits before the last one decide unless they are the same.
  induction width generalizing first second with
  | zero =>
    simp only [hexFixed, Nat.pow_zero] at fits fits' ⊢
    simp only [List.lt_irrefl, false_iff]
    omega
  | succ width ih =>
    rw [Nat.pow_succ] at fits fits'
    have below := Nat.div_lt_of_lt_mul (Nat.mul_comm _ 16 ▸ fits)
    have below' := Nat.div_lt_of_lt_mul (Nat.mul_comm _ 16 ▸ fits')
    have same : hexFixed width (first / 16) = hexFixed width (second / 16) ↔
        first / 16 = second / 16 :=
      ⟨eq_of_hexFixed below below', fun same => by rw [same]⟩
    have last := digit ⟨first % 16, Nat.mod_lt _ (by decide)⟩
      ⟨second % 16, Nat.mod_lt _ (by decide)⟩
    simp only at last
    have front : hexFixed width (first / 16) < hexFixed width (second / 16) ↔
        first / 16 < second / 16 := ih below below'
    rw [hexFixed, hexFixed, append_singleton_lt (by rw [length_hexFixed, length_hexFixed]),
      front, same, last]
    omega

end Digits

end Text

/-- A cache with a directory has another path for each key. -/
theorem Cache.key_of_diskPath? {cache : Cache} {first second : Fingerprint}
    (used : cache.diskDirectory.isSome) (same : cache.diskPath? first = cache.diskPath? second) :
    first = second := by
  obtain ⟨directory, used⟩ := Option.isSome_iff_exists.mp used
  have path : ∀ key, cache.diskPath? key = some (directory.join key.fileName) := fun key => by
    rw [Cache.diskPath?, used]
    rfl
  rw [path, path, Option.some.injEq] at same
  -- The two paths lead to one place.
  have place := congrArg Path.place same
  rw [Path.place_join_fileName, Path.place_join_fileName] at place
  exact Path.key_of_keyPlace place

namespace Fingerprint

variable {text digits : List Char} {key : Fingerprint}

/-- A text is some digits, at least one, with or without a plus sign before them. -/
structure Spelling (text digits : List Char) : Prop where
  sign : text = digits ∨ text = '+' :: digits
  some_digit : digits ≠ []
  all_digits : ∀ c ∈ digits, Text.HexDigit c

/-- Reading onto a number ends well if and only if digits follow and the number they make fits. -/
theorem parseDigits_eq_ok {value number : Nat} (fits : value < 2 ^ 128) :
    parseDigits value digits = .ok number ↔
      (∀ c ∈ digits, Text.HexDigit c) ∧
        value * 16 ^ digits.length + Text.hexNumber digits = number ∧ number < 2 ^ 128 := by
  -- Each digit makes the number sixteen times as large and adds its value.
  induction digits generalizing value with
  | nil =>
    have none : Text.hexNumber [] = 0 := rfl
    simp only [parseDigits, Except.ok.injEq, List.not_mem_nil, false_implies, implies_true,
      true_and, List.length_nil, Nat.pow_zero, Nat.mul_one, none, Nat.add_zero]
    exact ⟨fun same => ⟨same, same ▸ fits⟩, And.left⟩
  | cons c rest ih =>
    have more : value * 16 ^ (c :: rest).length + Text.hexNumber (c :: rest) =
        (16 * value + Text.digitValue c) * 16 ^ rest.length + Text.hexNumber rest := by
      rw [Text.hexNumber_cons, List.length_cons, Nat.pow_succ]
      ring
    rw [parseDigits, List.forall_mem_cons, more]
    cases read : Text.hexValue? c with
    | none =>
      have other := Text.hexValue?_eq_none.mp read
      simp [other]
    | some digit =>
      obtain ⟨hex, rfl⟩ := Text.hexValue?_eq_some.mp read
      simp only [hex, true_and]
      split_ifs with below
      · exact ih below
      · -- What follows does not make the number smaller.
        have large : 16 * value + Text.digitValue c ≤
            (16 * value + Text.digitValue c) * 16 ^ rest.length :=
          Nat.le_mul_of_pos_right _ (by positivity)
        simp only [false_iff, not_and]
        omega

/-- Digits are read as a key if and only if they spell the key's number. -/
theorem map_parseDigits_eq_ok :
    (parseDigits 0 digits).map (fun value => Fingerprint.mk (BitVec.ofNat 128 value)) = .ok key ↔
      (∀ c ∈ digits, Text.HexDigit c) ∧ Text.hexNumber digits = key.bits.toNat := by
  have reading := @parseDigits_eq_ok digits 0 key.bits.toNat (by positivity)
  rw [Nat.zero_mul, Nat.zero_add] at reading
  constructor
  · intro read
    cases parsed : parseDigits 0 digits with
    | error fault =>
      rw [parsed] at read
      cases read
    -- A number that was read fits into the key, and so the key keeps it.
    | ok number =>
      rw [parsed] at read
      obtain ⟨-, -, below⟩ := (parseDigits_eq_ok (by positivity)).mp parsed
      cases read
      have bits : (BitVec.ofNat 128 number).toNat = number := by
        rw [BitVec.toNat_ofNat, Nat.mod_eq_of_lt below]
      rw [bits] at reading ⊢
      exact ⟨(reading.mp parsed).1, (reading.mp parsed).2.1⟩
  · rintro ⟨hex, number⟩
    rw [reading.mpr ⟨hex, number, key.bits.isLt⟩]
    simp [Except.map]

/-- A text is read as a key if and only if it is digits, maybe behind a plus sign, that spell the
key's number. -/
theorem parse_eq_ok :
    parse text = .ok key ↔
      ∃ digits, Spelling text digits ∧ Text.hexNumber digits = key.bits.toNat := by
  have sign : ¬Text.HexDigit '+' := by decide
  unfold parse
  split
  · -- There is nothing to read.
    simp only [reduceCtorEq, false_iff]
    rintro ⟨digits, ⟨rfl | other, some_digit, -⟩, -⟩
    · exact some_digit rfl
    · cases other
  · simp only [reduceCtorEq, false_iff]
    rintro ⟨digits, ⟨rfl | same, some_digit, all_digits⟩, -⟩
    · exact sign (all_digits _ (by simp))
    · cases same
      exact some_digit rfl
  · rename_i digits more
    rw [map_parseDigits_eq_ok]
    constructor
    · rintro ⟨all_digits, number⟩
      exact ⟨digits, ⟨Or.inr rfl, fun none => more (by rw [none]), all_digits⟩, number⟩
    · -- The sign is no digit, so it stands before them.
      rintro ⟨another, ⟨rfl | same, -, all_digits⟩, number⟩
      · exact absurd (all_digits _ (by simp)) sign
      · cases same
        exact ⟨all_digits, number⟩
  · rename_i nonempty alone unsigned
    rw [map_parseDigits_eq_ok]
    constructor
    · rintro ⟨all_digits, number⟩
      exact ⟨text, ⟨Or.inl rfl, nonempty, all_digits⟩, number⟩
    · rintro ⟨another, ⟨rfl | same, -, all_digits⟩, number⟩
      · exact ⟨all_digits, number⟩
      · exact absurd same (unsigned _)

/-- Keys compare as their texts do. -/
theorem toText_lt (first second : Fingerprint) :
    first.toText < second.toText ↔ compare first second = .lt := by
  -- Both texts have the full width, where texts compare as numbers do.
  rw [toText, toText, Text.hexFixed_lt first.bits.isLt second.bits.isLt]
  exact Nat.compare_eq_lt.symm

/-- The text of a key spells it. -/
theorem spelling_toText (key : Fingerprint) : Spelling key.toText key.toText where
  -- What is written has no sign in front, and its width rules out the empty text.
  sign := Or.inl rfl
  some_digit none := by
    have long := length_toText key
    rw [none] at long
    cases long
  all_digits c among := (Text.smallDigit_of_mem_hexFixed among).hexDigit

/-- The text of a key is read as that key. -/
theorem parse_toText (key : Fingerprint) : parse key.toText = .ok key :=
  -- The number fits into the width, so its digits spell it.
  parse_eq_ok.mpr ⟨key.toText, spelling_toText key, Text.hexNumber_hexFixed key.bits.isLt⟩

/-- A text that is read as a key is the one written for it if and only if it is thirty-two small
digits. -/
theorem toText_eq_of_parse (read : parse text = .ok key) :
    key.toText = text ↔ text.length = 32 ∧ ∀ c ∈ text, Text.SmallDigit c := by
  -- A text that is read may begin with a plus sign, which is no small digit.
  constructor
  · rintro rfl
    exact ⟨length_toText key, fun c among => Text.smallDigit_of_mem_hexFixed among⟩
  · rintro ⟨long, small⟩
    obtain ⟨digits, ⟨rfl | rfl, -, -⟩, number⟩ := parse_eq_ok.mp read
    · rw [toText, ← number, ← long, Text.hexFixed_hexNumber small]
    · exact absurd (small '+' (by simp)) (by decide)

/-- The keys of a list come out of its sorting as its texts do out of theirs. -/
theorem map_toText_mergeSort (keys : List Fingerprint) :
    (keys.mergeSort fun first second => (compare first second).isLE).map toText =
      (keys.map toText).mergeSort := by
  refine List.map_mergeSort fun first _ second _ => ?_
  -- One key is not above another one if and only if the other one is not below it.
  have below := toText_lt second first
  have order : (compare first second).isLE ↔ ¬compare second first = .lt := by
    rw [show compare first second = compare first.bits.toNat second.bits.toNat from rfl,
      show compare second first = compare second.bits.toNat first.bits.toNat from rfl,
      Nat.isLE_compare, Nat.compare_eq_lt, Nat.not_lt]
  rw [Bool.eq_iff_iff, decide_eq_true_iff, order, ← below, not_lt]

/-- A key is put into a list beside the keys that are there. -/
theorem mem_insertSorted {key another : Fingerprint} {keys : List Fingerprint} :
    another ∈ insertSorted key keys ↔ another = key ∨ another ∈ keys := by
  -- Induction along the keys in front of which the new one is not put.
  induction keys with
  | nil => simp [insertSorted]
  | cons head rest ih =>
    rw [insertSorted]
    split_ifs with below same
    · exact List.mem_cons
    · simp [same]
    · rw [List.mem_cons, ih, List.mem_cons]
      tauto

/-- A key put into an ascending list leaves it ascending. -/
theorem pairwise_insertSorted (key : Fingerprint) {keys : List Fingerprint}
    (ascending : keys.Pairwise fun first second => first.bits < second.bits) :
    (insertSorted key keys).Pairwise fun first second => first.bits < second.bits := by
  induction keys with
  | nil => exact List.pairwise_singleton _ _
  | cons head rest ih =>
    obtain ⟨first, ascending⟩ := List.pairwise_cons.mp ascending
    rw [insertSorted]
    split_ifs with below same
    · refine List.pairwise_cons.mpr
        ⟨fun another among => ?_, List.pairwise_cons.mpr ⟨first, ascending⟩⟩
      rcases List.mem_cons.mp among with rfl | among
      · exact below
      · exact BitVec.lt_trans below (first another among)
    · exact List.pairwise_cons.mpr ⟨first, ascending⟩
    · refine List.pairwise_cons.mpr ⟨fun another among => ?_, ih ascending⟩
      rcases mem_insertSorted.mp among with rfl | among
      · -- The key is neither below the first one nor the first one.
        have other : another.bits.toNat ≠ head.bits.toNat := fun bits =>
          same (congrArg mk (BitVec.eq_of_toNat_eq bits))
        rw [BitVec.lt_def] at below ⊢
        omega
      · exact first another among

/-- The keys of a list in order are the list's keys. -/
theorem mem_sortUnique {key : Fingerprint} {keys : List Fingerprint} :
    key ∈ sortUnique keys ↔ key ∈ keys := by
  -- Induction on the keys: sorting puts in one after the other.
  induction keys with
  | nil => simp [sortUnique]
  | cons head rest ih =>
    rw [sortUnique, List.foldr_cons, ← sortUnique, mem_insertSorted, ih, List.mem_cons]

/-- The texts of a list's keys in order ascend. -/
theorem pairwise_sortUnique (keys : List Fingerprint) :
    ((sortUnique keys).map toText).Pairwise (· < ·) := by
  -- Keys are put in before larger ones, and texts compare as keys do.
  have ascending : (sortUnique keys).Pairwise fun first second => first.bits < second.bits := by
    induction keys with
    | nil => exact List.Pairwise.nil
    | cons head rest ih => exact pairwise_insertSorted head ih
  refine List.pairwise_map.mpr (ascending.imp fun {first second} below => ?_)
  exact (toText_lt first second).mpr (Nat.compare_eq_lt.mpr below)

/-- Keys and texts stand for each other: a key's text has thirty-two small digits, is read as that
key, and is before another one as the key is, so that no two keys have one file and keys are sorted
as their texts are; and the texts that are read are the spellings of numbers that fit, of which the
key's own text is the only one that is thirty-two small digits. -/
theorem text_stands_for_key :
    (∀ key : Fingerprint, key.toText.length = 32 ∧ (∀ c ∈ key.toText, Text.SmallDigit c) ∧
      parse key.toText = .ok key) ∧
    (∀ first second : Fingerprint, compare first second = .lt ↔ first.toText < second.toText) ∧
    (∀ (cache : Cache) (first second : Fingerprint), cache.diskDirectory.isSome →
      cache.diskPath? first = cache.diskPath? second → first = second) ∧
    (∀ keys : List Fingerprint,
      (keys.mergeSort fun first second => (compare first second).isLE).map toText =
        (keys.map toText).mergeSort ∧
      ((sortUnique keys).map toText).Pairwise (· < ·) ∧
      ∀ key, key ∈ sortUnique keys ↔ key ∈ keys) ∧
    (∀ text, (∃ key, parse text = .ok key) ↔
      ∃ digits, Spelling text digits ∧ Text.hexNumber digits < 2 ^ 128) ∧
    ∀ text key, parse text = .ok key →
      (∃ digits, Spelling text digits ∧ Text.hexNumber digits = key.bits.toNat) ∧
      (key.toText = text ↔ text.length = 32 ∧ ∀ c ∈ text, Text.SmallDigit c) := by
  -- Each part has its own lemma; what is left is which numbers are read at all.
  refine ⟨fun key => ⟨length_toText key, fun c among => Text.smallDigit_of_mem_hexFixed among,
    parse_toText key⟩, fun first second => (toText_lt first second).symm,
    fun cache first second used => Cache.key_of_diskPath? used, fun keys =>
    ⟨map_toText_mergeSort keys, pairwise_sortUnique keys, fun key => mem_sortUnique⟩,
    fun text => ?_,
    fun text key read => ⟨parse_eq_ok.mp read, toText_eq_of_parse read⟩⟩
  · constructor
    · rintro ⟨key, read⟩
      obtain ⟨digits, spelling, number⟩ := parse_eq_ok.mp read
      exact ⟨digits, spelling, number ▸ key.bits.isLt⟩
    · rintro ⟨digits, spelling, below⟩
      have bits : (BitVec.ofNat 128 (Text.hexNumber digits)).toNat = Text.hexNumber digits := by
        rw [BitVec.toNat_ofNat, Nat.mod_eq_of_lt below]
      exact ⟨⟨BitVec.ofNat 128 (Text.hexNumber digits)⟩,
        parse_eq_ok.mpr ⟨digits, spelling, bits.symm⟩⟩

-- A sign, zeros and capitals are read, but not written.
example : parse "+00Ff".toList = .ok ⟨255⟩ := by rfl

end Fingerprint

end ShaderBuild
