/-! Blank characters, trimming and ASCII letter case over lists of characters. -/

namespace ShaderBuild.Text

/-- A character of the Unicode property White_Space. -/
def isBlank (c : Char) : Bool :=
  let n := c.toNat
  (0x09 ≤ n && n ≤ 0x0D) || n == 0x20 || n == 0x85 || n == 0xA0 || n == 0x1680 ||
    (0x2000 ≤ n && n ≤ 0x200A) || n == 0x2028 || n == 0x2029 || n == 0x202F || n == 0x205F ||
    n == 0x3000

/-- The text without its leading blanks. -/
def trimLeft (text : List Char) : List Char :=
  text.dropWhile isBlank

/-- The text without its leading and trailing blanks. -/
def trim (text : List Char) : List Char :=
  (trimLeft (trimLeft text).reverse).reverse

/-- An ASCII capital becomes its small letter, and every other character stays. -/
def lowerAscii (c : Char) : Char :=
  if 'A' ≤ c ∧ c ≤ 'Z' then Char.ofNat (c.toNat + 32) else c

/-- Two texts that differ at most in the case of ASCII letters. -/
def eqIgnoringCase (left right : List Char) : Bool :=
  left.map lowerAscii == right.map lowerAscii

/-- What follows a leading text, when it is there. -/
def dropLeading? : List Char → List Char → Option (List Char)
  | [], text => some text
  | _ :: _, [] => none
  | c :: leading, d :: text => if c = d then dropLeading? leading text else none

/-- The pieces of a text between the occurrences of a character; there is always one. -/
def splitAtChar (mark : Char) : List Char → List (List Char)
  | [] => [[]]
  | c :: text =>
    if c = mark then [] :: splitAtChar mark text
    else
      match splitAtChar mark text with
      | [] => [[c]]
      | piece :: pieces => (c :: piece) :: pieces

/-- What a text begins with can be dropped from it. -/
theorem dropLeading?_append (leading text : List Char) :
    dropLeading? leading (leading ++ text) = some text := by
  -- Each leading character meets itself.
  induction leading with
  | nil => simp [dropLeading?]
  | cons c leading ih => simp [dropLeading?, ih]

end ShaderBuild.Text
