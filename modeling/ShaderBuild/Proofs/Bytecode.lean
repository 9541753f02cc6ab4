import ShaderBuild.Bytecode

/-! Words come back from their image unless their first word is the magic number turned round. -/

namespace ShaderBuild

/-- A word with its bytes turned round. -/
def turned (word : UInt32) : UInt32 :=
  wordOfBytes (word >>> 24).toUInt8 (word >>> 16).toUInt8 (word >>> 8).toUInt8 word.toUInt8

/-- The magic number with its bytes turned round. -/
def turnedMagic : UInt32 := 0x03022307

/-- The four bytes of a word make that word. -/
theorem wordOfBytes_bytes (word : UInt32) :
    wordOfBytes word.toUInt8 (word >>> 8).toUInt8 (word >>> 16).toUInt8 (word >>> 24).toUInt8 =
      word := by
  -- Each of the thirty-two bits lies in one of the four bytes.
  apply UInt32.toBitVec_inj.mp
  have eight : UInt32.toBitVec 8 % 32 = 8#32 := rfl
  have sixteen : UInt32.toBitVec 16 % 32 = 16#32 := rfl
  have twentyFour : UInt32.toBitVec 24 % 32 = 24#32 := rfl
  simp only [wordOfBytes, UInt32.toBitVec_or, UInt32.toBitVec_shiftLeft, UInt8.toBitVec_toUInt32,
    UInt32.toBitVec_toUInt8, UInt32.toBitVec_shiftRight, eight, sixteen, twentyFour,
    BitVec.shiftLeft_eq', BitVec.ushiftRight_eq', BitVec.toNat_ofNat, Nat.reducePow, Nat.reduceMod]
  apply BitVec.eq_of_getLsbD_eq
  intro i bound
  simp only [BitVec.getLsbD_or, BitVec.getLsbD_shiftLeft, BitVec.getLsbD_setWidth,
    BitVec.getLsbD_ushiftRight]
  grind

/-- A word that is made of four bytes has these bytes. -/
theorem littleEndian_wordOfBytes (b0 b1 b2 b3 : UInt8) :
    littleEndian (wordOfBytes b0 b1 b2 b3) = [b0, b1, b2, b3] := by
  have eight : UInt32.toBitVec 8 % 32 = 8#32 := rfl
  have sixteen : UInt32.toBitVec 16 % 32 = 16#32 := rfl
  have twentyFour : UInt32.toBitVec 24 % 32 = 24#32 := rfl
  simp only [littleEndian, List.cons.injEq, and_true]
  -- Byte by byte, each bit of a byte is the one bit of the word at its place.
  refine ⟨?_, ?_, ?_, ?_⟩
  all_goals
    apply UInt8.toBitVec_inj.mp
    simp only [wordOfBytes, UInt32.toBitVec_or, UInt32.toBitVec_shiftLeft, UInt8.toBitVec_toUInt32,
      UInt32.toBitVec_toUInt8, UInt32.toBitVec_shiftRight, eight, sixteen, twentyFour,
      BitVec.shiftLeft_eq', BitVec.ushiftRight_eq', BitVec.toNat_ofNat, Nat.reducePow,
      Nat.reduceMod]
    apply BitVec.eq_of_getLsbD_eq
    intro i bound
    simp only [BitVec.getLsbD_setWidth, BitVec.getLsbD_or, BitVec.getLsbD_shiftLeft]
    grind

/-- Turning a word round twice gives it back. -/
theorem turned_turned (word : UInt32) : turned (turned word) = word := by
  -- The four bytes of the word that was put together are those it was put together from.
  have bytes := littleEndian_wordOfBytes (word >>> 24).toUInt8 (word >>> 16).toUInt8
    (word >>> 8).toUInt8 word.toUInt8
  simp only [littleEndian, List.cons.injEq, and_true] at bytes
  obtain ⟨first, second, third, fourth⟩ := bytes
  rw [turned, turned, first, second, third, fourth, wordOfBytes_bytes]

/-- The bytes of a word, highest first, are those of the word turned round, lowest first. -/
theorem bigEndian_eq (word : UInt32) : bigEndian word = littleEndian (turned word) := by
  -- The word turned round is put together from exactly these bytes.
  rw [turned, littleEndian_wordOfBytes]
  rfl

/-- The image of a module reads back, lowest bytes first. -/
theorem groupsLittle_bytesOfWords (words : List UInt32) :
    groupsLittle (bytesOfWords words) = words := by
  -- Four bytes for each word.
  induction words with
  | nil => rfl
  | cons word words ih =>
    have split : groupsLittle (bytesOfWords (word :: words)) =
        wordOfBytes word.toUInt8 (word >>> 8).toUInt8 (word >>> 16).toUInt8
          (word >>> 24).toUInt8 :: groupsLittle (bytesOfWords words) := rfl
    rw [split, wordOfBytes_bytes, ih]

/-- Read highest bytes first, the image of a module gives its words turned round. -/
theorem groupsBig_bytesOfWords (words : List UInt32) :
    groupsBig (bytesOfWords words) = words.map turned := by
  -- Four bytes for each word.
  induction words with
  | nil => rfl
  | cons word words ih =>
    have split : groupsBig (bytesOfWords (word :: words)) =
        turned word :: groupsBig (bytesOfWords words) := rfl
    rw [split, ih, List.map_cons]

/-- The image with the highest bytes first is that of the words turned round. -/
theorem flatMap_bigEndian (words : List UInt32) :
    words.flatMap bigEndian = bytesOfWords (words.map turned) := by
  -- Word by word.
  induction words with
  | nil => rfl
  | cons word words ih =>
    rw [List.flatMap_cons, ih, bigEndian_eq]
    rfl

/-- What is read begins with the magic number, in one byte order or the other. -/
theorem wordsOfBytes_cases {bytes : List UInt8} {words : List UInt32}
    (read : wordsOfBytes bytes = .ok words) :
    words.head? = some spirvMagic ∧ (groupsLittle bytes = words ∨ groupsBig bytes = words) := by
  unfold wordsOfBytes at read
  split at read
  · rename_i b0 b1 b2 b3 rest
    split at read
    · simp at read
    · split at read
      · -- The order is the usual one.
        rename_i magic
        rw [Except.ok.injEq] at read
        refine ⟨?_, Or.inl read⟩
        rw [← read]
        exact congrArg some magic
      · split at read
        · rename_i magic
          rw [Except.ok.injEq] at read
          refine ⟨?_, Or.inr read⟩
          rw [← read]
          exact congrArg some magic
        · simp at read
  · simp at read

/-- A module has four bytes for each word. -/
theorem length_bytesOfWords (words : List UInt32) :
    (bytesOfWords words).length = 4 * words.length := by
  -- Word by word.
  induction words with
  | nil => rfl
  | cons word words ih =>
    have split : (bytesOfWords (word :: words)).length = 4 + (bytesOfWords words).length := by
      rw [bytesOfWords, List.flatMap_cons, List.length_append]
      rfl
    rw [split, ih, List.length_cons]
    omega

/-- The bytes of words are read as these words, as the words turned round, or not at all; the first
word decides. -/
theorem wordsOfBytes_bytesOfWords (word : UInt32) (rest : List UInt32) :
    wordsOfBytes (bytesOfWords (word :: rest)) =
      if word = spirvMagic then .ok (word :: rest)
      else if turned word = spirvMagic then .ok ((word :: rest).map turned)
      else .error (.contractViolation (.missingMagic word)) := by
  have whole : (bytesOfWords (word :: rest)).length % 4 = 0 := by
    rw [length_bytesOfWords, Nat.mul_mod_right]
  -- The first four bytes are those of the first word, and they alone are compared.
  have front : bytesOfWords (word :: rest) = word.toUInt8 :: (word >>> 8).toUInt8 ::
      (word >>> 16).toUInt8 :: (word >>> 24).toUInt8 :: bytesOfWords rest := rfl
  have read : wordsOfBytes (bytesOfWords (word :: rest)) =
      if (bytesOfWords (word :: rest)).length % 4 ≠ 0 then
        .error (.contractViolation (.byteLength (bytesOfWords (word :: rest)).length))
      else if wordOfBytes word.toUInt8 (word >>> 8).toUInt8 (word >>> 16).toUInt8
          (word >>> 24).toUInt8 = spirvMagic then .ok (groupsLittle (bytesOfWords (word :: rest)))
      else if turned word = spirvMagic then .ok (groupsBig (bytesOfWords (word :: rest)))
      else .error (.contractViolation (.missingMagic (wordOfBytes word.toUInt8
        (word >>> 8).toUInt8 (word >>> 16).toUInt8 (word >>> 24).toUInt8))) := by
    rw [front]
    rfl
  rw [read, if_neg (by simp [whole]), wordOfBytes_bytes, groupsLittle_bytesOfWords,
    groupsBig_bytesOfWords]

/-- Bytes hold a module when its words can be read from them. -/
theorem Bytecode.ofBytes_eq_ok_iff {bytes : List UInt8} {bytecode : Bytecode} :
    Bytecode.ofBytes bytes = .ok bytecode ↔ wordsOfBytes bytes = .ok bytecode.words := by
  -- A module has a word, so that an empty reading is none.
  obtain ⟨words, nonempty⟩ := bytecode
  unfold Bytecode.ofBytes
  cases read : wordsOfBytes bytes with
  | error failure => simp
  | ok others =>
    simp only [Bytecode.ofWords]
    split
    · rename_i empty
      simp [empty, nonempty.symm]
    · simp

/-- The bytes of a module that begins with the magic number hold that module. -/
theorem Bytecode.ofBytes_bytesOfWords {bytecode : Bytecode}
    (marked : bytecode.words.head? = some spirvMagic) :
    Bytecode.ofBytes (bytesOfWords bytecode.words) = .ok bytecode := by
  -- The first word is the magic number, which tells the order of the bytes.
  rw [Bytecode.ofBytes_eq_ok_iff]
  cases words : bytecode.words with
  | nil => exact absurd words bytecode.nonempty
  | cons word rest =>
    rw [words, List.head?_cons, Option.some.injEq] at marked
    rw [wordsOfBytes_bytesOfWords, if_pos marked]

/-- The bytes hold the module, in one byte order or the other. -/
def Bytecode.Image (bytecode : Bytecode) (bytes : List UInt8) : Prop :=
  bytes = bytesOfWords bytecode.words ∨ bytes = bytecode.words.flatMap bigEndian

/-- Words that are read in the wrong order begin with the magic number only if the right ones begin
with its bytes turned round. -/
theorem head?_map_turned {words : List UInt32}
    (magic : (words.map turned).head? = some spirvMagic) : words.head? = some turnedMagic := by
  -- Only the first word counts, and turning it round again gives it back.
  cases words with
  | nil => simp at magic
  | cons word words =>
    simp only [List.map_cons, List.head?_cons, Option.some.injEq] at magic ⊢
    have back := turned_turned word
    rw [magic] at back
    exact back.symm

/-- An image of a module that can be read at all gives that module. -/
theorem Bytecode.ofBytes_image {bytecode read : Bytecode} {bytes : List UInt8}
    (image : bytecode.Image bytes) (plain : bytecode.words.head? ≠ some turnedMagic)
    (found : Bytecode.ofBytes bytes = .ok read) : read = bytecode := by
  -- It is enough to compare the words.
  have same : ∀ words, wordsOfBytes bytes = .ok words → words = bytecode.words := by
    intro words found
    obtain ⟨magic, order⟩ := wordsOfBytes_cases found
    rcases image with rfl | rfl
    · rcases order with rfl | rfl
      · exact groupsLittle_bytesOfWords _
      · rw [groupsBig_bytesOfWords] at magic
        exact absurd (head?_map_turned magic) plain
    · rw [flatMap_bigEndian] at order
      rcases order with rfl | rfl
      · rw [groupsLittle_bytesOfWords] at magic
        exact absurd (head?_map_turned magic) plain
      · rw [groupsBig_bytesOfWords, List.map_map]
        have twice : turned ∘ turned = id := funext turned_turned
        rw [twice, List.map_id]
  have equal := same read.words (Bytecode.ofBytes_eq_ok_iff.mp found)
  cases read
  cases bytecode
  rw [Bytecode.mk.injEq]
  exact equal

end ShaderBuild
