import ShaderBuild.Heap
import ShaderBuild.Proofs.Bytecode

/-! A stream is read exactly when it is the image of marked words in one of two byte orders. -/

namespace ShaderBuild

/-- Which byte of a word comes first in a stream. -/
inductive ByteOrder where
  | lowestFirst
  | highestFirst
  deriving DecidableEq, Repr

/-- The stream that words become. -/
def ByteOrder.image : ByteOrder → List UInt32 → List UInt8
  | lowestFirst, words => words.flatMap littleEndian
  | highestFirst, words => words.flatMap bigEndian

/-- Words that begin with the magic number. -/
def Marked (words : List UInt32) : Prop :=
  words.head? = some spirvMagic

/-- Turns every group of four bytes round; bytes that fill no group stay. -/
def turnGroups : List UInt8 → List UInt8
  | b0 :: b1 :: b2 :: b3 :: rest => b3 :: b2 :: b1 :: b0 :: turnGroups rest
  | rest => rest

/-- What a stream that is no image is refused for. -/
def objection (bytes : List UInt8) : ContractFault :=
  if bytes = [] ∨ bytes.length % 4 ≠ 0 then .byteLength bytes.length
  else .missingMagic ((groupsLittle bytes).headD 0)

section Indices

/-- The word of the first four bytes. There is none if one of them is out of range. -/
def ByteOrder.word? (order : ByteOrder) (bytes : List UInt8) : Option UInt32 := do
  let b0 ← bytes[0]?
  let b1 ← bytes[1]?
  let b2 ← bytes[2]?
  let b3 ← bytes[3]?
  match order with
  | lowestFirst => return wordOfBytes b0 b1 b2 b3
  | highestFirst => return wordOfBytes b3 b2 b1 b0

/-- Cuts bytes into groups of four; bytes that fill no group are dropped. -/
def chunks : List UInt8 → List (List UInt8)
  | b0 :: b1 :: b2 :: b3 :: rest => [b0, b1, b2, b3] :: chunks rest
  | _ => []

/-- Reads a stream index by index. There is no result at all if an index is out of range. -/
def wordsByIndex? (bytes : List UInt8) : Option (Except Failure (List UInt32)) :=
  if bytes = [] ∨ bytes.length % 4 ≠ 0 then
    some (.error (.contractViolation (.byteLength bytes.length)))
  else do
    let little ← ByteOrder.lowestFirst.word? bytes
    let big ← ByteOrder.highestFirst.word? bytes
    if little = spirvMagic then
      return .ok (← (chunks bytes).mapM ByteOrder.lowestFirst.word?)
    else if big = spirvMagic then
      return .ok (← (chunks bytes).mapM ByteOrder.highestFirst.word?)
    else return .error (.contractViolation (.missingMagic little))

/-- Every group gives its word, lowest byte first. -/
theorem mapM_word?_lowestFirst (bytes : List UInt8) :
    (chunks bytes).mapM ByteOrder.lowestFirst.word? = some (groupsLittle bytes) := by
  -- Group by group, as the groups are cut.
  fun_induction chunks bytes with
  | case1 b0 b1 b2 b3 rest ih =>
    rw [List.mapM_cons, ih, groupsLittle]
    rfl
  | case2 bytes short =>
    rw [groupsLittle]
    · rfl
    · exact short

/-- Every group gives its word, highest byte first. -/
theorem mapM_word?_highestFirst (bytes : List UInt8) :
    (chunks bytes).mapM ByteOrder.highestFirst.word? = some (groupsBig bytes) := by
  -- The cases are those of the cut into groups: four bytes and a rest, or fewer than four.
  fun_induction chunks bytes with
  | case1 b0 b1 b2 b3 rest ih =>
    rw [List.mapM_cons, ih, groupsBig]
    rfl
  | case2 bytes short =>
    rw [groupsBig]
    · rfl
    · exact short

end Indices

/-- A stream whose length is wrong is refused for it. -/
theorem wordsOfBytes_of_uneven {bytes : List UInt8} (uneven : bytes = [] ∨ bytes.length % 4 ≠ 0) :
    wordsOfBytes bytes = .error (.contractViolation (.byteLength bytes.length)) := by
  -- The length is the first thing that is checked.
  unfold wordsOfBytes
  split
  · rename_i b0 b1 b2 b3 rest
    rw [if_pos (uneven.resolve_left (List.cons_ne_nil _ _))]
  · rfl

/-- Bytes that fill their groups are the image of the words that these make. -/
theorem bytesOfWords_groupsLittle {bytes : List UInt8} (whole : bytes.length % 4 = 0) :
    bytesOfWords (groupsLittle bytes) = bytes := by
  fun_induction groupsLittle bytes with
  | case1 b0 b1 b2 b3 rest ih =>
    have rest_ : rest.length % 4 = 0 := by
      simp only [List.length_cons] at whole
      omega
    have split : bytesOfWords (wordOfBytes b0 b1 b2 b3 :: groupsLittle rest) =
        littleEndian (wordOfBytes b0 b1 b2 b3) ++ bytesOfWords (groupsLittle rest) := rfl
    rw [split, ih rest_, littleEndian_wordOfBytes]
    rfl
  | case2 bytes short =>
    -- Less than four bytes fill their groups only if there are none.
    match bytes, short, whole with
    | [], _, _ => rfl
    | [_], _, whole | [_, _], _, whole | [_, _, _], _, whole => simp at whole
    | b0 :: b1 :: b2 :: b3 :: rest, short, _ => exact absurd rfl (short b0 b1 b2 b3 rest)

/-- A stream has a wrong length, or it is the image of some words. -/
theorem uneven_or_image (bytes : List UInt8) :
    (bytes = [] ∨ bytes.length % 4 ≠ 0) ∨
      ∃ word rest, bytes = bytesOfWords (word :: rest) := by
  -- A length that divides by four is that of the image of its own groups.
  by_cases uneven : bytes = [] ∨ bytes.length % 4 ≠ 0
  · exact Or.inl uneven
  · obtain ⟨some_, whole⟩ := not_or.mp uneven
    have image := bytesOfWords_groupsLittle (Decidable.not_not.mp whole)
    cases words : groupsLittle bytes with
    | nil =>
      rw [words] at image
      exact absurd image.symm some_
    | cons word rest => exact Or.inr ⟨word, rest, words ▸ image.symm⟩

/-- The image with the highest bytes first is the other one with its groups turned round. -/
theorem turnGroups_bytesOfWords (words : List UInt32) :
    turnGroups (bytesOfWords words) = words.flatMap bigEndian := by
  -- Each word fills exactly one group, so turning the groups round turns each word round.
  induction words with
  | nil => rfl
  | cons word words ih =>
    have split : turnGroups (bytesOfWords (word :: words)) =
        bigEndian word ++ turnGroups (bytesOfWords words) := rfl
    rw [split, ih, List.flatMap_cons]

/-- Groups that are turned round twice are as they were. -/
theorem turnGroups_turnGroups (bytes : List UInt8) : turnGroups (turnGroups bytes) = bytes := by
  -- The cases are those of the cut into groups; a rest of less than four bytes is left alone.
  fun_induction turnGroups bytes with
  | case1 b0 b1 b2 b3 rest ih =>
    rw [turnGroups, ih]
  | case2 bytes short =>
    rw [turnGroups]
    exact short

/-- The image with the highest bytes first is the other one of the words turned round. -/
theorem image_highestFirst (words : List UInt32) :
    ByteOrder.highestFirst.image words = bytesOfWords (words.map turned) :=
  -- The highest byte first is the lowest byte first of the word turned round.
  flatMap_bigEndian words

/-- Words that are turned round twice are as they were. -/
theorem map_turned_turned (words : List UInt32) : (words.map turned).map turned = words := by
  -- The argument for one word, taken to the list.
  have twice : turned ∘ turned = id := funext turned_turned
  rw [List.map_map, twice, List.map_id]

/-- The image of marked words is read as these words, in either order. -/
theorem wordsOfBytes_image {words : List UInt32} (marked : Marked words) (order : ByteOrder) :
    wordsOfBytes (order.image words) = .ok words := by
  cases words with
  | nil => simp [Marked] at marked
  | cons word rest =>
    obtain rfl : word = spirvMagic := Option.some.inj marked
    cases order with
    | lowestFirst => exact (wordsOfBytes_bytesOfWords _ rest).trans (if_pos rfl)
    | highestFirst =>
      -- The first word is then the magic number turned round, and all words are turned back.
      rw [image_highestFirst, List.map_cons, wordsOfBytes_bytesOfWords, if_neg (by decide),
        if_pos (turned_turned _), ← List.map_cons, map_turned_turned]

/-- What is read are marked words, and the stream is their image in one of the orders. -/
theorem image_of_wordsOfBytes {bytes : List UInt8} {words : List UInt32}
    (read : wordsOfBytes bytes = .ok words) :
    Marked words ∧ ∃ order : ByteOrder, bytes = order.image words := by
  rcases uneven_or_image bytes with uneven | ⟨word, rest, rfl⟩
  · simp [wordsOfBytes_of_uneven uneven] at read
  · rw [wordsOfBytes_bytesOfWords] at read
    split at read
    · -- The first word is the magic number.
      rename_i magic
      obtain rfl := Except.ok.inj read
      exact ⟨congrArg some magic, .lowestFirst, rfl⟩
    · split at read
      · rename_i magic
        obtain rfl := Except.ok.inj read
        refine ⟨congrArg some magic, .highestFirst, ?_⟩
        rw [image_highestFirst, map_turned_turned]
      · simp at read

/-- A stream that is no image of marked words is refused, for its length or for its first word. -/
theorem wordsOfBytes_of_no_image {bytes : List UInt8}
    (foreign_ : ∀ words (order : ByteOrder), Marked words → bytes ≠ order.image words) :
    wordsOfBytes bytes = .error (.contractViolation (objection bytes)) := by
  cases read : wordsOfBytes bytes with
  | ok words =>
    obtain ⟨marked, order, image⟩ := image_of_wordsOfBytes read
    exact absurd image (foreign_ words order marked)
  | error failure =>
    rcases uneven_or_image bytes with uneven | ⟨word, rest, rfl⟩
    · rw [wordsOfBytes_of_uneven uneven] at read
      rw [objection, if_pos uneven, ← read]
    · rw [wordsOfBytes_bytesOfWords] at read
      split at read
      · simp at read
      · split at read
        · simp at read
        · -- The length is right, and so the first word is at fault.
          have some_ : bytesOfWords (word :: rest) ≠ [] := List.cons_ne_nil _ _
          have whole : (bytesOfWords (word :: rest)).length % 4 = 0 := by
            rw [length_bytesOfWords, Nat.mul_mod_right]
          rw [objection, if_neg (by simp [some_, whole]), groupsLittle_bytesOfWords, ← read]
          rfl

/-- The first byte of an image of marked words tells its order. -/
theorem head?_image {words : List UInt32} (marked : Marked words) (order : ByteOrder) :
    (order.image words).head? = some (if order = .lowestFirst then 0x03 else 0x07) := by
  -- The first word is the magic number, and its outermost bytes differ.
  cases words with
  | nil => simp [Marked] at marked
  | cons word rest =>
    obtain rfl : word = spirvMagic := Option.some.inj marked
    cases order <;> rfl

/-- No stream is an image of marked words in both orders. -/
theorem order_unique {one two : List UInt32} (marked : Marked one) (marked' : Marked two)
    {order other : ByteOrder} (same : order.image one = other.image two) : order = other := by
  -- The first bytes differ when the orders do.
  have heads := congrArg List.head? same
  rw [head?_image marked, head?_image marked'] at heads
  cases order <;> cases other <;> simp_all

/-- Reading index by index gives the same, and so no index is out of range. -/
theorem wordsByIndex?_eq (bytes : List UInt8) :
    wordsByIndex? bytes = some (wordsOfBytes bytes) := by
  unfold wordsByIndex?
  by_cases uneven : bytes = [] ∨ bytes.length % 4 ≠ 0
  · rw [if_pos uneven, wordsOfBytes_of_uneven uneven]
  · rw [if_neg uneven, mapM_word?_lowestFirst, mapM_word?_highestFirst]
    -- The first four bytes are there, and they decide the order.
    obtain ⟨b0, b1, b2, b3, rest, rfl⟩ :
        ∃ b0 b1 b2 b3 rest, bytes = b0 :: b1 :: b2 :: b3 :: rest := by
      obtain ⟨word, rest, rfl⟩ := (uneven_or_image bytes).resolve_left uneven
      exact ⟨_, _, _, _, bytesOfWords rest, rfl⟩
    rw [wordsOfBytes, if_neg fun bad => uneven (Or.inr bad)]
    show (if wordOfBytes b0 b1 b2 b3 = spirvMagic then some (Except.ok _)
      else if wordOfBytes b3 b2 b1 b0 = spirvMagic then some (Except.ok _)
      else some (Except.error _)) = _
    split
    · rfl
    · split <;> rfl

/-- The words of a stream that is read make it again if its lowest bytes come first; otherwise they
make it with its groups turned round. -/
theorem bytesOfWords_of_read {bytes : List UInt8} {words : List UInt32}
    (read : wordsOfBytes bytes = .ok words) :
    (bytesOfWords words = bytes ↔
        ∃ others, Marked others ∧ bytes = ByteOrder.lowestFirst.image others) ∧
      (bytesOfWords words ≠ bytes → bytesOfWords words = turnGroups bytes) := by
  -- The stream is an image of the words in one order; which one it is decides both statements.
  obtain ⟨marked, order, image⟩ := image_of_wordsOfBytes read
  refine ⟨⟨fun same => ⟨words, marked, same.symm⟩, ?_⟩, fun differs => ?_⟩
  · rintro ⟨others, marked', image'⟩
    obtain rfl := order_unique marked marked' (image.symm.trans image')
    exact image.symm
  · cases order with
    | lowestFirst => exact absurd image.symm differs
    | highestFirst =>
      rw [image]
      show _ = turnGroups (words.flatMap bigEndian)
      rw [← turnGroups_bytesOfWords, turnGroups_turnGroups]

/-- Streams are read exactly as the images of marked words. What is no image is refused, and no byte
is looked for beyond the end of a stream. Modules come back from their images in both orders; the
order of an image is never in doubt; and words that were read make the stream again, or the stream
of the other order. -/
theorem wordsOfBytes_exact (bytes : List UInt8) :
    (∀ words, wordsOfBytes bytes = .ok words ↔
      Marked words ∧ ∃ order : ByteOrder, bytes = order.image words) ∧
    (∀ bytecode, Bytecode.ofBytes bytes = .ok bytecode ↔
      Marked bytecode.words ∧ ∃ order : ByteOrder, bytes = order.image bytecode.words) ∧
    ((∀ words (order : ByteOrder), Marked words → bytes ≠ order.image words) →
      wordsOfBytes bytes = .error (.contractViolation (objection bytes))) ∧
    wordsByIndex? bytes = some (wordsOfBytes bytes) ∧
    (∀ (heap : Heap) (shader : CompiledShader), Marked (shader.words heap) →
      wordsOfBytes (shader.toBytes heap) = .ok (shader.words heap) ∧
        wordsOfBytes (ByteOrder.highestFirst.image (shader.words heap)) =
          .ok (shader.words heap)) ∧
    (∀ one two, Marked one → Marked two → bytes = ByteOrder.lowestFirst.image one →
      bytes ≠ ByteOrder.highestFirst.image two) ∧
    (∀ words, wordsOfBytes bytes = .ok words →
      (bytesOfWords words = bytes ↔
        ∃ others, Marked others ∧ bytes = ByteOrder.lowestFirst.image others) ∧
      (bytesOfWords words ≠ bytes → bytesOfWords words = turnGroups bytes)) := by
  -- To be accepted is to be an image; the other parts are stated from there.
  have accepted : ∀ words, wordsOfBytes bytes = .ok words ↔
      Marked words ∧ ∃ order : ByteOrder, bytes = order.image words := by
    refine fun words => ⟨image_of_wordsOfBytes, ?_⟩
    rintro ⟨marked, order, rfl⟩
    exact wordsOfBytes_image marked order
  refine ⟨accepted, fun bytecode => Bytecode.ofBytes_eq_ok_iff.trans (accepted _),
    wordsOfBytes_of_no_image, wordsByIndex?_eq bytes, fun heap shader marked => ?_, ?_,
    fun words => bytesOfWords_of_read⟩
  · exact ⟨wordsOfBytes_image marked .lowestFirst, wordsOfBytes_image marked .highestFirst⟩
  · rintro one two marked marked' rfl same
    exact absurd (order_unique marked marked' same) (by decide)

/-- A stream with the highest bytes first is read, and its words make it turned round; one byte
more, and it is refused. -/
theorem wordsOfBytes_exact_of_highestFirst :
    wordsOfBytes [7, 0x23, 2, 3, 0, 1, 2, 3] = .ok [spirvMagic, 0x00010203] ∧
      bytesOfWords [spirvMagic, 0x00010203] = [3, 2, 0x23, 7, 3, 2, 1, 0] ∧
      wordsOfBytes [7, 0x23, 2, 3, 0] = .error (.contractViolation (.byteLength 5)) := by
  obtain ⟨accepted, -, -, -, -, -, again⟩ := wordsOfBytes_exact [7, 0x23, 2, 3, 0, 1, 2, 3]
  obtain ⟨-, -, refused, -⟩ := wordsOfBytes_exact [7, 0x23, 2, 3, 0]
  have read : wordsOfBytes [7, 0x23, 2, 3, 0, 1, 2, 3] = .ok [spirvMagic, 0x00010203] :=
    (accepted _).mpr ⟨rfl, .highestFirst, by decide⟩
  refine ⟨read, (again _ read).2 (by decide), refused fun words order marked image => ?_⟩
  -- An image fills its groups.
  have length : (order.image words).length % 4 = 0 := by
    cases order with
    | lowestFirst =>
      exact (congrArg (· % 4) (length_bytesOfWords words)).trans (Nat.mul_mod_right ..)
    | highestFirst =>
      rw [image_highestFirst, length_bytesOfWords, Nat.mul_mod_right]
  rw [← image] at length
  simp at length

end ShaderBuild
