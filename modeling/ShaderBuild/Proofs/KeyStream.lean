import Mathlib.Algebra.Group.Nat.Defs
import ShaderBuild.Association
import ShaderBuild.Fingerprint

/-! The byte stream of a key is read back in one way only, with its definitions as a map. -/

namespace ShaderBuild

/-- Reading an array of bytes from some place on puts the rest behind what was read before. -/
theorem toList_loop (bytes : ByteArray) (i : Nat) (done : List UInt8) :
    ByteArray.toList.loop bytes i done = done.reverse ++ bytes.data.toList.drop i := by
  -- The loop puts each byte before those that it has read, and turns them round at the end.
  fun_induction ByteArray.toList.loop bytes i done with
  | case1 i done inside ih =>
    have within : i < bytes.data.toList.length := by simpa using inside
    have here : bytes.get! i = bytes.data.toList[i] := getElem!_pos bytes.data i inside
    rw [ih, List.drop_eq_getElem_cons within, here, List.reverse_cons, List.append_assoc,
      List.singleton_append]
  | case2 i done outside =>
    have nothing : bytes.data.toList.drop i = [] :=
      List.drop_eq_nil_of_le (by simpa using Nat.le_of_not_lt outside)
    rw [nothing, List.append_nil]

/-- The bytes of a text as its array holds them. -/
theorem toList_toUTF8 (text : String) : text.toUTF8.toList = text.toByteArray.data.toList := by
  -- The list is built by a loop that goes through the array from its front.
  show ByteArray.toList.loop _ 0 [] = _
  rw [toList_loop]
  rfl

/-- Different texts have different bytes. -/
theorem toUTF8_injective {first second : String}
    (same : first.toUTF8.toList = second.toUTF8.toList) : first = second := by
  -- A text is its bytes.
  rw [toList_toUTF8, toList_toUTF8] at same
  exact String.toByteArray_inj.mp (ByteArray.ext (Array.toList_inj.mp same))

/-- A text has as many bytes as its size says. -/
theorem length_toUTF8 (text : String) : text.toUTF8.toList.length = text.utf8ByteSize := by
  -- The size of a text is defined as the size of its array.
  rw [toList_toUTF8, Array.length_toList]
  exact String.size_toByteArray

/-- Numbers of a width are the same when their digits to the base of 256 are. -/
theorem eq_of_digits {width first second : Nat} (small : first < 256 ^ width)
    (small' : second < 256 ^ width)
    (same : ∀ i < width, first / 256 ^ i % 256 = second / 256 ^ i % 256) : first = second := by
  -- The lowest digits are the same, and so are the numbers without them.
  induction width generalizing first second with
  | zero => omega
  | succ width ih =>
    have lowest := same 0 (Nat.zero_lt_succ _)
    have rest : first / 256 = second / 256 := by
      rw [Nat.pow_succ'] at small small'
      refine ih (Nat.div_lt_of_lt_mul small) (Nat.div_lt_of_lt_mul small') fun i below => ?_
      -- The next digit is the first one of the number without its lowest.
      have digit := same (i + 1) (Nat.succ_lt_succ below)
      rw [Nat.pow_succ'] at digit
      rw [Nat.div_div_eq_div_mul, Nat.div_div_eq_div_mul]
      exact digit
    simp only [Nat.pow_zero, Nat.div_one] at lowest
    omega

/-- A length takes eight bytes. -/
theorem length_lengthBytes (length : Nat) : (lengthBytes length).length = 8 := by
  rw [lengthBytes, List.length_map, List.length_range]

/-- Lengths that eight bytes can hold are told apart by them. -/
theorem lengthBytes_injective {first second : Nat} (small : first < 2 ^ 64)
    (small' : second < 2 ^ 64) (same : lengthBytes first = lengthBytes second) :
    first = second := by
  refine @eq_of_digits 8 _ _ small small' fun i below => ?_
  -- The byte at each place is the digit of that place.
  have bytes := List.map_inj_left.mp same i (List.mem_range.mpr below)
  have digits := congrArg UInt8.toNat bytes
  rw [UInt8.toNat_ofNat', UInt8.toNat_ofNat', Nat.shiftRight_eq_div_pow,
    Nat.shiftRight_eq_div_pow, Nat.pow_mul] at digits
  exact digits

/-- The bytes of a text can be counted in eight bytes. -/
def Addressable (text : String) : Prop := text.utf8ByteSize < 2 ^ 64

instance (text : String) : Decidable (Addressable text) :=
  inferInstanceAs (Decidable (text.utf8ByteSize < 2 ^ 64))

/-- Where a text's field ends and what follows it can be told from the bytes. -/
theorem textField_append_inj {first second : String} {rest others : List UInt8}
    (short : Addressable first) (short' : Addressable second)
    (same : textField first ++ rest = textField second ++ others) :
    first = second ∧ rest = others := by
  simp only [textField, List.append_assoc] at same
  -- The first eight bytes say how many of the next ones belong to the text.
  obtain ⟨counts, bytes⟩ := List.append_inj same (by rw [length_lengthBytes, length_lengthBytes])
  rw [length_toUTF8, length_toUTF8] at counts
  -- The texts are as long as each other, and so the rests begin at the same place.
  have sizes := lengthBytes_injective short short' counts
  obtain ⟨texts, rest⟩ := List.append_inj bytes (by rw [length_toUTF8, length_toUTF8, sizes])
  exact ⟨toUTF8_injective texts, rest⟩

/-- A text's field is not empty. -/
theorem textField_append_ne_nil (text : String) (rest : List UInt8) :
    textField text ++ rest ≠ [] := by
  -- The length in front takes eight bytes, even that of an empty text.
  intro empty
  have length := congrArg List.length empty
  simp only [textField, List.length_append, length_lengthBytes, List.length_nil] at length
  omega

/-- Definitions whose names and values can be counted are told apart by their bytes. -/
theorem entries_injective {first second : List (String × String)}
    (short : ∀ entry ∈ first, Addressable entry.1 ∧ Addressable entry.2)
    (short' : ∀ entry ∈ second, Addressable entry.1 ∧ Addressable entry.2)
    (same : (first.flatMap fun entry => textField entry.1 ++ textField entry.2) =
      second.flatMap fun entry => textField entry.1 ++ textField entry.2) : first = second := by
  -- The stream ends with the last definition, and so no count is needed.
  induction first generalizing second with
  | nil =>
    cases second with
    | nil => rfl
    | cons entry second =>
      rw [List.flatMap_nil, List.flatMap_cons, List.append_assoc] at same
      exact absurd same.symm (textField_append_ne_nil _ _)
  | cons entry first ih =>
    cases second with
    | nil =>
      rw [List.flatMap_nil, List.flatMap_cons, List.append_assoc] at same
      exact absurd same (textField_append_ne_nil _ _)
    | cons other second =>
      obtain ⟨here, first_⟩ := List.forall_mem_cons.mp short
      obtain ⟨there, second_⟩ := List.forall_mem_cons.mp short'
      rw [List.flatMap_cons, List.flatMap_cons, List.append_assoc, List.append_assoc] at same
      obtain ⟨name, same⟩ := textField_append_inj here.1 there.1 same
      obtain ⟨value, same⟩ := textField_append_inj here.2 there.2 same
      rw [ih first_ second_ same, Prod.ext name value]

namespace Defines

/-- The names of definitions are distinct. -/
theorem distinct (defines : Defines) : (defines.entries.map (·.1)).Nodup := by
  -- Names are sorted strictly, and no name is below itself.
  refine List.pairwise_map.mpr (defines.sorted.imp fun {one two} below same => ?_)
  rw [same] at below
  exact String.lt_irrefl _ below

/-- No definition stands twice. -/
theorem nodup (defines : Defines) : defines.entries.Nodup := by
  -- Two equal definitions would have names of which one is below the other.
  refine defines.sorted.imp fun {one two} below same => ?_
  rw [same] at below
  exact String.lt_irrefl _ below

/-- Definitions are determined by the value of each name. -/
theorem eq_of_get? {first second : Defines} (same : ∀ name, first.get? name = second.get? name) :
    first = second := by
  have entries : first.entries = second.entries := by
    -- The entries are the same ones, and both lists have them in the order of their names.
    refine List.Perm.eq_of_pairwise (fun one two _ _ below above => ?_)
      first.sorted second.sorted ?_
    · exact absurd (String.lt_trans below above) (String.lt_irrefl _)
    · refine (List.perm_ext_iff_of_nodup first.nodup second.nodup).mpr ?_
      rintro ⟨name, value⟩
      constructor
      · intro among
        exact Association.mem_of_lookup
          ((same name).symm.trans (Association.lookup_of_mem first.distinct among))
      · intro among
        exact Association.mem_of_lookup
          ((same name).trans (Association.lookup_of_mem second.distinct among))
  cases first
  cases second
  cases entries
  rfl

/-- A definition that is put among others gives its name the new value, and no other name. -/
theorem lookup_insertEntry (name value other : String) (entries : List (String × String)) :
    (insertEntry name value entries).lookup other =
      if other = name then some value else entries.lookup other := by
  -- What stands at the front is found first.
  have head : ∀ (rest : List (String × String)) (key val : String),
      ((key, val) :: rest).lookup other = if other = key then some val else rest.lookup other := by
    intro rest key val
    by_cases same : other = key
    · rw [if_pos same, same, List.lookup_cons_self]
    · rw [if_neg same, List.lookup_cons, beq_false_of_ne same]
  induction entries with
  | nil => exact head [] name value
  | cons entry entries ih =>
    obtain ⟨key, val⟩ := entry
    unfold insertEntry
    split
    · exact head _ name value
    · rename_i notBelow
      split
      · rename_i above
        -- The definition goes further back, and the name at the front is another one.
        have apart : key ≠ name := fun same => String.lt_irrefl _ (same ▸ above)
        rw [head, ih, head]
        by_cases same : other = key
        · rw [if_pos same, if_pos same, if_neg (same ▸ apart)]
        · rw [if_neg same, if_neg same]
      · rename_i notAbove
        -- The name at the front is the one that is defined.
        have same : key = name :=
          String.le_antisymm (String.not_lt.mp notBelow) (String.not_lt.mp notAbove)
        rw [head, head, same]
        by_cases own : other = name
        · rw [if_pos own, if_pos own]
        · rw [if_neg own, if_neg own, if_neg own]

/-- A definition gives its name the new value, and no other name. -/
theorem get?_insert (defines : Defines) (name value other : String) :
    (defines.insert name value).get? other =
      if other = name then some value else defines.get? other :=
  lookup_insertEntry name value other defines.entries

/-- A definition in place of an older one leaves no trace of that. -/
theorem get?_foldl_insert (calls : List (String × String)) (defines : Defines) (name : String) :
    (calls.foldl (fun defines call => defines.insert call.1 call.2) defines).get? name =
      (calls.reverse.lookup name).or (defines.get? name) := by
  -- The last call for a name is the first one for it from the end.
  induction calls generalizing defines with
  | nil => rfl
  | cons call calls ih =>
    rw [List.foldl_cons, ih, get?_insert, List.reverse_cons, List.lookup_append, Option.or_assoc]
    congr 1
    by_cases same : name = call.1
    · rw [if_pos same, same, List.lookup_cons_self, Option.some_or]
    · rw [if_neg same, List.lookup_cons, beq_false_of_ne same, List.lookup_nil, Option.none_or]

end Defines

namespace Options

/-- Options that agree in every part are the same. -/
theorem eq_of_parts {options choice : Options} (stage : options.stage = choice.stage)
    (version : options.spirvVersion = choice.spirvVersion)
    (debugInfo : options.debugInfo = choice.debugInfo)
    (flipVertexY : options.flipVertexY = choice.flipVertexY)
    (defines : options.defines = choice.defines) : options = choice := by
  -- A record is given by its fields.
  cases options
  cases choice
  rw [mk.injEq]
  exact ⟨stage, version, debugInfo, flipVertexY, defines⟩

/-- The options with more definitions, made one after the other. -/
def withDefines (options : Options) (calls : List (String × String)) : Options :=
  calls.foldl (fun options call => options.withDefine call.1 call.2) options

/-- Definitions change nothing else. -/
theorem withDefines_eq (options : Options) (calls : List (String × String)) :
    options.withDefines calls =
      { options with
        defines :=
          calls.foldl (fun defines call => defines.insert call.1 call.2) options.defines } := by
  -- Induction on the calls; each one writes to the definitions alone.
  induction calls generalizing options with
  | nil => rfl
  | cons call calls ih => exact ih (options.withDefine call.1 call.2)

/-- Of several definitions of a name the last one counts. -/
theorem get?_withDefines (options : Options) (calls : List (String × String)) (name : String) :
    (options.withDefines calls).defines.get? name =
      (calls.reverse.lookup name).or (options.defines.get? name) := by
  -- The calls only change the definitions, where a later one covers an earlier one of its name.
  rw [withDefines_eq]
  exact Defines.get?_foldl_insert calls options.defines name

/-- Only what each name is defined as in the end matters, not how it came to that. -/
theorem withDefines_congr (options : Options) {calls others : List (String × String)}
    (same : ∀ name, calls.reverse.lookup name = others.reverse.lookup name) :
    options.withDefines calls = options.withDefines others := by
  -- The tables are the same, and nothing else is changed.
  have defines : (options.withDefines calls).defines = (options.withDefines others).defines := by
    refine Defines.eq_of_get? fun name => ?_
    rw [get?_withDefines, get?_withDefines, same]
  rw [withDefines_eq, withDefines_eq] at defines ⊢
  exact eq_of_parts rfl rfl rfl rfl defines

/-- Definitions of different names can be made in any order. -/
theorem withDefines_perm (options : Options) {calls others : List (String × String)}
    (perm : calls.Perm others) (distinct : (calls.map (·.1)).Nodup) :
    options.withDefines calls = options.withDefines others := by
  refine options.withDefines_congr fun name => Option.ext fun value => ?_
  -- A name has one definition, and it stands in both lists.
  have found : ∀ {calls : List (String × String)}, (calls.map (·.1)).Nodup →
      (calls.reverse.lookup name = some value ↔ (name, value) ∈ calls) := by
    intro calls distinct
    have distinct' : (calls.reverse.map (·.1)).Nodup :=
      ((List.reverse_perm calls).symm.map _).nodup distinct
    constructor
    · intro found
      exact List.mem_reverse.mp (Association.mem_of_lookup found)
    · intro among
      exact Association.lookup_of_mem distinct' (List.mem_reverse.mpr among)
  rw [found distinct, found ((perm.map _).nodup distinct)]
  exact perm.mem_iff

end Options

/-- All texts that a key stands for can be counted in eight bytes. -/
structure KeyTexts (compilerId : String) (request : Request) (options : Options) : Prop where
  compiler : Addressable compilerId
  name : Addressable request.name
  source : Addressable request.source
  defines : ∀ entry ∈ options.defines.entries, Addressable entry.1 ∧ Addressable entry.2

/-- Two requests to compilers agree in everything that a key stands for. -/
structure SameInputs (compilerId : String) (request : Request) (options : Options)
    (otherId : String) (another : Request) (choice : Options) : Prop where
  compiler : compilerId = otherId
  name : request.name = another.name
  source : request.source = another.source
  stage : options.stage = choice.stage
  major : options.spirvVersion.1 = choice.spirvVersion.1
  minor : options.spirvVersion.2 = choice.spirvVersion.2
  debugInfo : options.debugInfo = choice.debugInfo
  flipVertexY : options.flipVertexY = choice.flipVertexY
  defines : ∀ name, options.defines.get? name = choice.defines.get? name

/-- Two different byte streams with one hash. -/
def Digest.Collision (first second : List UInt8) : Prop :=
  first ≠ second ∧ Digest.hash128 first = Digest.hash128 second

/-- Truth values are told apart by their byte. -/
theorem flagByte_injective {first second : Bool} (same : flagByte first = flagByte second) :
    first = second := by
  cases first <;> cases second <;> first | rfl | exact absurd same (by decide)

/-- A stage's number is not the one that stands for no stage. -/
theorem Stage.tag_ne_zero (stage : Stage) : stage.tag ≠ 0 := by
  cases stage <;> decide

section Streams

variable {compilerId otherId : String} {request another : Request} {options choice : Options}

/-- The same inputs are the same request under the same options. -/
theorem SameInputs.eq (same : SameInputs compilerId request options otherId another choice) :
    compilerId = otherId ∧ request = another ∧ options = choice := by
  -- The names, sources and options are given by their fields, and maps by their lookups.
  refine ⟨same.compiler, ?_, ?_⟩
  · cases request
    cases another
    rw [Request.mk.injEq]
    exact ⟨same.name, same.source⟩
  · exact Options.eq_of_parts same.stage (Prod.ext same.major same.minor) same.debugInfo
      same.flipVertexY (Defines.eq_of_get? same.defines)

/-- Everything has the same inputs as itself. -/
theorem SameInputs.refl (compilerId : String) (request : Request) (options : Options) :
    SameInputs compilerId request options compilerId request options :=
  ⟨rfl, rfl, rfl, rfl, rfl, rfl, rfl, rfl, fun _ => rfl⟩

/-- Options are told apart by their bytes. -/
theorem optionsField_injective
    (short : ∀ entry ∈ options.defines.entries, Addressable entry.1 ∧ Addressable entry.2)
    (short' : ∀ entry ∈ choice.defines.entries, Addressable entry.1 ∧ Addressable entry.2)
    (same : optionsField options = optionsField choice) : options = choice := by
  simp only [optionsField, List.cons_append, List.nil_append, List.cons.injEq] at same
  obtain ⟨tag, major, minor, debugInfo, flipVertexY, table⟩ := same
  have stage : options.stage = choice.stage := by
    cases one : options.stage with
    | none =>
      -- The number zero stands for no stage.
      cases two : choice.stage with
      | none => rfl
      | some stage =>
        rw [one, two] at tag
        exact absurd tag.symm stage.tag_ne_zero
    | some stage =>
      cases two : choice.stage with
      | none =>
        rw [one, two] at tag
        exact absurd tag stage.tag_ne_zero
      | some other =>
        rw [one, two] at tag
        rw [Stage.tag_injective tag]
  -- The number of definitions takes eight bytes, and the definitions follow.
  obtain ⟨-, table⟩ := List.append_inj table (by rw [length_lengthBytes, length_lengthBytes])
  have entries := entries_injective short short' table
  refine Options.eq_of_parts stage (Prod.ext major minor) (flagByte_injective debugInfo)
    (flagByte_injective flipVertexY) (Defines.eq_of_get? fun name => ?_)
  rw [Defines.get?, Defines.get?, entries]

/-- Requests to compilers are told apart by their byte streams. -/
theorem keyStream_injective (short : KeyTexts compilerId request options)
    (short' : KeyTexts otherId another choice)
    (same : keyStream compilerId request options = keyStream otherId another choice) :
    compilerId = otherId ∧ request = another ∧ options = choice := by
  simp only [keyStream, List.append_assoc] at same
  have format := List.append_cancel_left same
  -- Field by field, and then the options.
  obtain ⟨compiler, format⟩ := textField_append_inj short.compiler short'.compiler format
  obtain ⟨name, format⟩ := textField_append_inj short.name short'.name format
  obtain ⟨source, format⟩ := textField_append_inj short.source short'.source format
  refine ⟨compiler, ?_, optionsField_injective short.defines short'.defines format⟩
  cases request
  cases another
  rw [Request.mk.injEq]
  exact ⟨name, source⟩

/-- Requests have the same byte stream exactly when they have the same inputs; definitions enter it
as a map, of which the last value of each name counts and their order does not; and different
requests have the same key only if the hash of two different streams is the same. -/
theorem keyStream_identifies (short : KeyTexts compilerId request options)
    (short' : KeyTexts otherId another choice) :
    (keyStream compilerId request options = keyStream otherId another choice ↔
      SameInputs compilerId request options otherId another choice) ∧
    (∀ calls name, (options.withDefines calls).defines.get? name =
      (calls.reverse.lookup name).or (options.defines.get? name)) ∧
    (∀ calls others : List (String × String),
      (∀ name, calls.reverse.lookup name = others.reverse.lookup name) →
      keyStream compilerId request (options.withDefines calls) =
        keyStream compilerId request (options.withDefines others)) ∧
    (∀ calls others : List (String × String), calls.Perm others → (calls.map (·.1)).Nodup →
      keyStream compilerId request (options.withDefines calls) =
        keyStream compilerId request (options.withDefines others)) ∧
    (Fingerprint.compute compilerId request options = Fingerprint.compute otherId another choice →
      SameInputs compilerId request options otherId another choice ∨
        Digest.Collision (keyStream compilerId request options)
          (keyStream otherId another choice)) := by
  have told : keyStream compilerId request options = keyStream otherId another choice ↔
      SameInputs compilerId request options otherId another choice := by
    constructor
    · intro same
      obtain ⟨rfl, rfl, rfl⟩ := keyStream_injective short short' same
      exact .refl _ _ _
    · intro same
      obtain ⟨rfl, rfl, rfl⟩ := same.eq
      rfl
  refine ⟨told, options.get?_withDefines, ?_, ?_, ?_⟩
  · intro calls others same
    rw [options.withDefines_congr same]
  · intro calls others perm distinct
    rw [options.withDefines_perm perm distinct]
  · intro same
    -- The key is the hash of the stream and nothing else.
    have hashes := (Fingerprint.mk.injEq _ _).mp same
    by_cases streams : keyStream compilerId request options = keyStream otherId another choice
    · exact Or.inl (told.mp streams)
    · exact Or.inr ⟨streams, hashes⟩

end Streams

/-- A letter on either side of the border between a name and a text makes two streams, and two
definitions make one stream in either order. -/
theorem keyStream_identifies_of_split :
    let options := Options.withDefine {} "LIGHTS" "4"
    let calls := [("FOG", "1"), ("SHADOWS", "0")]
    KeyTexts "naga" ⟨"ab", "c"⟩ options ∧ KeyTexts "naga" ⟨"a", "bc"⟩ options ∧
      keyStream "naga" ⟨"ab", "c"⟩ options ≠ keyStream "naga" ⟨"a", "bc"⟩ options ∧
      keyStream "naga" ⟨"ab", "c"⟩ (options.withDefines calls) =
        keyStream "naga" ⟨"ab", "c"⟩ (options.withDefines calls.reverse) := by
  intro options calls
  have table : ∀ entry ∈ options.defines.entries, Addressable entry.1 ∧ Addressable entry.2 := by
    intro entry among
    have only : entry = ("LIGHTS", "4") := List.mem_singleton.mp among
    subst only
    exact ⟨by decide, by decide⟩
  have first : KeyTexts "naga" ⟨"ab", "c"⟩ options := ⟨by decide, by decide, by decide, table⟩
  have second : KeyTexts "naga" ⟨"a", "bc"⟩ options := ⟨by decide, by decide, by decide, table⟩
  -- The names are not the same, while the two definitions have different names.
  obtain ⟨told, -, -, reordered, -⟩ := keyStream_identifies first second
  refine ⟨first, second, fun same => ?_, ?_⟩
  · exact absurd (told.mp same).name (by decide)
  · exact reordered calls calls.reverse (List.reverse_perm calls).symm (by decide)

end ShaderBuild
