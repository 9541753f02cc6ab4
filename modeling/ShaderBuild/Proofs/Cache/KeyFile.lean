import Mathlib.Algebra.Group.Nat.Defs
import ShaderBuild.Cache.Service
import ShaderBuild.Proofs.Files

/-! Different keys have different files, and temporary files are files of no key. -/

namespace ShaderBuild

/-- Two numbers of a width with the same digits are the same. -/
theorem Text.eq_of_hexFixed {width first second : Nat} (small : first < 16 ^ width)
    (small' : second < 16 ^ width) (same : hexFixed width first = hexFixed width second) :
    first = second := by
  -- The last digits are the same, and so is what stands before them.
  induction width generalizing first second with
  | zero => omega
  | succ width ih =>
    obtain ⟨front, last⟩ := List.append_inj' same rfl
    rw [List.cons.injEq] at last
    have digits := congrArg hexValue? last.1
    rw [hexValue?_hexDigit (Nat.mod_lt _ (by decide)), hexValue?_hexDigit (Nat.mod_lt _ (by decide)),
      Option.some.injEq] at digits
    rw [Nat.pow_succ] at small small'
    have rest := ih (Nat.div_lt_of_lt_mul (Nat.mul_comm _ 16 ▸ small))
      (Nat.div_lt_of_lt_mul (Nat.mul_comm _ 16 ▸ small')) front
    omega

/-- No digit is a slash. -/
theorem Text.slash_not_mem_hexFixed (width value : Nat) : '/' ∉ hexFixed width value := by
  have digit : ∀ value : Fin 16, hexDigit value.val ≠ '/' := by decide
  -- Digit by digit.
  induction width generalizing value with
  | zero => simp [hexFixed]
  | succ width ih =>
    simp only [hexFixed, List.mem_append, List.mem_singleton, not_or]
    exact ⟨ih _, (digit ⟨value % 16, Nat.mod_lt _ (by decide)⟩).symm⟩

namespace Fingerprint

/-- Different keys have different texts. -/
theorem toText_injective {first second : Fingerprint} (same : first.toText = second.toText) :
    first = second := by
  -- Thirty-two digits tell every number of 128 bits.
  have small : ∀ key : Fingerprint, key.bits.toNat < 16 ^ 32 := fun key => key.bits.isLt
  have bits := Text.eq_of_hexFixed (small first) (small second) same
  cases first
  cases second
  rw [mk.injEq]
  exact BitVec.eq_of_toNat_eq bits

/-- The name of a key's file. -/
def fileName (key : Fingerprint) : String :=
  String.ofList key.toText ++ ".spv"

/-- The characters of the name of a key's file. -/
theorem toList_fileName (key : Fingerprint) :
    key.fileName.toList = key.toText ++ ['.', 's', 'p', 'v'] := by
  -- The ending is spelled out letter by letter.
  rw [fileName, String.toList_append, String.toList_ofList]
  rfl

/-- Different keys have files of different names. -/
theorem fileName_injective {first second : Fingerprint} (same : first.fileName = second.fileName) :
    first = second := by
  -- The names end alike.
  have letters := congrArg String.toList same
  rw [toList_fileName, toList_fileName] at letters
  exact toText_injective (List.append_cancel_right letters)

/-- The name of a key's file, with more behind it, leads into its directory. -/
theorem plain_fileName_append (key : Fingerprint) {text : String} (clean : '/' ∉ text.toList) :
    Path.Plain (key.fileName ++ text) := by
  have letters : (key.fileName ++ text).toList =
      key.toText ++ (['.', 's', 'p', 'v'] ++ text.toList) := by
    rw [String.toList_append, toList_fileName, List.append_assoc]
  have long : 32 ≤ (key.fileName ++ text).toList.length := by
    rw [letters, List.length_append, length_toText]
    omega
  refine ⟨?_, ?_, ?_, ?_⟩
  · rw [letters, List.mem_append, List.mem_append, not_or, not_or]
    exact ⟨Text.slash_not_mem_hexFixed _ _, by simp, clean⟩
  -- All names of directories are shorter than that.
  all_goals
    intro short
    rw [short] at long
    simp at long

/-- The name of a key's file leads into its directory. -/
theorem plain_fileName (key : Fingerprint) : Path.Plain key.fileName := by
  -- The name with nothing put behind it is the name.
  have plain := @plain_fileName_append key "" (by simp)
  rw [String.append_empty] at plain
  exact plain

end Fingerprint

/-- Where the file of a key is in a directory. -/
def Path.keyPlace (directory : Path) (key : Fingerprint) : Location :=
  directory.place ++ [key.fileName]

/-- Places of keys are the same only for the same key. -/
theorem Path.key_of_keyPlace {directory other : Path} {key another : Fingerprint}
    (same : directory.keyPlace key = other.keyPlace another) : key = another := by
  -- The last names are those of the keys.
  unfold keyPlace at same
  have last := (List.append_inj' same (by simp)).2
  rw [List.cons.injEq] at last
  exact Fingerprint.fileName_injective last.1

/-- The path of a key's file leads to its place. -/
theorem Path.place_join_fileName (directory : Path) (key : Fingerprint) :
    (directory.join key.fileName).place = directory.keyPlace key :=
  -- The name of the file has neither slashes nor dots alone.
  place_join key.plain_fileName

/-- The file of a key is in the directory of the cache. -/
theorem Cache.diskPath?_eq_some {cache : Cache} {key : Fingerprint} {path : Path}
    (there : cache.diskPath? key = some path) :
    ∃ directory, cache.diskDirectory = some directory ∧ path = directory.join key.fileName := by
  -- Only with a directory is there a path.
  rw [diskPath?, Option.map_eq_some_iff] at there
  obtain ⟨directory, used, rfl⟩ := there
  exact ⟨directory, used, rfl⟩

/-- What a write puts behind the name of its goal has no slash. -/
theorem Disk.slash_not_mem_suffix (process number : Nat) :
    '/' ∉ (s!".{process}.{number}.tmp").toList := by
  -- Numbers are written in digits, and the other letters are known.
  have digits : ∀ number : Nat, '/' ∉ (toString number).toList := by
    intro number among
    rw [Nat.toString_eq_ofList_toDigits, String.toList_ofList] at among
    have digit := Nat.isDigit_of_mem_toDigits (by decide) (by decide) among
    simp [Char.isDigit] at digit
  simp only [String.toList_append, List.mem_append, not_or]
  refine ⟨⟨⟨⟨?_, digits process⟩, ?_⟩, digits number⟩, ?_⟩
  all_goals decide

/-- A sibling that is filled first is no key's file. -/
theorem Disk.sibling_ne_keyPlace (disk : Disk) (directory other : Path) (key another : Fingerprint)
    (number : Nat) : (disk.sibling (directory.join key.fileName) number).place ≠
      other.keyPlace another := by
  intro same
  rw [sibling, Path.append_join,
    Path.place_join (key.plain_fileName_append (slash_not_mem_suffix _ _)), Path.keyPlace] at same
  have last := (List.append_inj' same (by simp)).2
  rw [List.cons.injEq] at last
  -- The sibling's name is the longer one.
  have long := congrArg (fun name : String => name.toList.length) last.1
  simp only [String.toList_append, Fingerprint.toList_fileName, List.length_append,
    Fingerprint.length_toText, List.length_cons, List.length_nil] at long
  have dot : (toString ".").toList.length = 1 := rfl
  omega

end ShaderBuild
