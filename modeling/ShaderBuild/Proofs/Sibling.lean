import Mathlib.Algebra.Group.Nat.Defs
import ShaderBuild.Files.AtomicWrite
import ShaderBuild.Proofs.Directories

/-! Different writes fill different temporary files, whatever their goals are. -/

namespace ShaderBuild

namespace Text

/-- A number is written with digits. -/
theorem isDigit_of_mem_toString {number : Nat} {c : Char}
    (among : c ∈ (toString number).toList) : c.isDigit = true := by
  -- The library writes numbers with the digits of their base.
  rw [Nat.toString_eq_ofList_toDigits, String.toList_ofList] at among
  exact Nat.isDigit_of_mem_toDigits (by decide) (by decide) among

/-- Each digit takes one byte. -/
theorem utf8Size_of_isDigit {c : Char} (digit : c.isDigit = true) : c.utf8Size = 1 := by
  -- Digits are below the first character that takes two bytes.
  rw [Char.utf8Size_eq_one_iff]
  simp only [Char.isDigit, Bool.and_eq_true, decide_eq_true_eq] at digit
  exact UInt32.le_trans digit.2 (by decide)

/-- Characters that take one byte each take as many bytes as there are. -/
theorem utf8ByteSize_of_single {text : String} (single : ∀ c ∈ text.toList, c.utf8Size = 1) :
    text.utf8ByteSize = text.toList.length := by
  obtain ⟨letters, rfl⟩ : ∃ letters, text = String.ofList letters :=
    ⟨text.toList, String.ofList_toList.symm⟩
  rw [String.toList_ofList] at single ⊢
  -- Character by character.
  induction letters with
  | nil => rfl
  | cons c letters ih =>
    have rest := ih fun other among => single other (List.mem_cons_of_mem c among)
    have one := single c List.mem_cons_self
    rw [String.ofList_cons, String.utf8ByteSize_append, String.utf8ByteSize_singleton, one, rest,
      List.length_cons, Nat.add_comm]

/-- A number below a power of ten takes no more bytes than the power says. -/
theorem utf8ByteSize_toString_le {number : Nat} (size : Nat) (some_ : 0 < size)
    (small : number < 10 ^ size) : (toString number).utf8ByteSize ≤ size := by
  -- Each digit takes one byte, and the library bounds their number.
  rw [utf8ByteSize_of_single fun c among => utf8Size_of_isDigit (isDigit_of_mem_toString among),
    String.length_toList,
    Nat.toString_eq_repr]
  exact (Nat.length_repr_le_iff some_).mpr small

/-- Different numbers are written differently. -/
theorem toString_injective {first second : Nat} (same : toString first = toString second) :
    first = second := by
  have digits : Nat.toDigits 10 first = Nat.toDigits 10 second := by
    have letters := congrArg String.toList same
    rw [Nat.toString_eq_ofList_toDigits, Nat.toString_eq_ofList_toDigits, String.toList_ofList,
      String.toList_ofList] at letters
    exact letters
  -- The digits can be read back.
  have number : Nat.ofDigitChars 10 (Nat.toDigits 10 first) 0 =
      Nat.ofDigitChars 10 (Nat.toDigits 10 second) 0 := by rw [digits]
  rw [Nat.ofDigitChars_ten_toDigits, Nat.ofDigitChars_ten_toDigits] at number
  exact number

/-- Texts that go on from a dot without another one are the same behind it, if they are the same. -/
theorem eq_of_append_dot {before before' after after' : List Char} (clean : '.' ∉ after)
    (clean' : '.' ∉ after') (same : before ++ '.' :: after = before' ++ '.' :: after') :
    after = after' := by
  have last : ∀ (before : List Char) {after : List Char}, '.' ∉ after →
      (before ++ '.' :: after).reverse.takeWhile (· ≠ '.') = after.reverse := by
    intro before after clean
    rw [List.reverse_append, List.reverse_cons, List.append_assoc, List.singleton_append,
      List.takeWhile_append_of_pos]
    · simp
    · intro c among
      have apart : c ≠ '.' := fun dot => clean (dot ▸ List.mem_reverse.mp among)
      simpa using apart
  -- What stands behind the last dot is found from the end.
  have found := last before clean
  rw [same, last before' clean'] at found
  exact (List.reverse_inj.mp found).symm

/-- What is put behind a text, and has no mark, makes its last piece longer. -/
theorem splitAtChar_append_of_not_mem {mark : Char} {text more last : List Char}
    {front : List (List Char)} (pieces : splitAtChar mark text = front ++ [last])
    (clean : mark ∉ more) : splitAtChar mark (text ++ more) = front ++ [last ++ more] := by
  -- Character by character, the first piece grows or a new one begins.
  induction text generalizing front last with
  | nil =>
    rw [splitAtChar, ← List.nil_append [[]]] at pieces
    obtain ⟨rfl, last_⟩ := List.append_inj' pieces rfl
    obtain rfl : last = [] := (List.cons.inj last_).1.symm
    simpa using splitAtChar_of_not_mem clean
  | cons c text ih =>
    rw [List.cons_append]
    rw [splitAtChar] at pieces ⊢
    obtain ⟨before, piece, cut⟩ : ∃ before piece, splitAtChar mark text = before ++ [piece] := by
      rcases List.eq_nil_or_concat (splitAtChar mark text) with none_ | ⟨before, piece, cut⟩
      · exact absurd none_ (splitAtChar_ne_nil mark text)
      · exact ⟨before, piece, cut.trans (List.concat_eq_append ..)⟩
    rw [ih cut]
    rw [cut] at pieces
    split
    · rename_i own
      rw [if_pos own, ← List.cons_append] at pieces
      obtain ⟨rfl, last_⟩ := List.append_inj' pieces rfl
      rw [(List.cons.inj last_).1]
      rfl
    · rename_i other
      rw [if_neg other] at pieces
      cases before with
      | nil =>
        simp only [List.nil_append] at pieces ⊢
        rw [← List.nil_append [c :: piece]] at pieces
        obtain ⟨rfl, last_⟩ := List.append_inj' pieces rfl
        rw [← (List.cons.inj last_).1]
        rfl
      | cons first before =>
        simp only [List.cons_append] at pieces ⊢
        rw [← List.cons_append] at pieces
        obtain ⟨rfl, last_⟩ := List.append_inj' pieces rfl
        rw [(List.cons.inj last_).1]
        rfl

end Text

namespace Files

variable {files : Files} {path : Path} {home : Location} {name tail : String}

/-- A path that may be followed may be followed when it is made longer, up to a limit. -/
theorem checkPath_append (checked : checkPath path = .ok ()) (clean : '\x00' ∉ tail.toList)
    (short : (path.text ++ tail).utf8ByteSize < 4096) : checkPath (path.append tail) = .ok () := by
  have text : (path.append tail).text.toList = path.text.toList ++ tail.toList :=
    String.toList_append
  have nul : '\x00' ∉ path.text.toList := by
    intro among
    simp [checkPath, among] at checked
  have nul' : (path.append tail).text.toList.contains '\x00' = false := by
    rw [Bool.eq_false_iff, ne_eq, List.contains_iff_mem, text, List.mem_append, not_or]
    exact ⟨nul, clean⟩
  have filled : (path.append tail).text.isEmpty = false := by
    rw [Bool.eq_false_iff, ne_eq, String.isEmpty_iff]
    intro empty
    -- The shorter path would be empty as well.
    rw [empty] at text
    have nothing : path.text = "" :=
      String.toList_injective (List.append_eq_nil_iff.mp text.symm).1
    simp [checkPath, nothing] at checked
  have size : (path.append tail).text.utf8ByteSize < 4096 := short
  rw [checkPath, nul', filled, if_neg Bool.false_ne_true, if_neg Bool.false_ne_true,
    if_neg (Nat.not_le.mpr size)]

/-- A path that is made longer begins where it did. -/
theorem start_append (checked : checkPath path = .ok ()) :
    start (path.append tail) = start path := by
  have text : (path.append tail).text.toList = path.text.toList ++ tail.toList :=
    String.toList_append
  have some_ : path.text.toList ≠ [] := by
    intro nothing
    have empty : path.text = "" := String.toList_injective nothing
    simp [checkPath, empty] at checked
  -- There is a first character already.
  have absolute : (path.append tail).isAbsolute = path.isAbsolute := by
    rw [Path.isAbsolute, Path.isAbsolute, text, List.head?_append, Option.or_of_isSome]
    exact List.isSome_head?.mpr some_
  rw [start, start, absolute]

/-- What is put behind a path makes its last name longer. -/
theorem withoutSlashes_append {letters : Path.Piece} {outer : List Path.Piece}
    (cut : withoutSlashes path = letters :: outer)
    (open_ : path.text.toList.getLast? ≠ some '/') (clean : '/' ∉ tail.toList) :
    withoutSlashes (path.append tail) = (letters ++ tail.toList) :: outer := by
  -- Without a slash in it the tail joins the last piece, which is not empty and is therefore not
  -- dropped.
  have longer : (path.append tail).pieces = outer.reverse ++ [letters ++ tail.toList] := by
    have text : (path.append tail).text.toList = path.text.toList ++ tail.toList :=
      String.toList_append
    rw [Path.pieces, text]
    exact Text.splitAtChar_append_of_not_mem (pieces_of_withoutSlashes cut open_) clean
  have said : letters ++ tail.toList ≠ [] := fun nothing =>
    ne_nil_of_withoutSlashes cut (List.append_eq_nil_iff.mp nothing).1
  rw [withoutSlashes, longer, List.reverse_append, List.reverse_singleton, List.reverse_reverse,
    List.singleton_append, List.dropWhile_cons_of_neg]
  simpa using said

/-- A path that names a place goes on naming one in the same directory when its name is made longer.
-/
theorem target_append (targeted : files.target path = .ok (.named (home ++ [name]) false))
    (clean : ∀ c ∈ tail.toList, c ≠ '/' ∧ c ≠ '\x00') (long : 2 ≤ tail.toList.length)
    (fits : (name ++ tail).utf8ByteSize ≤ 255) (short : (path.text ++ tail).utf8ByteSize < 4096) :
    files.target (path.append tail) = .ok (.named (home ++ [name ++ tail]) false) := by
  obtain ⟨letters, outer, around, checked, cut, walked, -, place, open_⟩ :=
    target_eq_named_iff.mp targeted
  obtain ⟨rfl, named⟩ := List.append_inj' place rfl
  obtain rfl : name = String.ofList letters := (List.cons.inj named).1
  have slashless : '/' ∉ tail.toList := fun among => (clean _ among).1 rfl
  have checked' := checkPath_append checked (fun among => (clean _ among).2 rfl) short
  have cut' := withoutSlashes_append cut (beq_eq_false_iff_ne.mp open_.symm) slashless
  -- The longer name is no dot and no two.
  have three : 3 ≤ (letters ++ tail.toList).length := by
    have one := List.length_pos_iff.mpr (ne_nil_of_withoutSlashes cut)
    rw [List.length_append]
    omega
  have stays : letters ++ tail.toList ≠ ['.'] := by
    intro dot
    simp [dot] at three
  have outward : letters ++ tail.toList ≠ ['.', '.'] := by
    intro dots
    simp [dots] at three
  have whole : String.ofList letters ++ tail = String.ofList (letters ++ tail.toList) := by
    rw [String.ofList_append, String.ofList_toList]
  have fits' : fitsName (letters ++ tail.toList) = true := by
    rw [fitsName, ← whole]
    exact decide_eq_true fits
  have open' : ((path.append tail).text.toList.getLast? == some '/') = false := by
    have text : (path.append tail).text.toList = path.text.toList ++ tail.toList :=
      String.toList_append
    have more : tail.toList.getLast?.isSome = true :=
      List.getLast?_isSome.mpr (List.ne_nil_of_length_pos (by omega))
    rw [beq_eq_false_iff_ne, text, List.getLast?_append, Option.or_of_isSome more]
    exact fun last => slashless (List.mem_of_getLast? last)
  refine target_eq_named_iff.mpr ⟨letters ++ tail.toList, outer, home, checked', cut', ?_,
    ⟨stays, outward, fits'⟩, by rw [whole], open'.symm⟩
  rw [start_append checked]
  exact walked

end Files

/-- What the name of a temporary file ends in. -/
def temporaryEnding : List Char := ['.', 't', 'm', 'p']

/-- The name of a temporary file. -/
def IsTemporary (name : String) : Prop :=
  temporaryEnding <:+ name.toList

/-- The name of a file that holds a module. -/
structure IsModuleName (name : String) : Prop where
  ending : ['.', 's', 'p', 'v'] <:+ name.toList
  /-- There is more to it than the ending. -/
  stem : 4 < name.toList.length

/-- No module's file is a temporary one. -/
theorem IsModuleName.not_isTemporary {name : String} (module : IsModuleName name) :
    ¬ IsTemporary name := by
  intro temporary
  -- Two endings of one length would be the same.
  obtain ⟨front, whole⟩ := module.ending
  obtain ⟨front', whole'⟩ := temporary
  have same := (List.append_inj' (whole.trans whole'.symm) rfl).2
  simp [temporaryEnding] at same

namespace Disk

/-- What a write with a number puts behind the name of its goal. -/
def tail (disk : Disk) (number : Nat) : String :=
  s!".{disk.process}.{number}.tmp"

variable {disk : Disk}

/-- The sibling of a path is the path with more behind its name. -/
theorem sibling_eq (disk : Disk) (path : Path) (number : Nat) :
    disk.sibling path number = path.append (disk.tail number) :=
  rfl

/-- The characters that are put behind the name of a goal. -/
theorem toList_tail (disk : Disk) (number : Nat) :
    (disk.tail number).toList = '.' :: (toString disk.process).toList ++
      '.' :: (toString number).toList ++ temporaryEnding := by
  -- The dots and the ending are fixed texts, and only the two numbers are left as they are.
  have dot : (toString ".").toList = ['.'] := rfl
  have ending : (toString ".tmp").toList = temporaryEnding := rfl
  simp only [tail, String.toList_append, dot, ending, List.append_assoc, List.cons_append,
    List.nil_append]

/-- With that behind it a name is one of a temporary file. -/
theorem isTemporary_tail (disk : Disk) (name : String) (number : Nat) :
    IsTemporary (name ++ disk.tail number) := by
  -- The ending comes last.
  rw [IsTemporary, String.toList_append, toList_tail, ← List.append_assoc]
  exact List.suffix_append _ _

/-- Different numbers make different names, whatever they are put behind. -/
theorem number_of_tail {first second : String} {number other : Nat}
    (same : first ++ disk.tail number = second ++ disk.tail other) : number = other := by
  have letters := congrArg String.toList same
  rw [String.toList_append, String.toList_append, toList_tail, toList_tail, ← List.append_assoc,
    ← List.append_assoc, ← List.append_assoc, ← List.append_assoc] at letters
  -- The number stands behind the last dot before the ending, and digits are no dots.
  have clean : ∀ number : Nat, '.' ∉ (toString number).toList := fun number among =>
    absurd (Text.isDigit_of_mem_toString among) (by decide)
  have digits := Text.eq_of_append_dot (clean number) (clean other)
    (List.append_cancel_right letters)
  exact Text.toString_injective (String.toList_injective digits)

/-- What is put behind a name has neither a slash nor a character that no path may have. -/
theorem clean_tail (disk : Disk) (number : Nat) {c : Char} (among : c ∈ (disk.tail number).toList) :
    c ≠ '/' ∧ c ≠ '\x00' := by
  rw [toList_tail] at among
  simp only [List.mem_append, List.mem_cons] at among
  -- A dot, the process, a dot, the number and the ending, in this order.
  rcases among with ((rfl | digit) | rfl | digit) | ending
  · decide
  · have := Text.isDigit_of_mem_toString digit
    constructor <;> rintro rfl <;> simp [Char.isDigit] at this
  · decide
  · have := Text.isDigit_of_mem_toString digit
    constructor <;> rintro rfl <;> simp [Char.isDigit] at this
  · simp only [temporaryEnding, List.mem_cons, List.not_mem_nil, or_false] at ending
    rcases ending with rfl | rfl | rfl | rfl <;> decide

/-- The most bytes that are put behind a name. -/
def tailSize : Nat := 36

/-- A process has ten digits at most, and a number that fits in a counter of the machine twenty. -/
theorem utf8ByteSize_tail_le (process : disk.process < 2 ^ 32) {number : Nat}
    (drawn : number < 2 ^ 64) : (disk.tail number).utf8ByteSize ≤ tailSize := by
  -- The digits of both numbers, two dots and the ending are counted.
  have digits : (toString disk.process).utf8ByteSize ≤ 10 :=
    Text.utf8ByteSize_toString_le 10 (by decide) (by omega)
  have digits' : (toString number).utf8ByteSize ≤ 20 :=
    Text.utf8ByteSize_toString_le 20 (by decide) (by omega)
  have whole : disk.tail number =
      "." ++ toString disk.process ++ "." ++ toString number ++ ".tmp" := rfl
  have dot : ".".utf8ByteSize = 1 := rfl
  have ending : ".tmp".utf8ByteSize = 4 := rfl
  rw [whole]
  simp only [String.utf8ByteSize_append, dot, ending, tailSize]
  omega

end Disk

end ShaderBuild
