import Mathlib.Data.List.TakeWhile
import ShaderBuild.Proofs.Place
import ShaderBuild.StageChoice

/-! Parts of a text told by what is around them, as the functions that cut texts find them. -/

namespace ShaderBuild.Text

/-- Characters that are all blank. -/
def Blanks (text : List Char) : Prop :=
  ∀ c ∈ text, isBlank c = true

/-- A text begins with a character that is not blank, or there is none. -/
def Begun (text : List Char) : Prop :=
  ∀ c ∈ text.head?, isBlank c = false

/-- A text, and what is left of it without the blanks at its ends. -/
structure Trimmed (text core : List Char) : Prop where
  around : ∃ before after, Blanks before ∧ Blanks after ∧ text = before ++ core ++ after
  begun : Begun core
  ended : Begun core.reverse

/-- A text, and what stands before its first mark, or all of it. -/
def UpTo (mark : Char) (text before : List Char) : Prop :=
  mark ∉ before ∧ (text = before ∨ ∃ after, text = before ++ mark :: after)

/-- A text, and what stands behind its last mark, or all of it. -/
def Behind (mark : Char) (text after : List Char) : Prop :=
  mark ∉ after ∧ (text = after ∨ ∃ before, text = before ++ mark :: after)

section Trimming

variable {text core blanks rest : List Char}

/-- Leading blanks are dropped up to the first character that is none. -/
theorem trimLeft_append (all : Blanks blanks) (begun : Begun rest) :
    trimLeft (blanks ++ rest) = rest := by
  -- The blanks go one after the other, and then the rest stays.
  rw [trimLeft, List.dropWhile_append_of_pos all]
  cases rest with
  | nil => rfl
  | cons c rest => rw [List.dropWhile_cons_of_neg (by simp [begun c rfl])]

/-- A text is its leading blanks and the rest. -/
theorem exists_blanks (text : List Char) :
    ∃ blanks, Blanks blanks ∧ text = blanks ++ trimLeft text := by
  -- The leading blanks are what is taken while characters are blank.
  refine ⟨text.takeWhile isBlank, ?_, List.takeWhile_append_dropWhile.symm⟩
  intro c among
  exact List.mem_takeWhile_imp among

/-- What is left without the leading blanks begins with none. -/
theorem begun_trimLeft (text : List Char) : Begun (trimLeft text) := by
  -- Dropping stops at the first character that is not blank.
  intro c first
  have stops := List.head?_dropWhile_not isBlank text
  rw [Option.mem_def] at first
  rw [trimLeft] at first
  simpa [first] using stops

/-- A character that is not blank begins a text that is not blank there. -/
theorem begun_cons {c : Char} {rest : List Char} (solid : isBlank c = false) :
    Begun (c :: rest) := by
  -- The first character is the one that is not blank.
  rintro d first
  obtain rfl : c = d := Option.some.inj first
  exact solid

/-- Trimming leaves the part between the blanks. -/
theorem Trimmed.trim_eq (trimmed : Trimmed text core) : trim text = core := by
  obtain ⟨⟨before, after, blank, blank', rfl⟩, begun, ended⟩ := trimmed
  have blankReverse : Blanks after.reverse := fun c among => blank' c (List.mem_reverse.mp among)
  cases core with
  | nil =>
    -- Nothing is left between the blanks.
    have all : Blanks (before ++ [] ++ after) := by
      intro c among
      rw [List.append_nil, List.mem_append] at among
      exact among.elim (blank c) (blank' c)
    have nothing : trimLeft (before ++ [] ++ after ++ []) = [] :=
      trimLeft_append all (by simp [Begun])
    rw [List.append_nil] at nothing
    rw [trim, nothing]
    rfl
  | cons c core =>
    -- From the left the blanks end at the first character, and from the right at the last one.
    have left : trimLeft (before ++ (c :: core) ++ after) = (c :: core) ++ after := by
      rw [List.append_assoc]
      exact trimLeft_append blank begun
    rw [trim, left, List.reverse_append, trimLeft_append blankReverse ended, List.reverse_reverse]

/-- Trimming leaves a part between blanks. -/
theorem trimmed_trim (text : List Char) : Trimmed text (trim text) := by
  -- Blanks are taken off at the left, and then off the reversed rest.
  obtain ⟨before, blank, whole⟩ := exists_blanks text
  obtain ⟨after, blank', whole'⟩ := exists_blanks (trimLeft text).reverse
  have split : trimLeft text = trim text ++ after.reverse := by
    rw [← List.reverse_inj, whole', trim, List.reverse_append, List.reverse_reverse,
      List.reverse_reverse, ← whole']
  refine ⟨⟨before, after.reverse, blank, ?_, ?_⟩, ?_, ?_⟩
  · exact fun c among => blank' c (List.mem_reverse.mp among)
  · rw [List.append_assoc, ← split]
    exact whole
  · -- The first character is that of the text without its leading blanks.
    intro c first
    refine begun_trimLeft text c ?_
    rw [split, Option.mem_def, List.head?_append, first]
    rfl
  · rw [trim, List.reverse_reverse]
    exact begun_trimLeft _

end Trimming

section Marks

variable {mark : Char} {text before after leading rest : List Char}

/-- The characters before the first mark are those that are none. -/
theorem takeWhile_eq_iff : text.takeWhile (· ≠ mark) = before ↔ UpTo mark text before := by
  constructor
  · rintro rfl
    have whole := List.takeWhile_append_dropWhile (p := (· ≠ mark)) (l := text)
    refine ⟨fun among => by simpa using List.mem_takeWhile_imp among, ?_⟩
    -- What is left is empty or begins with the mark.
    cases left : text.dropWhile (· ≠ mark) with
    | nil =>
      rw [left, List.append_nil] at whole
      exact Or.inl whole.symm
    | cons c rest =>
      have stops := List.head?_dropWhile_not (· ≠ mark) text
      simp only [left, List.head?_cons] at stops
      obtain rfl : c = mark := by simpa using stops
      exact Or.inr ⟨rest, by rw [← left]; exact whole.symm⟩
  · rintro ⟨clean, whole⟩
    have others : ∀ c ∈ before, decide (c ≠ mark) = true := by
      intro c among
      simpa using fun same : c = mark => clean (same ▸ among)
    rcases whole with rfl | ⟨rest, rfl⟩
    · exact List.takeWhile_eq_self_iff.mpr others
    · rw [List.takeWhile_append_of_pos others]
      simp

/-- Something stands behind the last mark of every text. -/
theorem exists_behind (mark : Char) (text : List Char) : ∃ after, Behind mark text after := by
  by_cases marked : mark ∈ text
  · -- The last mark is the first one from the end.
    obtain ⟨after, before, whole, clean⟩ := List.eq_append_cons_of_mem (List.mem_reverse.mpr marked)
    refine ⟨after.reverse, by simpa using clean, Or.inr ⟨before.reverse, ?_⟩⟩
    rw [← List.reverse_inj, whole]
    simp
  · exact ⟨text, marked, Or.inl rfl⟩

/-- What follows a text that another one begins with. -/
theorem dropLeading?_eq_some_iff :
    dropLeading? leading text = some rest ↔ text = leading ++ rest := by
  constructor
  · intro dropped
    -- Each leading character has met itself.
    fun_induction dropLeading? leading text with
    | case1 text => simpa using dropped
    | case2 => simp at dropped
    | case3 c leading text ih => rw [List.cons_append, ← ih dropped]
    | case4 => simp at dropped
  · rintro rfl
    exact dropLeading?_append leading rest

/-- What a text begins with behind blanks is found without them. -/
theorem dropLeading?_blanks (leading rest : List Char) {blanks : List Char} (all : Blanks blanks)
    (begun : Begun leading) (some_ : leading ≠ []) :
    dropLeading? leading (trimLeft (blanks ++ (leading ++ rest))) = some rest := by
  -- What is looked for begins without a blank, so trimming stops in front of it.
  have begun' : Begun (leading ++ rest) := by
    obtain ⟨c, others, rfl⟩ := List.exists_cons_of_ne_nil some_
    exact begun
  rw [trimLeft_append all begun', dropLeading?_append]

end Marks

end ShaderBuild.Text

namespace ShaderBuild

variable {name before after : List Char}

/-- A name without a dot is one part. -/
theorem dottedParts_of_not_mem (clean : '.' ∉ name) : dottedParts name = [name] := by
  -- There is nothing to cut at.
  rw [dottedParts, Text.splitAtChar_of_not_mem clean]
  rfl

/-- The last part of a name stands behind its last dot. -/
theorem dottedParts_append (clean : '.' ∉ after) :
    dottedParts (before ++ '.' :: after) = after :: dottedParts before := by
  -- The last cut is at the last dot, and the parts are listed from there.
  rw [dottedParts, Text.splitAtChar_append, Text.splitAtChar_of_not_mem clean, List.reverse_append]
  rfl

/-- The parts of a name begin with what stands behind its last dot. -/
theorem exists_dottedParts (behind : Text.Behind '.' name after) :
    ∃ others, dottedParts name = after :: others := by
  -- There is a last dot, or there is none.
  obtain ⟨clean, rfl | ⟨before, rfl⟩⟩ := behind
  · exact ⟨[], dottedParts_of_not_mem clean⟩
  · exact ⟨_, dottedParts_append clean⟩

end ShaderBuild
