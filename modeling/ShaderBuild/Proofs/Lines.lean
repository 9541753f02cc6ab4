import ShaderBuild.Proofs.Trimming

/-! Texts are cut into the lines that they were put together from. -/

namespace ShaderBuild.Text

/-- A line as it can stand in a text: no line feed is in its body, and a carriage return before a
line feed belongs to the line end. -/
structure Line.Clean (line : Line) : Prop where
  feedless : '\n' ∉ line.body
  returnless : line.ending = .lf → line.body.getLast? ≠ some '\r'

/-- Lines that make up a text: only the last one may go without a line end, if it is not empty. -/
def WellCut : List Line → Prop
  | [] => True
  | line :: rest =>
    line.Clean ∧ (line.ending = .none → line.body ≠ [] ∧ rest = []) ∧ WellCut rest

/-- Lines that all have a line end. -/
def Closed (ls : List Line) : Prop :=
  ∀ line ∈ ls, line.Clean ∧ line.ending ≠ .none

section Cutting

variable {line : Line} {ls before after : List Line} {c : Char} {rest : List Char}

/-- Without its body a line can stand in a text. -/
theorem clean_blanked (line : Line) : line.blanked.Clean :=
  ⟨List.not_mem_nil, fun _ => by simp [Line.blanked]⟩

/-- A line's body may lose its first character. -/
theorem Line.Clean.tail {body : List Char} {ending : LineEnd}
    (clean : Line.Clean ⟨c :: body, ending⟩) : c ≠ '\n' ∧ Line.Clean ⟨body, ending⟩ := by
  obtain ⟨feedless, returnless⟩ := clean
  rw [List.mem_cons, not_or] at feedless
  refine ⟨Ne.symm feedless.1, feedless.2, fun closed last => returnless closed ?_⟩
  -- The last character stays the last one.
  have last : body.getLast? = some '\r' := last
  simp [List.getLast?_cons, last]

/-- An ordinary character joins the first line of the rest. -/
theorem lines_cons (feedless : c ≠ '\n') (single : c = '\r' → rest.head? ≠ some '\n') :
    lines (c :: rest) = consToFirst c (lines rest) := by
  -- The generic case applies: neither a line feed nor a return in front of one.
  refine lines.eq_4 c rest feedless fun after own begins => ?_
  exact single own (by rw [begins]; rfl)

/-- A line with a line end is cut off from whatever follows it. -/
theorem lines_line (clean : line.Clean) (closed : line.ending ≠ .none) (more : List Char) :
    lines (line.toList ++ more) = line :: lines more := by
  obtain ⟨body, ending⟩ := line
  -- The characters of the body join the line one by one.
  induction body with
  | nil =>
    cases ending with
    | none => exact absurd rfl closed
    | lf => exact lines.eq_2 more
    | crlf => exact lines.eq_3 more
  | cons c body ih =>
    obtain ⟨feedless, clean'⟩ := clean.tail
    have single : c = '\r' →
        (Line.toList ⟨body, ending⟩ ++ more).head? ≠ some '\n' := by
      rintro rfl begins
      cases body with
      | cons d body =>
        obtain rfl : d = '\n' := Option.some.inj begins
        exact clean'.tail.1 rfl
      | nil =>
        -- A carriage return right before a line feed would belong to the line end.
        cases ending with
        | none => exact closed rfl
        | lf => exact clean.returnless rfl rfl
        | crlf => exact absurd (Option.some.inj begins) (by decide)
    show lines (c :: (Line.toList ⟨body, ending⟩ ++ more)) = _
    rw [lines_cons feedless single, ih clean' closed]
    rfl

/-- A text without line feeds is one line, if it is not empty. -/
theorem lines_of_feedless {body : List Char} (feedless : '\n' ∉ body) (some_ : body ≠ []) :
    lines body = [⟨body, .none⟩] := by
  -- Without a line feed no character ends the one line.
  induction body with
  | nil => exact absurd rfl some_
  | cons c body ih =>
    rw [List.mem_cons, not_or] at feedless
    rw [lines_cons (Ne.symm feedless.1) fun _ begins =>
      feedless.2 (List.mem_of_mem_head? begins)]
    by_cases more : body = []
    · rw [more]
      rfl
    · rw [ih feedless.2 more]
      rfl

/-- Lines that all have a line end are cut off from whatever follows them. -/
theorem lines_append (closed : Closed before) (more : List Char) :
    lines (unlines before ++ more) = before ++ lines more := by
  -- Each line with a line end is cut off before the next one.
  induction before with
  | nil => rfl
  | cons line before ih =>
    obtain ⟨clean, ends⟩ := closed line List.mem_cons_self
    have split : unlines (line :: before) ++ more = line.toList ++ (unlines before ++ more) := by
      rw [unlines, List.flatMap_cons, List.append_assoc]
      rfl
    rw [split, lines_line clean ends, ih fun other among => closed other (.tail _ among)]
    rfl

/-- Lines that make up a text are the lines of that text. -/
theorem lines_unlines (cut : WellCut ls) : lines (unlines ls) = ls := by
  -- Only the last line can go without a line end, and then nothing follows it.
  induction ls with
  | nil => rfl
  | cons line rest ih =>
    obtain ⟨clean, last, cut'⟩ := cut
    by_cases open_ : line.ending = .none
    · obtain ⟨some_, rfl⟩ := last open_
      obtain ⟨body, ending⟩ := line
      obtain rfl : ending = .none := open_
      have whole : unlines [(⟨body, .none⟩ : Line)] = body := by
        simp [unlines, Line.toList, LineEnd.toList]
      rw [whole]
      exact lines_of_feedless clean.feedless some_
    · have split : unlines (line :: rest) = line.toList ++ unlines rest := List.flatMap_cons
      rw [split, lines_line clean open_, ih cut']

/-- A character before the first line may not make its line end longer. -/
theorem wellCut_consToFirst (feedless : c ≠ '\n')
    (single : c = '\r' → ∀ line ∈ ls.head?, line.body = [] → line.ending ≠ .lf)
    (cut : WellCut ls) : WellCut (consToFirst c ls) := by
  -- The character begins a line of its own if there is none yet.
  cases ls with
  | nil =>
    refine ⟨⟨?_, fun closed => ?_⟩, fun _ => ⟨by simp, rfl⟩, trivial⟩
    · simpa using Ne.symm feedless
    · exact absurd closed (by simp)
  | cons line rest =>
    obtain ⟨clean, last, cut'⟩ := cut
    refine ⟨⟨?_, fun closed ends => ?_⟩, fun open_ => ⟨by simp, (last open_).2⟩, cut'⟩
    · rw [List.mem_cons, not_or]
      exact ⟨Ne.symm feedless, clean.feedless⟩
    · -- The last character of the longer body was there before, or it is the new one.
      cases body : line.body with
      | nil =>
        simp only [body, List.getLast?_singleton, Option.some.injEq] at ends
        exact single ends line rfl body closed
      | cons d tail =>
        simp only [body, List.getLast?_cons_cons] at ends
        exact clean.returnless closed (body ▸ ends)

/-- The lines of a text make it up. -/
theorem wellCut_lines (text : List Char) : WellCut (lines text) := by
  fun_induction lines text with
  | case1 => trivial
  | case2 rest ih => exact ⟨clean_blanked ⟨[], .lf⟩, by simp, ih⟩
  | case3 rest ih => exact ⟨clean_blanked ⟨[], .crlf⟩, by simp, ih⟩
  | case4 c rest feedless single ih =>
    refine wellCut_consToFirst feedless (fun own line first empty closed => ?_) ih
    -- The rest would begin with a line feed.
    obtain ⟨body, ending⟩ := line
    obtain rfl : body = [] := empty
    obtain rfl : ending = .lf := closed
    obtain ⟨others, cut⟩ : ∃ others, lines rest = ⟨[], .lf⟩ :: others := by
      cases found : lines rest with
      | nil => simp [found] at first
      | cons other others =>
        rw [found] at first
        exact ⟨others, by rw [Option.some.inj first]⟩
    have begins := unlines_lines rest
    rw [cut] at begins
    exact single _ own begins.symm

/-- Wherever lines are parted, those before have line ends, and so has the first one behind if
others follow it, and those make up a text as well. -/
theorem WellCut.parts (cut : WellCut (before ++ line :: after)) :
    Closed before ∧ line.Clean ∧ (line.ending = .none → line.body ≠ [] ∧ after = []) ∧
      WellCut after := by
  -- A line before another one is not the last, so it has a line end.
  induction before with
  | nil => exact ⟨by simp [Closed], cut⟩
  | cons first before ih =>
    obtain ⟨clean, last, cut'⟩ := cut
    obtain ⟨closed, own⟩ := ih cut'
    refine ⟨fun other among => ?_, own⟩
    rcases List.mem_cons.mp among with rfl | later
    · exact ⟨clean, fun open_ => absurd (last open_).2 (by simp)⟩
    · exact closed other later

end Cutting

section Pieces

/-- The pieces of a text that are cut behind every mark; the last one may go without a mark. -/
def splitBehind (mark : Char) : List Char → List (List Char)
  | [] => []
  | c :: text =>
    if c = mark then [c] :: splitBehind mark text
    else
      match splitBehind mark text with
      | [] => [[c]]
      | piece :: pieces => (c :: piece) :: pieces

/-- What stands before an ending, when it is there. -/
def dropTrailing? (trailing text : List Char) : Option (List Char) :=
  (dropLeading? trailing.reverse text.reverse).map List.reverse

/-- A piece without the line end. -/
def withoutEnd (piece : List Char) : List Char :=
  match dropTrailing? ['\n'] piece with
  | none => piece
  | some line => (dropTrailing? ['\r'] line).getD line

/-- The line end of a piece. -/
def endOf (piece : List Char) : List Char :=
  if ['\r', '\n'] <:+ piece then ['\r', '\n'] else if ['\n'] <:+ piece then ['\n'] else []

variable {trailing text rest : List Char} {line : Line}

/-- What stands before an ending of a text. -/
theorem dropTrailing?_eq_some_iff :
    dropTrailing? trailing text = some rest ↔ text = rest ++ trailing := by
  -- An ending is dropped as a beginning of the text read backwards.
  rw [dropTrailing?, Option.map_eq_some_iff]
  constructor
  · rintro ⟨front, dropped, rfl⟩
    rw [dropLeading?_eq_some_iff] at dropped
    rw [← List.reverse_inj, dropped]
    simp
  · rintro rfl
    refine ⟨rest.reverse, ?_, List.reverse_reverse rest⟩
    rw [dropLeading?_eq_some_iff, List.reverse_append]

/-- A text that ends otherwise loses nothing. -/
theorem dropTrailing?_eq_none (other : ¬ trailing <:+ text) :
    dropTrailing? trailing text = none := by
  -- Something is left only when the text has that ending.
  cases dropped : dropTrailing? trailing text with
  | none => rfl
  | some rest => exact absurd ⟨rest, (dropTrailing?_eq_some_iff.mp dropped).symm⟩ other

/-- A text that ends with a character has it as its last one. -/
theorem getLast?_of_suffix {c : Char} (ends : [c] <:+ text) : text.getLast? = some c := by
  -- The text is something and then the character.
  obtain ⟨rest, rfl⟩ := ends
  simp

/-- The pieces between line feeds are the lines of a text with their line ends. -/
theorem splitBehind_eq (text : List Char) :
    splitBehind '\n' text = (lines text).map Line.toList := by
  fun_induction lines text with
  | case1 => rfl
  | case2 rest ih =>
    rw [splitBehind, if_pos rfl, ih]
    rfl
  | case3 rest ih =>
    rw [splitBehind, if_neg (by decide), splitBehind, if_pos rfl, ih]
    rfl
  | case4 c rest feedless _ ih =>
    rw [splitBehind, if_neg feedless, ih]
    -- The character joins the first piece, as it joins the first line.
    cases lines rest with
    | nil => rfl
    | cons line others => rfl

/-- Taking the line end off a line leaves its body. -/
theorem withoutEnd_toList (clean : line.Clean) : withoutEnd line.toList = line.body := by
  -- What is taken off has to be there, and nothing of the body goes with it.
  obtain ⟨body, ending⟩ := line
  cases ending with
  | none =>
    have other : ¬ ['\n'] <:+ body := fun ends =>
      clean.feedless (List.mem_of_mem_getLast? (getLast?_of_suffix ends))
    have whole : Line.toList ⟨body, .none⟩ = body := List.append_nil body
    rw [withoutEnd, whole, dropTrailing?_eq_none other]
  | lf =>
    have other : ¬ ['\r'] <:+ body := fun ends => clean.returnless rfl (getLast?_of_suffix ends)
    have dropped : dropTrailing? ['\n'] (Line.toList ⟨body, .lf⟩) = some body :=
      dropTrailing?_eq_some_iff.mpr rfl
    simp only [withoutEnd, dropped, dropTrailing?_eq_none other, Option.getD_none]
  | crlf =>
    have dropped : dropTrailing? ['\n'] (Line.toList ⟨body, .crlf⟩) = some (body ++ ['\r']) :=
      dropTrailing?_eq_some_iff.mpr (by simp [Line.toList, LineEnd.toList])
    have dropped' : dropTrailing? ['\r'] (body ++ ['\r']) = some body :=
      dropTrailing?_eq_some_iff.mpr rfl
    simp only [withoutEnd, dropped, dropped', Option.getD_some]

/-- The line end of a line is the one it has. -/
theorem endOf_toList (clean : line.Clean) : endOf line.toList = line.ending.toList := by
  -- The longer line end is looked for first, and a body never makes a shorter one longer.
  obtain ⟨body, ending⟩ := line
  cases ending with
  | none =>
    have whole : Line.toList ⟨body, .none⟩ = body := List.append_nil body
    have other : ¬ ['\n'] <:+ body := fun ends =>
      clean.feedless (List.mem_of_mem_getLast? (getLast?_of_suffix ends))
    have other' : ¬ ['\r', '\n'] <:+ body := fun ends => other (.trans ⟨['\r'], rfl⟩ ends)
    rw [whole, endOf, if_neg other', if_neg other]
    rfl
  | lf =>
    have other : ¬ ['\r', '\n'] <:+ Line.toList ⟨body, .lf⟩ := by
      rintro ⟨front, same⟩
      have same : (front ++ ['\r']) ++ ['\n'] = body ++ ['\n'] := by
        rw [List.append_assoc]
        exact same
      rw [List.append_cancel_right_eq] at same
      exact clean.returnless rfl (getLast?_of_suffix ⟨front, same⟩)
    rw [endOf, if_neg other, if_pos ⟨body, rfl⟩]
    rfl
  | crlf =>
    rw [endOf, if_pos ⟨body, rfl⟩]
    rfl

end Pieces

end ShaderBuild.Text
