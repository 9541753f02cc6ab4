import ShaderBuild.Proofs.Lines

/-! The stage that is given is the one answer according to the rules. -/

namespace ShaderBuild

section Words

/-- The words that say something about the stage. -/
def stageWords : List (String × StageName) :=
  [("vert", .supported .vertex), ("vertex", .supported .vertex),
   ("frag", .supported .fragment), ("fragment", .supported .fragment),
   ("comp", .supported .compute), ("compute", .supported .compute),
   ("tesc", .unsupported "tessellation control"),
   ("tesscontrol", .unsupported "tessellation control"),
   ("tese", .unsupported "tessellation evaluation"),
   ("tesseval", .unsupported "tessellation evaluation"),
   ("geom", .unsupported "geometry"), ("geometry", .unsupported "geometry"),
   ("mesh", .unsupported "mesh"), ("task", .unsupported "task")]

/-- A text is a word, but for blanks around it and for the case of its letters. -/
def Spells (text : List Char) (word : String) : Prop :=
  ∃ core, Text.Trimmed text core ∧ core.map Text.lowerAscii = word.toList

/-- What a text says about the stage. A text that spells none of the words says nothing known. -/
inductive Says (text : List Char) : StageName → Prop
  | known {word : String} {said : StageName} (listed : (word, said) ∈ stageWords)
    (spelled : Spells text word) : Says text said
  | unknown (foreign_ : ∀ entry ∈ stageWords, ¬ Spells text entry.1) : Says text .unknown

variable {text : List Char} {word : String} {said : StageName}

/-- A text spells the word that is left of it without blanks and capitals. -/
theorem spells_iff :
    Spells text word ↔ String.ofList ((Text.trim text).map Text.lowerAscii) = word := by
  -- Trimming leaves the one core that has no blanks around it.
  constructor
  · rintro ⟨core, trimmed, same⟩
    rw [trimmed.trim_eq, same, String.ofList_toList]
  · rintro rfl
    exact ⟨_, Text.trimmed_trim text, (String.toList_ofList).symm⟩

/-- A word is listed with what it says, or it says nothing known. -/
theorem ofWord_cases (word : String) :
    (word, StageName.ofWord word) ∈ stageWords ∨
      StageName.ofWord word = .unknown ∧ ∀ entry ∈ stageWords, word ≠ entry.1 := by
  unfold StageName.ofWord
  -- One case for each word, and one for all others.
  split
  case h_15 =>
    refine Or.inr ⟨rfl, ?_⟩
    simp only [stageWords, List.forall_mem_cons]
    simp_all
  all_goals exact Or.inl (by decide)

/-- A listed word says what it is listed with. -/
theorem ofWord_of_listed (listed : (word, said) ∈ stageWords) : StageName.ofWord word = said := by
  -- The table is short, so each of its rows is looked up.
  have rows : ∀ entry ∈ stageWords, StageName.ofWord entry.1 = entry.2 := by decide
  exact rows _ listed

/-- Each text says one thing about the stage, and that is what is read of it. -/
theorem parse_eq_iff : StageName.parse text = said ↔ Says text said := by
  obtain ⟨word, same⟩ : ∃ word, String.ofList ((Text.trim text).map Text.lowerAscii) = word :=
    ⟨_, rfl⟩
  have own : Spells text word := spells_iff.mpr same
  rw [StageName.parse, same]
  constructor
  -- A word is one of the list, or says nothing.
  · rintro rfl
    rcases ofWord_cases word with listed | ⟨silent, foreign_⟩
    · exact .known listed own
    · rw [silent]
      refine .unknown fun entry among spelled => foreign_ entry among ?_
      rw [← same, spells_iff.mp spelled]
  · rintro (⟨listed, spelled⟩ | foreign_)
    · rw [← ofWord_of_listed listed, ← spells_iff.mp spelled, same]
    · rcases ofWord_cases word with listed | ⟨silent, -⟩
      · exact absurd own (foreign_ _ listed)
      · exact silent

/-- A small letter that is not blank belongs to a character that is not blank. -/
theorem isBlank_of_lowerAscii {c : Char} (blank : Text.isBlank c = true) :
    Text.lowerAscii c = c := by
  -- No capital is blank.
  unfold Text.lowerAscii
  refine if_neg fun capital => ?_
  obtain ⟨low, high⟩ := capital
  have low : 'A'.toNat ≤ c.toNat := low
  have high : c.toNat ≤ 'Z'.toNat := high
  have low : 65 ≤ c.toNat := low
  have high : c.toNat ≤ 90 := high
  simp only [Text.isBlank, Bool.or_eq_true, Bool.and_eq_true, decide_eq_true_eq, beq_iff_eq]
    at blank
  omega

/-- A text that is a word without blanks, but for the case of its letters, says what the word says.
-/
theorem parse_of_eqIgnoringCase (same : Text.eqIgnoringCase text word.toList = true)
    (plain : (word.toList.any fun c => Text.isBlank (Text.lowerAscii c)) = false)
    (small : word.toList.map Text.lowerAscii = word.toList) :
    StageName.parse text = StageName.ofWord word := by
  rw [Text.eqIgnoringCase, beq_iff_eq, small] at same
  -- Nothing of the text is blank, so trimming leaves it as it is.
  have solid : ∀ c ∈ text, Text.isBlank c = false := by
    intro c among
    rw [Bool.eq_false_iff]
    intro blank
    have listed : Text.lowerAscii c ∈ word.toList := same ▸ List.mem_map_of_mem among
    rw [isBlank_of_lowerAscii blank] at listed
    refine List.any_eq_false.mp plain c listed ?_
    rw [isBlank_of_lowerAscii blank]
    exact blank
  have whole : Text.Trimmed text text := by
    refine ⟨⟨[], [], by simp [Text.Blanks], by simp [Text.Blanks], by simp⟩, ?_, ?_⟩
    · exact fun c first => solid c (List.mem_of_mem_head? first)
    · intro c last
      exact solid c (List.mem_reverse.mp (List.mem_of_mem_head? last))
  rw [StageName.parse, whole.trim_eq, same, String.ofList_toList]

end Words

section Pragmas

/-- A line that is a stage pragma, and the word that it gives: the text behind its bracket up to the
closing one, or up to the end of the line, without the blanks around it. -/
inductive PragmaLine : List Char → List Char → Prop
  | intro {b0 b1 b2 b3 rest raw word : List Char} (blank0 : Text.Blanks b0)
    (blank1 : Text.Blanks b1) (blank2 : Text.Blanks b2) (blank3 : Text.Blanks b3)
    (upTo : Text.UpTo ')' rest raw) (trimmed : Text.Trimmed raw word) :
    PragmaLine (b0 ++ '#' :: (b1 ++ ("pragma".toList ++
      (b2 ++ ("shader_stage".toList ++ (b3 ++ '(' :: rest)))))) word

/-- A text with a line that is a stage pragma. -/
def HasPragma (source : String) : Prop :=
  ∃ line ∈ Text.lines source.toList, ∃ word, PragmaLine line.body word

variable {body word : List Char} {before ls : List Text.Line} {index : Nat} {source : String}

/-- The lines that are read as stage pragmas are the stage pragmas. -/
theorem stagePragma?_eq_some_iff : stagePragma? body = some word ↔ PragmaLine body word := by
  constructor
  · intro read_
    simp only [stagePragma?, bind, pure, Option.bind_eq_some_iff, Option.some.injEq,
      Text.dropLeading?_eq_some_iff] at read_
    obtain ⟨r1, hash, r2, pragma_, r3, stage, r4, bracket, rfl⟩ := read_
    obtain ⟨b0, blank0, whole0⟩ := Text.exists_blanks body
    obtain ⟨b1, blank1, whole1⟩ := Text.exists_blanks r1
    obtain ⟨b2, blank2, whole2⟩ := Text.exists_blanks r2
    obtain ⟨b3, blank3, whole3⟩ := Text.exists_blanks r3
    -- Each part of the line is put back before the next one.
    rw [whole0, hash, whole1, pragma_, whole2, stage, whole3, bracket]
    exact .intro blank0 blank1 blank2 blank3 (Text.takeWhile_eq_iff.mp rfl) (Text.trimmed_trim _)
  · rintro ⟨blank0, blank1, blank2, blank3, upTo, trimmed⟩
    -- The blanks are dropped in turn, and behind each run the next mark or word is found.
    have hash := fun rest => Text.dropLeading?_blanks ['#'] rest blank0
      (Text.begun_cons (by decide)) (by simp)
    have pragma_ := fun rest => Text.dropLeading?_blanks "pragma".toList rest blank1
      (Text.begun_cons (by decide)) (by decide)
    have stage := fun rest => Text.dropLeading?_blanks "shader_stage".toList rest blank2
      (Text.begun_cons (by decide)) (by decide)
    have bracket := fun rest => Text.dropLeading?_blanks ['('] rest blank3
      (Text.begun_cons (by decide)) (by simp)
    simp only [List.singleton_append] at hash bracket
    simp only [stagePragma?, hash, pragma_, stage, bracket, bind, Option.bind, pure,
      Text.takeWhile_eq_iff.mpr upTo, trimmed.trim_eq]

/-- The lines that are read as no stage pragma are none. -/
theorem stagePragma?_eq_none_iff : stagePragma? body = none ↔ ∀ word, ¬ PragmaLine body word := by
  -- Nothing is read exactly when no word is.
  rw [Option.eq_none_iff_forall_ne_some]
  exact forall_congr' fun word => not_congr stagePragma?_eq_some_iff

/-- Lines that are no stage pragmas are only counted. -/
theorem findPragmaIn_behind (plain : ∀ earlier ∈ before, stagePragma? earlier.body = none)
    (ls : List Text.Line) : findPragmaIn (before ++ ls) =
      (findPragmaIn ls).map fun found => (found.1 + before.length, found.2) := by
  -- Each of them adds one to the number that is found behind it.
  induction before with
  | nil => simp
  | cons earlier before ih =>
    rw [List.forall_mem_cons] at plain
    rw [List.cons_append, findPragmaIn, plain.1]
    simp only [ih plain.2, Option.map_map]
    rfl

/-- A pragma is found where all lines before it are none. -/
theorem findPragmaIn_eq_some_iff :
    findPragmaIn ls = some (index, word) ↔
      ∃ before line after, ls = before ++ line :: after ∧ before.length = index ∧
        (∀ earlier ∈ before, ∀ word, ¬ PragmaLine earlier.body word) ∧
        PragmaLine line.body word := by
  constructor
  · -- The first line is the pragma, or it is none and the rest is searched.
    intro found
    induction ls generalizing index with
    | nil => simp [findPragmaIn] at found
    | cons first rest ih =>
      unfold findPragmaIn at found
      cases own : stagePragma? first.body with
      | some name =>
        simp only [own, Option.some.injEq, Prod.mk.injEq] at found
        obtain ⟨rfl, rfl⟩ := found
        exact ⟨[], first, rest, rfl, rfl, by simp, stagePragma?_eq_some_iff.mp own⟩
      | none =>
        simp only [own, Option.map_eq_some_iff, Prod.mk.injEq] at found
        obtain ⟨⟨number, name⟩, later, rfl, rfl⟩ := found
        obtain ⟨before, line, after, rfl, rfl, plain, pragma_⟩ := ih later
        have plain' := List.forall_mem_cons.mpr ⟨stagePragma?_eq_none_iff.mp own, plain⟩
        exact ⟨first :: before, line, after, rfl, rfl, plain', pragma_⟩
  · rintro ⟨before, line, after, rfl, rfl, plain, pragma_⟩
    have plain' : ∀ earlier ∈ before, stagePragma? earlier.body = none :=
      fun earlier among => stagePragma?_eq_none_iff.mpr (plain earlier among)
    rw [findPragmaIn_behind plain', findPragmaIn, stagePragma?_eq_some_iff.mpr pragma_]
    simp

/-- No pragma is found if no line is one. -/
theorem findPragmaIn_eq_none_iff :
    findPragmaIn ls = none ↔ ∀ line ∈ ls, ∀ word, ¬ PragmaLine line.body word := by
  -- No line is left out of the search.
  induction ls with
  | nil => simp [findPragmaIn]
  | cons first rest ih =>
    unfold findPragmaIn
    rw [List.forall_mem_cons]
    cases own : stagePragma? first.body with
    | some found =>
      refine iff_of_false (by simp) fun plain => ?_
      exact plain.1 found (stagePragma?_eq_some_iff.mp own)
    | none =>
      simp only [Option.map_eq_none_iff, ih]
      exact (and_iff_right (stagePragma?_eq_none_iff.mp own)).symm

/-- A text without a stage pragma. -/
theorem findStagePragma_eq_none_iff : findStagePragma source = none ↔ ¬ HasPragma source := by
  -- The text has a pragma when one of its lines does.
  rw [findStagePragma, findPragmaIn_eq_none_iff, HasPragma]
  constructor
  · rintro plain ⟨line, among, word, pragma_⟩
    exact plain line among word pragma_
  · intro plain line among word pragma_
    exact plain ⟨line, among, word, pragma_⟩

/-- What is found among some lines is found whatever follows them. -/
theorem findPragmaIn_append {found : Nat × List Char} (among : findPragmaIn ls = some found)
    (after : List Text.Line) : findPragmaIn (ls ++ after) = some found := by
  -- The lines before the pragma stay the ones before it.
  obtain ⟨before, line, between_, rfl, length, none_, pragma_⟩ :=
    findPragmaIn_eq_some_iff.mp among
  exact findPragmaIn_eq_some_iff.mpr
    ⟨before, line, between_ ++ after, by simp, length, none_, pragma_⟩

/-- Every line of a text that ends with a line feed has a line end. -/
theorem Text.closed_lines {text : List Char} (ends : text.getLast? = some '\n') :
    Text.Closed (Text.lines text) := by
  have cut := Text.wellCut_lines text
  intro line among
  obtain ⟨before, after, parts⟩ := List.append_of_mem among
  rw [parts] at cut
  obtain ⟨-, clean, last, -⟩ := cut.parts
  refine ⟨clean, fun open_ => ?_⟩
  -- A line without a line end would be the last one, and the text would end with its body.
  obtain ⟨some_, rfl⟩ := last open_
  have whole := Text.unlines_lines text
  have body : line.toList = line.body := by rw [Text.Line.toList, open_]; exact List.append_nil _
  rw [parts, Text.unlines, List.flatMap_append, List.flatMap_cons, List.flatMap_nil,
    List.append_nil, body] at whole
  rw [← whole, List.getLast?_append, List.getLast?_eq_some_getLast some_, Option.some_or,
    ← List.getLast?_eq_some_getLast some_] at ends
  exact clean.feedless (List.mem_of_mem_getLast? ends)

/-- What follows a text that ends with a line feed does not matter to the pragma found in it. -/
theorem findStagePragma_append {head : String} (has : HasPragma (head ++ "\n")) (tail : String) :
    findStagePragma (head ++ "\n" ++ tail) = findStagePragma (head ++ "\n") := by
  -- The lines of the text before are the same whatever follows it, as each of them is closed.
  have closed : Text.Closed (Text.lines (head ++ "\n").toList) :=
    Text.closed_lines (by simp [String.toList_append])
  have lines : Text.lines (head ++ "\n" ++ tail).toList =
      Text.lines (head ++ "\n").toList ++ Text.lines tail.toList := by
    rw [String.toList_append, ← Text.lines_append closed, Text.unlines_lines]
  cases found : findStagePragma (head ++ "\n") with
  | none => exact absurd has (findStagePragma_eq_none_iff.mp found)
  | some pair =>
    rw [findStagePragma, lines]
    exact findPragmaIn_append found _

end Pragmas

section Names

/-- The part of a name that speaks for the stage: what stands behind its last dot or, if that is
"glsl" in any letter case, the part before it. -/
inductive TellingPart : List Char → List Char → Prop
  | last {before last : List Char} (clean : '.' ∉ last)
    (other : Text.eqIgnoringCase last "glsl".toList = false) :
    TellingPart (before ++ '.' :: last) last
  | inner {before last part : List Char} (clean : '.' ∉ last)
    (own : Text.eqIgnoringCase last "glsl".toList = true) (behind : Text.Behind '.' before part) :
    TellingPart (before ++ '.' :: last) part

variable {name : String} {part : List Char}

/-- A name without a dot says nothing known about the stage. -/
theorem stageOfName_of_dotless (dotless : '.' ∉ name.toList) : stageOfName name = .unknown := by
  -- The name is its only part, and one part is no extension.
  rw [stageOfName, dottedParts_of_not_mem dotless]

/-- A name says what its telling part says. -/
theorem stageOfName_of_telling (telling : TellingPart name.toList part) :
    stageOfName name = StageName.parse part := by
  obtain ⟨letters, same⟩ : ∃ letters, letters = name.toList := ⟨_, rfl⟩
  rw [stageOfName]
  rw [← same] at telling ⊢
  cases telling with
  | @last before _ clean other =>
    obtain ⟨inner, behind⟩ := Text.exists_behind '.' before
    obtain ⟨others, parts⟩ := exists_dottedParts behind
    rw [dottedParts_append clean, parts]
    -- What is not known is not asked for elsewhere.
    cases said : StageName.parse part with
    | supported stage => simp only [said]
    | unsupported what => simp only [said]
    | unknown => simp only [said, other, Bool.false_eq_true, if_false]
  | @inner before last part clean own behind =>
    obtain ⟨others, parts⟩ := exists_dottedParts behind
    have silent : StageName.parse last = .unknown :=
      parse_of_eqIgnoringCase own (by decide) (by decide)
    rw [dottedParts_append clean, parts]
    simp only [silent, own, if_true]

/-- Every name with a dot has a telling part. -/
theorem exists_tellingPart (dotted : '.' ∈ name.toList) : ∃ part, TellingPart name.toList part := by
  -- What stands behind the last dot tells the stage, unless it is `glsl`: then the part before it
  -- does.
  obtain ⟨last, clean, whole | ⟨before, whole⟩⟩ := Text.exists_behind '.' name.toList
  · exact absurd (whole ▸ dotted) clean
  · rw [whole]
    cases own : Text.eqIgnoringCase last "glsl".toList with
    | false => exact ⟨last, .last clean own⟩
    | true =>
      obtain ⟨inner, behind⟩ := Text.exists_behind '.' before
      exact ⟨inner, .inner clean own behind⟩

end Names

/-- The answer to somebody who asks for a stage, when a text has spoken for it: the stage and where
it was found, or one message at the first column of a line. -/
def stageVerdict (name : String) (origin : StageOrigin) (row : UInt32) (otherwise : String) :
    StageName → Except Failure (Stage × StageOrigin)
  | .supported stage => .ok (stage, origin)
  | .unsupported what => .error (.compile name [⟨row, 1, what ++ " shaders are not supported"⟩])
  | .unknown => .error (.compile name [⟨row, 1, otherwise⟩])

/-- The answers that are according to the rules. The number of a line is told as far as 32 bits
reach. -/
inductive Decides (name source : String) (options : Options) :
    Except Failure (Stage × StageOrigin) → Prop
  | option {stage : Stage} (given : options.stage = some stage) :
    Decides name source options (.ok (stage, .option))
  | pragma {before after : List Text.Line} {line : Text.Line} {word : List Char} {said : StageName}
    {row : UInt32} (free : options.stage = none)
    (cut : Text.lines source.toList = before ++ line :: after)
    (first : ∀ earlier ∈ before, ∀ word, ¬ PragmaLine earlier.body word)
    (own : PragmaLine line.body word) (meant : Says word said)
    (numbered : row.toNat = min (before.length + 1) 0xFFFFFFFF) :
    Decides name source options
      (stageVerdict name .pragma row
        ("unknown shader stage `" ++ String.ofList word ++ "` in #pragma") said)
  | fileName {part : List Char} {said : StageName} (free : options.stage = none)
    (plain : ¬ HasPragma source) (telling : TellingPart name.toList part) (meant : Says part said) :
    Decides name source options (stageVerdict name .fileName 1 unknownStageMessage said)
  | dotless (free : options.stage = none) (plain : ¬ HasPragma source)
    (bare : '.' ∉ name.toList) :
    Decides name source options (.error (.compile name [⟨1, 1, unknownStageMessage⟩]))

/-- The failure of a compile under another name. -/
def Failure.under (name : String) : Failure → Failure
  | .compile _ diagnostics => .compile name diagnostics
  | failure => failure

section Priority

variable {name source : String} {options : Options} {word : List Char} {index : Nat}
  {result : Except Failure (Stage × StageOrigin)}

/-- Lines are counted from one. -/
theorem one_le_row {row : UInt32} (number : Nat)
    (numbered : row.toNat = min (number + 1) 0xFFFFFFFF) : 1 ≤ row := by
  -- The number is one more than an index, unless it is the highest one there is.
  rw [UInt32.le_iff_toNat_le, numbered]
  simp only [UInt32.toNat_one]
  omega

/-- A message at a line that there is stands at that line. -/
theorem located_row {row : UInt32} (message : String) (number : Nat)
    (numbered : row.toNat = min (number + 1) 0xFFFFFFFF) :
    Diagnostic.located (UInt32.ofNat (min (number + 1) 0xFFFFFFFF)) 1 message =
      ⟨row, 1, message⟩ := by
  have same : UInt32.ofNat (min (number + 1) 0xFFFFFFFF) = row := by
    rw [← numbered, UInt32.ofNat_toNat]
  have one_le := one_le_row number numbered
  rw [same, Diagnostic.located]
  congr 1
  show (if row ≤ 1 then (1 : UInt32) else row) = row
  -- Rows begin at one, so the bound from below changes nothing.
  split
  · rename_i le
    exact UInt32.le_antisymm one_le le
  · rfl

/-- The first stage pragma decides, if the stage is not given. -/
theorem resolveStage_of_pragma {row : UInt32} (free : options.stage = none)
    (found : findStagePragma source = some (index, word))
    (numbered : row.toNat = min (index + 1) 0xFFFFFFFF) :
    resolveStage name source options =
      stageVerdict name .pragma row
        ("unknown shader stage `" ++ String.ofList word ++ "` in #pragma")
        (StageName.parse word) := by
  -- A word that names no stage is told with the number of its line.
  unfold resolveStage
  simp only [free, found]
  cases said : StageName.parse word with
  | supported stage => rfl
  | unsupported what =>
    simp only [located_row _ index numbered]
    rfl
  | unknown =>
    simp only [located_row _ index numbered]
    rfl

/-- Without a stage pragma the name decides, if the stage is not given. -/
theorem resolveStage_of_name (free : options.stage = none) (plain : ¬ HasPragma source) :
    resolveStage name source options =
      stageVerdict name .fileName 1 unknownStageMessage (stageOfName name) := by
  -- Without an option and a pragma the name is all that is left to ask.
  unfold resolveStage
  simp only [free, findStagePragma_eq_none_iff.mpr plain]
  cases said : stageOfName name <;> rfl

/-- The rules give an answer, and it is the one that is given. -/
theorem decides_resolveStage (name source : String) (options : Options) :
    Decides name source options (resolveStage name source options) := by
  cases given : options.stage with
  | some stage =>
    have answer : resolveStage name source options = .ok (stage, .option) := by
      unfold resolveStage
      simp only [given]
    rw [answer]
    exact .option given
  | none =>
    cases found : findStagePragma source with
    | some pair =>
      obtain ⟨index, word⟩ := pair
      obtain ⟨before, line, after, cut, rfl, first, own⟩ := findPragmaIn_eq_some_iff.mp found
      -- The number of the line fits, as it is cut down to the largest one.
      have numbered : (UInt32.ofNat (min (before.length + 1) 0xFFFFFFFF)).toNat =
          min (before.length + 1) 0xFFFFFFFF := by
        rw [UInt32.toNat_ofNat']
        exact Nat.mod_eq_of_lt (by omega)
      rw [resolveStage_of_pragma given found numbered]
      exact .pragma given cut first own (parse_eq_iff.mp rfl) numbered
    | none =>
      have plain := findStagePragma_eq_none_iff.mp found
      rw [resolveStage_of_name given plain]
      by_cases dotted : '.' ∈ name.toList
      · obtain ⟨part, telling⟩ := exists_tellingPart dotted
        rw [stageOfName_of_telling telling]
        exact .fileName given plain telling (parse_eq_iff.mp rfl)
      · rw [stageOfName_of_dotless dotted]
        exact .dotless given plain dotted

/-- An answer according to the rules is the one that is given. -/
theorem Decides.resolveStage_eq (decides : Decides name source options result) :
    resolveStage name source options = result := by
  -- Each rule leads along one path through the choice.
  cases decides with
  | option given =>
    unfold resolveStage
    simp only [given]
  | pragma free cut first own meant numbered =>
    have found := findPragmaIn_eq_some_iff.mpr ⟨_, _, _, cut, rfl, first, own⟩
    rw [resolveStage_of_pragma free found numbered, parse_eq_iff.mpr meant]
  | fileName free plain telling meant =>
    rw [resolveStage_of_name free plain, stageOfName_of_telling telling, parse_eq_iff.mpr meant]
  | dotless free plain bare =>
    rw [resolveStage_of_name free plain, stageOfName_of_dotless bare]
    rfl

/-- Another name changes nothing but the name in a failure, where something else decides. -/
theorem resolveStage_under (other : String) (decided : options.stage ≠ none ∨ HasPragma source) :
    resolveStage other source options =
      (resolveStage name source options).mapError (Failure.under other) := by
  -- The name is not asked before the option and the pragma, only told.
  cases given : options.stage with
  | some stage =>
    unfold resolveStage
    simp only [given]
    rfl
  | none =>
    have has := decided.resolve_left (not_not.mpr given)
    cases found : findStagePragma source with
    | none => exact absurd has (findStagePragma_eq_none_iff.mp found)
    | some pair =>
      obtain ⟨index, word⟩ := pair
      have numbered : (UInt32.ofNat (min (index + 1) 0xFFFFFFFF)).toNat =
          min (index + 1) 0xFFFFFFFF := by
        rw [UInt32.toNat_ofNat']
        exact Nat.mod_eq_of_lt (by omega)
      rw [resolveStage_of_pragma given found numbered, resolveStage_of_pragma given found numbered]
      cases StageName.parse word <;> rfl

/-- A text behind a line feed does not matter if there is a pragma before it. -/
theorem resolveStage_append {head : String} (has : HasPragma (head ++ "\n"))
    (tail tail' : String) :
    resolveStage name (head ++ "\n" ++ tail) options =
      resolveStage name (head ++ "\n" ++ tail') options := by
  -- The same pragma is found in both texts, and nothing else of them is used.
  unfold resolveStage
  simp only [findStagePragma_append has]

end Priority

/-- Exactly one answer is according to the rules, and it is given: an option goes before a pragma,
the first pragma before the name, and nobody else is asked. Whatever follows a pragma on later lines
does not matter, and where an option or a pragma decides, the name is only repeated in failures. -/
theorem resolveStage_decides (name source : String) (options : Options) :
    (∀ result, resolveStage name source options = result ↔ Decides name source options result) ∧
    (∀ head tail tail', HasPragma (head ++ "\n") →
      resolveStage name (head ++ "\n" ++ tail) options =
        resolveStage name (head ++ "\n" ++ tail') options) ∧
    (∀ other, options.stage ≠ none ∨ HasPragma source →
      resolveStage other source options =
        (resolveStage name source options).mapError (Failure.under other)) := by
  -- The rules give an answer for every request, and the program gives each answer that they give.
  refine ⟨fun result => ⟨?_, Decides.resolveStage_eq⟩, fun head tail tail' has => ?_,
    fun other decided => resolveStage_under other decided⟩
  · rintro rfl
    exact decides_resolveStage name source options
  · exact resolveStage_append has tail tail'

/-- A pragma that gives a stage without a compiler is the answer, although another pragma follows it
and the name tells a stage. -/
theorem resolveStage_mesh_pragma :
    resolveStage "a.vert"
        "\r\n \t#  pragma shader_stage ( Mesh ) )\n#pragma shader_stage(frag)" {} =
      .error (.compile "a.vert" [⟨2, 1, "mesh shaders are not supported"⟩]) ∧
    resolveStage "a.vert" ("\r\n \t#  pragma shader_stage ( Mesh ) )" ++ "\n" ++ "\r\r\n") {} =
      resolveStage "a.vert" ("\r\n \t#  pragma shader_stage ( Mesh ) )" ++ "\n" ++ "#\r") {} ∧
    resolveStage "glsl" "\r\n \t#  pragma shader_stage ( Mesh ) )\n" {} =
      (resolveStage "a.vert" "\r\n \t#  pragma shader_stage ( Mesh ) )\n" {}).mapError
        (Failure.under "glsl") := by
  have has : HasPragma "\r\n \t#  pragma shader_stage ( Mesh ) )\n" := by
    by_contra plain
    rw [← findStagePragma_eq_none_iff] at plain
    exact absurd plain (by decide)
  obtain ⟨rules, -, -⟩ := resolveStage_decides "a.vert"
    "\r\n \t#  pragma shader_stage ( Mesh ) )\n#pragma shader_stage(frag)" {}
  obtain ⟨-, later, renamed⟩ :=
    resolveStage_decides "a.vert" "\r\n \t#  pragma shader_stage ( Mesh ) )\n" {}
  refine ⟨(rules _).mpr ?_, later _ _ _ has, renamed "glsl" (.inr has)⟩
  -- The first line is empty, and the second one is the pragma.
  have cut : Text.lines
      "\r\n \t#  pragma shader_stage ( Mesh ) )\n#pragma shader_stage(frag)".toList =
      [⟨[], .crlf⟩] ++ ⟨" \t#  pragma shader_stage ( Mesh ) )".toList, .lf⟩ ::
        [⟨"#pragma shader_stage(frag)".toList, .none⟩] := by decide
  have own : PragmaLine " \t#  pragma shader_stage ( Mesh ) )".toList "Mesh".toList :=
    stagePragma?_eq_some_iff.mp (by decide)
  have meant : Says "Mesh".toList (.unsupported "mesh") := parse_eq_iff.mp (by decide)
  refine .pragma rfl cut ?_ own meant (by decide)
  rw [List.forall_mem_singleton]
  exact stagePragma?_eq_none_iff.mp (by decide)

end ShaderBuild
