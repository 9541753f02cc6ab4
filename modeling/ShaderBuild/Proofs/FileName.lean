import ShaderBuild.Proofs.ParentPaths
import ShaderBuild.Proofs.StageChoice

/-! The name that a path ends in, its extension and the stage depend on its last piece only. -/

namespace ShaderBuild

namespace Path

/-- What may follow the last name of a path: slashes, each with at most a single dot behind it. -/
inductive Quiet : List Char → Prop
  | nil : Quiet []
  | slash {rest : List Char} (quiet : Quiet rest) : Quiet ('/' :: rest)
  | dot {rest : List Char} (quiet : Quiet rest) : Quiet ('/' :: '.' :: rest)

/-- A path ends in a name, which stands at its beginning or behind a slash. -/
structure EndsIn (path : Path) (name : String) : Prop where
  plain : Plain name
  stands : ∃ tail, Quiet tail ∧ (path.text.toList = name.toList ++ tail ∨
    ∃ directory, path.text.toList = directory ++ '/' :: (name.toList ++ tail))

section Ends

variable {absolute : Bool} {path : Path} {name : String} {piece : Piece}
  {body idle outer : List Piece} {letters before after tail : List Char}

/-- A text is put together from its pieces, with a mark before each of them. -/
theorem flatMap_splitAtChar (mark : Char) (text : List Char) :
    (Text.splitAtChar mark text).flatMap (mark :: ·) = mark :: text := by
  -- A mark begins a piece, and another character joins the first one.
  induction text with
  | nil => rfl
  | cons c text ih =>
    rw [Text.splitAtChar]
    split
    next own => rw [List.flatMap_cons, ih, own]; rfl
    next other =>
      cases pieces : Text.splitAtChar mark text with
      | nil => exact absurd pieces (Text.splitAtChar_ne_nil mark text)
      | cons piece rest =>
        rw [pieces, List.flatMap_cons, List.cons_append, List.cons.injEq] at ih
        simp only [List.flatMap_cons, List.cons_append, ih.2]

/-- Pieces that say nothing make a tail that says nothing. -/
theorem quiet_flatMap (silent : ∀ piece ∈ idle, piece = [] ∨ piece = ['.']) :
    Quiet (idle.flatMap ('/' :: ·)) := by
  -- Induction on the pieces; each one is empty or a single dot behind its slash.
  induction idle with
  | nil => exact .nil
  | cons piece idle ih =>
    rw [List.forall_mem_cons] at silent
    rw [List.flatMap_cons]
    rcases silent.1 with rfl | rfl
    · exact .slash (ih silent.2)
    · exact .dot (ih silent.2)

/-- A tail that says nothing is cut into pieces that say nothing, whatever name is before it. -/
theorem Quiet.pieces (quiet : Quiet tail) : ∃ idle : List Piece,
    (∀ piece ∈ idle, piece = [] ∨ piece = ['.']) ∧
      ∀ name, '/' ∉ name → Text.splitAtChar '/' (name ++ tail) = name :: idle := by
  -- Each slash ends the piece before it, and a single dot makes a piece of its own.
  induction quiet with
  | nil =>
    refine ⟨[], by simp, fun name clean => ?_⟩
    rw [List.append_nil, Text.splitAtChar_of_not_mem clean]
  | slash _ ih =>
    obtain ⟨idle, silent, cut⟩ := ih
    refine ⟨[] :: idle, by simpa using silent, fun name clean => ?_⟩
    have rest := cut [] List.not_mem_nil
    rw [List.nil_append] at rest
    rw [Text.splitAtChar_append, Text.splitAtChar_of_not_mem clean, rest]
    rfl
  | dot _ ih =>
    obtain ⟨idle, silent, cut⟩ := ih
    refine ⟨['.'] :: idle, by simpa using silent, fun name clean => ?_⟩
    have rest := cut ['.'] (by decide)
    rw [List.singleton_append] at rest
    rw [Text.splitAtChar_append, Text.splitAtChar_of_not_mem clean, rest]
    rfl

/-- Pieces that say nothing are dropped behind another piece. -/
theorem dropIdle_behind (silent : ∀ piece ∈ idle, piece = [] ∨ piece = ['.']) (more : outer ≠ []) :
    dropIdle absolute (idle ++ outer) = dropIdle absolute outer := by
  -- Even a single dot is dropped, since another piece is before it.
  induction idle with
  | nil => rfl
  | cons piece idle ih =>
    rw [List.forall_mem_cons] at silent
    have own : IsIdle absolute piece (idle ++ outer) :=
      silent.1.imp_right fun dot => ⟨dot, .inr (by simp [more])⟩
    rw [List.cons_append, dropIdle_of_idle own, ih silent.2]

/-- A path from which a name is read ends in that name. -/
theorem endsIn_of_fileName? (named : path.fileName? = some name.toList) : path.EndsIn name := by
  unfold fileName? at named
  split at named
  · simp at named
  next last outer whole =>
    split at named
    · simp at named
    next lasting =>
      obtain rfl := Option.some.inj named
      obtain ⟨idle, pieces, silent, some_⟩ := pieces_of_body whole
      rw [← List.append_assoc] at pieces
      have among : name.toList ∈ path.pieces := by simp [pieces]
      -- Before the name stands nothing, or a text that begins with the slash put in front.
      have text := flatMap_splitAtChar '/' path.text.toList
      rw [show Text.splitAtChar '/' path.text.toList = path.pieces from rfl, pieces,
        List.flatMap_append, List.flatMap_cons, List.cons_append] at text
      refine ⟨⟨Text.not_mem_of_mem_splitAtChar among, some_, not_or.mp lasting⟩, _,
        quiet_flatMap silent, ?_⟩
      cases lead : ((if path.isAbsolute then [[]] else []) ++ outer.reverse).flatMap ('/' :: ·) with
      | nil =>
        rw [lead, List.nil_append, List.cons.injEq] at text
        exact .inl text.2.symm
      | cons c directory =>
        rw [lead, List.cons_append, List.cons.injEq] at text
        exact .inr ⟨directory, text.2.symm⟩

/-- The pieces of a path that ends in a name: behind the name there are only silent ones. -/
theorem EndsIn.exists_pieces (ends : path.EndsIn name) : ∃ front idle : List Piece,
    (if path.isAbsolute then path.pieces.tail else path.pieces) = front ++ name.toList :: idle ∧
      ∀ piece ∈ idle, piece = [] ∨ piece = ['.'] := by
  obtain ⟨⟨clean, some_, -, -⟩, tail, quiet, stands⟩ := ends
  obtain ⟨idle, silent, cut⟩ := quiet.pieces
  rcases stands with text | ⟨directory, text⟩
  · -- The path begins with its name, and that does not begin with a slash.
    have relative : ¬ path.isAbsolute = true := by
      obtain ⟨c, rest, letters⟩ := List.exists_cons_of_ne_nil some_
      rw [isAbsolute, decide_eq_true_iff, text, letters, List.cons_append, List.head?_cons]
      intro begins
      rw [letters, Option.some.inj begins] at clean
      exact clean List.mem_cons_self
    refine ⟨[], idle, ?_, silent⟩
    rw [if_neg relative, pieces, text, cut _ clean]
    rfl
  · have whole : path.pieces = Text.splitAtChar '/' directory ++ name.toList :: idle := by
      rw [pieces, text, Text.splitAtChar_append, cut _ clean]
    rw [whole]
    split
    · exact ⟨_, idle,
        List.tail_append_of_ne_nil (Text.splitAtChar_ne_nil '/' directory), silent⟩
    · exact ⟨_, idle, rfl, silent⟩

/-- The name that a path ends in is read from it. -/
theorem EndsIn.fileName?_eq (ends : path.EndsIn name) : path.fileName? = some name.toList := by
  -- Reading backwards, the silent pieces behind the name are dropped, and the name stops the
  -- dropping.
  obtain ⟨front, idle, pieces, silent⟩ := ends.exists_pieces
  obtain ⟨⟨-, some_, single, double⟩, -⟩ := ends
  have said : ¬ IsIdle path.isAbsolute name.toList front.reverse := by
    rintro (nothing | ⟨dot, -⟩)
    · exact some_ nothing
    · exact single dot
  have silent' : ∀ piece ∈ idle.reverse, piece = [] ∨ piece = ['.'] :=
    fun piece among => silent piece (List.mem_reverse.mp among)
  have last : path.body = name.toList :: front.reverse := by
    rw [Path.body, pieces, List.reverse_append, List.reverse_cons, List.append_assoc,
      List.singleton_append, dropIdle_behind silent' (by simp), dropIdle_of_said said]
  rw [fileName?, last]
  exact if_neg (not_or.mpr ⟨single, double⟩)

/-- The name of a path's file is the name that it ends in. -/
theorem fileName?_eq_some_iff : path.fileName? = some name.toList ↔ path.EndsIn name :=
  -- Both directions were shown, each from the pieces of the path.
  ⟨endsIn_of_fileName?, EndsIn.fileName?_eq⟩

/-- A shader goes by the name that its path ends in. -/
theorem EndsIn.logicalName_eq (ends : path.EndsIn name) : path.logicalName = name := by
  -- The logical name is the file name, and a name is there.
  rw [logicalName, ends.fileName?_eq]
  exact String.ofList_toList

/-- A name is cut at the dot behind which there is no other. -/
theorem cutAtLastDot_eq_some_iff : cutAtLastDot letters = some (before, after) ↔
    letters = before ++ '.' :: after ∧ '.' ∉ after := by
  -- From the end, the last dot is the first one.
  constructor
  · intro cut
    refine ⟨append_of_cutAtLastDot cut, fun dotted => ?_⟩
    unfold cutAtLastDot at cut
    split at cut
    · simp at cut
    · obtain ⟨-, rfl⟩ := Prod.mk.inj (Option.some.inj cut)
      simpa using List.mem_takeWhile_imp (List.mem_reverse.mp dotted)
  · rintro ⟨rfl, clean⟩
    have others : ∀ c ∈ after.reverse, decide (c ≠ '.') = true := by
      intro c among
      simpa using fun same : c = '.' => clean (same ▸ List.mem_reverse.mp among)
    rw [cutAtLastDot, List.reverse_append, List.reverse_cons, List.append_assoc,
      List.singleton_append, List.takeWhile_append_of_pos others,
      List.dropWhile_append_of_pos others]
    simp

/-- The extension of a path stands behind the last dot of its name, unless that dot comes first. -/
theorem extension?_eq_some_iff : path.extension? = some after ↔
    ∃ before, path.EndsIn (String.ofList (before ++ '.' :: after)) ∧ before ≠ [] ∧ '.' ∉ after := by
  unfold extension?
  simp only [bind, Option.bind_eq_some_iff]
  -- The name is cut at its last dot, and nothing may be missing before it.
  constructor
  · rintro ⟨name, named, ⟨before, last⟩, cut, found⟩
    rw [← String.toList_ofList (l := name), fileName?_eq_some_iff] at named
    split at found
    · simp at found
    next some_ =>
      obtain rfl := Option.some.inj found
      obtain ⟨rfl, clean⟩ := cutAtLastDot_eq_some_iff.mp cut
      exact ⟨before, named, some_, clean⟩
  · rintro ⟨before, ends, some_, clean⟩
    have named := ends.fileName?_eq
    rw [String.toList_ofList] at named
    exact ⟨_, named, (before, after), cutAtLastDot_eq_some_iff.mpr ⟨rfl, clean⟩, if_neg some_⟩

end Ends

end Path

/-- The extensions that tell a stage by themselves. -/
def stageExtensions : List (String × Stage) :=
  [("vert", .vertex), ("frag", .fragment), ("comp", .compute)]

section Watched

variable {before extension : List Char}

/-- A name with the extension of a stage tells that stage. -/
theorem stageOfName_of_extension {entry : String × Stage} (clean : '.' ∉ extension)
    (among : entry ∈ stageExtensions)
    (own : Text.eqIgnoringCase extension entry.1.toList = true) :
    stageOfName (String.ofList (before ++ '.' :: extension)) = .supported entry.2 := by
  -- No stage has the extension of texts that may be of any stage.
  have other : Text.eqIgnoringCase extension "glsl".toList = false := by
    have words : ∀ entry ∈ stageExtensions,
        Text.eqIgnoringCase entry.1.toList "glsl".toList = false := by decide
    have apart := words entry among
    rw [Text.eqIgnoringCase, beq_iff_eq] at own
    rw [Text.eqIgnoringCase, own]
    exact apart
  have telling : TellingPart (String.ofList (before ++ '.' :: extension)).toList extension := by
    rw [String.toList_ofList]
    exact .last clean other
  have plain : ∀ entry ∈ stageExtensions,
      (entry.1.toList.any fun c => Text.isBlank (Text.lowerAscii c)) = false ∧
        entry.1.toList.map Text.lowerAscii = entry.1.toList ∧
        StageName.ofWord entry.1 = .supported entry.2 := by decide
  obtain ⟨solid, small, said⟩ := plain entry among
  rw [stageOfName_of_telling telling, parse_of_eqIgnoringCase own solid small, said]

/-- A file that is taken for a shader has a name with one of the extensions. -/
theorem Path.exists_of_isShaderFile {path : Path} (accepted : path.isShaderFile = true) :
    ∃ before extension, path.EndsIn (String.ofList (before ++ '.' :: extension)) ∧ before ≠ [] ∧
      '.' ∉ extension ∧ path.extension? = some extension ∧
      ∃ known ∈ shaderExtensions, Text.eqIgnoringCase extension known.toList = true := by
  -- A path without an extension is not taken; with one, it ends in a name that has it.
  unfold isShaderFile at accepted
  cases found : path.extension? with
  | none => simp [found] at accepted
  | some extension =>
    simp only [found, List.any_eq_true] at accepted
    obtain ⟨before, ends, some_, clean⟩ := extension?_eq_some_iff.mp found
    exact ⟨before, extension, ends, some_, clean, rfl, accepted⟩

/-- A file that is taken for a shader by the extension of a stage gets that stage, and one with the
extension "glsl" the stage that the part of its name before it tells, if nothing else decides. Files
of the same name get the same answer in all directories. -/
theorem resolveStage_of_isShaderFile (path : Path) (source : String) (options : Options)
    (accepted : path.isShaderFile = true) (plain : ¬ HasPragma source)
    (free : options.stage = none) :
    ∃ before extension, path.EndsIn (String.ofList (before ++ '.' :: extension)) ∧ before ≠ [] ∧
      '.' ∉ extension ∧ path.extension? = some extension ∧
      (Text.eqIgnoringCase extension "glsl".toList = false →
        ∃ entry ∈ stageExtensions, Text.eqIgnoringCase extension entry.1.toList = true ∧
          resolveStage path.logicalName source options = .ok (entry.2, .fileName)) ∧
      (Text.eqIgnoringCase extension "glsl".toList = true →
        ∃ part, Text.Behind '.' before part ∧
          resolveStage path.logicalName source options =
            stageVerdict (String.ofList (before ++ '.' :: extension)) .fileName 1
              unknownStageMessage (StageName.parse part)) ∧
      ∀ other : Path, other.EndsIn (String.ofList (before ++ '.' :: extension)) →
        resolveStage other.logicalName source options =
          resolveStage path.logicalName source options := by
  obtain ⟨before, extension, ends, some_, clean, found, known, among, own⟩ :=
    path.exists_of_isShaderFile accepted
  refine ⟨before, extension, ends, some_, clean, found, fun apart => ?_, fun same => ?_, ?_⟩
  · -- The extension is one of the others.
    obtain rfl | ⟨stage, listed⟩ : known = "glsl" ∨ ∃ stage, (known, stage) ∈ stageExtensions := by
      have rows : ∀ known ∈ Path.shaderExtensions,
          known = "glsl" ∨ ∃ entry ∈ stageExtensions, entry.1 = known := by decide
      refine (rows known among).imp_right ?_
      rintro ⟨⟨word, stage⟩, listed, rfl⟩
      exact ⟨stage, listed⟩
    · rw [own] at apart
      exact absurd apart (by decide)
    · refine ⟨(known, stage), listed, own, ?_⟩
      rw [ends.logicalName_eq, resolveStage_of_name free plain,
        stageOfName_of_extension clean listed own]
      rfl
  · obtain ⟨part, behind⟩ := Text.exists_behind '.' before
    refine ⟨part, behind, ?_⟩
    have telling : TellingPart (String.ofList (before ++ '.' :: extension)).toList part := by
      rw [String.toList_ofList]
      exact .inner clean same behind
    rw [ends.logicalName_eq, resolveStage_of_name free plain, stageOfName_of_telling telling]
  · intro other ends'
    rw [ends.logicalName_eq, ends'.logicalName_eq]

end Watched

/-- Dots before the extension do not matter, and neither does what surrounds the name in a path. -/
theorem resolveStage_of_isShaderFile_dotted :
    resolveStage (Path.logicalName ⟨"/srv/.//..cube.VerT/./"⟩) "" {} = .ok (.vertex, .fileName) ∧
    resolveStage (Path.logicalName ⟨"./x.comp.GLSL//."⟩) "" {} = .ok (.compute, .fileName) ∧
    resolveStage (Path.logicalName ⟨"/x.comp.GLSL"⟩) "" {} =
      resolveStage (Path.logicalName ⟨"./x.comp.GLSL//."⟩) "" {} := by
  have plain : ¬ HasPragma "" := by
    rw [← findStagePragma_eq_none_iff]
    decide
  obtain ⟨_, extension, -, -, -, found, tells, -, -⟩ := resolveStage_of_isShaderFile
    ⟨"/srv/.//..cube.VerT/./"⟩ "" {} (by decide) plain rfl
  obtain rfl : extension = "VerT".toList := by
    have own : Path.extension? ⟨"/srv/.//..cube.VerT/./"⟩ = some "VerT".toList := by decide
    exact Option.some.inj (found.symm.trans own)
  obtain ⟨entry, among, same, answer⟩ := tells (by decide)
  have vertex : ∀ entry ∈ stageExtensions,
      Text.eqIgnoringCase "VerT".toList entry.1.toList = true → entry.2 = .vertex := by decide
  obtain ⟨before, extension', ends, -, -, found', -, asks, everywhere⟩ :=
    resolveStage_of_isShaderFile ⟨"./x.comp.GLSL//."⟩ "" {} (by decide) plain rfl
  obtain rfl : extension' = "GLSL".toList := by
    have own : Path.extension? ⟨"./x.comp.GLSL//."⟩ = some "GLSL".toList := by decide
    exact Option.some.inj (found'.symm.trans own)
  have named : Path.fileName? ⟨"./x.comp.GLSL//."⟩ =
      some ("x.comp".toList ++ '.' :: "GLSL".toList) := by decide
  have named' := ends.fileName?_eq
  rw [String.toList_ofList, named, Option.some.injEq, List.append_cancel_right_eq] at named'
  obtain rfl := named'
  obtain ⟨part, behind, answer'⟩ := asks (by decide)
  -- The part behind the last dot of what is left is the last one.
  obtain ⟨others, parts⟩ := exists_dottedParts behind
  have own : dottedParts "x.comp".toList = ["comp".toList, "x".toList] := by decide
  obtain rfl : "comp".toList = part := (List.cons.inj (own.symm.trans parts)).1
  refine ⟨by rw [answer, vertex entry among same], by rw [answer']; decide, ?_⟩
  refine everywhere ⟨"/x.comp.GLSL"⟩ (Path.endsIn_of_fileName? ?_)
  decide

end ShaderBuild
