import Mathlib.Order.WellFounded
import ShaderBuild.Compiler
import ShaderBuild.Proofs.StageChoice

/-! The first check that a request does not pass decides how its compile fails. -/

namespace ShaderBuild

/-- What a request is checked for. -/
inductive Check where
  | blank
  | zero
  | version
  | stage
  | backend
  deriving DecidableEq, Repr

/-- The place of a check in the order of the checks. -/
def Check.rank : Check → Nat
  | blank => 0
  | zero => 1
  | version => 2
  | stage => 3
  | backend => 4

/-- Who has to mend what failed. -/
inductive FailureKind where
  /-- The author of the shader's text. -/
  | text
  /-- The caller of the library. -/
  | caller
  /-- The makers of the compiler. -/
  | toolchain
  deriving DecidableEq, Repr

/-- The failures of a kind, for a shader's name. Those of a text come with diagnostics, and each of
them has a place. -/
def FailureKind.Covers (name : String) : FailureKind → Failure → Prop
  | text, failure => ∃ diagnostics, failure = .compile name diagnostics ∧ diagnostics ≠ [] ∧
      ∀ d ∈ diagnostics, 1 ≤ d.line ∧ 1 ≤ d.column
  | caller, failure => ∃ fault, failure = .contractViolation fault
  | toolchain, failure => ∃ message, failure = .toolchain name message

section Ends

variable (backend : Backend) (request : Request) (options : Options)

/-- The backend is asked and answers. -/
def Answers (answer : BackendAnswer) : Prop :=
  ∃ stage origin, resolveStage request.name request.source options = .ok (stage, origin) ∧
    backend (stripStagePragma request.source) stage options = answer

/-- The requests that pass a check. -/
def Passes : Check → Prop
  | .blank => ∃ c ∈ request.source.toList, Text.isBlank c = false
  | .zero => '\x00' ∉ request.source.toList
  | .version => options.spirvVersion.1 = 1 ∧ options.spirvVersion.2 ≤ 6
  | .stage => ∃ found, resolveStage request.name request.source options = .ok found
  | .backend => ∃ words, Answers backend request options (.written words) ∧
      words.head? = some spirvMagic

/-- The check that a request does not pass, although it passes all earlier ones. -/
def StopsAt (check : Check) : Prop :=
  (∀ earlier : Check, earlier.rank < check.rank → Passes backend request options earlier) ∧
    ¬ Passes backend request options check

/-- How a compile fails at a check. -/
inductive Fails : Check → FailureKind → Failure → Prop
  | blank : Fails .blank .text (.compile request.name [⟨1, 1, "shader source is empty"⟩])
  | zero : Fails .zero .caller (.contractViolation (.nulInSource request.name))
  | version : Fails .version .caller
      (.contractViolation (.spirvVersion options.spirvVersion.1 options.spirvVersion.2))
  | stage {failure : Failure}
      (undecided : resolveStage request.name request.source options = .error failure) :
      Fails .stage .text failure
  | rejected {faults : List BackendFault}
      (answers : Answers backend request options (.rejected faults)) :
      Fails .backend .text (.compile request.name (rejectionDiagnostics faults))
  | misplaced {line column : UInt32} {message : String}
      (answers : Answers backend request options (.invalid (some (line, column)) message)) :
      Fails .backend .text (.compile request.name [.located line column message])
  | invalid {message : String}
      (answers : Answers backend request options (.invalid none message)) :
      Fails .backend .text (.compile request.name [.unlocated message])
  | unwritable {message : String}
      (answers : Answers backend request options (.unwritable message)) :
      Fails .backend .toolchain (.toolchain request.name ("SPIR-V writer: " ++ message))
  | panicked {message : Option String}
      (answers : Answers backend request options (.panicked message)) :
      Fails .backend .toolchain
        (.toolchain request.name ("backend panicked: " ++ message.getD "unknown panic"))
  | headerless {words : List UInt32}
      (answers : Answers backend request options (.written words))
      (other : words.head? ≠ some spirvMagic) :
      Fails .backend .toolchain
        (.toolchain request.name "backend produced output without a SPIR-V header")

variable {backend request options} {check : Check} {kind : FailureKind} {failure : Failure}

/-- A compile that does not pass all checks stops at one of them. -/
theorem exists_stopsAt (stuck : ¬ Passes backend request options check) :
    ∃ check, StopsAt backend request options check := by
  -- Among the checks that are not passed one comes first.
  obtain ⟨first, failed, least⟩ := (measure Check.rank).wf.has_min
    {check | ¬ Passes backend request options check} ⟨check, stuck⟩
  exact ⟨first, fun earlier before => not_not.mp fun other => least earlier other before, failed⟩

/-- A request that is not blank has a character that is not. -/
theorem passes_blank_iff : Passes backend request options .blank ↔
    request.source.toList.all Text.isBlank = false := by
  simp [Passes, List.all_eq_false]

/-- A request without zeros. -/
theorem passes_zero_iff : Passes backend request options .zero ↔
    request.source.toList.contains '\x00' = false := by
  simp [Passes]

/-- A request in a version that can be written. -/
theorem passes_version_iff : Passes backend request options .version ↔
    isSupportedVersion options.spirvVersion = true := by
  simp [Passes, isSupportedVersion]

/-- The checks of a request alone, one after the other. -/
theorem checkRequest_eq (request : Request) (options : Options) : checkRequest request options =
    if request.source.toList.all Text.isBlank then
      .error (.compile request.name [⟨1, 1, "shader source is empty"⟩])
    else if request.source.toList.contains '\x00' then
      .error (.contractViolation (.nulInSource request.name))
    else if isSupportedVersion options.spirvVersion then .ok ()
    else .error (.contractViolation
      (.spirvVersion options.spirvVersion.1 options.spirvVersion.2)) := by
  -- Two questions about the text come before the one about the version.
  unfold checkRequest
  cases request.source.toList.all Text.isBlank with
  | true => rfl
  | false =>
    cases request.source.toList.contains '\x00' with
    | true => rfl
    | false => cases isSupportedVersion options.spirvVersion <;> rfl

/-- A request that fails at an early check fails as a whole. -/
theorem compileWith_of_error (failed : checkRequest request options = .error failure) :
    compileWith backend request options = .error failure := by
  -- The early checks come before the stage and the backend.
  unfold compileWith
  rw [failed]
  rfl

/-- A request that passes the checks of a request alone is passed on. -/
theorem checkRequest_of_passes (blank : Passes backend request options .blank)
    (zero : Passes backend request options .zero)
    (version : Passes backend request options .version) :
    checkRequest request options = .ok () := by
  -- The three checks are made one after the other.
  rw [passes_blank_iff] at blank
  rw [passes_zero_iff] at zero
  rw [passes_version_iff] at version
  rw [checkRequest_eq, blank, zero, version]
  rfl

/-- What the backend answers decides once it is asked. -/
theorem compileWith_of_answers {answer : BackendAnswer}
    (passes : ∀ earlier : Check, earlier.rank < Check.backend.rank →
      Passes backend request options earlier)
    (answers : Answers backend request options answer) :
    compileWith backend request options = resultOfAnswer request.name answer := by
  -- The checks before the backend pass, so what it answers becomes the result.
  obtain ⟨stage, origin, resolved, rfl⟩ := answers
  have checked := checkRequest_of_passes (passes .blank (by decide)) (passes .zero (by decide))
    (passes .version (by decide))
  unfold compileWith
  rw [checked, resolved]
  rfl

/-- At each check a compile can fail in some way. -/
theorem StopsAt.exists_fails (stops : StopsAt backend request options check) :
    ∃ kind failure, Fails backend request options check kind failure := by
  obtain ⟨passes, stuck⟩ := stops
  cases check with
  | blank => exact ⟨_, _, .blank⟩
  | zero => exact ⟨_, _, .zero⟩
  | version => exact ⟨_, _, .version⟩
  | stage =>
    cases resolved : resolveStage request.name request.source options with
    | ok found => exact absurd ⟨found, resolved⟩ stuck
    | error failure => exact ⟨_, _, .stage resolved⟩
  | backend =>
    -- The stage is known, so the backend is asked.
    obtain ⟨⟨stage, origin⟩, resolved⟩ := passes .stage (by decide)
    have answers : Answers backend request options
        (backend (stripStagePragma request.source) stage options) := ⟨stage, origin, resolved, rfl⟩
    cases answer : backend (stripStagePragma request.source) stage options with
    | rejected faults => exact ⟨_, _, .rejected (answer ▸ answers)⟩
    | invalid place message =>
      cases place with
      | none => exact ⟨_, _, .invalid (answer ▸ answers)⟩
      | some place => exact ⟨_, _, .misplaced (answer ▸ answers)⟩
    | unwritable message => exact ⟨_, _, .unwritable (answer ▸ answers)⟩
    | panicked message => exact ⟨_, _, .panicked (answer ▸ answers)⟩
    | written words =>
      rw [answer] at answers
      exact ⟨_, _, .headerless answers fun marked => stuck ⟨words, answers, marked⟩⟩

/-- The first check that is not passed decides how a compile fails. -/
theorem StopsAt.compileWith_eq (stops : StopsAt backend request options check)
    (fails : Fails backend request options check kind failure) :
    compileWith backend request options = .error failure := by
  -- All earlier checks are passed, so the compile gets to this one and no further.
  obtain ⟨passes, stuck⟩ := stops
  cases fails with
  | blank =>
    rw [passes_blank_iff, Bool.not_eq_false] at stuck
    refine compileWith_of_error ?_
    rw [checkRequest_eq, stuck]
    rfl
  | zero =>
    have blank := passes_blank_iff.mp (passes .blank (by decide))
    rw [passes_zero_iff, Bool.not_eq_false] at stuck
    refine compileWith_of_error ?_
    rw [checkRequest_eq, blank, stuck]
    rfl
  | version =>
    have blank := passes_blank_iff.mp (passes .blank (by decide))
    have zero := passes_zero_iff.mp (passes .zero (by decide))
    rw [passes_version_iff, Bool.not_eq_true] at stuck
    refine compileWith_of_error ?_
    rw [checkRequest_eq, blank, zero, stuck]
    rfl
  | stage undecided =>
    have checked := checkRequest_of_passes (passes .blank (by decide)) (passes .zero (by decide))
      (passes .version (by decide))
    unfold compileWith
    rw [checked, undecided]
    rfl
  | rejected answers => exact compileWith_of_answers passes answers
  | misplaced answers => exact compileWith_of_answers passes answers
  | invalid answers => exact compileWith_of_answers passes answers
  | unwritable answers => exact compileWith_of_answers passes answers
  | panicked answers => exact compileWith_of_answers passes answers
  | headerless answers other =>
    rw [compileWith_of_answers passes answers, resultOfAnswer, if_neg other]

/-- A request that passes all checks gets the words of the backend. -/
theorem compileWith_of_passes {words : List UInt32}
    (passes : ∀ check, Passes backend request options check)
    (answers : Answers backend request options (.written words)) :
    ∃ bytecode, compileWith backend request options = .ok bytecode ∧ bytecode.words = words := by
  rw [compileWith_of_answers (fun earlier _ => passes earlier) answers]
  -- The backend gives one answer, and its words begin with the mark.
  obtain ⟨stage, origin, resolved, answer⟩ := answers
  obtain ⟨words', ⟨stage', origin', resolved', answer'⟩, marked⟩ := passes .backend
  obtain ⟨rfl, rfl⟩ := Prod.mk.inj (Except.ok.inj (resolved.symm.trans resolved'))
  obtain rfl := BackendAnswer.written.inj (answer.symm.trans answer')
  have some_ : words ≠ [] := by
    rintro rfl
    simp at marked
  refine ⟨⟨words, some_⟩, ?_, rfl⟩
  rw [resultOfAnswer, if_pos marked, Bytecode.ofWords, dif_neg some_]

/-- A diagnostic with a place. -/
theorem FailureKind.covers_single {name : String} {d : Diagnostic} (row : 1 ≤ d.line)
    (column : 1 ≤ d.column) : FailureKind.text.Covers name (.compile name [d]) :=
  -- The only diagnostic is the one that is told.
  ⟨[d], rfl, by simp, by simpa using ⟨row, column⟩⟩

/-- A stage that is not told is a mistake of the text. -/
theorem covers_of_resolveStage {name source : String}
    (undecided : resolveStage name source options = .error failure) :
    FailureKind.text.Covers name failure := by
  have verdict : ∀ {origin row otherwise said}, 1 ≤ row →
      stageVerdict name origin row otherwise said = .error failure →
      FailureKind.text.Covers name failure := by
    intro origin row otherwise said one_le told
    cases said with
    | supported stage => simp [stageVerdict] at told
    | unsupported what =>
      rw [← Except.error.inj told]
      exact FailureKind.covers_single one_le (UInt32.le_refl 1)
    | unknown =>
      rw [← Except.error.inj told]
      exact FailureKind.covers_single one_le (UInt32.le_refl 1)
  have decides := decides_resolveStage name source options
  -- Each way to decide has its own place, and none of them is zero.
  generalize resolveStage name source options = result at decides undecided
  cases decides with
  | option given => simp at undecided
  | pragma free cut first own meant numbered => exact verdict (one_le_row _ numbered) undecided
  | fileName free plain telling meant => exact verdict (UInt32.le_refl 1) undecided
  | dotless free plain bare =>
    rw [← Except.error.inj undecided]
    exact FailureKind.covers_single (UInt32.le_refl 1) (UInt32.le_refl 1)

/-- A rejected text is told at least one place. -/
theorem covers_rejection (name : String) (faults : List BackendFault) :
    FailureKind.text.Covers name (.compile name (rejectionDiagnostics faults)) := by
  -- A backend that rejects a text without saying where is given the first place of the text.
  cases faults with
  | nil => exact FailureKind.covers_single (UInt32.le_refl 1) (UInt32.le_refl 1)
  | cons first others =>
    refine ⟨_, rfl, by simp [rejectionDiagnostics], fun d among => ?_⟩
    obtain ⟨fault, -, rfl⟩ := List.mem_map.mp among
    exact Diagnostic.one_le_located _ _ _

/-- Failures are of the kinds that they are taken for. -/
theorem Fails.covers (fails : Fails backend request options check kind failure) :
    kind.Covers request.name failure := by
  -- A failure that names a place in the text has a row and a column from one on.
  cases fails with
  | blank => exact FailureKind.covers_single (UInt32.le_refl 1) (UInt32.le_refl 1)
  | zero => exact ⟨_, rfl⟩
  | version => exact ⟨_, rfl⟩
  | stage undecided => exact covers_of_resolveStage undecided
  | rejected answers => exact covers_rejection _ _
  | misplaced answers =>
    obtain ⟨row, column⟩ := Diagnostic.one_le_located _ _ _
    exact FailureKind.covers_single row column
  | invalid answers =>
    obtain ⟨row, column⟩ := Diagnostic.one_le_located 1 1 _
    exact FailureKind.covers_single row column
  | unwritable answers => exact ⟨_, rfl⟩
  | panicked answers => exact ⟨_, rfl⟩
  | headerless answers => exact ⟨_, rfl⟩

/-- A request that does not pass all checks fails at the first one that it does not pass. -/
theorem exists_failure (others : ¬ ∀ check, Passes backend request options check) :
    ∃ check kind failure, StopsAt backend request options check ∧
      Fails backend request options check kind failure ∧
      compileWith backend request options = .error failure := by
  -- Among the checks that do not pass there is one of lowest rank, and the compile stops there.
  obtain ⟨check, stuck⟩ := not_forall.mp others
  obtain ⟨first, stops⟩ := exists_stopsAt stuck
  obtain ⟨kind, failure, fails⟩ := stops.exists_fails
  exact ⟨first, kind, failure, stops, fails, stops.compileWith_eq fails⟩

/-- A compile succeeds when the request passes all checks, and with the words of the backend. -/
theorem compileWith_eq_ok_iff {bytecode : Bytecode} :
    compileWith backend request options = .ok bytecode ↔
      (∀ check, Passes backend request options check) ∧
        Answers backend request options (.written bytecode.words) := by
  -- A request that does not pass all checks fails, and the backend answers only once.
  constructor
  · intro made
    have passes : ∀ check, Passes backend request options check := by
      by_contra others
      obtain ⟨-, -, failure, -, -, failed⟩ := exists_failure others
      rw [failed] at made
      simp at made
    obtain ⟨words, answers, -⟩ := passes .backend
    obtain ⟨bytecode', made', rfl⟩ := compileWith_of_passes passes answers
    obtain rfl := Except.ok.inj (made.symm.trans made')
    exact ⟨passes, answers⟩
  · rintro ⟨passes, answers⟩
    obtain ⟨⟨words, some_⟩, made, same⟩ := compileWith_of_passes passes answers
    obtain ⟨words', some_'⟩ := bytecode
    obtain rfl : words = words' := same
    exact made

/-- A compile fails at the first check that the request does not pass, and as told there. -/
theorem compileWith_eq_error_iff : compileWith backend request options = .error failure ↔
    ∃ check kind, StopsAt backend request options check ∧
      Fails backend request options check kind failure := by
  -- A request that passes all checks does not fail.
  constructor
  · intro failed
    have others : ¬ ∀ check, Passes backend request options check := by
      intro passes
      obtain ⟨words, answers, -⟩ := passes .backend
      obtain ⟨bytecode, made, -⟩ := compileWith_of_passes passes answers
      rw [made] at failed
      simp at failed
    obtain ⟨check, kind, failure', stops, fails, failed'⟩ := exists_failure others
    obtain rfl := Except.error.inj (failed.symm.trans failed')
    exact ⟨check, kind, stops, fails⟩
  · rintro ⟨check, kind, stops, fails⟩
    exact stops.compileWith_eq fails

end Ends

/-- A compile succeeds exactly when the request passes all checks, and then with the words of the
backend. Otherwise the first check that it does not pass tells the failure and its kind, and nothing
else gets out, whatever the backend does. -/
theorem compileWith_ends (backend : Backend) (request : Request) (options : Options) :
    (∀ bytecode, compileWith backend request options = .ok bytecode ↔
      (∀ check, Passes backend request options check) ∧
        Answers backend request options (.written bytecode.words)) ∧
    (∀ failure, compileWith backend request options = .error failure ↔
      ∃ check kind, StopsAt backend request options check ∧
        Fails backend request options check kind failure) ∧
    (∀ check kind failure, Fails backend request options check kind failure →
      kind.Covers request.name failure) ∧
    ∀ identifier, (Compiler.ofBackend identifier backend).compile request options =
      .finished (compileWith backend request options) :=
  -- The last part holds by definition: the cache's compiler is the pipeline over the backend.
  ⟨fun _ => compileWith_eq_ok_iff, fun _ => compileWith_eq_error_iff, fun _ _ _ => Fails.covers,
    fun _ => rfl⟩

/-- A backend that breaks down without a readable message is never asked about a text with a zero,
not even in a version that cannot be written, and its breakdown is a failure of the compiler. -/
theorem compileWith_ends_broken :
    compileWith (fun _ _ _ => .panicked none) ⟨"a.vert", "a\x00"⟩ { spirvVersion := (2, 0) } =
      .error (.contractViolation (.nulInSource "a.vert")) ∧
    FailureKind.toolchain.Covers "a.vert"
      (.toolchain "a.vert" "backend panicked: unknown panic") ∧
    compileWith (fun _ _ _ => .panicked none) ⟨"a.vert", "a"⟩ {} =
      .error (.toolchain "a.vert" "backend panicked: unknown panic") ∧
    compileWith (fun _ _ _ => .written [spirvMagic, 7]) ⟨"a.vert", "a"⟩ {} =
      .ok ⟨[spirvMagic, 7], by simp⟩ := by
  have solid : ∃ c ∈ "a\x00".toList, Text.isBlank c = false := ⟨'a', by decide, by decide⟩
  have solid' : ∃ c ∈ "a".toList, Text.isBlank c = false := ⟨'a', by decide, by decide⟩
  obtain ⟨-, fails, -, -⟩ := compileWith_ends (fun _ _ _ => .panicked none) ⟨"a.vert", "a\x00"⟩
    { spirvVersion := (2, 0) }
  obtain ⟨-, fails', covers, -⟩ := compileWith_ends (fun _ _ _ => .panicked none) ⟨"a.vert", "a"⟩ {}
  obtain ⟨made, -, -, -⟩ :=
    compileWith_ends (fun _ _ _ => .written [spirvMagic, 7]) ⟨"a.vert", "a"⟩ {}
  have vertex : resolveStage "a.vert" "a" {} = .ok (.vertex, .fileName) := by decide
  -- The backend has no part in the other checks.
  have early : ∀ backend check, check ≠ .backend → Passes backend ⟨"a.vert", "a"⟩ {} check := by
    intro backend check early
    cases check with
    | blank => exact solid'
    | zero => exact (by decide : '\x00' ∉ "a".toList)
    | version => exact ⟨rfl, by decide⟩
    | stage => exact ⟨_, vertex⟩
    | backend => exact absurd rfl early
  have broken : Fails (fun _ _ _ => .panicked none) ⟨"a.vert", "a"⟩ {} .backend .toolchain
      (.toolchain "a.vert" "backend panicked: unknown panic") := by
    have message : "backend panicked: unknown panic" =
        "backend panicked: " ++ (none : Option String).getD "unknown panic" := by decide
    rw [message]
    exact .panicked ⟨.vertex, .fileName, vertex, rfl⟩
  refine ⟨(fails _).mpr ⟨.zero, .caller, ⟨?_, ?_⟩, .zero⟩, covers _ _ _ broken,
    (fails' _).mpr ⟨.backend, .toolchain, ⟨?_, ?_⟩, broken⟩, (made _).mpr ⟨?_, ?_⟩⟩
  · intro earlier before
    cases earlier with
    | blank => exact solid
    | _ => exact absurd before (by decide)
  · exact fun clean => clean (by decide)
  · rintro earlier before
    exact early _ earlier fun same => absurd before (by rw [same]; exact Nat.lt_irrefl _)
  · rintro ⟨words, ⟨_, _, -, answer⟩, -⟩
    simp at answer
  · intro check
    by_cases last : check = .backend
    · exact last ▸ ⟨_, ⟨.vertex, .fileName, vertex, rfl⟩, rfl⟩
    · exact early _ check last
  · exact ⟨.vertex, .fileName, vertex, rfl⟩

end ShaderBuild
