import ShaderBuild.Proofs.Cache.Faithful
import ShaderBuild.Proofs.FileAgreement
import ShaderBuild.Shell.Trace

/-! Only the first part of compiling an input knows of the cache. -/

namespace ShaderBuild.Shell

namespace Run

variable (run : Run)

/-- Notes are no lines. -/
theorem lines_append_notes (notes : List Log.Note) :
    { run with printed := run.printed ++ notes.map Line.note }.lines = run.lines := by
  simp [lines, List.filterMap_append, List.filterMap_map]

/-- Notes are printed apart from lines. -/
@[simp]
theorem lines_drain : run.drain.lines = run.lines :=
  run.lines_append_notes _

/-- A note is no line. -/
@[simp]
theorem lines_note (level : Log.Level) (text : String) : (run.note level text).lines = run.lines :=
  run.lines_append_notes [_]

/-- What is printed are lines. -/
@[simp]
theorem lines_print (texts : List String) : (run.print texts).lines = run.lines ++ texts := by
  -- Of what is printed only the lines are looked at.
  simp only [lines, print, List.filterMap_append, List.filterMap_map]
  exact congrArg _ List.filterMap_some

end Run

/-- The lines that tell of a failure. -/
def failureLines (input : Path) : Failure → List String
  | .compile _ diagnostics => diagnostics.map (diagnosticLine input)
  | _ => []

/-- A failure is told in its lines, and the service goes on. -/
theorem report_eq (input : Path) (failure : Failure) (run : Run) :
    (report input failure run).lines = run.lines ++ failureLines input failure ∧
      (report input failure run).service = run.service := by
  -- Only a rejected text has lines, one for each diagnostic.
  cases failure <;> exact ⟨by simp [report, failureLines], rfl⟩

/-- How the file of an output is put in its place: the directories around it cannot be made, or it
cannot be written there, or it is written. -/
inductive Puts (files : Files) (output : Path) (bytes : List UInt8) :
    Except Failure Unit → Files → Prop where
  | stuck {path message : String} (blocked : (files.paveAround output).1 = false) :
    Puts files output bytes (.error (.file path message)) (files.paveAround output).2
  | refused {path message : String} (paved : (files.paveAround output).1 = true)
    (refused : ((files.paveAround output).2.write output bytes).isOk = false) :
    Puts files output bytes (.error (.file path message)) (files.paveAround output).2
  | written {after : Files} (paved : (files.paveAround output).1 = true)
    (wrote : (files.paveAround output).2.write output bytes = .ok after) :
    Puts files output bytes (.ok ()) after

namespace Puts

variable {files after : Files} {output : Path} {bytes : List UInt8} {result : Except Failure Unit}

/-- An output is written, or it is a file that cannot be. -/
theorem result_cases (puts : Puts files output bytes result after) :
    result = .ok () ∨ ∃ path message, result = .error (.file path message) := by
  -- An output fails before it is written, for its directories, or as it is written.
  cases puts with
  | stuck blocked => exact Or.inr ⟨_, _, rfl⟩
  | refused paved refused => exact Or.inr ⟨_, _, rfl⟩
  | written paved wrote => exact Or.inl rfl

/-- Files stay a tree. -/
theorem isTree (puts : Puts files output bytes result after) (tree : files.IsTree) :
    after.IsTree := by
  -- The directories around the output are made first, and the file is put among them.
  cases puts with
  | stuck blocked => exact tree.paveAround output
  | refused paved refused => exact tree.paveAround output
  | written paved wrote => exact (tree.paveAround output).write wrote

/-- What is new are the file of the output, where no directory stood, and directories on the way to
it. -/
theorem get?_cases (puts : Puts files output bytes result after) (place : Location) :
    after.get? place = files.get? place ∨
      (place = output.place ∧ after.get? place = some (.file bytes) ∧
        files.get? place ≠ some .directory) ∨
      files.get? place = none ∧ after.get? place = some .directory ∧ place ∈ output.way := by
  have paved := files.get?_paveAround output place
  cases puts with
  | stuck blocked => exact paved.imp_right Or.inr
  | refused paved_ refused => exact paved.imp_right Or.inr
  | written paved_ wrote =>
    rw [Files.get?_of_write wrote]
    split
    · rename_i own
      refine Or.inr (Or.inl ⟨own, rfl, fun found => (Files.target_of_write wrote).2 ?_⟩)
      -- A directory would stand there still.
      rw [← own]
      rcases paved with same | ⟨missing, -, -⟩
      · rw [same, found]
      · simp [missing] at found
    · exact paved.imp_right Or.inr

/-- Where nothing is in its way an output is written. -/
theorem written_of_target (puts : Puts files output bytes result after)
    (paved : files.paveAround output = (true, files))
    (targeted : files.target output = .ok (.named output.place false))
    (free : files.get? output.place ≠ some .directory) :
    result = .ok () ∧ after.get? output.place = some (.file bytes) := by
  have wrote := Files.write_of_target bytes targeted free
  -- The two ends without a file contradict what is given.
  cases puts with
  | stuck blocked => simp [paved] at blocked
  | refused _ refused =>
    rw [paved] at refused
    simp [wrote, Except.isOk, Except.toBool] at refused
  | written _ wrote =>
    refine ⟨rfl, ?_⟩
    rw [Files.get?_of_write wrote, if_pos rfl]

/-- The same file is put in its place in files side by side, or in neither. -/
theorem beside {hidden early withheld : Location → Prop} {other after' : Files}
    {result' : Except Failure Unit} (one : Puts files output bytes result after)
    (two : Puts other output bytes result' after')
    (both : Files.Beside hidden early withheld files other)
    (way : ∀ place ∈ output.way, ¬ hidden place ∧ ¬ withheld place)
    (shown : ¬ hidden output.place) (punctual : ¬ early output.place) :
    Files.Beside hidden early withheld after after' ∧
      (result = .ok () ∧ result' = .ok () ∨
        (∃ path message, result = .error (.file path message)) ∧
          ∃ path message, result' = .error (.file path message)) := by
  obtain ⟨same, paved'⟩ := both.paveAround way
  -- Where the one is stuck the other is, and where the one is refused the other is.
  cases one with
  | stuck blocked =>
    cases two with
    | stuck blocked' => exact ⟨paved', Or.inr ⟨⟨_, _, rfl⟩, _, _, rfl⟩⟩
    | refused paved refused => rw [blocked, paved] at same; simp at same
    | written paved wrote => rw [blocked, paved] at same; simp at same
  | refused paved refused =>
    cases two with
    | stuck blocked => rw [blocked, paved] at same; simp at same
    | refused laid refused' => exact ⟨paved', Or.inr ⟨⟨_, _, rfl⟩, _, _, rfl⟩⟩
    | written laid wrote =>
      rcases both.write_paveAround way shown punctual paved bytes with
        ⟨_, _, wrote', -, -⟩ | ⟨-, refused'⟩
      · rw [wrote'] at refused
        simp [Except.isOk, Except.toBool] at refused
      · rw [wrote] at refused'
        simp [Except.isOk, Except.toBool] at refused'
  | written paved wrote =>
    cases two with
    | stuck blocked => rw [blocked, paved] at same; simp at same
    | refused laid refused =>
      rcases both.write_paveAround way shown punctual paved bytes with
        ⟨_, _, -, wrote', -⟩ | ⟨refused', -⟩
      · rw [wrote'] at refused
        simp [Except.isOk, Except.toBool] at refused
      · rw [wrote] at refused'
        simp [Except.isOk, Except.toBool] at refused'
    | written laid wrote' =>
      rcases both.write_paveAround way shown punctual paved bytes with
        ⟨_, _, own, own', left⟩ | ⟨refused, -⟩
      · rw [wrote, Except.ok.injEq] at own
        rw [wrote', Except.ok.injEq] at own'
        subst own own'
        exact ⟨left, Or.inl ⟨rfl, rfl⟩⟩
      · rw [wrote] at refused
        simp [Except.isOk, Except.toBool] at refused

end Puts

/-- The directories around an output are made. -/
theorem makeAround_eq (output : Path) (run : Run) :
    ∃ result, makeAround output run = (result, run.withFiles (run.files.paveAround output).2) ∧
      (result = .ok () ∧ (run.files.paveAround output).1 = true ∨
        (∃ path message, result = .error (.file path message)) ∧
          (run.files.paveAround output).1 = false) := by
  unfold makeAround
  cases parent : output.parent? with
  | none =>
    have bare : output.body = [] := by
      unfold Path.parent? at parent
      split at parent
      · assumption
      · simp at parent
    rw [Files.paveAround, bare]
    exact ⟨.ok (), rfl, Or.inl ⟨rfl, rfl⟩⟩
  | some around =>
    rw [← run.files.makeDirectories_parent parent]
    simp only
    split
    · rename_i empty
      -- The working directory is there.
      have made : run.files.makeDirectories around = (.ok (), run.files) := by
        rw [Files.makeDirectories, Path.ancestors, Files.makeNested, if_pos empty]
      rw [made]
      exact ⟨.ok (), rfl, Or.inl ⟨rfl, rfl⟩⟩
    · cases made : run.files.makeDirectories around with
      | mk result files =>
        cases result with
        | ok => exact ⟨.ok (), rfl, Or.inl ⟨rfl, rfl⟩⟩
        | error fault => exact ⟨_, rfl, Or.inr ⟨⟨_, _, rfl⟩, rfl⟩⟩

/-- Writing an output puts its file in its place, and nothing else happens. -/
theorem writeOutput_puts (output : Path) (shader : CompiledShader) (run : Run) :
    ∃ result after, writeOutput output shader run = (result, after) ∧
      Puts run.files output (shader.toBytes run.service.heap) result after.files ∧
      after.lines = run.lines ∧
      after.service = { run.service with disk := run.service.disk.withFiles after.files } := by
  obtain ⟨made, around, ends⟩ := makeAround_eq output run
  unfold writeOutput
  rw [around]
  -- The write sees the files after the directories around the output were made.
  rcases ends with ⟨rfl, paved⟩ | ⟨⟨path, message, rfl⟩, blocked⟩
  · cases wrote : (run.files.paveAround output).2.write output
        (shader.toBytes run.service.heap) with
    | error fault =>
      have wrote' : (run.withFiles (run.files.paveAround output).2).files.write output
          (shader.toBytes (run.withFiles (run.files.paveAround output).2).service.heap) =
            .error fault := wrote
      simp only [wrote']
      exact ⟨_, _, rfl, .refused paved (congrArg Except.isOk wrote), rfl, rfl⟩
    | ok files =>
      have wrote' : (run.withFiles (run.files.paveAround output).2).files.write output
          (shader.toBytes (run.withFiles (run.files.paveAround output).2).service.heap) =
            .ok files := wrote
      simp only [wrote']
      exact ⟨_, _, rfl, .written paved wrote, Run.lines_note _ _ _, rfl⟩
  · exact ⟨_, _, rfl, .stuck blocked, rfl, rfl⟩

/-- What a caller gets when a compiler ends; a breakdown is a failure of the tools. -/
def resultOf (name : String) : CompileOutcome → Except Failure Bytecode
  | .finished result => result
  | .panicked message => .error (.toolchain name message)

/-- Without a cache a text is compiled to a module of its own. -/
theorem compileText_plain (compiler : Compiler) (options : Options) (request : Request)
    (run : Run) :
    ∃ after, compileText false compiler options request run =
        ((resultOf request.name (compiler.compile request options)).map .owned, after) ∧
      after.lines = run.lines ∧ after.files = run.files := by
  -- What the compiler logs is taken out of the service, which changes neither lines nor files.
  unfold compileText
  simp only [Bool.false_eq_true, if_false]
  cases compiler.compile request options with
  | panicked message => exact ⟨_, rfl, Run.lines_drain _, rfl⟩
  | finished result =>
    cases result with
    | error failure => exact ⟨_, rfl, Run.lines_drain _, rfl⟩
    | ok bytecode => exact ⟨_, rfl, Run.lines_drain _, rfl⟩

/-- A result with a module on a heap, and the handles that come with it. -/
inductive Comes (heap : Heap) : Except Failure Bytecode → Except Failure CompiledShader →
    List Handle → Prop where
  | failure (failure : Failure) : Comes heap (.error failure) (.error failure) []
  | module {bytecode : Bytecode} {handle : Handle}
    (held : heap.bytecode? handle = some bytecode) :
    Comes heap (.ok bytecode) (.ok (.shared handle)) [handle]

/-- What a caller gets for an answer of the cache. -/
def shaderOf (name : String) : Answer → Except Failure CompiledShader
  | .returned (.ok shared) => .ok (.shared shared.handle)
  | .returned (.error failure) => .error failure
  | .panicked message => .error (.toolchain name message)

/-- Through a cache a text is compiled to what the cache answers. -/
theorem compileText_answered {run : Run} {request : Request} {after : Service} {answer : Answer}
    (answers : run.service.request request = (after, .answered answer)) (compiler : Compiler)
    (options : Options) :
    compileText true compiler options request run =
      (shaderOf request.name answer, Run.drain { run with service := after }) := by
  -- The service has answered, so only the answer is looked at.
  unfold compileText
  rw [if_pos rfl, answers]
  cases answer with
  | panicked message => rfl
  | returned result => cases result <;> rfl

/-- Through a faithful cache a text is compiled to a handle, if its module comes through the limit. -/
theorem compileText_cached {setting : ShaderBuild.Setting} {requests : List Request} {run : Run}
    {request : Request} (faithful : Faithful setting requests [] run.service)
    (asked : request ∈ requests) (compiler : Compiler) (options : Options) :
    ∃ result after handles, compileText true compiler options request run = (result, after) ∧
      Comes after.service.heap (resultOf request.name
        ((setting.outcome request).under setting.memoryLimit false)) result handles ∧
      Faithful setting requests handles after.service ∧ after.lines = run.lines ∧
      run.files.SameDirectories after.files ∧
      ∀ place, ¬ setting.Entry place → after.files.get? place = run.files.get? place := by
  obtain ⟨after, answer, answers, serves, outcome, faithful', held⟩ := faithful.request asked
  have directories : run.files.SameDirectories after.disk.files := serves.sameDirectories
  have elsewhere : ∀ place, ¬ setting.Entry place →
      after.disk.files.get? place = run.files.get? place := by
    rw [← faithful.own]
    exact fun place => serves.get?_elsewhere
  rw [compileText_answered answers, ← outcome]
  have faithful' := faithful'.withNotes []
  -- What is answered comes through the limit already, and only a module leaves a handle behind.
  cases answer with
  | panicked message =>
    exact ⟨_, _, _, rfl, .failure _, faithful', Run.lines_drain _, directories, elsewhere⟩
  | returned result =>
    cases result with
    | error failure =>
      exact ⟨_, _, _, rfl, .failure _, faithful', Run.lines_drain _, directories, elsewhere⟩
    | ok shared =>
      exact ⟨_, _, _, rfl, .module (held shared rfl), faithful', Run.lines_drain _, directories,
        elsewhere⟩

end ShaderBuild.Shell
