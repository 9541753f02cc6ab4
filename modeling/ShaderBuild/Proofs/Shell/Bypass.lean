import Mathlib.Data.List.Forall2
import ShaderBuild.Proofs.Shell.Compiling

/-! An input is compiled and written alike with a cache and without, if its module fits. -/

namespace ShaderBuild.Shell

namespace Run

/-- The lines that tell of a result. -/
def resultLines (input : Path) : Except Failure Unit → List String
  | .ok () => []
  | .error failure => failureLines input failure

/-- A result is told in its lines, and the service goes on. -/
theorem told_eq (run : Run) (input : Path) (result : Except Failure Unit) :
    (run.told input result).lines = run.lines ++ resultLines input result ∧
      (run.told input result).service = run.service := by
  -- A success has no lines of its own.
  cases result with
  | ok => exact ⟨(List.append_nil _).symm, rfl⟩
  | error failure => exact report_eq input failure run

end Run

section Steps

variable {cached : Bool} {compiler : Compiler} {options : Options} {input output : Path}
  {run after left : Run} {source : String}

/-- An input that cannot be read fails at once. -/
theorem compileFile_of_unreadable {fault : FileFault}
    (unreadable : run.files.readText input = .error fault) :
    compileFile cached compiler options input output run =
      (.error (.file input.text fault.message), run) := by
  -- The text is read first, and everything else is behind that.
  rw [compileFile, unreadable]

/-- An input whose text does not compile fails so. -/
theorem compileFile_of_failure {failure : Failure} (read_ : run.files.readText input = .ok source)
    (compiled : compileText cached compiler options ⟨input.logicalName, source⟩ run =
      (.error failure, after)) :
    compileFile cached compiler options input output run = (.error failure, after) := by
  -- Nothing is written when there is no module.
  rw [compileFile, read_]
  simp only [compiled]

/-- An input whose text compiles ends as its output is written, and gives its module up. -/
theorem compileFile_of_module {shader : CompiledShader} {result : Except Failure Unit}
    (read_ : run.files.readText input = .ok source)
    (compiled : compileText cached compiler options ⟨input.logicalName, source⟩ run =
      (.ok shader, after))
    (wrote : writeOutput output shader after = (result, left)) :
    compileFile cached compiler options input output run =
      (result, releaseShader shader left) := by
  -- The module is given up after it was written, whether or not that succeeded.
  rw [compileFile, read_]
  simp only [compiled, wrote]

/-- A limit does not change how a compiler fails. -/
theorem resultOf_under {name : String} {outcome : CompileOutcome} {failure : Failure}
    (failed : resultOf name outcome = .error failure) {limit? : Option Nat} {resident : Bool} :
    resultOf name (outcome.under limit? resident) = .error failure := by
  -- The limit is asked for a module only.
  cases outcome with
  | panicked message => exact failed
  | finished result =>
    cases result with
    | error other => exact failed
    | ok bytecode => simp [resultOf] at failed

/-- What fails has no module. -/
theorem ne_finished_of_resultOf {name : String} {outcome : CompileOutcome} {failure : Failure}
    (failed : resultOf name outcome = .error failure) (bytecode : Bytecode) :
    outcome ≠ .finished (.ok bytecode) := by
  -- A module that was made is a success.
  rintro rfl
  simp [resultOf] at failed

/-- Only a compiler that ends with a module gives one. -/
theorem finished_of_resultOf {name : String} {outcome : CompileOutcome} {bytecode : Bytecode}
    (made : resultOf name outcome = .ok bytecode) : outcome = .finished (.ok bytecode) := by
  -- A panic is told as a failure.
  cases outcome with
  | panicked message => simp [resultOf] at made
  | finished result => exact congrArg CompileOutcome.finished made

/-- What becomes of an input is how it is compiled, and the result is told. -/
theorem attempt_eq (output? : Option Path) {result : Except Failure Unit}
    (compiled : compileFile cached compiler options input (goal output? input) run =
      (result, left)) :
    ∃ after, attempt cached compiler options output? input run =
        (⟨input, goal output? input, request? run.files input, result⟩, after) ∧
      after.lines = left.lines ++ Run.resultLines input result ∧ after.service = left.service :=
  -- The lines of the result come behind those of the compile.
  ⟨left.told input result, by rw [attempt, compiled], left.told_eq input result⟩

/-- What can be read is asked for. -/
theorem request?_of_readText {files : Files} (read_ : files.readText input = .ok source) :
    request? files input = some ⟨input.logicalName, source⟩ := by
  -- The request is made of the name and the text that was read.
  rw [request?, read_]
  rfl

/-- What cannot be read is not asked for, and the attempt fails. -/
theorem attempt_of_unreadable (cached : Bool) (compiler : Compiler) (options : Options)
    (output? : Option Path) {fault : FileFault}
    (unreadable : run.files.readText input = .error fault) :
    ∃ after, attempt cached compiler options output? input run =
        (⟨input, goal output? input, none, .error (.file input.text fault.message)⟩, after) ∧
      after.lines = run.lines ∧ after.service = run.service := by
  -- The input is read before the compiler is asked.
  have compiled : compileFile cached compiler options input (goal output? input) run =
      (.error (.file input.text fault.message), run) :=
    compileFile_of_unreadable unreadable
  obtain ⟨after, went, lines, service⟩ := attempt_eq output? compiled
  rw [request?, unreadable] at went
  exact ⟨after, went, lines.trans (List.append_nil _), service⟩

/-- A text that does not compile fails so. -/
theorem attempt_of_failure (output? : Option Path) {failure : Failure}
    (read_ : run.files.readText input = .ok source)
    (compiled : compileText cached compiler options ⟨input.logicalName, source⟩ run =
      (.error failure, left)) :
    ∃ after, attempt cached compiler options output? input run =
        (⟨input, goal output? input, some ⟨input.logicalName, source⟩, .error failure⟩, after) ∧
      after.lines = left.lines ++ failureLines input failure ∧ after.service = left.service := by
  -- The request is the one that the text makes.
  rw [← request?_of_readText read_]
  exact attempt_eq output? (compileFile_of_failure read_ compiled)

/-- A module is put in its place and given up; if it cannot be, no line tells of that. -/
theorem attempt_of_module (output? : Option Path) {shader : CompiledShader}
    {result : Except Failure Unit} {written : Run}
    (read_ : run.files.readText input = .ok source)
    (compiled : compileText cached compiler options ⟨input.logicalName, source⟩ run =
      (.ok shader, left))
    (wrote : writeOutput (goal output? input) shader left = (result, written))
    (ends : result = .ok () ∨ ∃ path message, result = .error (.file path message)) :
    ∃ after, attempt cached compiler options output? input run =
        (⟨input, goal output? input, some ⟨input.logicalName, source⟩, result⟩, after) ∧
      after.lines = written.lines ∧
      after.service = (releaseShader shader written).service := by
  -- A file that cannot be written is told in a note, and notes are no lines.
  obtain ⟨after, went, lines, service⟩ :=
    attempt_eq output? (compileFile_of_module read_ compiled wrote)
  rw [request?_of_readText read_] at went
  refine ⟨after, went, lines.trans ?_, service⟩
  rcases ends with rfl | ⟨path, message, rfl⟩ <;> exact List.append_nil _

/-- Without a cache a text that compiles becomes a file, and nothing else happens. -/
theorem attempt_plain (output? : Option Path) {bytecode : Bytecode}
    (read_ : run.files.readText input = .ok source)
    (compiled : compiler.compile ⟨input.logicalName, source⟩ options =
      .finished (.ok bytecode)) :
    ∃ result after, attempt false compiler options output? input run =
        (⟨input, goal output? input, some ⟨input.logicalName, source⟩, result⟩, after) ∧
      Puts run.files (goal output? input) (bytesOfWords bytecode.words) result after.files ∧
      after.lines = run.lines := by
  -- Compiling, writing and giving up come one after the other; only writing touches the files.
  obtain ⟨left, plainly, lines, files⟩ :=
    compileText_plain compiler options ⟨input.logicalName, source⟩ run
  rw [compiled] at plainly
  obtain ⟨result, written, wrote, puts, lines', -⟩ :=
    writeOutput_puts (goal output? input) (.owned bytecode) left
  obtain ⟨after, went, lines'', service⟩ :=
    attempt_of_module output? read_ plainly wrote puts.result_cases
  have same : after.files = written.files :=
    congrArg (fun service : Service => service.disk.files) service
  rw [files, ← same] at puts
  exact ⟨result, after, went, puts, lines''.trans (lines'.trans lines)⟩

end Steps

namespace Attempt

/-- The module of an attempt is larger than the limit of the settings. -/
def Exceeds (setting : ShaderBuild.Setting) (attempt : Attempt) (size limit : Nat) : Prop :=
  ∃ request bytecode, attempt.request? = some request ∧
    setting.outcome request = .finished (.ok bytecode) ∧ bytecode.byteLength = size ∧
    setting.memoryLimit = some limit ∧ limit < size

/-- The module of an attempt is too large for the settings. -/
def IsTooLarge (setting : ShaderBuild.Setting) (attempt : Attempt) : Prop :=
  ∃ size limit, attempt.Exceeds setting size limit

/-- A file of an attempt could not be read or written. -/
def FileFails (attempt : Attempt) : Prop :=
  ∃ path message, attempt.result = .error (.file path message)

/-- The attempts of a run with a cache and of one without agree on an input. A module that is larger
than the limit is refused by the cache alone. -/
structure Agrees (setting : ShaderBuild.Setting) (cached plain : Attempt) : Prop where
  input : cached.input = plain.input
  output : cached.output = plain.output
  request? : cached.request? = plain.request?
  small : ¬ plain.IsTooLarge setting →
    cached.result = plain.result ∨ cached.FileFails ∧ plain.FileFails
  large : ∀ size limit, plain.Exceeds setting size limit →
    cached.result = .error (.cacheExhausted size limit) ∧
      (plain.result = .ok () ∨ plain.FileFails)

end Attempt

namespace Attempt

variable {setting : ShaderBuild.Setting} {attempt cached plain : Attempt}

/-- An attempt without a module is not larger than the limit. -/
theorem not_isTooLarge {request : Request} (asks : attempt.request? = some request)
    (fits : ∀ bytecode, setting.outcome request = .finished (.ok bytecode) →
      setting.Fits bytecode) : ¬ attempt.IsTooLarge setting := by
  -- What is too large would be the module of the attempt's own request.
  rintro ⟨size, limit, own, bytecode, asks', compiled, rfl, bounded, large⟩
  obtain rfl := Option.some.inj (asks.symm.trans asks')
  exact Nat.not_lt.mpr (fits bytecode compiled limit bounded) large

/-- An attempt is larger than the limit by its own module only. -/
theorem exceeds_iff {request : Request} {bytecode : Bytecode} {bound : Nat}
    (asks : attempt.request? = some request)
    (compiled : setting.outcome request = .finished (.ok bytecode))
    (bounded : setting.memoryLimit = some bound) (large : bound < bytecode.byteLength)
    (size limit : Nat) :
    attempt.Exceeds setting size limit ↔ size = bytecode.byteLength ∧ limit = bound := by
  -- The request, its module and the limit are each determined.
  constructor
  · rintro ⟨own, module, asks', compiled', rfl, bounded', -⟩
    obtain rfl := Option.some.inj (asks.symm.trans asks')
    rw [compiled, CompileOutcome.finished.injEq, Except.ok.injEq] at compiled'
    rw [bounded, Option.some.injEq] at bounded'
    exact ⟨by rw [compiled'], bounded'.symm⟩
  · rintro ⟨rfl, rfl⟩
    exact ⟨request, bytecode, asks, compiled, rfl, bounded, large⟩

/-- Attempts with the same result, or with files that fail, agree when nothing is too large. -/
theorem Agrees.of_small {input output : Path} {request? : Option Request}
    {result result' : Except Failure Unit}
    (small : ¬ IsTooLarge setting ⟨input, output, request?, result'⟩)
    (ends : result = result' ∨ (∃ path message, result = .error (.file path message)) ∧
      ∃ path message, result' = .error (.file path message)) :
    Agrees setting ⟨input, output, request?, result⟩ ⟨input, output, request?, result'⟩ where
  input := rfl
  output := rfl
  request? := rfl
  small := fun _ => ends
  -- The case of a module that is too large does not arise.
  large := fun size limit large => absurd ⟨size, limit, large⟩ small

end Attempt

/-- Two runs side by side, one with a faithful cache and one without a cache. -/
structure Paired (requests : List Request) (setting : ShaderBuild.Setting)
    (early withheld : Location → Prop) (cached plain : Run) : Prop where
  faithful : Faithful setting requests [] cached.service
  lines : cached.lines = plain.lines
  files : Files.Beside setting.Entry early withheld cached.files plain.files
  tree : plain.files.IsTree

namespace Paired

variable {requests : List Request} {setting : ShaderBuild.Setting}
  {early withheld : Location → Prop} {cached plain : Run} {input output : Path}

/-- More may be withheld, and less where a directory stands. -/
theorem withhold (paired : Paired requests setting early withheld cached plain)
    {more : Location → Prop}
    (kept : ∀ place, withheld place → plain.files.get? place ≠ some .directory → more place) :
    Paired requests setting early more cached plain :=
  -- What is withheld is only asked for where the files are compared.
  { paired with files := paired.files.withhold kept }

/-- The same lines may follow in both, while the services stay. -/
theorem tell (paired : Paired requests setting early withheld cached plain) {one two : Run}
    {told : List String} (lines : one.lines = cached.lines ++ told)
    (service : one.service = cached.service) (lines' : two.lines = plain.lines ++ told)
    (service' : two.service = plain.service) :
    Paired requests setting early withheld one two where
  faithful := service ▸ paired.faithful
  lines := by rw [lines, lines', paired.lines]
  -- The files are those of the services, which stay.
  files := by
    rw [Run.files, service, Run.files, service']
    exact paired.files
  tree := by
    rw [Run.files, service']
    exact paired.tree

/-- A module with a handle has the bytes of the same module without one. -/
theorem toBytes_shared {heap : Heap} {handle : Handle} {bytecode : Bytecode}
    (held : heap.bytecode? handle = some bytecode) (other : Heap) :
    CompiledShader.toBytes heap (.shared handle) =
      CompiledShader.toBytes other (.owned bytecode) := by
  -- The heap gives the handle back the module, and bytes depend on the words alone.
  simp only [CompiledShader.toBytes, CompiledShader.words, Heap.words, held, Option.map_some,
    Option.getD_some]

/-- The same module is written in both runs or in neither, and the handle of the cache is given up.
-/
theorem write {handle : Handle} {bytecode : Bytecode}
    (faithful : Faithful setting requests [handle] cached.service)
    (held : cached.service.heap.bytecode? handle = some bytecode)
    (lines : cached.lines = plain.lines)
    (files : Files.Beside setting.Entry early withheld cached.files plain.files)
    (tree : plain.files.IsTree)
    (way : ∀ place ∈ output.way, ¬ setting.Entry place ∧ ¬ withheld place)
    (shown : ¬ setting.Entry output.place) (punctual : ¬ early output.place) :
    ∃ result after result' after',
      writeOutput output (.shared handle) cached = (result, after) ∧
      writeOutput output (.owned bytecode) plain = (result', after') ∧
      Paired requests setting early withheld (releaseShader (.shared handle) after)
        (releaseShader (.owned bytecode) after') ∧
      (result = .ok () ∧ result' = .ok () ∨
        (∃ path message, result = .error (.file path message)) ∧
          ∃ path message, result' = .error (.file path message)) := by
  obtain ⟨result, after, wrote, puts, lines', service⟩ :=
    writeOutput_puts output (.shared handle) cached
  obtain ⟨result', after', wrote', puts', lines'', -⟩ :=
    writeOutput_puts output (.owned bytecode) plain
  rw [toBytes_shared held plain.service.heap] at puts
  obtain ⟨left, ends⟩ := puts.beside puts' files way shown punctual
  refine ⟨result, after, result', after', wrote, wrote', ⟨?_, ?_, left, puts'.isTree tree⟩, ends⟩
  · -- The output is none of the cache's own files.
    have kept : Faithful setting requests [handle] after.service := by
      rw [service]
      refine faithful.withDisk fun place bytes entry found => ?_
      rcases puts.get?_cases place with same | ⟨own, -, -⟩ | ⟨-, new, -⟩
      · exact same.symm.trans found
      · exact absurd (own ▸ entry) shown
      · exact absurd (new.symm.trans found) (by simp)
    exact kept.release
  · show after.lines = after'.lines
    rw [lines', lines'', lines]

/-- How two runs stand after an attempt that the cache alone refuses: the one has left the files, and
the other has put its output in place. -/
structure Refused (requests : List Request) (setting : ShaderBuild.Setting)
    (early withheld : Location → Prop) (input output : Path) (before : Files) (cached plain : Run) :
    Prop where
  faithful : Faithful setting requests [] cached.service
  lines : cached.lines = plain.lines
  files : Files.Beside setting.Entry early withheld cached.files before
  tree : plain.files.IsTree
  puts : ∃ bytes result, Puts before output bytes result plain.files
  readable : Files.checkPath input = .ok ()
  reached : ∀ place ∈ input.way, before.get? place = some .directory

/-- How two runs stand after their next attempts: side by side, or the module is too large, and the
cache alone has refused it. -/
def Onward (requests : List Request) (setting : ShaderBuild.Setting)
    (early withheld : Location → Prop) (before : Files) (one two : Attempt × Run) : Prop :=
  one.1.Agrees setting two.1 ∧
    (¬ two.1.IsTooLarge setting ∧ Paired requests setting early withheld one.2 two.2 ∨
      two.1.IsTooLarge setting ∧
        Refused requests setting early withheld two.1.input two.1.output before one.2 two.2)

section Cases

variable {output? : Option Path} {source : String} {left left' : Run}

/-- An input that can be read in neither run fails in both. -/
theorem onward_of_unreadable (paired : Paired requests setting early withheld cached plain)
    {fault fault' : FileFault} (unread : cached.files.readText input = .error fault)
    (unread' : plain.files.readText input = .error fault') :
    Onward requests setting early withheld plain.files
      (Shell.attempt true setting.compiler setting.options output? input cached)
      (Shell.attempt false setting.compiler setting.options output? input plain) := by
  -- Neither run gets to its compiler, so the caches and the files stay as they are.
  obtain ⟨one, went, lines, service⟩ :=
    attempt_of_unreadable true setting.compiler setting.options output? unread
  obtain ⟨two, went', lines', service'⟩ :=
    attempt_of_unreadable false setting.compiler setting.options output? unread'
  rw [went, went']
  have small : ¬ Attempt.IsTooLarge setting
      ⟨input, goal output? input, none, .error (.file input.text fault'.message)⟩ := by
    rintro ⟨size, limit, request, bytecode, asks, -⟩
    simp at asks
  refine ⟨.of_small small (Or.inr ⟨⟨_, _, rfl⟩, _, _, rfl⟩), Or.inl ⟨small, ?_⟩⟩
  exact paired.tell (lines.trans (List.append_nil _).symm) service
    (lines'.trans (List.append_nil _).symm) service'

/-- A text that does not compile fails alike in both runs. -/
theorem onward_of_failure (paired : Paired requests setting early withheld left left')
    {failure : Failure} (read_ : cached.files.readText input = .ok source)
    (read_' : plain.files.readText input = .ok source)
    (failed : resultOf input.logicalName (setting.outcome ⟨input.logicalName, source⟩) =
      .error failure)
    (through : compileText true setting.compiler setting.options ⟨input.logicalName, source⟩
      cached = (.error failure, left))
    (through' : compileText false setting.compiler setting.options ⟨input.logicalName, source⟩
      plain = (.error failure, left')) (before : Files) :
    Onward requests setting early withheld before
      (Shell.attempt true setting.compiler setting.options output? input cached)
      (Shell.attempt false setting.compiler setting.options output? input plain) := by
  -- The failure is that of the text, so it is the same in both and is told in the same lines.
  obtain ⟨one, went, lines, service⟩ := attempt_of_failure output? read_ through
  obtain ⟨two, went', lines', service'⟩ := attempt_of_failure output? read_' through'
  rw [went, went']
  have small : ¬ Attempt.IsTooLarge setting
      ⟨input, goal output? input, some ⟨input.logicalName, source⟩, .error failure⟩ :=
    Attempt.not_isTooLarge rfl fun bytecode compiled =>
      absurd compiled (ne_finished_of_resultOf failed bytecode)
  exact ⟨.of_small small (Or.inl rfl),
    Or.inl ⟨small, paired.tell lines service lines' service'⟩⟩

/-- A module that comes through the limit is written in both runs, or in neither. -/
theorem onward_of_module {handle : Handle} {bytecode : Bytecode}
    (faithful : Faithful setting requests [handle] left.service)
    (held : left.service.heap.bytecode? handle = some bytecode) (lines : left.lines = left'.lines)
    (files : Files.Beside setting.Entry early withheld left.files left'.files)
    (tree : left'.files.IsTree)
    (read_ : cached.files.readText input = .ok source)
    (read_' : plain.files.readText input = .ok source)
    (compiled : setting.outcome ⟨input.logicalName, source⟩ = .finished (.ok bytecode))
    (fits : setting.Fits bytecode)
    (through : compileText true setting.compiler setting.options ⟨input.logicalName, source⟩
      cached = (.ok (.shared handle), left))
    (through' : compileText false setting.compiler setting.options ⟨input.logicalName, source⟩
      plain = (.ok (.owned bytecode), left'))
    (way : ∀ place ∈ (goal output? input).way, ¬ setting.Entry place ∧
      (withheld place → left'.files.get? place = some .directory))
    (shown : ¬ setting.Entry (goal output? input).place)
    (punctual : ¬ early (goal output? input).place) (before : Files) :
    Onward requests setting early withheld before
      (Shell.attempt true setting.compiler setting.options output? input cached)
      (Shell.attempt false setting.compiler setting.options output? input plain) := by
  -- On the way to the output nothing is withheld any more.
  have files := files.withhold
    fun place kept closed => (⟨kept, closed⟩ : withheld place ∧ left'.files.get? place ≠ _)
  obtain ⟨result, after, result', after', wrote, wrote', paired, ends⟩ :=
    Paired.write faithful held lines files tree
      (fun place among => (way place among).imp_right fun stood late => late.2 (stood late.1))
      shown punctual
  have paired := paired.withhold fun place late _ => late.1
  obtain ⟨one, went, lines, service⟩ := attempt_of_module output? read_ through wrote <|
    ends.imp And.left And.left
  obtain ⟨two, went', lines', service'⟩ := attempt_of_module output? read_' through' wrote' <|
    ends.imp And.right And.right
  rw [went, went']
  have small : ¬ Attempt.IsTooLarge setting
      ⟨input, goal output? input, some ⟨input.logicalName, source⟩, result'⟩ :=
    Attempt.not_isTooLarge rfl fun other compiled' => by
      rw [compiled, CompileOutcome.finished.injEq, Except.ok.injEq] at compiled'
      exact compiled' ▸ fits
  refine ⟨.of_small small (ends.imp_left fun ⟨same, same'⟩ => same.trans same'.symm),
    Or.inl ⟨small, ?_⟩⟩
  exact paired.tell (lines.trans (List.append_nil _).symm) service
    (lines'.trans (List.append_nil _).symm) service'

/-- A module that is too large is refused by the cache, and the run without one writes it. -/
theorem onward_of_large {bytecode : Bytecode} {limit : Nat}
    (faithful : Faithful setting requests [] left.service) (lines : left.lines = plain.lines)
    (files : Files.Beside setting.Entry early withheld left.files plain.files)
    (tree : plain.files.IsTree) (read_ : cached.files.readText input = .ok source)
    (read_' : plain.files.readText input = .ok source)
    (compiled : setting.outcome ⟨input.logicalName, source⟩ = .finished (.ok bytecode))
    (bounded : setting.memoryLimit = some limit) (large : limit < bytecode.byteLength)
    (through : compileText true setting.compiler setting.options ⟨input.logicalName, source⟩
      cached = (.error (.cacheExhausted bytecode.byteLength limit), left)) :
    Onward requests setting early withheld plain.files
      (Shell.attempt true setting.compiler setting.options output? input cached)
      (Shell.attempt false setting.compiler setting.options output? input plain) := by
  obtain ⟨checked, reached⟩ := Files.way_of_readText read_'
  obtain ⟨one, went, told, service⟩ := attempt_of_failure output? read_ through
  obtain ⟨result, two, went', puts, told'⟩ := attempt_plain output? read_' compiled
  rw [went, went']
  -- The attempt is too large by just these two numbers.
  have exceeds : ∀ size bound, Attempt.Exceeds setting
      ⟨input, goal output? input, some ⟨input.logicalName, source⟩, result⟩ size bound ↔
        size = bytecode.byteLength ∧ bound = limit :=
    Attempt.exceeds_iff rfl compiled bounded large
  have isTooLarge : Attempt.IsTooLarge setting
      ⟨input, goal output? input, some ⟨input.logicalName, source⟩, result⟩ :=
    ⟨_, _, (exceeds _ _).mpr ⟨rfl, rfl⟩⟩
  refine ⟨⟨rfl, rfl, rfl, absurd isTooLarge, fun size bound large => ?_⟩,
    Or.inr ⟨isTooLarge, ?_, ?_, ?_, puts.isTree tree, ⟨_, _, puts⟩, checked, reached⟩⟩
  · obtain ⟨rfl, rfl⟩ := (exceeds _ _).mp large
    exact ⟨rfl, puts.result_cases⟩
  · exact service ▸ faithful
  · exact told.trans ((List.append_nil _).trans (lines.trans told'.symm))
  · rw [Run.files, service]
    exact files

end Cases

/-- Two runs go on side by side with their next attempt, but for a module that is too large. -/
theorem attempt (paired : Paired requests setting early withheld cached plain)
    (output? : Option Path) (input : Path)
    (asked : ∀ request, request? plain.files input = some request → request ∈ requests)
    (trail : ∀ place ∈ input.trail, ¬ setting.Entry place)
    (inwards : ∀ place ∈ input.trail, early place → ['.', '.'] ∉ input.pieces)
    (given : ¬ withheld input.place)
    (way : Files.checkPath input = .ok () →
      (∀ place ∈ input.way, plain.files.get? place = some .directory) →
      ∀ place ∈ (goal output? input).way, ¬ setting.Entry place ∧
        (withheld place → plain.files.get? place = some .directory))
    (shown : ¬ setting.Entry (goal output? input).place)
    (punctual : ¬ early (goal output? input).place) :
    Onward requests setting early withheld plain.files
      (Shell.attempt true setting.compiler setting.options output? input cached)
      (Shell.attempt false setting.compiler setting.options output? input plain) := by
  rcases paired.files.readText paired.tree trail given inwards with
    alike | ⟨⟨fault, unread⟩, fault', unread'⟩
  · cases read_' : plain.files.readText input with
    | error fault => exact paired.onward_of_unreadable (alike.trans read_') read_'
    | ok source =>
      have read_ := alike.trans read_'
      obtain ⟨left', through', lines', files'⟩ := compileText_plain setting.compiler
        setting.options ⟨input.logicalName, source⟩ plain
      obtain ⟨result, left, handles, through, comes, faithful, lines, -, elsewhere⟩ :=
        compileText_cached paired.faithful (asked _ (request?_of_readText read_'))
          setting.compiler setting.options
      have lines_ : left.lines = plain.lines := lines.trans paired.lines
      have files_ : Files.Beside setting.Entry early withheld left.files plain.files :=
        paired.files.of_hidden elsewhere
      -- The text fails, or has a module, which the cache may find too large.
      cases made : resultOf input.logicalName
          (setting.outcome ⟨input.logicalName, source⟩) with
      | error failure =>
        rw [resultOf_under made] at comes
        rw [← ShaderBuild.Setting.outcome, made] at through'
        cases comes with
        | failure =>
          refine onward_of_failure ⟨faithful, lines_.trans lines'.symm, ?_, ?_⟩ read_ read_' made
            through through' _
          · rwa [files']
          · rw [files']
            exact paired.tree
      | ok bytecode =>
        have compiled := finished_of_resultOf made
        by_cases fits : setting.Fits bytecode
        · rw [compiled, fits.under] at comes
          rw [← ShaderBuild.Setting.outcome, made] at through'
          cases comes with
          | module held =>
            obtain ⟨checked, reached⟩ := Files.way_of_readText read_'
            refine onward_of_module faithful held (lines_.trans lines'.symm) ?_ ?_ read_ read_'
              compiled fits through through' ?_ shown punctual _
            · rwa [files']
            · rw [files']
              exact paired.tree
            · rw [files']
              exact way checked reached
        · obtain ⟨limit, bounded, large⟩ : ∃ limit, setting.memoryLimit = some limit ∧
              limit < bytecode.byteLength := by
            obtain ⟨limit, large⟩ := Classical.not_forall.mp fits
            obtain ⟨bounded, large⟩ := Classical.not_imp.mp large
            exact ⟨limit, bounded, Nat.not_le.mp large⟩
          rw [compiled, bounded, CompileOutcome.under_of_large large] at comes
          cases comes with
          | failure =>
            exact onward_of_large faithful lines_ files_ paired.tree read_ read_' compiled bounded
              large through
  · exact paired.onward_of_unreadable unread unread'

/-- After an attempt that the cache alone refuses, two runs are side by side but for the output, when
its directory was there. -/
theorem Refused.paired {before : Files}
    (refused : Refused requests setting early withheld input output before cached plain)
    (shown : ¬ setting.Entry output.place) (punctual : ¬ early output.place)
    (way : output.way = input.way) :
    Paired requests setting early (fun place => withheld place ∨ place = output.place) cached plain
    where
  faithful := refused.faithful
  lines := refused.lines
  tree := refused.tree
  files := by
    intro place open_
    obtain ⟨bytes, result, puts⟩ := refused.puts
    rcases puts.get?_cases place with same | ⟨rfl, new, free⟩ | ⟨missing, -, among⟩
    · rw [same]
      exact (refused.files place open_).imp_right (Or.imp_right fun ⟨kept, none_⟩ =>
        ⟨Or.inl kept, none_⟩)
    · -- A file is put where no directory stood in either run.
      refine Or.inr (Or.inr ⟨Or.inr rfl, mt (refused.files.directory_iff shown punctual).mp free, ?_⟩)
      rw [new]
      simp
    · rw [way] at among
      simp [refused.reached place among] at missing

end Paired

/-- No input is the output of an earlier one whose module is too large. -/
def Attempt.Independent (setting : ShaderBuild.Setting) (attempts : List Attempt) : Prop :=
  attempts.Pairwise fun earlier later =>
    earlier.IsTooLarge setting → earlier.output.place ≠ later.input.place

/-- Without a limit nothing is too large. -/
theorem Attempt.not_isTooLarge_of_unlimited {setting : ShaderBuild.Setting}
    (unlimited : setting.memoryLimit = none) (attempt : Attempt) :
    ¬ attempt.IsTooLarge setting := by
  -- To be too large takes a limit.
  rintro ⟨size, limit, request, bytecode, -, -, -, bounded, -⟩
  simp [unlimited] at bounded

/-- Each input is attempted. -/
theorem map_input_attempts (cached : Bool) (compiler : Compiler) (options : Options)
    (output : Option Path) (inputs : List Path) (run : Run) :
    (attempts cached compiler options output inputs run).1.map (·.input) = inputs := by
  -- Induction on the inputs, from any run.
  induction inputs generalizing run with
  | nil => rfl
  | cons input inputs ih => exact congrArg (input :: ·) (ih _)

namespace Paired

variable {requests : List Request} {setting : ShaderBuild.Setting}
  {early withheld : Location → Prop} {cached plain : Run}

/-- Two runs go through inputs side by side whose outputs stand next to them. What is withheld in the
end are outputs of modules that are too large. -/
theorem attempts (paired : Paired requests setting early withheld cached plain)
    (inputs : List Path)
    (asked : ∀ attempt ∈ (attempts false setting.compiler setting.options none inputs plain).1,
      ∀ request, attempt.request? = some request → request ∈ requests)
    (trails : ∀ input ∈ inputs, ∀ place ∈ input.trail, ¬ setting.Entry place ∧
      (early place → ['.', '.'] ∉ input.pieces))
    (given : ∀ input ∈ inputs, ¬ withheld input.place)
    (outputs : ∀ input ∈ inputs, ¬ setting.Entry (defaultOutput input).place ∧
      ¬ early (defaultOutput input).place)
    (independent : Attempt.Independent setting
      (Shell.attempts false setting.compiler setting.options none inputs plain).1) :
    let one := Shell.attempts true setting.compiler setting.options none inputs cached
    let two := Shell.attempts false setting.compiler setting.options none inputs plain
    List.Forall₂ (Attempt.Agrees setting) one.1 two.1 ∧
      ∃ withheld', Paired requests setting early withheld' one.2 two.2 ∧ ∀ place, withheld' place →
        withheld place ∨ ∃ attempt ∈ two.1, attempt.IsTooLarge setting ∧
          place = attempt.output.place := by
  -- Input by input; what is withheld grows with each output that only one run writes.
  induction inputs generalizing withheld cached plain with
  | nil => exact ⟨.nil, withheld, paired, fun place kept => Or.inl kept⟩
  | cons input inputs ih =>
    obtain ⟨shown, punctual⟩ := outputs input List.mem_cons_self
    obtain ⟨first, rest⟩ := List.pairwise_cons.mp independent
    have way : Files.checkPath input = .ok () → (goal none input).way = input.way := fun checked =>
      Path.way_append checked (by decide)
    have trail := trails input List.mem_cons_self
    obtain ⟨agrees, goes⟩ := paired.attempt none input
      (fun request asks => asked _ List.mem_cons_self request asks)
      (fun place looked => (trail place looked).1) (fun place looked => (trail place looked).2)
      (given input List.mem_cons_self)
      (fun checked reached place among => by
        rw [way checked] at among
        exact ⟨(trail place (List.mem_cons_of_mem _ among)).1, fun _ => reached place among⟩)
      shown punctual
    have asked' := fun attempt among => asked attempt (List.mem_cons_of_mem _ among)
    have trails' := fun input among => trails input (List.mem_cons_of_mem _ among)
    have outputs' := fun input among => outputs input (List.mem_cons_of_mem _ among)
    rcases goes with ⟨-, paired'⟩ | ⟨exceeds, refused⟩
    · obtain ⟨agree, withheld', paired'', kept⟩ := ih paired' asked' trails'
        (fun input among => given input (List.mem_cons_of_mem _ among)) outputs' rest
      refine ⟨.cons agrees agree, withheld', paired'', fun place late => ?_⟩
      exact (kept place late).imp_right fun ⟨attempt, among, which⟩ =>
        ⟨attempt, List.mem_cons_of_mem _ among, which⟩
    · have paired' := refused.paired shown punctual (way refused.readable)
      obtain ⟨agree, withheld', paired'', kept⟩ := ih paired' asked' trails'
        (fun other among => by
          refine not_or.mpr ⟨given other (List.mem_cons_of_mem _ among), fun own => ?_⟩
          -- The input is one of those that are attempted later.
          rw [← map_input_attempts false setting.compiler setting.options none inputs
            (Shell.attempt false setting.compiler setting.options none input plain).2] at among
          obtain ⟨later, there, rfl⟩ := List.mem_map.mp among
          exact first later there exceeds own.symm) outputs' rest
      refine ⟨.cons agrees agree, withheld', paired'', fun place late => ?_⟩
      rcases kept place late with (given | own) | ⟨attempt, among, which⟩
      · exact Or.inl given
      · exact Or.inr ⟨_, List.mem_cons_self, exceeds, own⟩
      · exact Or.inr ⟨attempt, List.mem_cons_of_mem _ among, which⟩

end Paired

end ShaderBuild.Shell
