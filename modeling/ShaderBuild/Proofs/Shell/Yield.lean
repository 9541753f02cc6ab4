import ShaderBuild.Proofs.Shell.Bypass
import ShaderBuild.Proofs.UnchangedPlaces

/-! What each input of a batch comes to is known from the files with which the batch begins. -/

namespace ShaderBuild

/-- The handles that come with a module. -/
def CompiledShader.handles : CompiledShader → List Handle
  | owned _ => []
  | shared handle => [handle]

namespace Shell

namespace Puts

variable {files after : Files} {output : Path} {bytes : List UInt8} {result : Except Failure Unit}

/-- An output is put in its place in one way or another. -/
theorem exists_puts (files : Files) (output : Path) (bytes : List UInt8) :
    ∃ result after, Puts files output bytes result after := by
  -- The directories are made or not, and then the file is written or not.
  cases paved : (files.paveAround output).1 with
  | false => exact ⟨.error (.file "" ""), _, .stuck paved⟩
  | true =>
    cases wrote : (files.paveAround output).2.write output bytes with
    | error fault =>
      exact ⟨.error (.file "" ""), _, .refused paved (congrArg Except.isOk wrote)⟩
    | ok after => exact ⟨.ok (), after, .written paved wrote⟩

/-- Where directories stand on the way to an output, nothing but its file is put. -/
theorem get?_of_reached (puts : Puts files output bytes result after)
    (reached : ∀ place ∈ output.way, files.get? place = some .directory) :
    result = .ok () ∧ files.get? output.place ≠ some .directory ∧
        (∀ place, after.get? place =
          if place = output.place then some (.file bytes) else files.get? place) ∨
      (∃ path message, result = .error (.file path message)) ∧
        ∀ place, after.get? place = files.get? place := by
  -- Nothing is missing on the way, so nothing is paved.
  have paved : ∀ place, (files.paveAround output).2.get? place = files.get? place := by
    intro place
    refine (files.get?_paveAround output place).resolve_right ?_
    rintro ⟨missing, -, among⟩
    simp [reached place among] at missing
  cases puts with
  | stuck blocked => exact Or.inr ⟨⟨_, _, rfl⟩, paved⟩
  | refused laid refused => exact Or.inr ⟨⟨_, _, rfl⟩, paved⟩
  | written laid wrote =>
    refine Or.inl ⟨rfl, ?_, fun place => ?_⟩
    · rw [← paved]
      exact (Files.target_of_write wrote).2
    · rw [Files.get?_of_write wrote, paved]

/-- Where directories stand on the way to an output, other places are spared. -/
theorem spares (puts : Puts files output bytes result after)
    (reached : ∀ place ∈ output.way, files.get? place = some .directory) :
    files.Spares (· = output.place) after := by
  -- No directory is missing, so none is made, and the file is all that can change.
  rcases puts.get?_of_reached reached with ⟨-, free, put⟩ | ⟨-, same⟩
  · exact ⟨Files.sameDirectories_of_get? free (by simp) put,
      fun place apart => (put place).trans (if_neg apart)⟩
  · exact ⟨⟨fun place found => (same place).trans found,
      fun place found => (same place).symm.trans found⟩, fun place _ => same place⟩

/-- An output is put in its place, or the file there stays as it was. -/
theorem lands (puts : Puts files output bytes result after) :
    result = .ok () ∧ after.get? output.place = some (.file bytes) ∨
      (∃ path message, result = .error (.file path message)) ∧
        files.SameFile after output.place := by
  -- Until the file is written only directories are made, which are no files.
  cases puts with
  | stuck blocked => exact Or.inr ⟨⟨_, _, rfl⟩, files.sameFile_paveAround output _⟩
  | refused laid refused => exact Or.inr ⟨⟨_, _, rfl⟩, files.sameFile_paveAround output _⟩
  | written laid wrote =>
    refine Or.inl ⟨rfl, ?_⟩
    rw [Files.get?_of_write wrote, if_pos rfl]

/-- Whether an output is put behind directories depends on the directories only. -/
theorem ok_iff_of_same {other after' : Files} {result' : Except Failure Unit}
    (puts : Puts files output bytes result after) (puts' : Puts other output bytes result' after')
    (same : files.SameDirectories other)
    (reached : ∀ place ∈ output.way, files.get? place = some .directory) :
    result = .ok () ↔ result' = .ok () := by
  -- The two disks are compared with nothing hidden and nothing early.
  obtain ⟨-, both | ⟨⟨path, message, one⟩, path', message', two⟩⟩ :=
    puts.beside puts' same.beside
      (fun place among => ⟨not_false, not_not_intro (reached place among)⟩) not_false not_false
  · simp only [both]
  · simp [one, two]

end Puts

section Compile

variable {setting : ShaderBuild.Setting} {requests : List Request} {cached : Bool} {run : Run}
  {request : Request}

/-- Through a faithful cache or without one, a text fails or gives the module that it has, as far as
the limit allows, and entries of the cache directory are all that changes. -/
theorem compileText_gives (faithful : cached = true → Faithful setting requests [] run.service)
    (unlimited : cached = false → setting.memoryLimit = none) (asked : request ∈ requests) :
    ∃ result after,
      compileText cached setting.compiler setting.options request run = (result, after) ∧
      run.files.Spares setting.Entry after.files ∧
      ((∃ failure, result = .error failure ∧
          (∀ bytecode, (setting.outcome request).under setting.memoryLimit false ≠
            .finished (.ok bytecode)) ∧
          (cached = true → Faithful setting requests [] after.service)) ∨
        ∃ shader bytecode, result = .ok shader ∧
          (setting.outcome request).under setting.memoryLimit false =
            .finished (.ok bytecode) ∧
          shader.toBytes after.service.heap = bytesOfWords bytecode.words ∧
          (cached = true → Faithful setting requests shader.handles after.service)) := by
  -- Without a cache the module is handed over, and through one it is shared.
  cases cached with
  | false =>
    obtain ⟨after, compiled, -, files⟩ :=
      compileText_plain setting.compiler setting.options request run
    rw [unlimited rfl, CompileOutcome.under_none]
    refine ⟨_, after, compiled, by rw [files]; exact .refl _ _, ?_⟩
    rw [← ShaderBuild.Setting.outcome]
    cases made : resultOf request.name (setting.outcome request) with
    | error failure =>
      exact Or.inl ⟨failure, rfl, ne_finished_of_resultOf made, by simp⟩
    | ok bytecode =>
      exact Or.inr ⟨.owned bytecode, bytecode, rfl, finished_of_resultOf made, rfl, by simp⟩
  | true =>
    obtain ⟨result, after, handles, compiled, comes, faithful', -, directories, elsewhere⟩ :=
      compileText_cached (faithful rfl) asked setting.compiler setting.options
    refine ⟨result, after, compiled, ⟨directories, elsewhere⟩, ?_⟩
    cases made : resultOf request.name
        ((setting.outcome request).under setting.memoryLimit false) with
    | error failure =>
      rw [made] at comes
      cases comes with
      | failure =>
        exact Or.inl ⟨failure, rfl, ne_finished_of_resultOf made, fun _ => faithful'⟩
    | ok bytecode =>
      rw [made] at comes
      cases comes with
      | @module _ handle held =>
        exact Or.inr ⟨.shared handle, bytecode, rfl, finished_of_resultOf made,
          Paired.toBytes_shared held after.service.heap, fun _ => faithful'⟩

/-- A cache stays faithful when a module is given up. -/
theorem faithful_releaseShader {shader : CompiledShader}
    (faithful : Faithful setting requests shader.handles run.service) :
    Faithful setting requests [] (releaseShader shader run).service := by
  -- A module of its own has no handle to give up.
  cases shader with
  | owned bytecode => exact faithful
  | shared handle => exact faithful.release

end Compile

/-- From some files an input compiles to a module with these bytes, and they can be written next to
it. -/
structure Yields (setting : ShaderBuild.Setting) (start : Files) (input : Path)
    (bytes : List UInt8) : Prop where
  compiles : ∃ request bytecode, request? start input = some request ∧
    (setting.outcome request).under setting.memoryLimit false = .finished (.ok bytecode) ∧
    bytes = bytesOfWords bytecode.words
  put : ∃ after, Puts start (defaultOutput input) bytes (.ok ()) after

/-- An input that compiles to a module yields the bytes of that module, if any. -/
theorem Yields.eq_of_compiled {setting : ShaderBuild.Setting} {start : Files} {input : Path}
    {request : Request} {bytecode : Bytecode} {bytes : List UInt8}
    (yields : Yields setting start input bytes) (asks : request? start input = some request)
    (compiled : (setting.outcome request).under setting.memoryLimit false =
      .finished (.ok bytecode)) : bytes = bytesOfWords bytecode.words := by
  -- The input asks for one request, and that has one module.
  obtain ⟨request', bytecode', asks', compiled', rfl⟩ := yields.compiles
  obtain rfl := Option.some.inj (asks.symm.trans asks')
  rw [compiled, CompileOutcome.finished.injEq, Except.ok.injEq] at compiled'
  rw [compiled']

/-- Different inputs have different outputs, and no output is an input or an entry of the cache
directory. -/
structure Scattered (setting : ShaderBuild.Setting) (output? : Option Path) (inputs : List Path) :
    Prop where
  distinct : ∀ one ∈ inputs, ∀ two ∈ inputs,
    (goal output? one).place = (goal output? two).place → one = two
  unread : ∀ one ∈ inputs, ∀ two ∈ inputs, (goal output? one).place ≠ two.place
  outside : ∀ input ∈ inputs, ¬ setting.Entry (goal output? input).place

/-- Fewer inputs are scattered as well. -/
theorem Scattered.mono {setting : ShaderBuild.Setting} {output? : Option Path}
    {inputs fewer : List Path} (scattered : Scattered setting output? inputs)
    (among : fewer ⊆ inputs) : Scattered setting output? fewer where
  -- Each condition is about the inputs one by one or in pairs.
  distinct := fun one own two own' => scattered.distinct one (among own) two (among own')
  unread := fun one own two own' => scattered.unread one (among own) two (among own')
  outside := fun input own => scattered.outside input (among own)

/-- Where a batch may have put something when some inputs are done: entries of the cache directory,
and what those inputs yield. -/
def Touched (setting : ShaderBuild.Setting) (start : Files) (done : List Path)
    (place : Location) : Prop :=
  setting.Entry place ∨ ∃ input ∈ done, (∃ bytes, Yields setting start input bytes) ∧
    place = (defaultOutput input).place

/-- How a batch stands when some inputs are done: its cache is faithful, the outputs that the inputs
yield are there, and nothing else has changed. -/
structure Amid (setting : ShaderBuild.Setting) (requests : List Request) (cached : Bool)
    (start : Files) (done : List Path) (run : Run) : Prop where
  faithful : cached = true → Faithful setting requests [] run.service
  spares : start.Spares (Touched setting start done) run.files
  written : ∀ input ∈ done, ∀ bytes, Yields setting start input bytes →
    run.files.get? (defaultOutput input).place = some (.file bytes)

namespace Amid

variable {setting : ShaderBuild.Setting} {requests : List Request} {cached : Bool} {start : Files}
  {inputs done : List Path} {input : Path} {run after : Run}

/-- A text is read as in the beginning. -/
theorem readText_iff (amid : Amid setting requests cached start done run)
    (scattered : Scattered setting none inputs) (earlier : done ⊆ inputs) (among : input ∈ inputs)
    (text : String) :
    run.files.readText input = .ok text ↔ start.readText input = .ok text := by
  by_cases entry : setting.Entry input.place
  · -- Next to a text in the cache directory the output would stand there too.
    have unread : ∀ {files : Files}, files.readText input ≠ .ok text := by
      intro files read_
      obtain ⟨around, name, place, place'⟩ :
          ∃ around name, input.place = around ++ [name] ∧
            (defaultOutput input).place = around ++ [name ++ ".spv"] :=
        Files.place_append_of_readText read_ (by decide) (by decide)
      obtain ⟨directory, used, other, inside⟩ := entry
      obtain ⟨rfl, -⟩ := List.append_inj' (place.symm.trans inside) rfl
      exact scattered.outside input among ⟨directory, used, _, place'⟩
    exact ⟨fun read_ => absurd read_ unread, fun read_ => absurd read_ unread⟩
  · refine amid.spares.readText_iff ?_ text
    rintro (inside | ⟨other, before, -, same⟩)
    · exact entry inside
    · exact scattered.unread other (earlier before) input among same.symm

/-- When an attempt has put what its input yields, the batch goes on. -/
theorem next (amid : Amid setting requests cached start done run)
    (scattered : Scattered setting none inputs) (earlier : done ⊆ inputs) (among : input ∈ inputs)
    (faithful : cached = true → Faithful setting requests [] after.service)
    (spares : run.files.Spares (Touched setting start [input]) after.files)
    (found : ∀ bytes, Yields setting start input bytes →
      after.files.get? (defaultOutput input).place = some (.file bytes)) :
    Amid setting requests cached start (input :: done) after where
  faithful := faithful
  spares := by
    refine (amid.spares.mono ?_).trans (spares.mono ?_)
    · rintro place (entry | ⟨other, before, yields, own⟩)
      · exact Or.inl entry
      · exact Or.inr ⟨other, List.mem_cons_of_mem _ before, yields, own⟩
    · rintro place (entry | ⟨other, own_, yields, own⟩)
      · exact Or.inl entry
      · exact Or.inr ⟨other, List.mem_cons.mpr (Or.inl (List.mem_singleton.mp own_)), yields, own⟩
  written := by
    intro other either bytes yields
    by_cases same : other = input
    · rw [same] at yields ⊢
      exact found bytes yields
    · have before := (List.mem_cons.mp either).resolve_left same
      -- The output of another input is another one.
      rw [spares.elsewhere]
      · exact amid.written other before bytes yields
      · rintro (entry | ⟨own, only, -, place⟩)
        · exact scattered.outside other (earlier before) entry
        · rw [List.mem_singleton.mp only] at place
          exact same (scattered.distinct other (earlier before) input among place)

/-- What is printed does not matter. -/
theorem of_service (amid : Amid setting requests cached start done run)
    (same : after.service = run.service) : Amid setting requests cached start done after := by
  -- The files belong to the service.
  have files : after.files = run.files := congrArg (·.disk.files) same
  exact ⟨fun used => same ▸ amid.faithful used, files ▸ amid.spares, files ▸ amid.written⟩

/-- When an attempt has come to nothing, as its input does, the batch goes on. -/
theorem fail (amid : Amid setting requests cached start done run)
    (scattered : Scattered setting none inputs) (earlier : done ⊆ inputs) (among : input ∈ inputs)
    (faithful : cached = true → Faithful setting requests [] after.service)
    (kept : run.files.Spares setting.Entry after.files)
    (fruitless : ¬ ∃ bytes, Yields setting start input bytes) :
    Amid setting requests cached start (input :: done) after :=
  -- Such an input yields nothing that would have to stand at its output.
  amid.next scattered earlier among faithful (kept.mono fun _ => Or.inl)
    fun bytes yields => absurd ⟨bytes, yields⟩ fruitless

/-- A module is written when the input yields it, and the batch goes on. -/
theorem write {left written : Run} {request : Request} {shader : CompiledShader}
    {bytecode : Bytecode} {result : Except Failure Unit}
    (amid : Amid setting requests cached start done run)
    (scattered : Scattered setting none inputs) (earlier : done ⊆ inputs) (among : input ∈ inputs)
    (asks : request? start input = some request)
    (reached : ∀ place ∈ (defaultOutput input).way, start.get? place = some .directory)
    (compiled : (setting.outcome request).under setting.memoryLimit false =
      .finished (.ok bytecode))
    (faithful : cached = true → Faithful setting requests shader.handles left.service)
    (kept : run.files.Spares setting.Entry left.files)
    (image : shader.toBytes left.service.heap = bytesOfWords bytecode.words)
    (wrote : writeOutput (defaultOutput input) shader left = (result, written)) :
    (result = .ok () ↔ ∃ bytes, Yields setting start input bytes) ∧
      Amid setting requests cached start (input :: done) (releaseShader shader written) := by
  obtain ⟨_, _, wrote', puts, -, service⟩ := writeOutput_puts (defaultOutput input) shader left
  obtain ⟨rfl, rfl⟩ := Prod.mk.inj (wrote.symm.trans wrote')
  rw [image] at puts
  have before : start.SameDirectories left.files :=
    amid.spares.directories.trans kept.directories
  have reached' : ∀ place ∈ (defaultOutput input).way, left.files.get? place = some .directory :=
    fun place among => before.keeps place (reached place among)
  -- From the files of the beginning the output is put in its place as well, or neither is.
  have yields_iff : result = .ok () ↔ ∃ bytes, Yields setting start input bytes := by
    constructor
    · intro done_
      obtain ⟨result', after', puts'⟩ :=
        Puts.exists_puts start (defaultOutput input) (bytesOfWords bytecode.words)
      obtain rfl := (puts.ok_iff_of_same puts' before.symm reached').mp done_
      exact ⟨_, ⟨request, bytecode, asks, compiled, rfl⟩, after', puts'⟩
    · rintro ⟨bytes, yields⟩
      obtain ⟨after', puts'⟩ := yields.put
      rw [yields.eq_of_compiled asks compiled] at puts'
      exact (puts.ok_iff_of_same puts' before.symm reached').mpr rfl
  have spares := puts.spares reached'
  have faithful' : cached = true →
      Faithful setting requests [] (releaseShader shader written).service := by
    intro used
    refine faithful_releaseShader ?_
    rw [service]
    -- The output is none of the cache's own files.
    refine (faithful used).withDisk fun place bytes entry found => ?_
    exact (spares.elsewhere place fun own => scattered.outside input among (own ▸ entry)).symm.trans
      found
  refine ⟨yields_iff, ?_⟩
  rcases puts.get?_of_reached reached' with ⟨done_, -, put⟩ | ⟨⟨path, message, fails⟩, same⟩
  · have yields := yields_iff.mp done_
    refine amid.next scattered earlier among faithful' ?_ fun bytes own => ?_
    · exact (kept.mono fun place => Or.inl).trans
        (spares.mono fun place own => Or.inr ⟨input, List.mem_cons_self, yields, own⟩)
    · rw [own.eq_of_compiled asks compiled]
      exact (put _).trans (if_pos rfl)
  · refine amid.fail scattered earlier among faithful' ?_ (mt yields_iff.mpr (by simp [fails]))
    exact kept.trans ⟨spares.directories, fun place _ => same place⟩

/-- An attempt succeeds when its input yields something, and puts that. -/
theorem attempt (amid : Amid setting requests cached start done run)
    (unlimited : cached = false → setting.memoryLimit = none)
    (scattered : Scattered setting none inputs) (earlier : done ⊆ inputs) (among : input ∈ inputs)
    (asked : ∀ request, request? start input = some request → request ∈ requests) :
    let went := Shell.attempt cached setting.compiler setting.options none input run
    (went.1.succeeded = true ↔ ∃ bytes, Yields setting start input bytes) ∧
      Amid setting requests cached start (input :: done) went.2 := by
  intro went
  have alike := amid.readText_iff scattered earlier among
  -- The input reads as it did at the start, and so it yields what it would have yielded then.
  cases read_ : start.readText input with
  | error fault =>
    have fruitless : ¬ ∃ bytes, Yields setting start input bytes := by
      rintro ⟨bytes, ⟨request, bytecode, asks, -, -⟩, -⟩
      simp [request?, read_, Except.toOption] at asks
    cases read_' : run.files.readText input with
    | ok text => simp [(alike text).mp read_'] at read_
    | error fault' =>
      obtain ⟨after, ends, -, service⟩ := attempt_of_unreadable cached setting.compiler
        setting.options none read_'
      simp only [went, ends]
      refine ⟨by simp [Attempt.succeeded, Except.isOk, Except.toBool, fruitless], ?_⟩
      have fails := amid.fail scattered earlier among amid.faithful (.refl _ _) fruitless
      exact fails.of_service service
  | ok source =>
    have read_' := (alike source).mpr read_
    have asks := request?_of_readText read_
    obtain ⟨result, left, compiled, kept, gives⟩ :=
      compileText_gives amid.faithful unlimited (asked _ asks)
    rcases gives with
      ⟨failure, rfl, fails, faithful⟩ | ⟨shader, bytecode, rfl, outcome, image, faithful⟩
    · have fruitless : ¬ ∃ bytes, Yields setting start input bytes := by
        rintro ⟨bytes, ⟨request, bytecode, asks', outcome, -⟩, -⟩
        obtain rfl := Option.some.inj (asks.symm.trans asks')
        exact fails bytecode outcome
      obtain ⟨after, ends, -, service⟩ := attempt_of_failure none read_' compiled
      simp only [went, ends]
      refine ⟨by simp [Attempt.succeeded, Except.isOk, Except.toBool, fruitless], ?_⟩
      exact (amid.fail scattered earlier among faithful kept fruitless).of_service service
    · obtain ⟨checked, reached⟩ := Files.way_of_readText read_
      have way : (defaultOutput input).way = input.way := Path.way_append checked (by decide)
      obtain ⟨result, written, wrote, puts, -, -⟩ :=
        writeOutput_puts (defaultOutput input) shader left
      obtain ⟨after, ends, -, service⟩ :=
        attempt_of_module none read_' compiled wrote puts.result_cases
      obtain ⟨yields_iff, amid'⟩ := amid.write scattered earlier among asks (way ▸ reached) outcome
        faithful kept image wrote
      simp only [went, ends]
      refine ⟨Iff.trans ?_ yields_iff, amid'.of_service service⟩
      cases result <;> simp [Attempt.succeeded, Except.isOk, Except.toBool]

/-- A batch whose outputs stand next to the inputs goes through them; each attempt succeeds when its
input yields something. -/
theorem attempts {rest : List Path} (amid : Amid setting requests cached start done run)
    (unlimited : cached = false → setting.memoryLimit = none)
    (scattered : Scattered setting none inputs) (earlier : done ⊆ inputs) (among : rest ⊆ inputs)
    (asked : ∀ input ∈ rest, ∀ request, request? start input = some request →
      request ∈ requests) :
    let went := Shell.attempts cached setting.compiler setting.options none rest run
    (∀ attempt ∈ went.1,
      attempt.succeeded = true ↔ ∃ bytes, Yields setting start attempt.input bytes) ∧
      Amid setting requests cached start (rest.reverse ++ done) went.2 := by
  -- Input by input; what is done grows.
  induction rest generalizing done run with
  | nil => exact ⟨fun _ among => absurd among List.not_mem_nil, amid⟩
  | cons input rest ih =>
    obtain ⟨own, others⟩ := List.cons_subset.mp among
    obtain ⟨succeeded, amid'⟩ :=
      amid.attempt unlimited scattered earlier own (asked input List.mem_cons_self)
    obtain ⟨succeeded', amid''⟩ := ih amid' (List.cons_subset.mpr ⟨own, earlier⟩) others
      fun other later => asked other (List.mem_cons_of_mem _ later)
    refine ⟨List.forall_mem_cons.mpr ⟨succeeded, succeeded'⟩, ?_⟩
    rw [List.reverse_cons, List.append_assoc]
    exact amid''

end Amid

section Held

variable {setting : ShaderBuild.Setting} {requests : List Request} {run : Run} {input : Path}
  {source : String}

end Held

end Shell

end ShaderBuild
