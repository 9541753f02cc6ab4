import ShaderBuild.Proofs.Shell.Batch
import ShaderBuild.Proofs.UnchangedPlaces

/-! A run that has made the directory of its cache is side by side with one without a cache. -/

namespace ShaderBuild

/-- Directories that are made for the cache. -/
def Setting.Early (setting : Setting) (start : Files) (place : Location) : Prop :=
  ∃ directory, setting.diskDirectory = some directory ∧ start.get? place = none ∧
    (start.makeDirectories directory).2.get? place = some .directory

instance (setting : Setting) (place : Location) : Decidable (setting.Entry place) :=
  decidable_of_iff (∃ directory ∈ setting.diskDirectory,
      place ≠ [] ∧ place.dropLast = directory.place) <| by
    constructor
    · rintro ⟨directory, used, some_, around⟩
      refine ⟨directory, used, place.getLast some_, ?_⟩
      rw [← around, List.dropLast_concat_getLast]
    · rintro ⟨directory, used, name, rfl⟩
      exact ⟨directory, used, by simp, List.dropLast_concat⟩

instance (setting : Setting) (start : Files) (place : Location) :
    Decidable (setting.Early start place) :=
  inferInstanceAs (Decidable (∃ directory ∈ setting.diskDirectory, _))

instance (setting : Setting) (requests : List Request) : Decidable (setting.Separates requests) :=
  inferInstanceAs (Decidable (∀ one ∈ requests, ∀ two ∈ requests, _))

/-- What a backend writes does not look like a module of the other byte order. -/
theorem Compiler.head?_ofBackend {identifier : String} {backend : Backend} {request : Request}
    {options : Options} {bytecode : Bytecode}
    (compiled : (Compiler.ofBackend identifier backend).compile request options =
      .finished (.ok bytecode)) : bytecode.words.head? ≠ some turnedMagic := by
  have made : compileWith backend request options = .ok bytecode :=
    CompileOutcome.finished.inj compiled
  unfold compileWith at made
  cases checked : checkRequest request options with
  | error failure => simp [checked, bind, Except.bind] at made
  | ok =>
    cases resolved : resolveStage request.name request.source options with
    | error failure => simp [checked, resolved, bind, Except.bind] at made
    | ok stage =>
      simp only [checked, resolved, bind, Except.bind] at made
      -- Only words behind the right mark are taken.
      unfold resultOfAnswer at made
      split at made
      case h_6 words _ =>
        split at made
        · rename_i marked
          unfold Bytecode.ofWords at made
          split at made
          · simp at made
          · rw [← Except.ok.inj made, marked]
            decide
        · simp at made
      all_goals simp at made

namespace Shell

/-- The settings that the cache of a run serves. -/
def served (compiler : Compiler) (arguments : Arguments) (settings : Settings) :
    ShaderBuild.Setting where
  compiler := compiler
  options := (arguments.options settings).toOption.getD {}
  memoryLimit := (cacheSettings arguments settings).memoryLimit
  diskDirectory := (cacheSettings arguments settings).diskDirectory

/-- The requests of a run. -/
def Trace.requests (trace : Trace) : List Request :=
  trace.attempts.filterMap (·.request?)

end Shell

/-- The files with the directory of a cache, if it has one. -/
def Files.house (files : Files) : Option Path → Files
  | none => files
  | some directory => (files.makeDirectories directory).2

/-- Making the directory of a cache makes and unmakes no file. -/
theorem Files.sameFile_house (files : Files) (directory? : Option Path) (place : Location) :
    files.SameFile (files.house directory?) place := by
  -- Directories are made, if any, and files stay.
  cases directory? with
  | none => exact .of_get? rfl
  | some directory => exact files.sameFile_makeDirectories directory place

/-- Making the directory of a cache leaves the files side by side with those before it. -/
theorem Files.beside_house (setting : Setting) (start : Files) :
    Beside setting.Entry (setting.Early start) (fun _ => False)
      (start.house setting.diskDirectory) start := by
  intro place _
  -- Making directories adds directories only, and each of them is early.
  cases used : setting.diskDirectory with
  | none => exact Or.inl rfl
  | some directory =>
    cases before : start.get? place with
    | some item => exact Or.inl (extends_makeDirectories start directory place item before)
    | none =>
      cases after : (start.makeDirectories directory).2.get? place with
      | none => exact Or.inl after
      | some item =>
        cases item with
        | directory => exact Or.inr (Or.inl ⟨⟨directory, used, before, after⟩, after, rfl⟩)
        | file bytes =>
          have there := addsNoFile_makeDirectories start directory place bytes after
          simp [before] at there

/-- A cache is set up where its directory can be made. -/
theorem Service.configure_eq (service : Service) (compiler : Compiler) {cache : CacheSettings}
    {compiles : CompilerSettings} {options : Options} (accepted : compiles.options = .ok options)
    (creatable : ∀ directory, cache.diskDirectory = some directory →
      (service.disk.files.makeDirectories directory).1 = .ok ()) :
    ∃ notes, service.configure compiler cache compiles = (.ok (), { service with
        cache :=
          { compiler := compiler, options := options, memoryLimit := cache.memoryLimit
            diskDirectory := cache.diskDirectory }
        disk := service.disk.withFiles (service.disk.files.house cache.diskDirectory)
        notes := notes }) := by
  unfold configure
  rw [accepted]
  simp only
  -- Without a directory nothing has to be made, and with one it can be.
  cases used : cache.diskDirectory with
  | none => exact ⟨_, rfl⟩
  | some directory =>
    have made := creatable directory used
    simp only [useDirectory, Files.house]
    cases result : service.disk.files.makeDirectories directory with
    | mk ends files =>
      rw [result] at made
      subst made
      simp only [withCache, result]
      exact ⟨_, rfl⟩

namespace Shell

/-- The same run without a cache. -/
def Arguments.bypassing (arguments : Arguments) : Arguments :=
  { arguments with noCache := true }

/-- A run whose cache may as well be left out. Its directory can be made and is set apart from what
the run reads and writes, what is found there is right, and different requests have different keys.
-/
structure Bypassable (compiler : Compiler) (surroundings : Surroundings) (arguments : Arguments)
    (settings : Settings) (disk : Disk) : Prop where
  uses : usesCache arguments settings = true
  tree : disk.files.IsTree
  creatable : ∀ directory, (served compiler arguments settings).diskDirectory = some directory →
    ((opening compiler surroundings settings disk).2.files.makeDirectories directory).1 = .ok ()
  apart : SetApart (served compiler arguments settings)
    ((served compiler arguments settings).Early (opening compiler surroundings settings disk).2.files)
    arguments.output arguments.inputs
  log : settings.logging.logToFile = true →
    ¬ (served compiler arguments settings).Entry (Path.mk settings.logging.logFile).place
  right : (served compiler arguments settings).FindsRight disk.files
    (trace compiler surroundings arguments.bypassing settings disk).requests
  separate : (served compiler arguments settings).Separates
    (trace compiler surroundings arguments.bypassing settings disk).requests

/-- A run that fails before anything is compiled agrees with itself. -/
theorem failedTrace_agrees (setting : ShaderBuild.Setting) (early : Location → Prop) (start : Files)
    (filter : Log.Filter) (run : Run) (message : String) :
    (failedTrace filter run message).Agrees setting early start
      (failedTrace filter run message) where
  -- There are no attempts, and everything else is the same run.
  attempts := .nil
  lines := rfl
  files := fun _ _ _ => Or.inl rfl
  code := fun _ => rfl
  exhausted := fun ⟨_, among, _⟩ => absurd among List.not_mem_nil

/-- The banner of the log is written to the log file only, and leaves a tree. -/
theorem writeBanner_cases (settings : LoggingSettings) (started : String) (files : Files) :
    writeBanner settings started files = files ∨ settings.logToFile = true ∧
      files.write ⟨settings.logFile⟩ (bannerText started).toUTF8.toList =
        .ok (writeBanner settings started files) := by
  -- A banner that cannot be written is passed over.
  unfold writeBanner
  split
  · rename_i wanted
    cases wrote : files.write ⟨settings.logFile⟩ (bannerText started).toUTF8.toList with
    | error fault => exact Or.inl rfl
    | ok after => exact Or.inr ⟨wanted, rfl⟩
  · exact Or.inl rfl

/-- The options of a run are those of the settings, with the stage that is asked for. An output is only
given for one input. -/
theorem options_eq_ok {arguments : Arguments} {settings : Settings} {options : Options}
    (accepted : arguments.options settings = .ok options) :
    (∃ base, settings.compiler.options = .ok base) ∧
      (arguments.output.isSome = true → arguments.inputs.length = 1) := by
  -- Outputs and inputs are counted before the settings are used.
  unfold Arguments.options at accepted
  split at accepted
  · simp at accepted
  · rename_i single
    refine ⟨?_, by simpa using single⟩
    cases base : settings.compiler.options with
    | error failure => simp [base] at accepted
    | ok found => exact ⟨found, rfl⟩

section Trace

variable {compiler : Compiler} {surroundings : Surroundings} {arguments : Arguments}
  {settings : Settings} {disk : Disk} {options : Options}

/-- The cache of a run serves the options of the run. -/
theorem options_served (accepted : arguments.options settings = .ok options) :
    (served compiler arguments settings).options = options := by
  simp [served, accepted, Except.toOption]

/-- A run without options fails at once. -/
theorem trace_of_error {message : String} (fails : arguments.options settings = .error message) :
    trace compiler surroundings arguments settings disk =
      failedTrace (opening compiler surroundings settings disk).1
        (opening compiler surroundings settings disk).2 message := by
  -- The batch is not reached.
  rw [trace]
  simp only [fails]

/-- A run without a cache goes on to its inputs. -/
theorem trace_of_bare (accepted : arguments.options settings = .ok options)
    (bare : usesCache arguments settings = false) :
    trace compiler surroundings arguments settings disk =
      traceBatch compiler arguments options false
        (opening compiler surroundings settings disk).1
        (opening compiler surroundings settings disk).2 := by
  -- With options, and without a cache to set up, only the batch is left.
  rw [trace]
  simp only [accepted]
  rw [if_neg (by simp [bare])]

/-- A run goes on to its inputs with a new cache, if the directory of the cache can be made. -/
theorem trace_of_cache (compiler : Compiler) (accepted : arguments.options settings = .ok options)
    (uses : usesCache arguments settings = true)
    (creatable : ∀ directory, (served compiler arguments settings).diskDirectory = some directory →
      ((opening compiler surroundings settings disk).2.files.makeDirectories directory).1 =
        .ok ()) :
    ∃ begun, trace compiler surroundings arguments settings disk =
        traceBatch compiler arguments options true
          (opening compiler surroundings settings disk).1 begun ∧
      begun.service.New ∧ begun.service.stock.setting = served compiler arguments settings ∧
      begun.service.heap = .empty ∧
      begun.lines = (opening compiler surroundings settings disk).2.lines ∧
      begun.files = (opening compiler surroundings settings disk).2.files.house
        (served compiler arguments settings).diskDirectory := by
  obtain ⟨⟨base, known⟩, -⟩ := options_eq_ok accepted
  have own : (served compiler arguments settings).options = options := options_served accepted
  subst own
  -- The cache is set up on what the opening left, and what it noted is printed.
  let setting := served compiler arguments settings
  let run := (opening compiler surroundings settings disk).2
  obtain ⟨notes, configured⟩ := run.service.configure_eq compiler known creatable
  let begun : Run :=
    { service :=
        { run.service with
          cache :=
            ⟨compiler, setting.options, setting.memoryLimit, setting.diskDirectory, {}, [], {}⟩
          disk := run.service.disk.withFiles (run.files.house setting.diskDirectory)
          notes := [] }
      printed := run.printed ++ notes.map .note }
  refine ⟨begun, ?_, ⟨⟨rfl, rfl⟩, rfl⟩, rfl, rfl, run.lines_append_notes notes, rfl⟩
  rw [trace]
  simp only [accepted, if_pos uses]
  rw [configured]
  rfl

/-- The run before its inputs stands in a tree, in which nothing new is an entry of the cache. -/
theorem Bypassable.opened (bypassable : Bypassable compiler surroundings arguments settings disk) :
    (opening compiler surroundings settings disk).2.files.IsTree ∧
      ∀ place, (served compiler arguments settings).Entry place →
        (opening compiler surroundings settings disk).2.files.get? place = disk.files.get? place := by
  -- All that happens before the cache is the banner, whose file is no entry of the cache.
  have opened : (opening compiler surroundings settings disk).2.files =
    writeBanner settings.logging surroundings.started disk.files := rfl
  rw [opened]
  rcases writeBanner_cases settings.logging surroundings.started disk.files with
    same | ⟨wanted, wrote⟩
  · rw [same]
    exact ⟨bypassable.tree, fun _ _ => rfl⟩
  · refine ⟨bypassable.tree.write wrote, fun place entry => ?_⟩
    rw [Files.get?_of_write wrote, if_neg]
    rintro rfl
    exact bypassable.log wanted entry

/-- With its cache a run comes to its inputs side by side with the same run without it. -/
theorem Bypassable.begins (bypassable : Bypassable compiler surroundings arguments settings disk)
    (unturned : ∀ request options bytecode, compiler.compile request options =
      .finished (.ok bytecode) → bytecode.words.head? ≠ some turnedMagic)
    (accepted : arguments.options settings = .ok options) {requests : List Request}
    (right : (served compiler arguments settings).FindsRight disk.files requests)
    (separate : (served compiler arguments settings).Separates requests) :
    ∃ cached, trace compiler surroundings arguments settings disk =
        traceBatch compiler arguments (served compiler arguments settings).options true
          (opening compiler surroundings settings disk).1 cached ∧
      Paired requests (served compiler arguments settings)
        ((served compiler arguments settings).Early
          (opening compiler surroundings settings disk).2.files)
        (fun _ => False) cached (opening compiler surroundings settings disk).2 := by
  have own : (served compiler arguments settings).options = options := options_served accepted
  subst own
  obtain ⟨tree, same⟩ := bypassable.opened
  obtain ⟨cached, goes, new, serves, bare, lines, files⟩ :=
    trace_of_cache compiler accepted bypassable.uses bypassable.creatable
  refine ⟨cached, goes,
    .of_new (fun request => unturned request _) separate.accords new serves bare ?_, lines,
    files ▸ Files.beside_house _ _, tree⟩
  intro request among directory used bytes found
  refine right request among directory used bytes ?_
  -- The file was there before the directory of the cache was made.
  rw [← same _ (ShaderBuild.Setting.entry_keyPlace used _)]
  rw [← Run.files, files] at found
  exact (Files.sameFile_house _ _ _ bytes).mp found

end Trace

end Shell

end ShaderBuild
