import ShaderBuild.Proofs.KeyStream
import ShaderBuild.Proofs.Shell.Opening
import ShaderBuild.Proofs.Shell.Yield

/-! Runs of one command line on different inputs begin alike. -/

namespace ShaderBuild.Shell

namespace Reading

variable {reading : Reading} {command : Command} {arguments : Arguments}

end Reading

/-- The same command line with other inputs. -/
def Arguments.on (arguments : Arguments) (inputs : List Path) : Arguments :=
  { arguments with inputs := inputs }

/-- The settings under which a run compiles; without a cache there is no limit and no directory. -/
def working (compiler : Compiler) (arguments : Arguments) (settings : Settings) :
    ShaderBuild.Setting where
  compiler := compiler
  options := (arguments.options settings).toOption.getD {}
  memoryLimit :=
    if usesCache arguments settings then (cacheSettings arguments settings).memoryLimit else none
  diskDirectory :=
    if usesCache arguments settings then (cacheSettings arguments settings).diskDirectory else none

/-- The files with which a run comes to its inputs: the banner of the log is written, and the
directory of the cache is made. -/
def prepared (surroundings : Surroundings) (arguments : Arguments) (settings : Settings)
    (files : Files) : Files :=
  (writeBanner settings.logging surroundings.started files).house
    (if usesCache arguments settings then (cacheSettings arguments settings).diskDirectory
      else none)

/-- What the inputs of a run ask the compiler for. -/
def asked (surroundings : Surroundings) (arguments : Arguments) (settings : Settings)
    (files : Files) : List Request :=
  arguments.inputs.filterMap (request? (prepared surroundings arguments settings files))

/-- A run comes to its inputs: its options are accepted, and the directory of its cache can be made.
-/
structure Starts (surroundings : Surroundings) (arguments : Arguments) (settings : Settings)
    (files : Files) : Prop where
  accepted : ∃ options, arguments.options settings = .ok options
  creatable : usesCache arguments settings = true → ∀ directory,
    (cacheSettings arguments settings).diskDirectory = some directory →
      ((writeBanner settings.logging surroundings.started files).makeDirectories directory).1 =
        .ok ()

/-- A run whose inputs keep out of each other's way. Their outputs are scattered and are not the log
file, an output is only given for one input, and what is found in the cache directory is right. -/
structure Untangled (compiler : Compiler) (surroundings : Surroundings) (arguments : Arguments)
    (settings : Settings) (files : Files) : Prop where
  single : arguments.output.isSome = true → arguments.inputs.length = 1
  scattered : Scattered (working compiler arguments settings) arguments.output arguments.inputs
  unlogged : settings.logging.logToFile = true → ∀ input ∈ arguments.inputs,
    (goal arguments.output input).place ≠ (Path.mk settings.logging.logFile).place
  right : (working compiler arguments settings).FindsRight files
    (asked surroundings arguments settings files)

section Trace

variable {compiler : Compiler} {surroundings : Surroundings} {arguments : Arguments}
  {settings : Settings} {disk : Disk} {files : Files}

/-- With a cache a run compiles under the settings that the cache serves. -/
theorem working_eq_served (uses : usesCache arguments settings = true) :
    working compiler arguments settings = served compiler arguments settings := by
  -- Only a run without a cache compiles under settings of its own.
  simp [working, served, uses]

/-- Other inputs make no difference to the options, if an output is only given for one. -/
theorem options_on (settings : Settings) {inputs : List Path}
    (single : arguments.output.isSome = true → arguments.inputs.length = 1)
    (single' : arguments.output.isSome = true → inputs.length = 1) :
    (arguments.on inputs).options settings = arguments.options settings := by
  -- The inputs are only counted, and both counts pass.
  have one : ¬ (arguments.output.isSome && arguments.inputs.length != 1) = true := by
    simpa using single
  have other : ¬ ((arguments.on inputs).output.isSome &&
      (arguments.on inputs).inputs.length != 1) = true := by
    simpa [Arguments.on] using single'
  unfold Arguments.options
  rw [if_neg one, if_neg other]
  rfl

/-- A run that starts goes on to its inputs, with a new cache if it uses one. -/
theorem Starts.trace_eq (compiler : Compiler)
    (starts : Starts surroundings arguments settings disk.files) :
    ∃ filter begun, trace compiler surroundings arguments settings disk =
        traceBatch compiler arguments (working compiler arguments settings).options
          (usesCache arguments settings) filter begun ∧
      begun.files = prepared surroundings arguments settings disk.files ∧
      (usesCache arguments settings = true → begun.service.New ∧
        begun.service.stock.setting = working compiler arguments settings ∧
        begun.service.heap = .empty) := by
  -- Whether there is a cache decides what is prepared before the batch.
  obtain ⟨options, accepted⟩ := starts.accepted
  have own : (working compiler arguments settings).options = options := by
    simp [working, accepted, Except.toOption]
  rw [own, prepared]
  cases uses : usesCache arguments settings with
  | false => exact ⟨_, _, trace_of_bare accepted uses, rfl, by simp⟩
  | true =>
    obtain ⟨begun, goes, new, serves, bare, -, files⟩ :=
      trace_of_cache compiler accepted uses (starts.creatable uses)
    exact ⟨_, begun, goes, files, fun _ => ⟨new, (working_eq_served uses).symm ▸ serves, bare⟩⟩

/-- The banner of a log is no module. -/
theorem wordsOfBytes_bannerText (started : String) :
    ∃ failure, wordsOfBytes (bannerText started).toUTF8.toList = .error failure := by
  -- Four bytes decide: the first word is neither magic number, however long the text is.
  have marks : "=== avd-shaderc log ===\n".toByteArray.data.toList.take 4 =
      [0x3D, 0x3D, 0x3D, 0x20] := by
    decide
  unfold bannerText
  generalize "=== avd-shaderc log ===\n" = title at marks ⊢
  rw [toList_toUTF8, String.append_assoc, String.append_assoc, String.toByteArray_append,
    ByteArray.data_append, Array.toList_append,
    ← List.take_append_drop 4 title.toByteArray.data.toList, marks, List.append_assoc]
  simp only [List.cons_append, List.nil_append, wordsOfBytes]
  split
  · exact ⟨_, rfl⟩
  · rw [if_neg (by decide), if_neg (by decide)]
    exact ⟨_, rfl⟩

/-- The settings of a run are those of the same command line with other inputs. -/
theorem working_on (compiler : Compiler) (settings : Settings) {inputs : List Path}
    (single : arguments.output.isSome = true → arguments.inputs.length = 1)
    (single' : arguments.output.isSome = true → inputs.length = 1) :
    working compiler (arguments.on inputs) settings = working compiler arguments settings := by
  -- The inputs matter to the settings only through the options.
  rw [working, options_on settings single single']
  rfl

/-- Fewer inputs ask for less. -/
theorem asked_on_subset {inputs : List Path} (fewer : inputs ⊆ arguments.inputs) :
    asked surroundings (arguments.on inputs) settings files ⊆
      asked surroundings arguments settings files :=
  -- Each input asks by itself.
  List.filterMap_subset _ fewer

namespace Untangled

/-- Fewer inputs keep out of each other's way as well. -/
theorem on (untangled : Untangled compiler surroundings arguments settings files)
    {inputs : List Path} (fewer : inputs ⊆ arguments.inputs)
    (single : arguments.output.isSome = true → inputs.length = 1) :
    Untangled compiler surroundings (arguments.on inputs) settings files := by
  -- All conditions are about each input, or about settings that stay the same.
  have same := working_on compiler settings untangled.single single
  refine ⟨single, ?_, fun wanted input among => untangled.unlogged wanted input (fewer among), ?_⟩
  · rw [same]
    exact untangled.scattered.mono fewer
  · rw [same]
    exact untangled.right.mono (asked_on_subset fewer)

/-- What the run finds in the cache directory is right, even where the log is there. -/
theorem findsRight_prepared (untangled : Untangled compiler surroundings arguments settings files) :
    (working compiler arguments settings).FindsRight
      (prepared surroundings arguments settings files)
      (asked surroundings arguments settings files) := by
  intro request among directory used bytes found
  have found := (Files.sameFile_house _ _ _ bytes).mp found
  -- The log is the only file that may be written by then, and its text is no module.
  rcases writeBanner_cases settings.logging surroundings.started files with same | ⟨-, wrote⟩
  · rw [same] at found
    exact untangled.right request among directory used bytes found
  · rw [Files.get?_of_write wrote] at found
    split at found
    · rw [Option.some.injEq, Item.file.injEq] at found
      exact Or.inl (found ▸ wordsOfBytes_bannerText surroundings.started)
    · exact untangled.right request among directory used bytes found

end Untangled

end Trace

end ShaderBuild.Shell
