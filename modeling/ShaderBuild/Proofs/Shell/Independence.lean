import ShaderBuild.Proofs.Cache.Inclusion
import ShaderBuild.Proofs.Shell.NoCache
import ShaderBuild.Proofs.Shell.Preparing
import ShaderBuild.Proofs.Stripping

/-! What a run does with an input depends on no other input and not on their order. -/

namespace ShaderBuild

namespace Shell

/-- A run writes these bytes for an input: it attempts the input, each attempt at it succeeds, and
in the end the bytes stand at its output. -/
structure Trace.Writes (trace : Trace) (input : Path) (bytes : List UInt8) : Prop where
  attempted : ∃ attempt ∈ trace.attempts, attempt.input = input
  stands : ∀ attempt ∈ trace.attempts, attempt.input = input → attempt.succeeded = true ∧
    trace.files.get? attempt.output.place = some (.file bytes)

instance (trace : Trace) (input : Path) (bytes : List UInt8) :
    Decidable (trace.Writes input bytes) :=
  decidable_of_iff ((∃ attempt ∈ trace.attempts, attempt.input = input) ∧
      ∀ attempt ∈ trace.attempts, attempt.input = input → attempt.succeeded = true ∧
        trace.files.get? attempt.output.place = some (.file bytes))
    ⟨fun ⟨attempted, stands⟩ => ⟨attempted, stands⟩, fun ⟨attempted, stands⟩ => ⟨attempted, stands⟩⟩

/-- No attempt of a run at an input succeeds. -/
def Trace.Fails (trace : Trace) (input : Path) : Prop :=
  ∀ attempt ∈ trace.attempts, attempt.input = input → attempt.succeeded = false

/-- A run from some files goes as planned: it writes what the plan has for an input, and an input
for which there is none fails and leaves the file at its output as it was. -/
structure Trace.Follows (trace : Trace) (files : Files) (output? : Option Path)
    (inputs : List Path) (plan : Path → List UInt8 → Prop) : Prop where
  outputs : ∀ attempt ∈ trace.attempts, attempt.output = goal output? attempt.input
  attempted : ∀ input ∈ inputs, ∀ bytes, plan input bytes →
    ∃ attempt ∈ trace.attempts, attempt.input = input
  succeeded : ∀ attempt ∈ trace.attempts,
    attempt.succeeded = true ↔ ∃ bytes, plan attempt.input bytes
  written : ∀ input ∈ inputs, ∀ bytes, plan input bytes →
    trace.files.get? (goal output? input).place = some (.file bytes)
  spared : ∀ input ∈ inputs, (¬ ∃ bytes, plan input bytes) →
    files.SameFile trace.files (goal output? input).place
  code : trace.code = 0 ∧ (∀ input ∈ inputs, ∃ bytes, plan input bytes) ∨
    trace.code = 1 ∧ ∃ input ∈ inputs, ¬ ∃ bytes, plan input bytes

namespace Trace.Follows

variable {trace other : Trace} {files : Files} {output? : Option Path} {inputs : List Path}
  {plan : Path → List UInt8 → Prop} {input : Path}

end Trace.Follows

section Plan

variable {compiler : Compiler} {surroundings : Surroundings} {arguments : Arguments}
  {settings : Settings} {disk : Disk}

/-- A run that starts goes through its inputs, from the files that were prepared and with a faithful
cache. -/
theorem Untangled.goes
    (untangled : Untangled compiler surroundings arguments settings disk.files)
    (unturned : ∀ request options bytecode, compiler.compile request options =
      .finished (.ok bytecode) → bytecode.words.head? ≠ some turnedMagic)
    (starts : Starts surroundings arguments settings disk.files)
    (accord : usesCache arguments settings = true → (working compiler arguments settings).Accords
      (asked surroundings arguments settings disk.files)) :
    ∃ begun : Run, begun.files = prepared surroundings arguments settings disk.files ∧
      (usesCache arguments settings = true → Faithful (working compiler arguments settings)
        (asked surroundings arguments settings disk.files) [] begun.service) ∧
      let trace := trace compiler surroundings arguments settings disk
      let went := attempts (usesCache arguments settings) compiler
        (working compiler arguments settings).options arguments.output arguments.inputs begun
      trace.attempts = went.1 ∧ trace.files = went.2.files ∧ trace.code =
        if (trace.attempts.countP fun attempt => !attempt.succeeded) = 0 then 0 else 1 := by
  -- The run is an opening and then the batch; the cache is new, so only its disk can be wrong.
  obtain ⟨filter, begun, goes, files, caches⟩ := starts.trace_eq compiler
  obtain ⟨attempts, -, left, code⟩ := traceBatch_eq compiler arguments
    (working compiler arguments settings).options (usesCache arguments settings) filter begun
  rw [goes]
  refine ⟨begun, files, fun uses => ?_, attempts, left, attempts ▸ code⟩
  obtain ⟨new, serves, bare⟩ := caches uses
  have right := untangled.findsRight_prepared
  rw [← files] at right
  exact .of_new (fun request => unturned request _) (accord uses) new serves bare right

end Plan

/-- An input twice and one that is not there between, for a cache with a directory of its own. -/
def repeated : Arguments :=
  { inputs := [⟨"a.vert"⟩, ⟨"gone.vert"⟩, ⟨"a.vert"⟩], cacheDirectory := some ⟨"build/cache"⟩ }

/-- The first input, an old output of the second one, and a cache directory in which the first has a
file without a module. -/
def dated : Disk :=
  { files := ⟨(["gone.vert.spv"], .file [9]) :: drafts.files.entries⟩ }

/-- The same files for another process. -/
def elsewhere : Disk :=
  { dated with process := 7 }

end Shell

namespace Shell

/-- A line of letters. -/
def letters (more : Nat) : String :=
  .ofList (.replicate (more + 1) 'a')

section Twins

/-- A text becomes a module with a zero for each of its letters. -/
def tally : Backend := fun source _ _ =>
  .written (Bytecode.padded source.length).words

/-- Two inputs in different directories that go by the same name. -/
def twins : Arguments :=
  { inputs := [⟨"a/x.vert"⟩, ⟨"b/x.vert"⟩] }

variable {one two : Nat}

end Twins

end Shell

end ShaderBuild
