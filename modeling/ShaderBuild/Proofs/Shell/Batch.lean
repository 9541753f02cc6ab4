import ShaderBuild.Proofs.Shell.Bypass

/-! Runs with and without a cache that begin side by side end with traces that agree. -/

namespace ShaderBuild.Shell

/-- The cache directory is set apart from the inputs and the outputs: no path leads through its
entries, and no output is where a directory must stand early. -/
structure SetApart (setting : ShaderBuild.Setting) (early : Location → Prop) (output? : Option Path)
    (inputs : List Path) : Prop where
  trails : ∀ input ∈ inputs, ∀ place ∈ input.trail, ¬ setting.Entry place
  outputs : ∀ input ∈ inputs, ¬ setting.Entry (goal output? input).place ∧
    ¬ early (goal output? input).place
  way : ∀ output, output? = some output → ∀ place ∈ output.way, ¬ setting.Entry place

/-- Inputs whose paths go through a directory that stands early do not turn back. -/
def Inwards (early : Location → Prop) (inputs : List Path) : Prop :=
  ∀ input ∈ inputs, ∀ place ∈ input.trail, early place → ['.', '.'] ∉ input.pieces

/-- Where an attempt may put something: its output, and what is missing on the way to it. -/
def Attempt.Affects (start : Files) (attempt : Attempt) (place : Location) : Prop :=
  place = attempt.output.place ∨ place ∈ attempt.output.way ∧ start.get? place = none

/-- Files that two runs leave agree, but for the entries of the cache directory, directories that one
of them has early, and what came of modules that are too large. -/
def FilesAgree (setting : ShaderBuild.Setting) (early : Location → Prop) (start : Files)
    (attempts : List Attempt) (cached plain : Files) : Prop :=
  ∀ place, ¬ setting.Entry place →
    (∀ attempt ∈ attempts, attempt.IsTooLarge setting → ¬ attempt.Affects start place) →
    cached.get? place = plain.get? place ∨
      early place ∧ cached.get? place = some .directory ∧ plain.get? place = none

/-- The traces of a run with a cache and of one without agree. A module that is too large fails with
the cache, and the run with it. -/
structure Trace.Agrees (setting : ShaderBuild.Setting) (early : Location → Prop) (start : Files)
    (cached plain : Trace) : Prop where
  attempts : List.Forall₂ (Attempt.Agrees setting) cached.attempts plain.attempts
  lines : cached.lines = plain.lines
  files : FilesAgree setting early start plain.attempts cached.files plain.files
  code : (∀ attempt ∈ plain.attempts, ¬ attempt.IsTooLarge setting) → cached.code = plain.code
  exhausted : (∃ attempt ∈ plain.attempts, attempt.IsTooLarge setting) → cached.code = 1

namespace Attempt

variable {setting : ShaderBuild.Setting} {one two : Attempt} {cached plain : List Attempt}

/-- Attempts that agree succeed alike, if nothing is too large. -/
theorem Agrees.succeeded_eq (agrees : one.Agrees setting two) (small : ¬ two.IsTooLarge setting) :
    one.succeeded = two.succeeded := by
  -- Small attempts have the same result, or both fail for a file.
  rcases agrees.small small with same | ⟨⟨_, _, fails⟩, _, _, fails'⟩
  · rw [succeeded, succeeded, same]
  · rw [succeeded, succeeded, fails, fails']
    rfl

/-- With a cache a module that is too large fails. -/
theorem Agrees.succeeded_of_large (agrees : one.Agrees setting two)
    (large : two.IsTooLarge setting) : one.succeeded = false := by
  -- The result with a cache is the refusal.
  obtain ⟨size, limit, exceeds⟩ := large
  rw [succeeded, (agrees.large size limit exceeds).1]
  rfl

/-- Attempts that agree fail equally often, if nothing is too large. -/
theorem failures_eq (agree : List.Forall₂ (Agrees setting) cached plain)
    (small : ∀ attempt ∈ plain, ¬ attempt.IsTooLarge setting) :
    (cached.countP fun attempt => !attempt.succeeded) =
      plain.countP fun attempt => !attempt.succeeded := by
  -- Induction on the attempts, which agree pairwise.
  induction agree with
  | nil => rfl
  | cons agrees agree ih =>
    rw [List.countP_cons, List.countP_cons, agrees.succeeded_eq (small _ List.mem_cons_self),
      ih fun attempt among => small attempt (List.mem_cons_of_mem _ among)]

/-- With a cache there are failures when a module is too large. -/
theorem failures_ne_zero (agree : List.Forall₂ (Agrees setting) cached plain)
    (large : ∃ attempt ∈ plain, attempt.IsTooLarge setting) :
    (cached.countP fun attempt => !attempt.succeeded) ≠ 0 := by
  -- Induction on the attempts up to the one that is too large.
  obtain ⟨attempt, among, large⟩ := large
  induction agree with
  | nil => exact absurd among List.not_mem_nil
  | cons agrees agree ih =>
    rw [List.countP_cons]
    rcases List.mem_cons.mp among with rfl | later
    · simp [agrees.succeeded_of_large large]
    · have := ih later
      omega

end Attempt

/-- A batch goes through its inputs; what comes after that prints no line and leaves the files. -/
theorem traceBatch_eq (compiler : Compiler) (arguments : Arguments) (options : Options)
    (cached : Bool) (filter : Log.Filter) (run : Run) :
    let (attempts, after) :=
      attempts cached compiler options arguments.output arguments.inputs run
    let trace := traceBatch compiler arguments options cached filter run
    trace.attempts = attempts ∧ trace.lines = after.lines ∧ trace.files = after.files ∧
      trace.code = if (attempts.countP fun attempt => !attempt.succeeded) = 0 then 0 else 1 := by
  unfold traceBatch
  generalize attempts cached compiler options arguments.output arguments.inputs run = went
  obtain ⟨attempts, after⟩ := went
  simp only
  -- What is printed at the end are notes, and no line is.
  split
  · refine ⟨rfl, ?_, ?_, rfl⟩
    · cases cached with
      | false => rfl
      | true => exact (Run.lines_drain _).trans (after.lines_note _ _)
    · cases cached with
      | false => rfl
      | true => exact congrArg Disk.files (Service.disk_close _)
  · refine ⟨rfl, ?_, ?_, rfl⟩
    · cases cached <;> simp [Trace.lines]
    · cases cached <;> rfl

namespace Paired

variable {requests : List Request} {setting : ShaderBuild.Setting} {early : Location → Prop}
  {cached plain : Run}

/-- After an attempt that the cache alone refuses, the files agree where the attempt puts nothing. -/
theorem Refused.get?_cases {input output : Path} {before : Files}
    (refused : Refused requests setting early (fun _ => False) input output before cached plain)
    {place : Location} (shown : ¬ setting.Entry place)
    (free : ¬ (place = output.place ∨ place ∈ output.way ∧ before.get? place = none)) :
    cached.files.get? place = plain.files.get? place ∨
      early place ∧ cached.files.get? place = some .directory ∧
        plain.files.get? place = none := by
  -- Only the run without a cache puts something, at the output and on the way to it.
  obtain ⟨bytes, result, puts⟩ := refused.puts
  rcases puts.get?_cases place with same | ⟨own, -⟩ | ⟨missing, -, among⟩
  · rw [same]
    exact (refused.files place shown).imp_right fun soon => soon.resolve_right fun late => late.1
  · exact absurd (Or.inl own) free
  · exact absurd (Or.inr ⟨among, missing⟩) free

/-- Two runs that begin side by side go through their inputs side by side, wherever the outputs go. -/
theorem go (paired : Paired requests setting early (fun _ => False) cached plain)
    {output? : Option Path} {inputs : List Path}
    (single : output?.isSome = true → inputs.length = 1)
    (apart : SetApart setting early output? inputs) (inwards : Inwards early inputs)
    (asked : ∀ attempt ∈ (Shell.attempts false setting.compiler setting.options output? inputs plain).1,
      ∀ request, attempt.request? = some request →
        request ∈ requests)
    (independent : Attempt.Independent setting
      (Shell.attempts false setting.compiler setting.options output? inputs plain).1) :
    let one := Shell.attempts true setting.compiler setting.options output? inputs cached
    let two := Shell.attempts false setting.compiler setting.options output? inputs plain
    List.Forall₂ (Attempt.Agrees setting) one.1 two.1 ∧ one.2.lines = two.2.lines ∧
      FilesAgree setting early plain.files two.1 one.2.files two.2.files := by
  -- With an output of its own there is one input, and otherwise each output stands next to its
  -- input.
  cases output? with
  | none =>
    obtain ⟨agree, withheld, paired', kept⟩ := paired.attempts inputs asked
      (fun input among place looked =>
        ⟨apart.trails input among place looked, inwards input among place looked⟩)
      (fun _ _ => not_false) apart.outputs independent
    refine ⟨agree, paired'.lines, fun place open_ free => ?_⟩
    rcases paired'.files place open_ with same | soon | ⟨late, -⟩
    · exact Or.inl same
    · exact Or.inr soon
    · obtain ⟨attempt, among, large, own⟩ := (kept place late).resolve_left not_false
      exact absurd (Or.inl own) (free attempt among large)
  | some output =>
    obtain ⟨input, rfl⟩ := List.length_eq_one_iff.mp (single rfl)
    obtain ⟨shown, punctual⟩ := apart.outputs input List.mem_cons_self
    obtain ⟨agrees, goes⟩ := paired.attempt (some output) input
      (fun request asks => asked _ List.mem_cons_self request asks)
      (apart.trails input List.mem_cons_self) (inwards input List.mem_cons_self) not_false
      (fun _ _ place among => ⟨apart.way output rfl place among, False.elim⟩) shown punctual
    refine ⟨.cons agrees .nil, ?_⟩
    rcases goes with ⟨-, paired'⟩ | ⟨large, refused⟩
    · refine ⟨paired'.lines, fun place open_ _ => ?_⟩
      exact (paired'.files place open_).imp_right fun soon => soon.resolve_right fun late => late.1
    · exact ⟨refused.lines, fun place open_ free =>
        refused.get?_cases open_ (free _ List.mem_cons_self large)⟩

/-- The traces of two batches that begin side by side agree. -/
theorem traceBatch_agrees (paired : Paired requests setting early (fun _ => False) cached plain)
    {arguments : Arguments} (single : arguments.output.isSome = true → arguments.inputs.length = 1)
    (apart : SetApart setting early arguments.output arguments.inputs)
    (inwards : Inwards early arguments.inputs) (filter : Log.Filter)
    (independent : Attempt.Independent setting (traceBatch setting.compiler
      { arguments with noCache := true } setting.options false filter plain).attempts)
    (asked : ∀ attempt ∈ (traceBatch setting.compiler { arguments with noCache := true }
      setting.options false filter plain).attempts, ∀ request, attempt.request? = some request →
        request ∈ requests) :
    (traceBatch setting.compiler arguments setting.options true filter cached).Agrees setting early
      plain.files (traceBatch setting.compiler { arguments with noCache := true } setting.options
        false filter plain) := by
  -- A batch does no more than its attempts, and counts those that failed.
  obtain ⟨attempts, lines, files, code⟩ :=
    traceBatch_eq setting.compiler arguments setting.options true filter cached
  obtain ⟨attempts', lines', files', code'⟩ :=
    traceBatch_eq setting.compiler { arguments with noCache := true } setting.options false filter
      plain
  rw [attempts'] at independent asked
  obtain ⟨agree, told, left⟩ := paired.go single apart inwards asked independent
  constructor
  case attempts => rwa [attempts, attempts']
  case lines => rw [lines, lines', told]
  case files => rwa [attempts', files, files']
  case code =>
    rw [attempts', code, code']
    intro small
    rw [Attempt.failures_eq agree small]
  case exhausted =>
    rw [attempts', code]
    intro large
    rw [if_neg (Attempt.failures_ne_zero agree large)]

end Paired

end ShaderBuild.Shell
