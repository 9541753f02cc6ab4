import ShaderBuild.Proofs.Shell.Opening

/-! The cache of the program can be left out, but for modules larger than its limit. -/

namespace ShaderBuild.Shell

section Trace

variable {compiler : Compiler} {surroundings : Surroundings} {arguments : Arguments}
  {settings : Settings} {disk : Disk}

/-- With the cache and without it a run has traces that agree, if its cache may be left out. -/
theorem trace_agrees
    (unturned : ∀ request options bytecode, compiler.compile request options =
      .finished (.ok bytecode) → bytecode.words.head? ≠ some turnedMagic)
    (bypassable : Bypassable compiler surroundings arguments settings disk)
    (inwards : Inwards ((served compiler arguments settings).Early
      (opening compiler surroundings settings disk).2.files) arguments.inputs)
    (independent : Attempt.Independent (served compiler arguments settings)
      (trace compiler surroundings arguments.bypassing settings disk).attempts) :
    (trace compiler surroundings arguments settings disk).Agrees
      (served compiler arguments settings)
      ((served compiler arguments settings).Early
        (opening compiler surroundings settings disk).2.files)
      (opening compiler surroundings settings disk).2.files
      (trace compiler surroundings arguments.bypassing settings disk) := by
  -- Options that are refused end both runs; otherwise they begin side by side.
  cases accepted : arguments.options settings with
  | error message =>
    have fails : arguments.bypassing.options settings = .error message := accepted
    rw [trace_of_error accepted, trace_of_error fails]
    exact failedTrace_agrees ..
  | ok options =>
    obtain ⟨cached, through, paired⟩ := bypassable.begins unturned accepted bypassable.right
      bypassable.separate
    have through' : trace compiler surroundings arguments.bypassing settings disk =
        traceBatch compiler arguments.bypassing (served compiler arguments settings).options false
          (opening compiler surroundings settings disk).1
          (opening compiler surroundings settings disk).2 := by
      rw [options_served accepted]
      exact trace_of_bare accepted rfl
    have asked : ∀ attempt ∈
        (trace compiler surroundings arguments.bypassing settings disk).attempts, ∀ request,
          attempt.request? = some request → request ∈
            (trace compiler surroundings arguments.bypassing settings disk).requests :=
      fun attempt among request asks => List.mem_filterMap.mpr ⟨attempt, among, asks⟩
    have agrees := paired.traceBatch_agrees (options_eq_ok accepted).2 bypassable.apart
      inwards (opening compiler surroundings settings disk).1 (through' ▸ independent)
      (fun attempt among request asks => asked attempt (through' ▸ among) request asks)
    rw [through, through']
    exact agrees

end Trace

/-- A run that uses its cache and the same run without it agree, if the cache may be left out. No input
may be reached by way of a directory that is made for the cache and then out of it, and none may be
the output of an earlier input whose module is too large. -/
theorem run_agrees_without_cache {identifier : String} {backend : Backend}
    {surroundings : Surroundings} {words bare : List String} {arguments : Arguments}
    {settings : Settings} {disk : Disk} (given : parse words = .ok (.compile arguments))
    (given' : parse bare = .ok (.compile arguments.bypassing))
    (loaded : Settings.load disk.files arguments.config = .ok settings)
    (bypassable : Bypassable (.ofBackend identifier backend) surroundings arguments settings disk)
    (inwards : Inwards ((served (.ofBackend identifier backend) arguments settings).Early
      (opening (.ofBackend identifier backend) surroundings settings disk).2.files)
      arguments.inputs)
    (independent : Attempt.Independent (served (.ofBackend identifier backend) arguments settings)
      (trace (.ofBackend identifier backend) surroundings arguments.bypassing settings
        disk).attempts) :
    let compiler := Compiler.ofBackend identifier backend
    let setting := served compiler arguments settings
    let start := (opening compiler surroundings settings disk).2.files
    let cached := trace compiler surroundings arguments settings disk
    let plain := trace compiler surroundings arguments.bypassing settings disk
    run compiler surroundings words disk = cached.outcome ∧
      run compiler surroundings bare disk = plain.outcome ∧
      cached.Agrees setting (setting.Early start) start plain :=
  -- Each command line is the run of its own arguments, and those runs were compared.
  ⟨run_eq_outcome given loaded, run_eq_outcome given' loaded,
    trace_agrees (fun _ _ _ => Compiler.head?_ofBackend) bypassable inwards independent⟩

/-- Vertex shaders compile, and others have a fault. -/
def picky : Backend := fun _ stage _ =>
  if stage = .vertex then .written [spirvMagic] else .rejected [⟨3, 1, "unknown name"⟩]

/-- Two inputs, for a cache with a directory of its own. -/
def drafted : Arguments :=
  { inputs := [⟨"a.vert"⟩, ⟨"b.frag"⟩], cacheDirectory := some ⟨"build/cache"⟩ }

/-- The inputs, and a cache directory in which the first of them has a file without a module. -/
def drafts : Disk :=
  { files := ⟨[(["a.vert"], .file "void main() {}".toUTF8.toList),
      (["b.frag"], .file "void main() { x; }".toUTF8.toList), (["build"], .directory),
      (["build", "cache"], .directory),
      ((Path.mk "build/cache").keyPlace (.compute "picky" ⟨"a.vert", "void main() {}"⟩ {}),
        .file [1, 2, 3])]⟩ }

/-- The cache of that run may be left out. -/
theorem bypassable_drafts : Bypassable (.ofBackend "picky" picky) {} drafted {} drafts where
  uses := rfl
  tree := by decide
  creatable := by
    rintro directory ⟨⟩
    rfl
  apart := ⟨by decide, by decide, by rintro output ⟨⟩⟩
  log := by simp
  right := by
    -- The file of one key holds three bytes, which are no module; those of the others are missing.
    have stands : ∀ request ∈
        (trace (.ofBackend "picky" picky) {} drafted.bypassing {} drafts).requests,
          drafts.files.get? (Path.keyPlace ⟨"build/cache"⟩
            ((served (.ofBackend "picky" picky) drafted {}).keyOf request)) = none ∨
          drafts.files.get? (Path.keyPlace ⟨"build/cache"⟩
            ((served (.ofBackend "picky" picky) drafted {}).keyOf request)) =
              some (.file [1, 2, 3]) := by
      decide +kernel
    rintro request among directory ⟨⟩ bytes found
    rcases stands request among with missing | spoilt
    · simp [missing] at found
    · rw [spoilt, Option.some.injEq, Item.file.injEq] at found
      rw [← found]
      exact Or.inl ⟨_, rfl⟩
  separate := by decide +kernel

/-- With the cache and without it one of the two inputs compiles, and the other is told of. -/
theorem run_agrees_without_cache_of_drafts :
    ∃ cached plain : Trace,
      run (.ofBackend "picky" picky) {} ["--cache-dir", "build/cache", "a.vert", "b.frag"] drafts =
          cached.outcome ∧
        run (.ofBackend "picky" picky) {}
          ["--cache-dir", "build/cache", "--no-cache", "a.vert", "b.frag"] drafts = plain.outcome ∧
        cached.lines = plain.lines ∧ plain.lines = ["b.frag:3:1: error: unknown name"] ∧
        cached.code = plain.code ∧ plain.code = 1 ∧
        cached.files.get? ["a.vert.spv"] = plain.files.get? ["a.vert.spv"] ∧
        plain.files.get? ["a.vert.spv"] = some (.file (bytesOfWords [spirvMagic])) := by
  have inwards : Inwards ((served (.ofBackend "picky" picky) drafted {}).Early
      (opening (.ofBackend "picky" picky) {} {} drafts).2.files) drafted.inputs := by
    unfold Inwards
    decide +kernel
  have small := Attempt.not_isTooLarge_of_unlimited
    (rfl : (served (.ofBackend "picky" picky) drafted {}).memoryLimit = none)
  have given : parse ["--cache-dir", "build/cache", "a.vert", "b.frag"] =
      .ok (.compile drafted) := by
    decide +kernel
  have given' : parse ["--cache-dir", "build/cache", "--no-cache", "a.vert", "b.frag"] =
      .ok (.compile drafted.bypassing) := by
    decide +kernel
  obtain ⟨ends, ends', agrees⟩ := run_agrees_without_cache given given' rfl bypassable_drafts
    inwards (List.pairwise_of_forall fun attempt _ large => absurd large (small attempt))
  refine ⟨_, _, ends, ends', agrees.lines, by decide +kernel,
    agrees.code fun attempt _ => small attempt, by decide +kernel, ?_, by decide +kernel⟩
  have written := agrees.files ["a.vert.spv"] (by decide +kernel)
    fun attempt _ large => absurd large (small attempt)
  exact written.resolve_right fun ⟨early, _⟩ => absurd early (by decide +kernel)

/-- An input that is reached by way of the directory around the cache directory. -/
def turning : Arguments :=
  { inputs := [⟨"build/../a.vert"⟩], cacheDirectory := some ⟨"build/cache"⟩ }

/-- That input, and nothing else. -/
def alone : Disk :=
  { files := ⟨[(["a.vert"], .file "void main() {}".toUTF8.toList)]⟩ }

/-- The cache directory can be made, and nothing is in it. -/
theorem bypassable_alone : Bypassable (.ofBackend "picky" picky) {} turning {} alone where
  uses := rfl
  tree := by decide
  creatable := by
    rintro directory ⟨⟩
    rfl
  apart := ⟨by decide, by decide, by rintro output ⟨⟩⟩
  log := by simp
  right := by
    -- Nothing is asked for, so nothing in the directory can be wrong.
    have bare : (trace (.ofBackend "picky" picky) {} turning.bypassing {} alone).requests = [] := by
      decide
    rw [bare]
    exact fun _ among => absurd among List.not_mem_nil
  separate := by decide

/-- A module with the given words behind its mark. -/
def bulky (rest : List UInt32) : Bytecode :=
  ⟨spirvMagic :: rest, by simp⟩

/-- Vertex shaders become such a module, and others a small one. -/
def heavy (rest : List UInt32) : Backend := fun _ stage _ =>
  .written (if stage = .vertex then (bulky rest).words else [spirvMagic])

/-- An input, and another one at the place of its output. -/
def chained : Arguments :=
  { inputs := [⟨"a.vert"⟩, ⟨"a.vert.spv"⟩] }

/-- The smallest limit that settings can set. -/
def limited : Settings :=
  { cache := { memoryLimitMb := 1 } }

/-- A fragment shader. -/
def oldText : String := "#pragma shader_stage(fragment)\nvoid main() {}"

/-- Settings with that limit, the one input, and a fragment shader as the other one. -/
def stale : Disk :=
  { files := ⟨[(["avd_shader.toml"], .file "[cache]\nmemory_limit_mb = 1\n".toUTF8.toList),
      (["a.vert"], .file "void main() {}".toUTF8.toList),
      (["a.vert.spv"], .file oldText.toUTF8.toList)]⟩ }

section Chained

variable {rest : List UInt32}

/-- What is read of that disk: the settings and both inputs. -/
theorem read_stale : Settings.load stale.files chained.config = .ok limited ∧
    stale.files.readText ⟨"a.vert"⟩ = .ok "void main() {}" ∧
    stale.files.readText ⟨"a.vert.spv"⟩ = .ok oldText := by
  -- Settings cannot be compared as a whole, so those that are found are, and then taken out.
  have read_ : (Settings.load stale.files chained.config).toOption = some limited ∧
      stale.files.readText ⟨"a.vert"⟩ = .ok "void main() {}" ∧
      stale.files.readText ⟨"a.vert.spv"⟩ = .ok oldText := by
    decide +kernel
  refine read_.imp_left fun found => ?_
  cases loaded : Settings.load stale.files chained.config with
  | error fault => simp [loaded, Except.toOption] at found
  | ok settings =>
    rw [loaded] at found
    exact congrArg Except.ok (Option.some.inj found)

/-- The cache of that run serves no directory. -/
theorem served_chained (rest : List UInt32) :
    served (.ofBackend "heavy" (heavy rest)) chained limited =
      ⟨.ofBackend "heavy" (heavy rest), {}, some 0x100000, none⟩ := by
  -- The options and the limit are computed from the settings.
  have accepted : chained.options limited = .ok {} := by decide
  have bounded : (cacheSettings chained limited).memoryLimit = some 0x100000 := by decide
  rw [served, accepted, bounded]
  rfl

/-- The vertex shader becomes the large module. -/
theorem compile_vertex (rest : List UInt32) :
    (Compiler.ofBackend "heavy" (heavy rest)).compile ⟨"a.vert", "void main() {}"⟩ {} =
      .finished (.ok (bulky rest)) := by
  -- The checks pass and the stage is that of the name; what is left is the backend's answer.
  have checked : checkRequest ⟨"a.vert", "void main() {}"⟩ {} = .ok () := by decide
  have stage : resolveStage "a.vert" "void main() {}" {} = .ok (.vertex, .fileName) := by
    decide
  simp only [Compiler.ofBackend, compileWith, checked, stage]
  rfl

/-- The fragment shader becomes the small one. -/
theorem compile_fragment (rest : List UInt32) :
    (Compiler.ofBackend "heavy" (heavy rest)).compile ⟨"a.vert.spv", oldText⟩ {} =
      .finished (.ok ⟨[spirvMagic], by simp⟩) := by
  -- The text says that it is a fragment shader, and that counts more than the name.
  have checked : checkRequest ⟨"a.vert.spv", oldText⟩ {} = .ok () := by decide
  have stage : resolveStage "a.vert.spv" oldText {} = .ok (.fragment, .pragma) := by
    decide
  simp only [Compiler.ofBackend, compileWith, checked, stage]
  rfl

/-- Without a cache the first input is compiled to where the second one is. -/
theorem attempt_vertex {run : Run} (files : run.files = stale.files) :
    ∃ after, attempt false (.ofBackend "heavy" (heavy rest)) {} none ⟨"a.vert"⟩ run =
        (⟨⟨"a.vert"⟩, ⟨"a.vert.spv"⟩, some ⟨"a.vert", "void main() {}"⟩, .ok ()⟩, after) ∧
      after.files.get? ["a.vert.spv"] = some (.file (bytesOfWords (bulky rest).words)) ∧
      after.lines = run.lines := by
  -- Nothing stands in the way of the output, so the module is put there.
  have read_ := files ▸ read_stale.2.1
  have name : Path.logicalName ⟨"a.vert"⟩ = "a.vert" := by decide
  obtain ⟨result, after, went, puts, lines⟩ :=
    attempt_plain none read_ (name.symm ▸ compile_vertex rest)
  rw [files] at puts
  obtain ⟨rfl, stands⟩ :=
    puts.written_of_target rfl (by decide) (by decide)
  rw [name] at went
  exact ⟨after, went, stands, lines⟩

/-- As long as it is there, the second input compiles. -/
theorem attempt_fragment {run : Run} (files : run.files = stale.files) :
    ∃ after, attempt false (.ofBackend "heavy" (heavy rest)) {} none ⟨"a.vert.spv"⟩ run =
      (⟨⟨"a.vert.spv"⟩, ⟨"a.vert.spv.spv"⟩, some ⟨"a.vert.spv", oldText⟩, .ok ()⟩, after) := by
  -- Its own output is free as well.
  have read_ := files ▸ read_stale.2.2
  have name : Path.logicalName ⟨"a.vert.spv"⟩ = "a.vert.spv" := by decide
  obtain ⟨result, after, went, puts, -⟩ :=
    attempt_plain none read_ (name.symm ▸ compile_fragment rest)
  rw [files] at puts
  obtain ⟨rfl, -⟩ :=
    puts.written_of_target rfl (by decide) (by decide)
  rw [name] at went
  exact ⟨after, went⟩

/-- When a module is there instead, the second input is no text. -/
theorem readText_module {files : Files} {bytes : List UInt8}
    (stands : files.get? ["a.vert.spv"] = some (.file bytes)) (high : 0xFF ∈ bytes) :
    files.readText ⟨"a.vert.spv"⟩ = .error .notText := by
  -- The path leads to the module, whose bytes have one that no text has.
  have located : files.locate ⟨"a.vert.spv"⟩ = .ok ["a.vert.spv"] := by
    have checked : Files.checkPath ⟨"a.vert.spv"⟩ = .ok () := by decide
    have pieces : Path.pieces ⟨"a.vert.spv"⟩ = ["a.vert.spv".toList] := by decide
    have begins : Files.start ⟨"a.vert.spv"⟩ = [] := by decide
    have around : files.get? [] = some .directory := rfl
    unfold Files.locate
    rw [checked, pieces, begins]
    simp only [bind, Except.bind, Files.walk, around]
    decide
  unfold Files.readText Files.read
  simp only [located, stands, bind, Except.bind]
  rw [Files.textOfBytes?_eq_none high]

/-- Without a cache the second input cannot be read any more. -/
theorem attempts_chained (high : 0xFF ∈ bytesOfWords (bulky rest).words) :
    (trace (.ofBackend "heavy" (heavy rest)) {} chained.bypassing limited stale).attempts =
      [⟨⟨"a.vert"⟩, ⟨"a.vert.spv"⟩, some ⟨"a.vert", "void main() {}"⟩, .ok ()⟩,
        ⟨⟨"a.vert.spv"⟩, ⟨"a.vert.spv.spv"⟩, none,
          .error (.file "a.vert.spv" FileFault.notText.message)⟩] := by
  -- The first attempt leaves its module at the second input, which is then no text.
  have accepted : chained.bypassing.options limited = .ok {} := by decide
  rw [trace_of_bare accepted rfl, (traceBatch_eq ..).1]
  have files : (opening (.ofBackend "heavy" (heavy rest)) {} limited stale).2.files =
    stale.files := rfl
  obtain ⟨after, went, stands, -⟩ := @attempt_vertex rest _ files
  obtain ⟨final, went', -⟩ := attempt_of_unreadable false (.ofBackend "heavy" (heavy rest)) {} none
    (readText_module stands high)
  show (attempts false (.ofBackend "heavy" (heavy rest)) {} none chained.inputs _).1 = _
  simp only [chained, attempts, went, went']
  rfl

/-- The cache of that run may be left out. -/
theorem bypassable_stale (high : 0xFF ∈ bytesOfWords (bulky rest).words) :
    Bypassable (.ofBackend "heavy" (heavy rest)) {} chained limited stale where
  uses := rfl
  tree := by decide
  creatable := by rintro directory ⟨⟩
  apart :=
    { trails := by rintro input _ place _ ⟨directory, ⟨⟩, -⟩
      outputs := fun input _ =>
        ⟨by rintro ⟨directory, ⟨⟩, -⟩, by rintro ⟨directory, ⟨⟩, -⟩⟩
      way := by rintro output ⟨⟩ }
  log := by simp [limited]
  right := by rintro request _ directory ⟨⟩
  separate := by
    -- Only the first input is asked for, so no two keys can be shared.
    rw [Trace.requests, attempts_chained high]
    intro one among two among' _
    rw [List.mem_singleton.mp among, List.mem_singleton.mp among']

/-- With the cache the first input fails, and the second one compiles. -/
theorem attempts_chained_cached {early : Location → Prop} {cached start : Run}
    (paired : Paired [⟨"a.vert", "void main() {}"⟩, ⟨"a.vert.spv", oldText⟩]
      ⟨.ofBackend "heavy" (heavy rest), {}, some 0x100000, none⟩ early (fun _ => False) cached start)
    (files : start.files = stale.files) (punctual : ∀ place, ¬ early place)
    (long : 0x40000 ≤ rest.length) :
    (attempts true (.ofBackend "heavy" (heavy rest)) {} none chained.inputs cached).1.map
      (·.succeeded) = [false, true] := by
  let setting : ShaderBuild.Setting :=
    ⟨.ofBackend "heavy" (heavy rest), {}, some 0x100000, none⟩
  have outside : ∀ place, ¬ setting.Entry place := by rintro place ⟨directory, ⟨⟩, -⟩
  let requests : List Request := [⟨"a.vert", "void main() {}"⟩, ⟨"a.vert.spv", oldText⟩]
  obtain ⟨after, went, -, lines⟩ := @attempt_vertex rest _ files
  obtain ⟨final, went'⟩ := @attempt_fragment rest _ files
  -- Each of the two inputs may be attempted while the other run has done nothing yet.
  have next : ∀ {cached : Run} {input : Path} {request : Request},
      Paired requests setting early (fun _ => False) cached start →
      request? start.files input = some request →
      request ∈ requests →
      Paired.Onward requests setting early (fun _ => False) start.files
        (attempt true (.ofBackend "heavy" (heavy rest)) {} none input cached)
        (attempt false (.ofBackend "heavy" (heavy rest)) {} none input start) := by
    intro cached input request paired asks known
    refine paired.attempt none input (fun other asks' => ?_) (fun place _ => outside place)
      (fun place _ early => absurd early (punctual place)) not_false
      (fun _ _ place _ => ⟨outside place, False.elim⟩) (outside _) (punctual _)
    obtain rfl := Option.some.inj (asks.symm.trans asks')
    exact known
  have asks : request? start.files ⟨"a.vert"⟩ = some ⟨"a.vert", "void main() {}"⟩ :=
    congrArg (·.1.request?) went
  have asks' : request? start.files ⟨"a.vert.spv"⟩ = some ⟨"a.vert.spv", oldText⟩ :=
    congrArg (·.1.request?) went'
  have first := next paired asks List.mem_cons_self
  rw [went] at first
  obtain ⟨agrees, goes⟩ := first
  have large : Attempt.IsTooLarge setting
      ⟨⟨"a.vert"⟩, ⟨"a.vert.spv"⟩, some ⟨"a.vert", "void main() {}"⟩, .ok ()⟩ :=
    ⟨4 * (rest.length + 1), 0x100000, _, bulky rest, rfl, compile_vertex rest, rfl, rfl, by omega⟩
  obtain ⟨-, refused⟩ := goes.resolve_left fun small => small.1 large
  have second := next ⟨refused.faithful, refused.lines.trans lines, refused.files, paired.tree⟩
    asks' (List.mem_cons_of_mem _ List.mem_cons_self)
  rw [went'] at second
  have small : ¬ Attempt.IsTooLarge setting
      ⟨⟨"a.vert.spv"⟩, ⟨"a.vert.spv.spv"⟩, some ⟨"a.vert.spv", oldText⟩, .ok ()⟩ := by
    refine Attempt.not_isTooLarge rfl fun bytecode compiled limit bounded => ?_
    have own := (compile_fragment rest).symm.trans compiled
    rw [CompileOutcome.finished.injEq, Except.ok.injEq] at own
    rw [← own, ← Option.some.inj bounded]
    decide
  have listed : (attempts true (.ofBackend "heavy" (heavy rest)) {} none chained.inputs cached).1 =
      [(attempt true (.ofBackend "heavy" (heavy rest)) {} none ⟨"a.vert"⟩ cached).1,
        (attempt true (.ofBackend "heavy" (heavy rest)) {} none ⟨"a.vert.spv"⟩
          (attempt true (.ofBackend "heavy" (heavy rest)) {} none ⟨"a.vert"⟩ cached).2).1] := rfl
  rw [listed, List.map_cons, List.map_singleton, agrees.succeeded_of_large large,
    second.1.succeeded_eq small]
  rfl

/-- With the cache the run does so. -/
theorem trace_chained (high : 0xFF ∈ bytesOfWords (bulky rest).words)
    (long : 0x40000 ≤ rest.length) :
    (trace (.ofBackend "heavy" (heavy rest)) {} chained limited stale).attempts.map
      (·.succeeded) = [false, true] := by
  -- With the cache the module is refused, so that the second input is still the old text.
  have accepted : chained.options limited = .ok {} := by decide
  have separate : (served (.ofBackend "heavy" (heavy rest)) chained limited).Separates
      [⟨"a.vert", "void main() {}"⟩, ⟨"a.vert.spv", oldText⟩] := by
    have apart : Fingerprint.compute "heavy" ⟨"a.vert", "void main() {}"⟩ {} ≠
        Fingerprint.compute "heavy" ⟨"a.vert.spv", oldText⟩ {} := by
      decide +kernel
    rw [served_chained]
    simp [ShaderBuild.Setting.Separates, ShaderBuild.Setting.keyOf, Compiler.ofBackend, apart,
      apart.symm]
  obtain ⟨cached, through, paired⟩ := (bypassable_stale high).begins
    (fun _ _ _ => Compiler.head?_ofBackend) accepted (by rintro request _ directory ⟨⟩) separate
  have options := @options_served (.ofBackend "heavy" (heavy rest)) _ _ _ accepted
  rw [through, (traceBatch_eq ..).1, options]
  rw [served_chained] at paired
  refine attempts_chained_cached paired rfl ?_ long
  rintro place ⟨directory, ⟨⟩, -⟩

end Chained

/-- The words that stand behind the mark of a large module. -/
def filler : List UInt32 :=
  List.replicate 0x40000 0xFFFFFFFF

/-- That a cache may be left out is not enough. Its directory can open the path of an input; and an
input can be replaced by a module that the cache refuses. -/
theorem run_differs_without_cache :
    (parse ["--cache-dir", "build/cache", "build/../a.vert"] = .ok (.compile turning) ∧
      parse ["--cache-dir", "build/cache", "--no-cache", "build/../a.vert"] =
        .ok (.compile turning.bypassing) ∧
      Settings.load alone.files turning.config = .ok {} ∧
      Bypassable (.ofBackend "picky" picky) {} turning {} alone ∧
      (∀ attempt, ¬ Attempt.IsTooLarge (served (.ofBackend "picky" picky) turning {}) attempt) ∧
      (run (.ofBackend "picky" picky) {} ["--cache-dir", "build/cache", "build/../a.vert"]
        alone).code = 0 ∧
      (run (.ofBackend "picky" picky) {}
        ["--cache-dir", "build/cache", "--no-cache", "build/../a.vert"] alone).code = 1) ∧
    parse ["a.vert", "a.vert.spv"] = .ok (.compile chained) ∧
      parse ["--no-cache", "a.vert", "a.vert.spv"] = .ok (.compile chained.bypassing) ∧
      Settings.load stale.files chained.config = .ok limited ∧
      Bypassable (.ofBackend "heavy" (heavy filler)) {} chained limited stale ∧
      (trace (.ofBackend "heavy" (heavy filler)) {} chained limited stale).attempts.map
        (·.succeeded) = [false, true] ∧
      (trace (.ofBackend "heavy" (heavy filler)) {} chained.bypassing limited stale).attempts.map
        (·.succeeded) = [true, false] ∧
      ∀ attempt ∈
        (trace (.ofBackend "heavy" (heavy filler)) {} chained.bypassing limited stale).attempts,
          attempt.IsTooLarge (served (.ofBackend "heavy" (heavy filler)) chained limited) →
            attempt.input = ⟨"a.vert"⟩ := by
  have long : 0x40000 ≤ filler.length := Nat.le_of_eq List.length_replicate.symm
  have high : 0xFF ∈ bytesOfWords (bulky filler).words := by
    have among : 0xFFFFFFFF ∈ (bulky filler).words :=
      List.mem_cons_of_mem _ (List.mem_replicate.mpr ⟨by decide, rfl⟩)
    exact List.mem_flatMap.mpr ⟨0xFFFFFFFF, among, by decide⟩
  refine ⟨⟨by decide +kernel, by decide +kernel, rfl, bypassable_alone,
    Attempt.not_isTooLarge_of_unlimited rfl, by decide +kernel, by decide +kernel⟩,
    by decide +kernel, by decide +kernel, read_stale.1, bypassable_stale high,
    trace_chained high long, by rw [attempts_chained high]; rfl, ?_⟩
  rw [attempts_chained high]
  intro attempt among large
  rcases List.mem_cons.mp among with rfl | second
  · rfl
  · -- What cannot be read is asked for by nobody.
    obtain ⟨size, limit, request, bytecode, asks, -⟩ := large
    rw [List.mem_singleton.mp second] at asks
    simp at asks

end ShaderBuild.Shell
