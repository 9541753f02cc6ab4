import ShaderBuild.Proofs.Shell.Batch
import ShaderBuild.Shell.Watching

/-! Watching goes on from the files of the batch, and only the watcher changes the cache. -/

namespace ShaderBuild.Shell

/-- What is watched has been compiled as a batch compiles it. -/
theorem files_compileFirst (compiler : Compiler) (arguments : Arguments) (options : Options)
    (cached : Bool) (filter : Log.Filter) (run : Run) :
    (compileFirst compiler arguments options cached run).files =
      (traceBatch compiler arguments options cached filter run).files := by
  obtain ⟨-, -, files, -⟩ := traceBatch_eq compiler arguments options cached filter run
  rw [files]
  -- Neither a note nor another cache reaches the files.
  cases cached <;> rfl

namespace Watch

/-- A reload that is dealt with touches the files and gives up a module; its module is put in its
place, and a failure is told in its lines. -/
theorem deal_cases (output : Option Path) (run : Run) (reload : Reload) :
    (∃ files heap, (deal output run reload).service =
      { run.service with disk := run.service.disk.withFiles files, heap := heap }) ∧
      match reload.result with
      | .ok shared => ∃ result, Puts run.files (goal output reload.path)
          ((CompiledShader.shared shared.handle).toBytes run.service.heap) result
            (deal output run reload).files
      | .error failure => (deal output run reload).files = run.files ∧
          (deal output run reload).lines = run.lines ++ failureLines reload.path failure := by
  unfold deal
  -- A failure is told, and a module is written and given up.
  cases reload.result with
  | error failure =>
    obtain ⟨lines, service⟩ := report_eq reload.path failure run
    exact ⟨⟨run.service.disk.files, run.service.heap, service⟩,
      congrArg (fun service => service.disk.files) service, lines⟩
  | ok shared =>
    obtain ⟨result, after, wrote, puts, -, service⟩ :=
      writeOutput_puts (goal output reload.path) (.shared shared.handle) run
    have told : (after.told reload.path result).service = after.service := by
      -- Only a failure is told, and telling it leaves the service alone.
      cases result with
      | ok => rfl
      | error failure => exact (report_eq reload.path failure after).2
    simp only [wrote, releaseShader, told]
    exact ⟨⟨after.files, _, by rw [service]⟩, result, puts⟩

/-- What is left of a watch by a notice is the cache of its watcher. -/
theorem cache_notice (watch : Watch) (news : ChangeNotice) (directory : Path) :
    (watch.notice news directory).run.service.cache = (watch.watcher news).service.cache := by
  have dealt : ∀ (reloads : List Reload) (run : Run),
      (reloads.foldl (deal watch.output) run).service.cache = run.service.cache := by
    intro reloads
    -- Reload by reload.
    induction reloads with
    | nil => exact fun run => rfl
    | cons reload reloads ih =>
      intro run
      obtain ⟨⟨files, heap, service⟩, -⟩ := deal_cases watch.output run reload
      rw [List.foldl_cons, ih, service]
  exact dealt _ _

end Watch

end ShaderBuild.Shell
