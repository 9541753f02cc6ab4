import ShaderBuild.Proofs.Cache.Client
import ShaderBuild.Proofs.PathTraversal
import ShaderBuild.Watch

/-! A watcher does to its cache, and reports, what a client does that asks for the same files. -/

namespace ShaderBuild

namespace Service

/-- The service with other notes. -/
def withNotes (service : Service) (notes : List Log.Note) : Service :=
  { service with notes := notes }

variable (service : Service) (notes : List Log.Note) (job : Job) (id : FlightId)

/-- What was noted does not matter to a request that arrives. -/
theorem arrive_withNotes :
    ∃ after, (service.withNotes notes).arrive job =
      ((service.arrive job).1.withNotes after, (service.arrive job).2) := by
  -- What is noted comes behind the notes that were there, in each way to arrive.
  unfold arrive
  simp only [withNotes]
  split
  · exact ⟨_, rfl⟩
  · simp only [withShelf]
    split
    · exact ⟨_, rfl⟩
    · exact ⟨_, rfl⟩

/-- What was noted does not matter to a leader that looks on the disk. -/
theorem lead_withNotes :
    ∃ after, (service.withNotes notes).lead job id =
      ((service.lead job id).1.withNotes after, (service.lead job id).2) := by
  -- A file that is no module is noted; the disk and the path do not depend on notes.
  obtain ⟨_, loaded⟩ := service.loadFromDisk_eq job
  obtain ⟨_, loaded'⟩ := (service.withNotes notes).loadFromDisk_eq job
  unfold lead
  rw [loaded, loaded']
  simp only [withNotes]
  cases (service.disk.search (service.cache.diskPath? job.key)).1 with
  | none => exact ⟨_, rfl⟩
  | some bytecode => exact ⟨_, rfl⟩

/-- What was noted does not matter to a compiler that comes back. -/
theorem compile_withNotes :
    ∃ after, (service.withNotes notes).compile job id =
      ((service.compile job id).1.withNotes after, (service.compile job id).2) := by
  let made := service.cache.compiler.notes job.request service.cache.options
  unfold compile
  -- Only the writing of a module notes something, and it notes it behind what is there.
  simp only [withNotes]
  split
  · exact ⟨_, rfl⟩
  · exact ⟨_, rfl⟩
  · rename_i bytecode compiled
    split
    · exact ⟨_, rfl⟩
    · obtain ⟨_, stored⟩ := (service.noteAll made).storeToDisk_eq job bytecode
      obtain ⟨_, stored'⟩ := ((service.withNotes notes).noteAll made).storeToDisk_eq job bytecode
      simp only [withNotes] at stored'
      rw [stored, stored']
      exact ⟨_, rfl⟩

/-- What was noted does not matter to a leader that settles. -/
theorem settle_withNotes (answer : Answer) :
    (service.withNotes notes).settle job id answer =
      ((service.settle job id answer).1.withNotes notes, (service.settle job id answer).2) := by
  -- A module is kept, refused or absent, and none of that is noted.
  unfold settle
  split
  · unfold keep
    simp only [withNotes, releaseEntries_eq]
    split
    · rfl
    · rfl
  · rfl

/-- What was noted does not matter to a leader that publishes. -/
theorem publish_withNotes (answer : Answer) :
    (service.withNotes notes).publish job id answer =
      ((service.publish job id answer).1.withNotes notes, (service.publish job id answer).2) := by
  -- The slot of the flight is the same in both services.
  have same : (service.withNotes notes).flight? id = service.flight? id := rfl
  unfold publish
  simp only [same]
  by_cases alone : ((service.flight? id).getD {}).followers = 0
  · simp only [if_pos alone]
    rfl
  · simp only [if_neg alone]
    cases outcomeFor job answer <;> rfl

/-- What was noted does not matter to a follower. -/
theorem follow_withNotes :
    (service.withNotes notes).follow id =
      ((service.follow id).1.withNotes notes, (service.follow id).2) := by
  -- A follower looks at the slot only.
  unfold follow
  simp only [withNotes, flight?]
  split
  · rename_i followers outcome _
    split
    · cases outcome <;> rfl
    · cases outcome <;> rfl
  · rfl

/-- What was noted does not matter to any step of a request. -/
theorem advance_withNotes (phase : Phase) :
    ∃ after, (service.withNotes notes).advance job phase =
      ((service.advance job phase).1.withNotes after, (service.advance job phase).2) := by
  -- One case for each phase; only arriving, leading and compiling may note something.
  cases phase with
  | arriving => exact arrive_withNotes service notes job
  | following id => exact ⟨notes, follow_withNotes service notes id⟩
  | leading id => exact lead_withNotes service notes job id
  | compiling id => exact compile_withNotes service notes job id
  | produced id answer => exact ⟨notes, settle_withNotes service notes job id answer⟩
  | settled id answer => exact ⟨notes, publish_withNotes service notes job id answer⟩
  | answered answer => exact ⟨notes, rfl⟩

/-- What was noted does not matter to a request. -/
theorem request_withNotes (request : Request) :
    ∃ after, (service.withNotes notes).request request =
      ((service.request request).1.withNotes after, (service.request request).2) := by
  -- One step after the other.
  have steps : ∀ (count : Nat) (service : Service) (notes : List Log.Note) (job : Job)
      (phase : Phase), ∃ after, proceed job count (service.withNotes notes) phase =
        ((proceed job count service phase).1.withNotes after,
          (proceed job count service phase).2) := by
    intro count
    induction count with
    | zero => exact fun service notes job phase => ⟨notes, rfl⟩
    | succ count ih =>
      intro service notes job phase
      obtain ⟨between, step⟩ := advance_withNotes service notes job phase
      simp only [proceed, step]
      exact ih _ _ _ _
  exact steps 5 service notes (service.jobOf request) .arriving

end Service

/-- The paths that are compiled again when something happens. -/
def Occurrence.accepted (accepts : Path → Bool) : Occurrence → List Path
  | .edit _ => []
  | .notice news => news.accepted accepts

/-- What a client does in the place of a watcher. -/
def Occurrence.errands (accepts : Path → Bool) : Occurrence → List Errand
  | .edit files => [.edit files]
  | .notice news => (news.accepted accepts).map .ask

namespace Watcher

/-- A watcher has the cache of a client, but for the notes, and has reported what the client was
answered, file by file; and the one has broken down if the other one has. -/
structure Mirrors (watcher : Watcher) (client : Client) : Prop where
  service : ∃ notes, watcher.service = client.session.service.withNotes notes
  live : client.session.live = true
  ends : client.ends = watcher.sent.map fun reload => (reload.path, reload.result)
  broken : client.broken = !watcher.live

variable {watcher : Watcher} {client : Client} {accepts : Path → Bool}

section Ask

variable {path : Path} {text : String} {after : Service}

/-- A watcher that has ended does nothing more. -/
theorem reload_of_ended (ended : watcher.live = false) : watcher.reload path = watcher :=
  -- Every path is passed over once the thread has ended.
  if_neg (by rw [ended]; exact Bool.false_ne_true)

/-- A watcher reports a file that cannot be read, and leaves the cache alone. -/
theorem reload_of_unreadable (live : watcher.live = true) {fault : FileFault}
    (unreadable : watcher.service.disk.files.readText path = .error fault) :
    let reload : Reload := ⟨path, .error (.file path.text fault.message)⟩
    watcher.reload path =
      ⟨watcher.service.noteAll reload.notes, watcher.sent ++ [reload], true⟩ := by
  -- The text is read before the service is asked.
  rw [Watcher.reload, if_pos live, Service.reload, unreadable]

/-- A watcher reports what the request for a text ends with. -/
theorem reload_of_returned (live : watcher.live = true)
    (read : watcher.service.disk.files.readText path = .ok text) {result : Except Failure Shared}
    (returned : watcher.service.request ⟨path.logicalName, text⟩ =
      (after, .answered (.returned result))) :
    watcher.reload path =
      ⟨after.noteAll (Reload.mk path result).notes, watcher.sent ++ [⟨path, result⟩], true⟩ := by
  -- The text can be read, so the watcher asks for it, and it is answered.
  rw [Watcher.reload, if_pos live, Service.reload, read]
  simp only [returned]

/-- A watcher ends when a request does not come back. -/
theorem reload_of_lost (live : watcher.live = true)
    (read : watcher.service.disk.files.readText path = .ok text) {phase : Phase}
    (ends : watcher.service.request ⟨path.logicalName, text⟩ = (after, phase))
    (lost : ∀ result, phase ≠ .answered (.returned result)) :
    watcher.reload path = ⟨after, watcher.sent, false⟩ := by
  -- Without an answer nothing is sent, and the thread ends.
  rw [Watcher.reload, if_pos live, Service.reload, read]
  simp only [ends]

/-- A watcher and a client that read a file again still agree. -/
theorem Mirrors.reload (mirrors : watcher.Mirrors client) (path : Path) :
    (watcher.reload path).Mirrors (client.act (.ask path)) := by
  obtain ⟨notes, same⟩ := mirrors.service
  have files : watcher.service.disk.files = client.session.service.disk.files := by
    rw [same]
    rfl
  -- One more end is one more report.
  have ends : ∀ result, client.ends ++ [(path, result)] =
      (watcher.sent ++ [Reload.mk path result]).map fun reload => (reload.path, reload.result) := by
    intro result
    rw [List.map_append, ← mirrors.ends]
    rfl
  cases live : watcher.live with
  | false =>
    rw [reload_of_ended live, Client.act_of_broken (by rw [mirrors.broken, live]; rfl)]
    exact mirrors
  | true =>
    have whole : client.broken = false := by rw [mirrors.broken, live]; rfl
    cases read : client.session.service.disk.files.readText path with
    | error fault =>
      rw [reload_of_unreadable live (files ▸ read), Client.act_of_unreadable whole read]
      exact ⟨⟨_, by rw [same]; rfl⟩, mirrors.live, ends _, whole⟩
    | ok text =>
      -- Both make the same request, to the same cache but for the notes.
      obtain ⟨after, requested⟩ :=
        client.session.service.request_withNotes notes ⟨path.logicalName, text⟩
      rw [← same] at requested
      rcases plain : client.session.service.request ⟨path.logicalName, text⟩ with ⟨left, phase⟩
      rw [plain] at requested
      by_cases returned : ∃ result, phase = .answered (.returned result)
      · obtain ⟨result, rfl⟩ := returned
        rw [reload_of_returned live (files ▸ read) requested,
          Client.act_of_returned whole mirrors.live read plain]
        exact ⟨⟨_, rfl⟩, rfl, ends result, rfl⟩
      · have lost : ∀ result, phase ≠ .answered (.returned result) :=
          fun result same => returned ⟨result, same⟩
        rw [reload_of_lost live (files ▸ read) requested lost,
          Client.act_of_lost whole mirrors.live read plain lost]
        exact ⟨⟨_, rfl⟩, rfl, mirrors.ends, rfl⟩

end Ask

/-- A watcher and a client that read some files again still agree. -/
theorem Mirrors.reloads (mirrors : watcher.Mirrors client) (paths : List Path) :
    (paths.foldl Watcher.reload watcher).Mirrors (client.run (paths.map .ask)) := by
  -- One file after the other.
  induction paths generalizing watcher client with
  | nil => exact mirrors
  | cons path paths ih => exact ih (mirrors.reload path)

/-- A notice leads to the paths that it has accepted, and trouble is noted only. -/
theorem notice_cases (watcher : Watcher) (accepts : Path → Bool) (news : ChangeNotice) :
    watcher.notice accepts news = (news.accepted accepts).foldl reload watcher ∨
      news.accepted accepts = [] ∧ ∃ notes, watcher.notice accepts news =
        { watcher with service := watcher.service.withNotes notes } := by
  -- Trouble names no paths, and while the watcher lives it is written to the log.
  cases news with
  | change kind paths => exact .inl rfl
  | trouble message =>
    refine .inr ⟨rfl, ?_⟩
    simp only [notice]
    split
    · exact ⟨_, rfl⟩
    · exact ⟨watcher.service.notes, rfl⟩

/-- Whatever happens, the watcher and the client still agree. -/
theorem Mirrors.take (mirrors : watcher.Mirrors client) (accepts : Path → Bool)
    (occurrence : Occurrence) :
    (watcher.take accepts occurrence).Mirrors (client.run (occurrence.errands accepts)) := by
  obtain ⟨notes, same⟩ := mirrors.service
  -- An edit reaches the files of both, and a notice makes both ask for the same paths.
  cases occurrence with
  | edit files =>
    refine ⟨⟨notes, ?_⟩, mirrors.live, mirrors.ends, mirrors.broken⟩
    simp only [Watcher.take, same]
    rfl
  | notice news =>
    rcases watcher.notice_cases accepts news with reloads | ⟨nothing, after, noted⟩
    · show (watcher.notice accepts news).Mirrors _
      rw [reloads]
      exact mirrors.reloads _
    · show (watcher.notice accepts news).Mirrors (client.run ((news.accepted accepts).map .ask))
      rw [noted, nothing]
      exact ⟨⟨after, by rw [same]; rfl⟩, mirrors.live, mirrors.ends, mirrors.broken⟩

/-- Through every run the watcher and the client agree. -/
theorem Mirrors.run (mirrors : watcher.Mirrors client) (accepts : Path → Bool)
    (occurrences : List Occurrence) :
    (watcher.run accepts occurrences).Mirrors
      (client.run (occurrences.flatMap (Occurrence.errands accepts))) := by
  -- The errands of the first occurrence come first.
  induction occurrences generalizing watcher client with
  | nil => exact mirrors
  | cons occurrence occurrences ih =>
    have rest := ih (mirrors.take accepts occurrence)
    rw [List.flatMap_cons, Client.run, List.foldl_append]
    exact rest

end Watcher

/-- What a client asks for in the place of a watcher are the paths that are accepted. -/
theorem Occurrence.filterMap_errands (accepts : Path → Bool) (occurrences : List Occurrence) :
    (occurrences.flatMap (errands accepts)).filterMap Errand.path? =
      occurrences.flatMap (accepted accepts) := by
  rw [List.filterMap_flatMap]
  congr 1
  funext occurrence
  -- Every path of a notice is asked for, and an edit asks for none.
  cases occurrence with
  | edit files => rfl
  | notice news => simp [errands, accepted, List.filterMap_map, Function.comp_def, Errand.path?]

namespace Watcher

/-- Whatever notices are delivered while others change files, a watcher of a cache that nobody else
uses leaves it, after each path, as a client does that asks for the same texts in turn, and reports
what that client is answered: of each path that is accepted, in order and once, or of those before
the one on whose text the compiler breaks down, which ends the watcher. A path without a text is
reported as such and changes nothing but the notes, and so does a notice without a path that is
accepted. -/
theorem run_mirrors {service : Service} (idle : service.Idle) (accepts : Path → Bool)
    (occurrences : List Occurrence) :
    let watcher := Watcher.run accepts { service := service } occurrences
    let errands := occurrences.flatMap (Occurrence.errands accepts)
    let client := (Client.of service).run errands
    watcher.Mirrors client ∧
      (∀ kind changed done rest,
        (ChangeNotice.change kind changed).accepted accepts = done ++ rest →
        watcher.notice accepts (.change kind changed) =
            rest.foldl Watcher.reload (done.foldl Watcher.reload watcher) ∧
          (done.foldl Watcher.reload watcher).Mirrors (client.run (done.map .ask))) ∧
      (watcher.live = true ∧
          watcher.sent.map (·.path) = occurrences.flatMap (Occurrence.accepted accepts) ∨
        watcher.live = false ∧ ∃ done path rest, errands = done ++ .ask path :: rest ∧
          ((Client.of service).run done).BreaksAt path ∧
          watcher.sent.map (·.path) = done.filterMap Errand.path?) ∧
      (∀ path : Path, watcher.live = true →
        (∀ bytes text, watcher.service.disk.files.get? path.place = some (.file bytes) →
          Files.textOfBytes? bytes ≠ some text) →
        ∃ message notes, watcher.reload path = ⟨watcher.service.withNotes notes,
          watcher.sent ++ [⟨path, .error (.file path.text message)⟩], true⟩) ∧
      ∀ news, news.accepted accepts = [] →
        ∃ notes, watcher.notice accepts news =
          { watcher with service := watcher.service.withNotes notes } := by
  intro watcher errands client
  have begun : Mirrors { service := service } (Client.of service) :=
    ⟨⟨service.notes, rfl⟩, rfl, rfl, rfl⟩
  have mirrors : watcher.Mirrors client := begun.run accepts occurrences
  -- What was reported of a path is what the client was answered for it.
  have reported : client.ends.map (·.1) = watcher.sent.map (·.path) := by
    rw [mirrors.ends, List.map_map]
    rfl
  have ready : (Client.of service).Ready := ⟨rfl, idle, rfl⟩
  refine ⟨mirrors, fun kind changed done rest split => ⟨?_, mirrors.reloads done⟩, ?ends,
    fun path live none_ => ?_, fun news nothing => ?_⟩
  case ends =>
    rcases ready.run errands with ⟨whole, told⟩ | ⟨broken, done, path, rest, split, breaks, told⟩
    · refine Or.inl ⟨by simpa using mirrors.broken.symm.trans whole, ?_⟩
      rw [← reported, ← Occurrence.filterMap_errands]
      exact told
    · refine Or.inr ⟨by simpa using mirrors.broken.symm.trans broken, done, path, rest, split,
        breaks, ?_⟩
      rw [← reported]
      exact told
  · show ((ChangeNotice.change kind changed).accepted accepts).foldl Watcher.reload watcher = _
    rw [split, List.foldl_append]
  · obtain ⟨fault, unreadable⟩ := Files.readText_of_no_text none_
    exact ⟨_, _, reload_of_unreadable live unreadable⟩
  · rcases watcher.notice_cases accepts news with reloads | ⟨-, noted⟩
    · rw [reloads, nothing]
      exact ⟨watcher.service.notes, rfl⟩
    · exact noted

/-- A compiler that writes the same module for every text. -/
def terse : Compiler where
  identifier := "terse"
  compile := fun _ _ => .finished (.ok ⟨[spirvMagic], List.cons_ne_nil _ _⟩)
  notes := fun _ _ => []

/-- Two files of one name are changed together with one of another kind, and one of them is then
removed. -/
def homonyms : List Occurrence :=
  [.edit ⟨[(["a"], .directory), (["b"], .directory), (["a", "x.vert"], .file [65]),
      (["b", "x.vert"], .file [65]), (["b", "x.spv"], .file [65])]⟩,
    .notice (.change .modified [⟨"a/x.vert"⟩, ⟨"b/x.spv"⟩, ⟨"b/x.vert"⟩]),
    .edit ⟨[(["a"], .directory), (["b"], .directory), (["a", "x.vert"], .file [65])]⟩,
    .notice (.change .created [⟨"b/x.vert"⟩]), .notice (.change .other [⟨"a/x.vert"⟩])]

/-- The second file of the name is answered from memory, and the removed one is reported as missing.
-/
theorem run_mirrors_of_homonyms :
    let watcher := Watcher.run (fun _ => true) { service := .ofCompiler terse } homonyms
    (Service.ofCompiler terse).Idle ∧
      watcher.Mirrors ((Client.of (.ofCompiler terse)).run
        (homonyms.flatMap (Occurrence.errands fun _ => true))) ∧
      watcher.sent.map (·.path) = [⟨"a/x.vert"⟩, ⟨"b/x.vert"⟩, ⟨"b/x.vert"⟩] ∧
      watcher.service.cache.stats = { hits := 1, misses := 1, compilations := 1 } := by
  intro watcher
  have idle : (Service.ofCompiler terse).Idle := ⟨rfl, rfl⟩
  obtain ⟨mirrors, -, ends, -⟩ := run_mirrors idle (fun _ => true) homonyms
  -- This compiler does not break down, so that the watcher is there at the end.
  have live : watcher.live = true := by decide +kernel
  have accepted : homonyms.flatMap (Occurrence.accepted fun _ => true) =
      [⟨"a/x.vert"⟩, ⟨"b/x.vert"⟩, ⟨"b/x.vert"⟩] := by decide
  rcases ends with ⟨-, reported⟩ | ⟨ended, -⟩
  · refine ⟨idle, mirrors, reported.trans accepted, ?_⟩
    decide +kernel
  · rw [show watcher.live = false from ended] at live
    simp at live

/-- Three files are changed, of which the second one breaks a compiler down that wants a source. -/
def relapse : List Occurrence :=
  [.edit ⟨[(["a.vert"], .file [65]), (["b.vert"], .file []), (["c.vert"], .file [65])]⟩,
    .notice (.change .modified [⟨"a.vert"⟩]), .notice (.change .modified [⟨"b.vert"⟩]),
    .notice (.change .modified [⟨"c.vert"⟩])]

/-- All three are accepted, but only the first one is ever reported: the panic ends the thread that
watches. -/
theorem accepted_paths_can_go_unreported :
    let watcher := Watcher.run (fun _ => true) { service := .ofCompiler .curt } relapse
    (Service.ofCompiler .curt).Idle ∧
      relapse.flatMap (Occurrence.accepted fun _ => true) =
        [⟨"a.vert"⟩, ⟨"b.vert"⟩, ⟨"c.vert"⟩] ∧
      watcher.sent.map (·.path) = [⟨"a.vert"⟩] ∧ watcher.live = false := by
  -- The service is new, and the three notices are run.
  intro watcher
  exact ⟨⟨rfl, rfl⟩, by decide, by decide +kernel, by decide +kernel⟩

end Watcher

end ShaderBuild
