import ShaderBuild.Cache.Client
import ShaderBuild.Proofs.Cache.Stock

/-! One errand of a client, and why a client that breaks has broken. -/

namespace ShaderBuild

/-- The path of a file that is asked for. -/
def Errand.path? : Errand → Option Path
  | .edit _ => none
  | .ask path => some path

namespace Client

variable {client : Client} {path : Path}

section Act

variable {text : String} {after : Service}

/-- A client that is broken does nothing more. -/
theorem act_of_broken (broken : client.broken = true) : client.act (.ask path) = client :=
  if_pos broken

/-- A client that cannot read a file leaves the cache alone. -/
theorem act_of_unreadable (whole : client.broken = false) {fault : FileFault}
    (unreadable : client.session.service.disk.files.readText path = .error fault) :
    client.act (.ask path) = client.ended path (.error (.file path.text fault.message)) := by
  -- The file is read before the cache is asked.
  simp only [act, whole, Bool.false_eq_true, if_false, unreadable]

/-- A client is answered what the request for a text ends with. -/
theorem act_of_returned (whole : client.broken = false) (live : client.session.live = true)
    (read : client.session.service.disk.files.readText path = .ok text)
    {result : Except Failure Shared}
    (returned : client.session.service.request ⟨path.logicalName, text⟩ =
      (after, .answered (.returned result))) :
    client.act (.ask path) = ⟨⟨after, true⟩, client.ends ++ [(path, result)], false⟩ := by
  -- The client reads, asks and is told, with nothing in its way.
  simp only [act, whole, Bool.false_eq_true, if_false, read, get, Session.answer?,
    Session.perform, live, if_true, Session.use, returned, Phase.answer?, ended]

/-- A client is broken when a request does not come back. -/
theorem act_of_lost (whole : client.broken = false) (live : client.session.live = true)
    (read : client.session.service.disk.files.readText path = .ok text) {phase : Phase}
    (ends : client.session.service.request ⟨path.logicalName, text⟩ = (after, phase))
    (lost : ∀ result, phase ≠ .answered (.returned result)) :
    client.act (.ask path) = ⟨⟨after, true⟩, client.ends, true⟩ := by
  -- Only an answer that returns is told to a client.
  have silent : ∀ result, phase.answer? ≠ some (.returned result) := by
    intro result answered
    cases phase with
    | answered answer => exact lost result (congrArg Phase.answered (Option.some.inj answered))
    | _ => simp [Phase.answer?] at answered
  simp only [act, whole, Bool.false_eq_true, if_false, read, get, Session.answer?,
    Session.perform, live, if_true, Session.use, ends]

end Act

/-- When this client asks for the text of a file, the compiler breaks down. -/
def BreaksAt (client : Client) (path : Path) : Prop :=
  client.broken = false ∧ ∃ text message,
    client.session.service.disk.files.readText path = .ok text ∧
      client.session.answer? ⟨path.logicalName, text⟩ = some (.panicked message)

/-- A client that can go on asking, for nobody else uses its cache. -/
structure Ready (client : Client) : Prop where
  live : client.session.live = true
  idle : client.session.service.Idle
  whole : client.broken = false

/-- An edit of files leaves the client ready. -/
theorem Ready.edit (ready : client.Ready) (files : Files) : (client.act (.edit files)).Ready :=
  -- The files are the disk's, and requests under way are the cache's.
  ⟨ready.live, ⟨ready.idle.table, ready.idle.flights⟩, ready.whole⟩

/-- A client that asks is answered and goes on, or the compiler breaks down. -/
theorem Ready.ask (ready : client.Ready) (path : Path) :
    (∃ result, (client.act (.ask path)).Ready ∧
        (client.act (.ask path)).ends = client.ends ++ [(path, result)]) ∨
      client.BreaksAt path ∧ (client.act (.ask path)).broken = true ∧
        (client.act (.ask path)).ends = client.ends := by
  cases read : client.session.service.disk.files.readText path with
  | error fault =>
    -- What cannot be read ends without a request.
    rw [act_of_unreadable ready.whole read]
    exact Or.inl ⟨_, ⟨ready.live, ready.idle, ready.whole⟩, rfl⟩
  | ok text =>
    obtain ⟨after, answer, requested, idle, -⟩ :=
      Service.request_serves ready.idle ⟨path.logicalName, text⟩
    cases answer with
    | returned result =>
      rw [act_of_returned ready.whole ready.live read requested]
      exact Or.inl ⟨result, ⟨rfl, idle, rfl⟩, rfl⟩
    | panicked message =>
      have answered : client.session.answer? ⟨path.logicalName, text⟩ =
          some (.panicked message) := by
        rw [Session.answer?, if_pos ready.live, requested]
        rfl
      rw [act_of_lost ready.whole ready.live read requested (by simp)]
      exact Or.inr ⟨⟨ready.whole, text, message, read, answered⟩, rfl, rfl⟩

/-- A client that is broken gets no more answers. -/
theorem run_of_broken (broken : client.broken = true) (errands : List Errand) :
    (client.run errands).broken = true ∧ (client.run errands).ends = client.ends := by
  -- Edits do not mend it, and what it is to ask for it leaves.
  induction errands generalizing client with
  | nil => exact ⟨broken, rfl⟩
  | cons errand errands ih =>
    cases errand with
    | edit files => exact ih broken
    | ask path =>
      have same : client.act (.ask path) = client := act_of_broken broken
      rw [run, List.foldl_cons, same]
      exact ih broken

/-- A client is answered for all files that it asks for, or for those before the one on whose text the
compiler breaks down. -/
theorem Ready.run (ready : client.Ready) (errands : List Errand) :
    (client.run errands).broken = false ∧
        (client.run errands).ends.map (·.1) =
          client.ends.map (·.1) ++ errands.filterMap Errand.path? ∨
      (client.run errands).broken = true ∧ ∃ done path rest,
        errands = done ++ .ask path :: rest ∧ (client.run done).BreaksAt path ∧
          (client.run errands).ends.map (·.1) =
            client.ends.map (·.1) ++ done.filterMap Errand.path? := by
  induction errands generalizing client with
  | nil => exact Or.inl ⟨ready.whole, (List.append_nil _).symm⟩
  | cons errand errands ih =>
    cases errand with
    | edit files =>
      -- The edit comes before what the others were split into.
      refine (ih (ready.edit files)).imp_right ?_
      rintro ⟨broken, done, path, rest, rfl, breaks, ends⟩
      exact ⟨broken, .edit files :: done, path, rest, rfl, breaks, ends⟩
    | ask path =>
      rcases ready.ask path with ⟨result, ready', ends⟩ | ⟨breaks, broken, ends⟩
      · -- One more answer stands before those to come.
        have front : ∀ more, (client.act (.ask path)).ends.map (·.1) ++ more =
            client.ends.map (·.1) ++ path :: more := by
          intro more
          rw [ends, List.map_append, List.append_assoc]
          rfl
        rcases ih ready' with ⟨whole, told⟩ | ⟨broken, done, other, rest, rfl, breaks, told⟩
        · exact Or.inl ⟨whole, told.trans (front _)⟩
        · exact Or.inr ⟨broken, .ask path :: done, other, rest, rfl, breaks, told.trans (front _)⟩
      · obtain ⟨broken, same⟩ := run_of_broken broken errands
        refine Or.inr ⟨broken, [], path, errands, rfl, breaks, ?_⟩
        -- Nothing is answered any more.
        show (run _ errands).ends.map (·.1) = _
        rw [same, ends]
        exact (List.append_nil _).symm

end Client


end ShaderBuild
