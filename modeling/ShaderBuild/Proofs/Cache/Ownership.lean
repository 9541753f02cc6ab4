import ShaderBuild.Proofs.Cache.Holding

/-! The heap counts the names, slots and entries that have a handle, in every state of a run. -/

namespace ShaderBuild

/-- What an act does with the cache, if it does anything. -/
def Act.deed? : Act → Option Deed
  | .use deed => some deed
  | .keep request _ | .fill request _ => some (.get request)
  | _ => none

/-- Does something, or nothing at all. -/
def Session.follow (session : Session) (deed? : Option Deed) : Session :=
  deed?.elim session session.perform

namespace Holding

/-- How many names and slots have a handle. -/
def uses (holding : Holding) (handle : Handle) : Nat :=
  holding.holds.countP (·.2.handle == handle) + holding.slots.countP (·.2 == .shared handle)

/-- An act makes a request for a key, and the request is granted a handle. -/
def Obtains (holding : Holding) (act : Act) (key : Fingerprint) (handle : Handle) : Prop :=
  ∃ request shared, act.deed? = some (.get request) ∧ holding.cache.keyOf request = key ∧
    holding.session.granted? request = some shared ∧ shared.handle = handle

/-- An act takes a key out of the memory. -/
def Loses (holding : Holding) (act : Act) (key : Fingerprint) : Prop :=
  holding.cache.shelf.contains key = true ∧
    (holding.perform act).cache.shelf.contains key = false

/-- How an act can take a key out of the memory: with all others, alone, with the cache, or to make
room for another one. -/
inductive Removes (holding : Holding) (act : Act) (key : Fingerprint) : Prop where
  | flushed (does : act.deed? = some .flush)
  | invalidated (does : act.deed? = some (.invalidate key))
  | renewed {compiler : Compiler} {options : Options} {memoryLimit : Option Nat}
    {diskDirectory : Option Path}
    (does : act.deed? = some (.renew compiler options memoryLimit diskDirectory))
  | closed (live : holding.session.live = true)
    (gone : (holding.perform act).session.live = false)
  | evicted {request : Request} (does : act.deed? = some (.get request))
    (other : holding.cache.keyOf request ≠ key)
    (rises : holding.cache.stats.evictions < (holding.perform act).cache.stats.evictions)

/-- What a request is granted: the module in memory, or else a new handle to the module that is due.
-/
structure Grants (holding : Holding) (request : Request) (shared : Shared) : Prop where
  words : (holding.session.perform (.get request)).service.heap.words shared.handle =
    shared.bytecode.words
  found : ∀ other, holding.cache.shelf.held? (holding.cache.keyOf request) = some other →
    shared = other
  made : holding.cache.shelf.contains (holding.cache.keyOf request) = false →
    shared.handle = holding.heap.next ∧
      holding.cache.setting.due holding.session.service.disk request =
        .finished (.ok shared.bytecode)
  kept : ∀ name, (holding.perform (.keep request name)).holds.lookup name = some shared
  filled : ∀ slot,
    (holding.perform (.fill request slot)).slot? slot = some (.shared shared.handle)

/-- A full slot was freed: it is empty, the handle that it had is given up, if it had one, and
nothing else changes. -/
structure Frees (before after : Holding) (slot : String) (shader : CompiledShader) : Prop where
  emptied : after.slot? slot = none
  others : ∀ other ≠ slot, after.slot? other = before.slot? other
  holds : after.holds = before.holds
  session : after.session = (before.withHeap after.heap).session
  counts : ∀ handle, before.heap.count handle =
    after.heap.count handle + if shader = .shared handle then 1 else 0

/-- What holds of the handles of a program in some state, and of whatever the program does next. -/
structure Owned (holding : Holding) : Prop where
  idle : holding.session.service.Idle
  counts : ∀ handle, holding.heap.count handle =
    holding.uses handle + if handle ∈ holding.cache.shelf.handles then 1 else 0
  words : ∀ name shared, holding.holds.lookup name = some shared →
    holding.heap.words shared.handle = shared.bytecode.words
  lasting : ∀ acts handle, 0 < holding.heap.count handle →
    0 < (holding.run acts).heap.count handle →
    (holding.run acts).heap.words handle = holding.heap.words handle
  granted : ∀ request shared, holding.session.granted? request = some shared →
    holding.Grants request shared
  sharing : ∀ first acts second key one two, holding.Obtains first key one →
    (holding.run (first :: acts)).Obtains second key two →
    (one = two ↔ ∀ earlier act later, acts = earlier ++ act :: later →
      ¬ (holding.run (first :: earlier)).Loses act key)
  losing : ∀ act key, holding.Loses act key → holding.Removes act key
  full : ∀ slot shader, holding.slot? slot = some shader →
    holding.Frees (holding.perform (.free slot)) slot shader
  empty : ∀ slot, holding.slot? slot = none → holding.perform (.free slot) = holding

section Steps

variable {holding after : Holding} {hand : List Handle} {handle : Handle} {key : Fingerprint}

/-- An act leaves all handles where they are written down, the cache continues, and but for handles
the session is what the deed of the act, if it has one, leaves. -/
structure Advances (before after : Holding) (deed? : Option Deed) : Prop where
  sound : after.Sound []
  continues : before.stock.Continues after.stock
  session : after.session =
    ({ before with session := before.session.follow deed? }.withHeap after.heap).session

/-- The cache is the one that the deed leaves. -/
theorem Advances.cache_eq {deed? : Option Deed} (advances : holding.Advances after deed?) :
    after.cache = (holding.session.follow deed?).service.cache := by
  -- The session is the one that the deed leaves, but for the heap.
  rw [cache, advances.session]
  rfl

/-- There is a cache if the deed leaves one. -/
theorem Advances.live_eq {deed? : Option Deed} (advances : holding.Advances after deed?) :
    after.session.live = (holding.session.follow deed?).live := by
  -- The session is the one that the deed leaves, but for the heap.
  rw [advances.session]
  rfl

/-- Handles that are taken or given up leave the cache to continue. -/
theorem Shifts.continues {stock : Stock} (shifts : holding.Shifts after)
    (continues : stock.Continues holding.stock) : stock.Continues after.stock where
  -- The memory is the same, and handles keep their modules.
  heap := continues.heap.trans shifts.keeps
  shelf := shifts.shelf_eq ▸ continues.shelf

/-- An act that does nothing with the cache: a handle is taken, and then it goes where it belongs.
-/
theorem Shifts.advances {middle : Holding} (shifts : holding.Shifts middle)
    (ends : after.Sound [] ∧ middle.Shifts after) : holding.Advances after none := by
  -- The two shifts are one.
  have whole := shifts.trans ends.2
  exact ⟨ends.1, whole.continues (.refl _), whole.session⟩

/-- A handle that a request is granted is one to its module. -/
theorem Sound.module_of_granted {request : Request} {shared : Shared} (sound : holding.Sound [])
    (granted : holding.session.granted? request = some shared) :
    (holding.session.perform (.get request)).service.heap.bytecode? shared.handle =
      some shared.bytecode := by
  -- The module is in memory after the request, and all handles there have their modules.
  have serves := Session.serves_of_granted sound.idle granted
  obtain ⟨held, -⟩ := serves.held sound.held
  exact held.modules shared (Shelf.mem_shares_of_held serves.held?_eq)

/-- An act that makes a request is done when the handle of the request is where it belongs. -/
theorem Sound.ask (sound : holding.Sound []) (request : Request) {goOn : Holding → Shared → Holding}
    (goes : ∀ {asked : Holding} {shared}, asked.Sound [shared.handle] →
      asked.heap.bytecode? shared.handle = some shared.bytecode →
      (goOn asked shared).Sound [] ∧ asked.Shifts (goOn asked shared)) :
    holding.Advances (holding.ask request goOn) (some (.get request)) := by
  let asked := { holding with session := holding.session.perform (.get request) }
  obtain ⟨sound', continues⟩ := sound.use (.get request)
  unfold Holding.ask
  -- The handle is in hand until it is where it belongs.
  cases granted : holding.session.granted? request with
  | none =>
    have nothing : holding.session.handed (.get request) = [] := by simp [Session.handed, granted]
    rw [nothing] at sound'
    exact ⟨sound', continues, rfl⟩
  | some shared =>
    have hand : holding.session.handed (.get request) = [shared.handle] := by
      simp [Session.handed, granted]
    rw [hand] at sound'
    have module : asked.heap.bytecode? shared.handle = some shared.bytecode :=
      sound.module_of_granted granted
    obtain ⟨sound', shifts⟩ := goes sound' module
    exact ⟨sound', shifts.continues continues, shifts.session⟩

/-- Whatever the program does, all handles are where they are written down. -/
theorem Sound.perform (sound : holding.Sound []) (act : Act) :
    holding.Advances (holding.perform act) act.deed? := by
  cases act with
  | use deed =>
    cases deed with
    | get request => exact sound.ask request fun asked _ => asked.discard
    | _ =>
      obtain ⟨sound', continues⟩ := sound.use _
      exact ⟨sound', continues, rfl⟩
  | keep request name => exact sound.ask request fun asked module => asked.keepAs module name
  | fill request slot =>
    exact sound.ask request fun asked _ => asked.putShared slot
  | own bytecode slot =>
    have inHand : holding.Sound ((CompiledShader.owned bytecode).handle?.toList ++ []) := sound
    exact (Shifts.refl holding).advances (inHand.putIn slot)
  | share bytecode name =>
    obtain ⟨first, shifts⟩ := sound.allocate bytecode
    let shared : Shared := ⟨holding.heap.next, bytecode⟩
    have inHand : Sound _ (shared.handle :: []) := first
    exact shifts.advances (inHand.keepAs (holding.heap.bytecode?_allocate bytecode) name)
  | clone source name =>
    unfold Holding.perform
    simp only
    -- Without a module under the name nothing is done.
    split
    · exact (Shifts.refl holding).advances ⟨sound, .refl holding⟩
    · rename_i shared found
      obtain ⟨second, shifts⟩ := sound.duplicate _ (mem_handles_of_hold found)
      have module := sound.modules _ (Association.mem_of_lookup found)
      have module' := (holding.heap.bytecode?_retain shared.handle shared.handle).trans module
      exact shifts.advances (Sound.keepAs second module' name)
  | tag source slot =>
    unfold Holding.perform
    simp only
    split
    · exact (Shifts.refl holding).advances ⟨sound, .refl holding⟩
    · rename_i shared found
      obtain ⟨second, shifts⟩ := sound.duplicate _ (mem_handles_of_hold found)
      exact shifts.advances (second.putIn slot)
  | copy source slot =>
    unfold Holding.perform
    simp only
    -- A copy of nothing empties the slot.
    split
    · exact (Shifts.refl holding).advances (sound.freeSlot slot)
    · rename_i shader found
      obtain ⟨second, shifts⟩ := sound.duplicate shader (mem_handles_of_slot found)
      exact shifts.advances (second.putIn slot)
  | drop name => exact (Shifts.refl holding).advances (sound.dropHold name)
  | free slot => exact (Shifts.refl holding).advances (sound.freeSlot slot)

end Steps

section Runs

variable {holding : Holding} {act : Act} {key : Fingerprint} {handle bound : Handle}

/-- Whatever the program does, one thing after the other, all handles are where they are written
down, and the handles that there are keep their modules. -/
theorem Sound.run (sound : holding.Sound []) (acts : List Act) :
    (holding.run acts).Sound [] ∧ holding.heap.Keeps (holding.run acts).heap := by
  -- Act by act.
  induction acts generalizing holding with
  | nil => exact ⟨sound, .refl _⟩
  | cons act acts ih =>
    have advances := sound.perform act
    obtain ⟨sound', keeps⟩ := ih advances.sound
    exact ⟨sound', advances.continues.heap.trans keeps⟩

/-- A run goes on where its first part ends. -/
theorem run_append (holding : Holding) (first second : List Act) :
    holding.run (first ++ second) = (holding.run first).run second :=
  List.foldl_append

/-- A key in memory that no act takes out finds the same module after a run. -/
theorem Sound.held?_run (sound : holding.Sound []) {acts : List Act} {shared : Shared}
    (found : holding.cache.shelf.held? key = some shared)
    (stays : ∀ earlier act later, acts = earlier ++ act :: later →
      ¬ (holding.run earlier).Loses act key) :
    (holding.run acts).cache.shelf.held? key = some shared := by
  induction acts generalizing holding with
  | nil => exact found
  | cons act acts ih =>
    have advances := sound.perform act
    refine ih advances.sound ?_ fun earlier other later whole =>
      stays (act :: earlier) other later (by rw [whole]; rfl)
    -- The key is still there, and it cannot have another module.
    have kept : (holding.perform act).cache.shelf.contains key ≠ false := by
      refine fun gone => stays [] act acts rfl ⟨?_, gone⟩
      rw [Shelf.contains_eq]
      exact found ▸ rfl
    rw [Shelf.contains_eq, Ne, Bool.not_eq_false, Option.isSome_iff_exists] at kept
    obtain ⟨other, found'⟩ := kept
    rw [found', advances.continues.shelf.kept found found']

/-- A key whose handle is new stays without the old ones through a run. -/
theorem Sound.bound_le_run (sound : holding.Sound []) (acts : List Act)
    (below : bound ≤ holding.heap.next)
    (new : ∀ shared, holding.cache.shelf.held? key = some shared → bound ≤ shared.handle)
    (shared : Shared) (found : (holding.run acts).cache.shelf.held? key = some shared) :
    bound ≤ shared.handle := by
  induction acts generalizing holding with
  | nil => exact new shared found
  | cons act acts ih =>
    have advances := sound.perform act
    refine ih advances.sound (Nat.le_trans below advances.continues.heap.next) ?_ found
    intro other found'
    -- The key has the handle that it had, or one that was not given out before.
    cases before : holding.cache.shelf.held? key with
    | none => exact Nat.le_trans below (advances.continues.shelf.fresh before found')
    | some first =>
      rw [advances.continues.shelf.kept before found']
      exact new first before

/-- After a request was granted a handle, its key finds that handle. -/
theorem Sound.held?_of_obtains (sound : holding.Sound [])
    (obtains : holding.Obtains act key handle) :
    ∃ shared, (holding.perform act).cache.shelf.held? key = some shared ∧
      shared.handle = handle := by
  -- The cache after the act is the one that the request has left.
  obtain ⟨request, shared, asks, rfl, granted, rfl⟩ := obtains
  refine ⟨shared, ?_, rfl⟩
  rw [(sound.perform act).cache_eq, asks]
  exact (Session.serves_of_granted sound.idle granted).held?_eq

/-- A key goes from the memory with all others, alone, with the cache, or to make room. -/
theorem Sound.removes (sound : holding.Sound []) (loses : holding.Loses act key) :
    holding.Removes act key := by
  obtain ⟨there, gone⟩ := loses
  rw [Shelf.contains_eq, Option.isSome_iff_exists] at there
  obtain ⟨shared, found⟩ := there
  have advances := sound.perform act
  have lost := Shelf.contains_eq_false_iff.mp gone
  rw [advances.cache_eq] at lost
  cases does : act.deed? with
  | none =>
    -- The cache is what it was.
    rw [does] at lost
    exact absurd (found.symm.trans lost) (by simp)
  | some deed =>
    have cache := advances.cache_eq
    have live := advances.live_eq
    rw [does] at lost cache live
    by_cases asks : ∃ request, deed = .get request
    · obtain ⟨request, rfl⟩ := asks
      obtain ⟨other, rises⟩ := Session.request_lost sound.idle found lost
      exact .evicted does other (cache ▸ rises)
    · rcases Session.perform_lost (fun request same => asks ⟨request, same⟩) found lost with
        rfl | rfl | ⟨_, _, _, _, rfl⟩ | ⟨before, closed⟩
      · exact .flushed does
      · exact .invalidated does
      · exact .renewed does
      · exact .closed before (live.trans closed)

/-- What is in memory has handles that were given out. -/
theorem Sound.lt_of_held? (sound : holding.Sound []) {shared : Shared}
    (found : holding.cache.shelf.held? key = some shared) : shared.handle < holding.heap.next := by
  -- Handles of the memory are written down, and those that are were given out.
  refine sound.held.tallied.lt_of_mem (List.mem_append_left _ ?_)
  exact List.mem_map_of_mem (Shelf.mem_shares_of_held found)

/-- Two requests for a key share a handle exactly when no act between them took the key out. -/
theorem Sound.sharing (sound : holding.Sound []) {first second : Act} {acts : List Act}
    {one two : Handle} (obtains : holding.Obtains first key one)
    (obtains' : (holding.run (first :: acts)).Obtains second key two) :
    one = two ↔ ∀ earlier act later, acts = earlier ++ act :: later →
      ¬ (holding.run (first :: earlier)).Loses act key := by
  have start := (sound.perform first).sound
  have middle := (start.run acts).1
  obtain ⟨shared, found, rfl⟩ := sound.held?_of_obtains obtains
  obtain ⟨shared', found', rfl⟩ := middle.held?_of_obtains obtains'
  constructor
  case mp =>
    rintro same earlier act later rfl ⟨-, gone⟩
    let lost := (holding.run (first :: earlier)).perform act
    obtain ⟨here, keeps⟩ := start.run earlier
    have advances := here.perform act
    have rest : (holding.run (first :: (earlier ++ act :: later))).perform second =
        lost.run (later ++ [second]) := by
      rw [← List.cons_append, run_append, run_append]
      rfl
    have absent : lost.cache.shelf.held? key = none := Shelf.contains_eq_false_iff.mp gone
    -- From the loss on, the key has only handles that are given out later.
    have found' : (lost.run (later ++ [second])).cache.shelf.held? key = some shared' :=
      rest ▸ found'
    have after : lost.heap.next ≤ shared'.handle :=
      advances.sound.bound_le_run _ (Nat.le_refl _)
        (fun _ there => absurd (absent.symm.trans there) (by simp)) _ found'
    have before : shared.handle < lost.heap.next := calc
      shared.handle < (holding.perform first).heap.next := start.lt_of_held? found
      _ ≤ (holding.run (first :: earlier)).heap.next := keeps.next
      _ ≤ lost.heap.next := advances.continues.heap.next
    exact Nat.lt_irrefl _ (Nat.lt_of_lt_of_le before (same ▸ after))
  case mpr =>
    intro stays
    -- The second request finds what the first one left.
    have kept := start.held?_run found stays
    rw [(middle.perform second).continues.shelf.kept kept found']

end Runs

section Owned

variable {holding : Holding} {slot : String} {shader : CompiledShader}

/-- The heap counts the names and slots with a handle, and one more if an entry has it. -/
theorem Sound.count_eq (sound : holding.Sound []) (handle : Handle) :
    holding.heap.count handle =
      holding.uses handle + if handle ∈ holding.cache.shelf.handles then 1 else 0 := by
  -- Names and slots are counted one by one, and entries have handles of their own.
  have kept : holding.handles.count handle = holding.uses handle := by
    have slots : (holding.slots.filterMap (·.2.handle?)).count handle =
        holding.slots.countP (·.2 == .shared handle) := by
      rw [List.count_filterMap]
      refine List.countP_congr fun entry _ => ?_
      cases entry.2 <;> simp [CompiledShader.handle?]
    rw [handles, List.count_append, slots, uses, List.count_eq_countP, List.countP_map]
    rfl
  have entries : holding.stock.shelf.handles.count handle =
      if handle ∈ holding.cache.shelf.handles then 1 else 0 := sound.held.sole.count
  calc holding.heap.count handle
      = (holding.stock.shelf.handles ++ ([] ++ holding.handles)).count handle :=
        sound.held.tallied.count handle
    _ = (if handle ∈ holding.cache.shelf.handles then 1 else 0) + holding.uses handle := by
        rw [List.count_append, entries, List.nil_append, kept]
    _ = _ := Nat.add_comm _ _

/-- A handle has the words of its module. -/
theorem words_of_bytecode? {heap : Heap} {handle : Handle} {bytecode : Bytecode}
    (found : heap.bytecode? handle = some bytecode) : heap.words handle = bytecode.words := by
  -- The words are those of the module.
  rw [Heap.words, found]
  rfl

/-- The words of a handle stay for as long as there is one. -/
theorem Sound.words_run (sound : holding.Sound []) (acts : List Act) {handle : Handle}
    (live : 0 < holding.heap.count handle) (live' : 0 < (holding.run acts).heap.count handle) :
    (holding.run acts).heap.words handle = holding.heap.words handle := by
  -- A handle that is counted is written down, and such a handle keeps its module.
  obtain ⟨sound', keeps⟩ := sound.run acts
  have among : ∀ {holding : Holding}, holding.Sound [] → 0 < holding.heap.count handle →
      handle ∈ holding.stock.shelf.handles ++ ([] ++ holding.handles) :=
    fun sound live => List.count_pos_iff.mp (sound.held.tallied.count handle ▸ live)
  have same := keeps.bytecode_eq sound.held.tallied sound'.held.tallied (among sound live)
    (among sound' live')
  rw [Heap.words, same, Heap.words]

/-- An act goes on with the handle that its request is granted. -/
theorem ask_of_granted {request : Request} {shared : Shared}
    (granted : holding.session.granted? request = some shared)
    (goOn : Holding → Shared → Holding) :
    holding.ask request goOn =
      goOn { holding with session := holding.session.perform (.get request) } shared := by
  -- What is granted decides how the act goes on.
  unfold Holding.ask
  rw [granted]

/-- What a request is granted is in memory already, or else new and due. -/
theorem Sound.grants (sound : holding.Sound []) {request : Request} {shared : Shared}
    (granted : holding.session.granted? request = some shared) : holding.Grants request shared where
  -- Each part is what serving the request tells, or what the act does with the handle.
  words := words_of_bytecode? (sound.module_of_granted granted)
  found := by
    intro other found
    have serves := Session.serves_of_granted sound.idle granted
    exact serves.follows.kept found serves.held?_eq
  made := by
    intro absent
    have serves := Session.serves_of_granted sound.idle granted
    exact serves.made_eq (Shelf.contains_eq_false_iff.mp absent)
  kept := by
    intro name
    show (holding.ask request _).holds.lookup name = _
    rw [ask_of_granted granted]
    exact List.lookup_cons_self
  filled := by
    intro slot
    show (holding.ask request _).slot? slot = _
    rw [ask_of_granted granted]
    exact List.lookup_cons_self

/-- Freeing a full slot gives its handle up, if it has one, and does nothing else. -/
theorem Sound.frees (sound : holding.Sound []) (full : holding.slot? slot = some shader) :
    holding.Frees (holding.freeSlot slot) slot shader := by
  obtain ⟨left, shifts⟩ := sound.freeSlot slot
  constructor
  case emptied =>
    rw [slot?, slots_freeSlot]
    exact Association.lookup_filter_self slot _
  case others =>
    intro other apart
    rw [slot?, slots_freeSlot]
    exact Association.lookup_filter_of_ne _ apart
  case holds =>
    rw [freeSlot_of_full full]
    rfl
  case session => exact shifts.session
  case counts =>
    intro handle
    -- The slot's handle, if it has one, stands before those that are left.
    have own : shader.handle?.toList.count handle = if shader = .shared handle then 1 else 0 := by
      cases shader <;> simp [CompiledShader.handle?, List.count_singleton]
    have before := (sound.held.perm (sound.perm_of_full full)).tallied.count handle
    have after := left.held.tallied.count handle
    rw [shifts.shelf_eq, List.nil_append, List.count_append] at after
    calc holding.heap.count handle
        = holding.stock.shelf.handles.count handle + (shader.handle?.toList.count handle +
            (holding.freeSlot slot).handles.count handle) := by
          rw [before, List.nil_append, List.count_append, List.count_append]
      _ = (holding.freeSlot slot).heap.count handle + shader.handle?.toList.count handle := by
          rw [after]
          exact (Nat.add_left_comm ..).trans (Nat.add_comm ..)
      _ = _ := by rw [own]

/-- The handles of a program are owned in every state in which all of them are where they are
written down. -/
theorem Sound.owned (sound : holding.Sound []) : holding.Owned where
  -- Each field is one of the lemmas above.
  idle := sound.idle
  counts := sound.count_eq
  words := fun _ _ found =>
    words_of_bytecode? (sound.modules _ (Association.mem_of_lookup found))
  lasting := fun acts _ live live' => sound.words_run acts live live'
  granted := fun _ _ granted => sound.grants granted
  sharing := fun _ _ _ _ _ _ obtains obtains' => sound.sharing obtains obtains'
  losing := fun _ _ loses => sound.removes loses
  full := fun _ _ full => sound.frees full
  empty := fun _ empty => freeSlot_of_empty empty

/-- A program with a new cache and nothing else has all handles written down. -/
theorem sound_of {service : Service} (new : service.New) (bare : service.heap = .empty) :
    (of service).Sound [] where
  -- Nothing is in memory, under a name or in a slot.
  idle := new.toIdle
  held := by
    show service.cache.shelf.Held service.heap []
    rw [new.memory, bare]
    exact .empty 0 Heap.tallied_empty
  names := List.nodup_nil
  places := List.nodup_nil
  modules := fun _ among => absurd among List.not_mem_nil

/-- Whatever a program does with a new cache, in every state no request is under way and all handles
are owned as they should be. -/
theorem run_owned {service : Service} (new : service.New) (bare : service.heap = .empty)
    (acts : List Act) : ((of service).run acts).Owned :=
  -- Owners are part of what a run keeps sound.
  ((sound_of new bare).run acts).1.owned

/-- A module is kept under a name and put in a slot, and the memory is flushed. -/
def flushing : List Act :=
  [.keep ⟨"a.vert", "void main() {}"⟩ "first", .tag "first" "slot", .use .flush]

/-- Before the flush the same shader is granted the same handle, and after it another one, so that
its key was lost in between. -/
theorem run_owned_of_flushing :
    let start := of (.ofCompiler .curt)
    let request : Request := ⟨"a.vert", "void main() {}"⟩
    let key := start.cache.keyOf request
    (Service.ofCompiler .curt).New ∧ (Service.ofCompiler .curt).heap = .empty ∧
      (start.run flushing).Owned ∧ start.Obtains (.keep request "first") key 0 ∧
      (start.run (flushing.take 1)).Obtains (.fill request "other") key 0 ∧
      (start.run flushing).Obtains (.keep request "second") key 1 ∧
      ∃ earlier act later, flushing.tail = earlier ++ act :: later ∧
        (start.run (.keep request "first" :: earlier)).Loses act key := by
  intro start request key
  have new : (Service.ofCompiler .curt).New := ⟨⟨rfl, rfl⟩, rfl⟩
  have owned := run_owned new rfl
  have first : start.Obtains (.keep request "first") key 0 :=
    ⟨_, ⟨0, [spirvMagic], by simp⟩, rfl, rfl, rfl, rfl⟩
  have second : (start.run (flushing.take 1)).Obtains (.fill request "other") key 0 := by
    obtain ⟨shared, found, handle⟩ := (sound_of new rfl).held?_of_obtains first
    exact ⟨_, shared, rfl, rfl,
      Session.granted_of_held rfl (owned (flushing.take 1)).idle found, handle⟩
  have third : (start.run flushing).Obtains (.keep request "second") key 1 :=
    ⟨_, _, rfl, rfl, Session.granted_of_due rfl (owned flushing).idle rfl
      (show _ = CompileOutcome.finished (.ok ⟨[spirvMagic], by simp⟩) from rfl), rfl⟩
  refine ⟨new, rfl, owned flushing, first, second, third,
    Classical.byContradiction fun stays => ?_⟩
  -- The two handles would be the same.
  have same := ((owned []).sharing _ flushing.tail _ key 0 1 first third).mpr
    fun earlier act later whole loses => stays ⟨earlier, act, later, whole, loses⟩
  exact absurd same (by decide)

end Owned

end Holding

end ShaderBuild
