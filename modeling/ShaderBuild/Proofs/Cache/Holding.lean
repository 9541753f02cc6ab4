import ShaderBuild.Cache.Holding
import ShaderBuild.Proofs.Cache.Handles

/-! Each handle of a program belongs to an entry in memory, to a name or to a slot. -/

namespace ShaderBuild

/-- The handle to a module, if it is shared. -/
def CompiledShader.handle? : CompiledShader → Option Handle
  | owned _ => none
  | shared handle => some handle

/-- Later on, handles have the modules that they had, and a key that is new in memory has a new
handle. -/
structure Stock.Continues (before after : Stock) : Prop where
  heap : before.heap.Keeps after.heap
  shelf : before.shelf.Follows before.heap.next after.shelf

/-- A cache at rest continues. -/
theorem Stock.Continues.refl (stock : Stock) : stock.Continues stock :=
  ⟨.refl _, Shelf.follows_of_fewer _ fun _ => .inr rfl⟩

namespace Shelf.Held

variable {shelf : Shelf} {heap : Heap} {outside : List Handle} {shader : CompiledShader}

/-- A module that is given up takes its handle with it, if it has one. -/
theorem free (held : shelf.Held heap (shader.handle?.toList ++ outside)) :
    shelf.Held (shader.release heap) outside ∧ heap.Keeps (shader.release heap) := by
  -- A module that is owned has no handle to give up.
  cases shader with
  | owned bytecode => exact ⟨held, .refl heap⟩
  | shared handle => exact ⟨held.release, held.tallied.keeps_release handle⟩

/-- A second holder of a module has a handle of its own, if the module is shared. -/
theorem duplicate (held : shelf.Held heap outside)
    (among : ∀ handle ∈ shader.handle?, handle ∈ outside) :
    shelf.Held (shader.duplicate heap) (shader.handle?.toList ++ outside) ∧
      heap.Keeps (shader.duplicate heap) := by
  -- A module that is owned is copied and not counted.
  cases shader with
  | owned bytecode => exact ⟨held, .refl heap⟩
  | shared handle =>
    have there := List.mem_append_right shelf.handles (among handle rfl)
    exact ⟨held.retain there, heap.keeps_retain handle⟩

end Shelf.Held

namespace Session

variable {session : Session} {request : Request} {shared : Shared} {outside : List Handle}

/-- The handle that a deed comes with, if it is a request that is granted. -/
def handed (session : Session) : Deed → List Handle
  | .get request => (session.granted? request).toList.map (·.handle)
  | _ => []

/-- A request that is granted a module is answered with it, by the cache that is there. -/
theorem serves_of_granted (idle : session.service.Idle)
    (granted : session.granted? request = some shared) :
    session.service.stock.Serves request (.returned (.ok shared))
      (session.perform (.get request)).service.stock := by
  -- Only an answer with a module grants one.
  rw [granted?] at granted
  split at granted
  · rename_i answered
    obtain rfl := Option.some.inj granted
    exact (serves_of_answered idle answered).2.2
  · simp at granted

/-- A request whose key is in memory is granted the module there. -/
theorem granted_of_held (live : session.live = true) (idle : session.service.Idle)
    (found : session.service.stock.shelf.held? (session.service.stock.setting.keyOf request) =
      some shared) : session.granted? request = some shared := by
  obtain ⟨answer, answered, -, serves⟩ := perform_serves live idle request
  generalize (session.perform (.get request)).service.stock = after at serves
  -- The other ends are those of requests that do not find their key.
  cases serves with
  | hit found' => rw [granted?, answered, ← found, found']
  | failed absent | kept absent => simp [absent] at found

/-- A request whose key is not in memory is granted a new handle to the module that is due. -/
theorem granted_of_due (live : session.live = true) (idle : session.service.Idle)
    {bytecode : Bytecode}
    (absent : session.service.stock.shelf.held?
      (session.service.stock.setting.keyOf request) = none)
    (due : session.service.stock.due request = .finished (.ok bytecode)) :
    session.granted? request = some ⟨session.service.stock.heap.next, bytecode⟩ := by
  -- The request is neither a hit nor a failure, so that its module was kept.
  obtain ⟨answer, answered, -, serves⟩ := perform_serves live idle request
  generalize (session.perform (.get request)).service.stock = after at serves
  cases serves with
  | hit found => simp [absent] at found
  | failed _ ends fails => exact absurd (ends.trans due) (fails.outcome_ne bytecode)
  | kept _ due' =>
    obtain rfl : bytecode = _ := by simpa [due] using due'
    rw [granted?, answered]

/-- A request comes with the handle of its answer. -/
theorem handed_eq {answer : Answer} (answered : session.answer? request = some answer) :
    session.handed (.get request) = answer.handles := by
  -- What is granted is what is answered.
  simp only [handed, granted?, answered]
  cases answer with
  | panicked message => rfl
  | returned result => cases result <;> rfl

/-- A deed that is no request takes a key out of the memory only by a flush, by an invalidation of
the key, or with the whole cache. -/
theorem perform_lost {deed : Deed} (other : ∀ request, deed ≠ .get request) {key : Fingerprint}
    (found : session.service.stock.shelf.held? key = some shared)
    (lost : (session.perform deed).service.stock.shelf.held? key = none) :
    deed = .flush ∨ deed = .invalidate key ∨
      (∃ compiler options limit directory?, deed = .renew compiler options limit directory?) ∨
      session.live = true ∧ (session.perform deed).live = false := by
  by_cases live : session.live = true
  · obtain ⟨closed, stock, -⟩ := use_changed session.service other
    have used : session.perform deed = use session.service deed := if_pos live
    rw [used, stock] at lost
    rw [used, closed]
    rcases Stock.changed_lost _ deed found lost with flush | key | renew | gone
    · exact .inl flush
    · exact .inr (.inl key)
    · exact .inr (.inr (.inl renew))
    · exact .inr (.inr (.inr ⟨live, gone⟩))
  · have acts : session.perform deed ≠ session := by
      intro same
      rw [same, found] at lost
      simp at lost
    -- Without a cache nothing else is done.
    cases deed with
    | renew compiler options limit directory? => exact .inr (.inr (.inl ⟨_, _, _, _, rfl⟩))
    | _ => exact absurd (if_neg live) acts

/-- A request takes a key out of the memory only to make room for another one. -/
theorem request_lost (idle : session.service.Idle) {key : Fingerprint}
    (found : session.service.stock.shelf.held? key = some shared)
    (lost : (session.perform (.get request)).service.stock.shelf.held? key = none) :
    session.service.stock.setting.keyOf request ≠ key ∧
      session.service.stock.stats.evictions <
        (session.perform (.get request)).service.stock.stats.evictions := by
  -- A cache that is gone answers nothing, and so it loses nothing.
  by_cases live : session.live = true
  · obtain ⟨answer, -, -, serves⟩ := perform_serves live idle request
    exact serves.lost found lost
  · have rests : session.perform (.get request) = session := if_neg live
    rw [rests, found] at lost
    simp at lost

/-- Whatever is done, all handles are with the memory, those outside it and whoever asked. -/
theorem perform_held (idle : session.service.Idle)
    (held : session.service.stock.shelf.Held session.service.heap outside) (deed : Deed) :
    let after := (session.perform deed).service
    after.Idle ∧ after.stock.shelf.Held after.heap (session.handed deed ++ outside) ∧
      session.service.stock.Continues after.stock := by
  intro after
  -- What is no request changes the cache as its kind of deed does.
  have changes : (∀ request, deed ≠ .get request) →
      session.perform deed = use session.service deed →
      after.Idle ∧ after.stock.shelf.Held after.heap outside ∧
        session.service.stock.Continues after.stock := by
    intro other same
    obtain ⟨-, stock, quiet⟩ := use_changed session.service other
    obtain ⟨held', keeps⟩ := Stock.held_changed held deed
    have follows := Stock.follows_changed session.service.stock deed session.service.stock.heap.next
    rw [← same] at stock quiet
    rw [← stock] at held' keeps follows
    exact ⟨quiet idle, held', keeps, follows⟩
  by_cases live : session.live = true
  · cases deed with
    | get request =>
      obtain ⟨answer, answered, quiet, serves⟩ := perform_serves live idle request
      obtain ⟨held', keeps⟩ := serves.held held
      rw [handed_eq answered]
      exact ⟨quiet, held', keeps, serves.follows⟩
    | _ => exact changes (by simp) (if_pos live)
  · have rests : session.perform deed = session → after = session.service :=
      fun same => congrArg Session.service same
    cases deed with
    | renew compiler options memoryLimit directory? =>
      exact changes (by simp) (if_neg live)
    | get request =>
      -- Without a cache there is no answer.
      have nothing : session.handed (.get request) = [] := by simp [handed, granted?, answer?, live]
      rw [rests (if_neg live), nothing]
      exact ⟨idle, held, .refl _⟩
    | _ =>
      rw [rests (if_neg live)]
      exact ⟨idle, held, .refl _⟩

end Session

namespace Holding

/-- What the cache of the program has. -/
def stock (holding : Holding) : Stock := holding.session.service.stock

/-- The cache of the program. -/
def cache (holding : Holding) : Cache := holding.session.service.cache

/-- The handles that are kept under names and in slots. -/
def handles (holding : Holding) : List Handle :=
  holding.holds.map (·.2.handle) ++ holding.slots.filterMap (·.2.handle?)

/-- No request is under way, all handles are with the memory, the names and the slots or in hand,
and what is kept under a name is a handle to its module. -/
structure Sound (holding : Holding) (hand : List Handle) : Prop where
  idle : holding.session.service.Idle
  held : holding.stock.shelf.Held holding.heap (hand ++ holding.handles)
  names : (holding.holds.map (·.1)).Nodup
  places : (holding.slots.map (·.1)).Nodup
  modules : ∀ hold ∈ holding.holds, holding.heap.bytecode? hold.2.handle = some hold.2.bytecode

/-- Handles were taken or given up, and nothing was done with the cache. -/
structure Shifts (before after : Holding) : Prop where
  session : after.session = (before.withHeap after.heap).session
  keeps : before.heap.Keeps after.heap

/-- Nothing was done. -/
theorem Shifts.refl (holding : Holding) : holding.Shifts holding :=
  ⟨rfl, .refl _⟩

/-- Handles were taken or given up twice. -/
theorem Shifts.trans {first second third : Holding} (shifts : first.Shifts second)
    (shifts' : second.Shifts third) : first.Shifts third where
  -- The heap that was left last is the one that is there.
  session := by
    rw [shifts'.session, withHeap, shifts.session]
    rfl
  keeps := shifts.keeps.trans shifts'.keeps

section Sound

variable {holding after : Holding} {hand others : List Handle} {handle : Handle}

/-- The cache is the same when nothing was done with it. -/
theorem Shifts.cache_eq (shifts : holding.Shifts after) : after.cache = holding.cache := by
  -- Only the heap has changed.
  rw [cache, shifts.session]
  rfl

/-- The memory is the same when nothing was done with the cache. -/
theorem Shifts.shelf_eq (shifts : holding.Shifts after) :
    after.stock.shelf = holding.stock.shelf :=
  congrArg Cache.shelf shifts.cache_eq

/-- Handles that are taken or given up go where they are written down. -/
theorem Sound.shift (sound : holding.Sound hand) (shifts : holding.Shifts after)
    (held : holding.stock.shelf.Held after.heap (others ++ after.handles))
    (names : (after.holds.map (·.1)).Nodup) (places : (after.slots.map (·.1)).Nodup)
    (older : after.holds ⊆ holding.holds) : after.Sound others where
  idle := by
    rw [shifts.session]
    exact ⟨sound.idle.table, sound.idle.flights⟩
  held := shifts.shelf_eq ▸ held
  names := names
  places := places
  modules := by
    intro hold among
    have kept : ∀ {holding : Holding}, hold ∈ holding.holds → ∀ shelf hand,
        hold.2.handle ∈ Shelf.handles shelf ++ (hand ++ holding.handles) := by
      intro holding among shelf hand
      refine List.mem_append_right _ (List.mem_append_right _ (List.mem_append_left _ ?_))
      exact List.mem_map.mpr ⟨hold, among, rfl⟩
    -- The handle of the name was held all the time.
    rw [shifts.keeps.bytecode_eq sound.held.tallied held.tallied (kept (older among) _ _)
      (kept among _ _)]
    exact sound.modules hold (older among)

/-- Giving up what is kept under a name leaves the other names. -/
theorem holds_dropHold (holding : Holding) (name : String) :
    (holding.dropHold name).holds = holding.holds.filter (·.1 != name) := by
  -- Without a name there is nothing to drop.
  unfold dropHold
  split
  · rename_i absent
    exact (Association.filter_of_absent absent).symm
  · rfl

/-- What is kept under a name is given up, and nothing else. -/
theorem Sound.dropHold (sound : holding.Sound hand) (name : String) :
    (holding.dropHold name).Sound hand ∧ holding.Shifts (holding.dropHold name) := by
  unfold Holding.dropHold
  split
  · exact ⟨sound, .refl holding⟩
  · rename_i shared found
    -- The handle of the name comes first, and then those that stay.
    let left := holding.holds.filter (·.1 != name)
    have split_ : (hand ++ holding.handles).Perm (shared.handle ::
        (hand ++ (left.map (·.2.handle) ++ holding.slots.filterMap (·.2.handle?)))) := by
      have perm := Association.perm_cons_filter sound.names (Association.mem_of_lookup found)
      exact (((perm.map (·.2.handle)).append_right _).append_left hand).trans List.perm_middle
    have held := sound.held.perm split_
    have shifts : holding.Shifts
        { holding.withHeap (holding.heap.release shared.handle) with holds := left } :=
      ⟨rfl, held.tallied.keeps_release shared.handle⟩
    refine ⟨sound.shift shifts held.release ?_ sound.places List.filter_sublist.subset, shifts⟩
    exact Association.distinct_filter sound.names name

/-- A handle in hand is kept under a name. -/
theorem Sound.keepAs {shared : Shared} (sound : holding.Sound (shared.handle :: hand))
    (module : holding.heap.bytecode? shared.handle = some shared.bytecode) (name : String) :
    (holding.keepAs name shared).Sound hand ∧ holding.Shifts (holding.keepAs name shared) := by
  obtain ⟨left, shifts⟩ := sound.dropHold name
  have inHand : ∀ {holding : Holding} {shelf : Shelf},
      shared.handle ∈ shelf.handles ++ (shared.handle :: hand ++ holding.handles) :=
    List.mem_append_right _ List.mem_cons_self
  -- It was in hand while the old one was given up, even if the two have the same module.
  have module' := shifts.keeps.bytecode_eq sound.held.tallied left.held.tallied inHand inHand
  refine ⟨⟨left.idle, left.held.perm List.perm_middle.symm, ?_, left.places, ?_⟩,
    ⟨shifts.session, shifts.keeps⟩⟩
  · show (name :: (holding.dropHold name).holds.map (·.1)).Nodup
    rw [holds_dropHold]
    exact List.nodup_cons.mpr
      ⟨Association.not_mem_filter name _, Association.distinct_filter sound.names name⟩
  · intro hold among
    rcases List.mem_cons.mp among with rfl | older
    · exact module'.trans module
    · exact left.modules hold older

/-- Freeing an empty slot does nothing. -/
theorem freeSlot_of_empty {slot : String} (empty : holding.slot? slot = none) :
    holding.freeSlot slot = holding := by
  -- There is no entry of the slot to drop.
  have left : holding.slots.filter (·.1 != slot) = holding.slots :=
    Association.filter_of_absent empty
  unfold freeSlot freeShader
  rw [empty]
  simp only [Option.toList_none, List.map_nil, List.nil_append, left]
  rfl

/-- Freeing a full slot gives up what is in it. -/
theorem freeSlot_of_full {slot : String} {shader : CompiledShader}
    (full : holding.slot? slot = some shader) :
    holding.freeSlot slot =
      { holding.withHeap (shader.release holding.heap) with
        slots := holding.slots.filter (·.1 != slot) } := by
  -- The content is released and its entry dropped.
  unfold freeSlot freeShader
  rw [full]
  rfl

/-- Freeing a slot leaves the other slots. -/
theorem slots_freeSlot (holding : Holding) (slot : String) :
    (holding.freeSlot slot).slots = holding.slots.filter (·.1 != slot) := by
  -- Whether the slot was full or empty, its entry is gone.
  cases content : holding.slot? slot with
  | none =>
    rw [freeSlot_of_empty content]
    exact (Association.filter_of_absent content).symm
  | some shader => rw [freeSlot_of_full content]

/-- The handles are those of what is in a slot and those that are left when it is freed. -/
theorem Sound.perm_of_full (sound : holding.Sound hand) {slot : String} {shader : CompiledShader}
    (full : holding.slot? slot = some shader) :
    (hand ++ holding.handles).Perm
      (shader.handle?.toList ++ (hand ++ (holding.freeSlot slot).handles)) := by
  have perm := Association.perm_cons_filter sound.places (Association.mem_of_lookup full)
  have slots := perm.filterMap (·.2.handle?)
  rw [freeSlot_of_full full]
  cases shader with
  | owned bytecode => exact (slots.append_left _).append_left hand
  | shared handle =>
    -- The handle goes past those of the names and those in hand.
    have middle := (slots.append_left (holding.holds.map (·.2.handle))).trans List.perm_middle
    exact (middle.append_left hand).trans List.perm_middle

/-- What is in a slot is freed, and nothing else. -/
theorem Sound.freeSlot (sound : holding.Sound hand) (slot : String) :
    (holding.freeSlot slot).Sound hand ∧ holding.Shifts (holding.freeSlot slot) := by
  -- A full slot gives up one handle at most, that of its content.
  cases content : holding.slot? slot with
  | none =>
    rw [freeSlot_of_empty content]
    exact ⟨sound, .refl holding⟩
  | some shader =>
    obtain ⟨held, keeps⟩ := (sound.held.perm (sound.perm_of_full content)).free
    rw [freeSlot_of_full content] at held ⊢
    refine ⟨sound.shift ⟨rfl, keeps⟩ held sound.names ?_ (List.Subset.refl _), ⟨rfl, keeps⟩⟩
    exact Association.distinct_filter sound.places slot

/-- A module in hand is put in a slot. -/
theorem Sound.putIn {shader : CompiledShader}
    (sound : holding.Sound (shader.handle?.toList ++ hand)) (slot : String) :
    (holding.putIn slot shader).Sound hand ∧ holding.Shifts (holding.putIn slot shader) := by
  -- The handle in hand goes to the slots once the slot is free.
  obtain ⟨left, shifts⟩ := sound.freeSlot slot
  let whole := holding.putIn slot shader
  have perm : (shader.handle?.toList ++ hand ++ (holding.freeSlot slot).handles).Perm
      (hand ++ whole.handles) := by
    cases shader with
    | owned bytecode => exact .refl _
    | shared handle =>
      exact List.perm_middle.symm.trans (List.perm_middle.symm.append_left hand)
  refine ⟨⟨left.idle, left.held.perm perm, left.names, ?_, left.modules⟩,
    ⟨shifts.session, shifts.keeps⟩⟩
  show (slot :: (holding.freeSlot slot).slots.map (·.1)).Nodup
  rw [slots_freeSlot]
  exact List.nodup_cons.mpr
    ⟨Association.not_mem_filter slot _, Association.distinct_filter sound.places slot⟩

/-- Something is done with the cache, and the handle that it comes with is in hand. -/
theorem Sound.use (sound : holding.Sound []) (deed : Deed) :
    let after := { holding with session := holding.session.perform deed }
    after.Sound (holding.session.handed deed) ∧ holding.stock.Continues after.stock := by
  obtain ⟨idle, held, continues⟩ := Session.perform_held sound.idle sound.held deed
  refine ⟨⟨idle, held, sound.names, sound.places, fun hold among => ?_⟩, continues⟩
  have kept : hold.2.handle ∈ holding.handles :=
    List.mem_append_left _ (List.mem_map.mpr ⟨hold, among, rfl⟩)
  -- The cache gives up its own handles only.
  have same := continues.heap.bytecode_eq sound.held.tallied held.tallied
    (List.mem_append_right _ kept) (List.mem_append_right _ (List.mem_append_right _ kept))
  exact same.trans (sound.modules hold among)

/-- The handle in hand is given up. -/
theorem Sound.discard (sound : holding.Sound (handle :: hand)) :
    let after := holding.withHeap (holding.heap.release handle)
    after.Sound hand ∧ holding.Shifts after := by
  -- The cache is left alone, and the heap counts one handle less.
  have shifts : holding.Shifts (holding.withHeap (holding.heap.release handle)) :=
    ⟨rfl, sound.held.tallied.keeps_release handle⟩
  have held := Shelf.Held.release sound.held
  exact ⟨sound.shift shifts held sound.names sound.places (List.Subset.refl _), shifts⟩

/-- A handle to a new module is in hand. -/
theorem Sound.allocate (sound : holding.Sound []) (bytecode : Bytecode) :
    let after := holding.withHeap (holding.heap.allocate bytecode).2
    after.Sound [holding.heap.next] ∧ holding.Shifts after := by
  -- The cache is left alone, and the heap has one module more.
  have shifts : holding.Shifts (holding.withHeap (holding.heap.allocate bytecode).2) :=
    ⟨rfl, holding.heap.keeps_allocate bytecode⟩
  have held := sound.held.allocate bytecode
  exact ⟨sound.shift shifts held sound.names sound.places (List.Subset.refl _), shifts⟩

/-- A second holder of a module is in hand. -/
theorem Sound.duplicate (sound : holding.Sound []) (shader : CompiledShader)
    (among : ∀ handle ∈ shader.handle?, handle ∈ holding.handles) :
    let after := holding.withHeap (shader.duplicate holding.heap)
    after.Sound (shader.handle?.toList ++ []) ∧ holding.Shifts after := by
  -- The cache is left alone, and the heap counts one handle more if the module is shared.
  obtain ⟨held, keeps⟩ := sound.held.duplicate among
  have shifts : holding.Shifts (holding.withHeap (shader.duplicate holding.heap)) := ⟨rfl, keeps⟩
  rw [List.append_nil]
  exact ⟨sound.shift shifts held sound.names sound.places (List.Subset.refl _), shifts⟩

/-- A handle in hand is put in a slot. -/
theorem Sound.putShared (sound : holding.Sound (handle :: hand)) (slot : String) :
    (holding.putIn slot (.shared handle)).Sound hand ∧
      holding.Shifts (holding.putIn slot (.shared handle)) := by
  -- The handle in hand is that of a shared module.
  have inHand : holding.Sound ((CompiledShader.shared handle).handle?.toList ++ hand) := sound
  exact inHand.putIn slot

/-- What is kept under a name has its handle among those that are kept. -/
theorem mem_handles_of_hold {name : String} {shared : Shared}
    (found : holding.holds.lookup name = some shared) :
    ∀ handle ∈ (CompiledShader.shared shared.handle).handle?, handle ∈ holding.handles :=
  -- The handles of names come first in the list.
  fun _ has => List.mem_append_left _
    (List.mem_map.mpr ⟨_, Association.mem_of_lookup found, Option.some.inj has⟩)

/-- What is in a slot has its handle, if there is one, among those that are kept. -/
theorem mem_handles_of_slot {slot : String} {shader : CompiledShader}
    (found : holding.slot? slot = some shader) :
    ∀ handle ∈ shader.handle?, handle ∈ holding.handles :=
  -- The handles of slots come after those of names.
  fun _ has => List.mem_append_right _
    (List.mem_filterMap.mpr ⟨_, Association.mem_of_lookup found, has⟩)

end Sound

end Holding

end ShaderBuild
