import ShaderBuild.Proofs.Cache.Accounts
import ShaderBuild.Proofs.Cache.Deeds

/-! Each entry in memory has one handle of its own, which comes back with no later entry. -/

namespace ShaderBuild

namespace Shelf

/-- The modules in memory, each with the handle of its entry. -/
def shares (shelf : Shelf) : List Shared :=
  shelf.entries.map (·.2.shared)

/-- The handles of the entries. -/
def handles (shelf : Shelf) : List Handle :=
  shelf.shares.map (·.handle)

variable {shelf : Shelf} {key : Fingerprint}

/-- What a key finds is one of the modules in memory. -/
theorem mem_shares_of_held {shared : Shared} (found : shelf.held? key = some shared) :
    shared ∈ shelf.shares := by
  -- The entry that is found stands among the entries.
  obtain ⟨entry, there, rfl⟩ := Option.map_eq_some_iff.mp found
  exact List.mem_map.mpr ⟨_, Association.mem_of_lookup there, rfl⟩

/-- A look changes no handle. -/
theorem shares_touch (shelf : Shelf) (key : Fingerprint) :
    (shelf.touch key).2.shares = shelf.shares := by
  show (stamp key (shelf.clock + 1) shelf.entries).map _ = _
  rw [stamp, List.map_map]
  -- Each entry keeps its module, whether it gets the stamp or not.
  refine List.map_congr_left fun entry _ => ?_
  simp only [Function.comp_apply]
  split <;> rfl

/-- The modules in memory are the one that goes and those that stay. -/
theorem Accounted.shares_remove (accounted : shelf.Accounted) (key : Fingerprint) :
    shelf.shares.Perm ((shelf.remove key).1.toList.map (·.shared) ++
      (shelf.remove key).2.shares) := by
  unfold Shelf.remove
  split
  · exact .refl _
  · rename_i entry found
    -- The key has no other entry.
    have perm := Association.perm_cons_filter accounted.distinct (Association.mem_of_lookup found)
    exact perm.map (·.2.shared)

/-- The modules in memory are those that make room and those that stay. -/
theorem Accounted.shares_room (accounted : shelf.Accounted) (limit? : Option Nat) (size : Nat) :
    shelf.shares.Perm ((shelf.room limit? size).1.map (·.shared) ++
      (shelf.room limit? size).2.shares) := by
  -- The entries are those that go and those that stay.
  have perm := (accounted.perm_room limit? size).map (·.shared)
  rw [List.map_map, List.map_append, List.map_map] at perm
  exact perm

/-- A module that is put in for a new key is one more. -/
theorem shares_insert (absent : shelf.held? key = none) (shared : Shared) :
    (shelf.insert key shared).2.shares = shared :: shelf.shares := by
  -- There is no older entry to erase.
  show shared :: (eraseKey key shelf.entries).map _ = _
  rw [eraseKey_of_absent (held?_eq_none_iff.mp absent)]
  rfl

end Shelf

/-- The handles that an answer comes with. -/
def Answer.handles : Answer → List Handle
  | .returned (.ok shared) => [shared.handle]
  | _ => []

/-- An answer without a module comes with no handle. -/
theorem Answer.Fails.handles {answer : Answer} (fails : answer.Fails) : answer.handles = [] := by
  -- Only a module comes with a handle.
  cases answer with
  | panicked message => rfl
  | returned result =>
    cases result with
    | ok shared => exact absurd rfl (fails shared)
    | error failure => rfl

/-- The entries of a memory and those outside it have all handles that there are, each entry has one
of its own, and it is a handle to the module of the entry. -/
structure Shelf.Held (shelf : Shelf) (heap : Heap) (outside : List Handle) : Prop where
  accounted : shelf.Accounted
  tallied : heap.Tallied (shelf.handles ++ outside)
  sole : shelf.handles.Nodup
  modules : ∀ shared ∈ shelf.shares, heap.bytecode? shared.handle = some shared.bytecode

namespace Shelf.Held

variable {shelf : Shelf} {heap : Heap} {outside : List Handle}

/-- An empty memory holds nothing. -/
theorem empty (clock : Nat) (tallied : heap.Tallied outside) :
    Held ⟨[], 0, clock⟩ heap outside where
  -- There are no entries to have handles.
  accounted := accounted_empty clock
  tallied := tallied
  sole := List.nodup_nil
  modules := fun _ among => absurd among List.not_mem_nil

/-- The order of the handles outside does not matter. -/
theorem perm (held : shelf.Held heap outside) {others : List Handle}
    (perm : outside.Perm others) : shelf.Held heap others where
  -- Only the tally speaks of those outside, and it does not count in an order.
  accounted := held.accounted
  tallied := held.tallied.perm (perm.append_left shelf.handles)
  sole := held.sole
  modules := held.modules

/-- Entries that were there keep their modules for as long as all handles are written down. -/
theorem later (held : shelf.Held heap outside) {left : Shelf} {after : Heap} {others : List Handle}
    (keeps : heap.Keeps after) (accounted : left.Accounted)
    (tallied : after.Tallied (left.handles ++ others)) (sole : left.handles.Nodup)
    (older : left.shares ⊆ shelf.shares) : left.Held after others where
  accounted := accounted
  tallied := tallied
  sole := sole
  modules := by
    intro shared among
    have before : shared.handle ∈ shelf.handles ++ outside :=
      List.mem_append_left _ (List.mem_map_of_mem (older among))
    have here : shared.handle ∈ left.handles ++ others :=
      List.mem_append_left _ (List.mem_map_of_mem among)
    -- The handle of the entry was held all the time.
    rw [keeps.bytecode_eq held.tallied tallied before here]
    exact held.modules shared (older among)

/-- A look for a key leaves the handles. -/
theorem touch (held : shelf.Held heap outside) (key : Fingerprint) :
    (shelf.touch key).2.Held heap outside := by
  -- A new stamp changes no module and no order.
  have shares := shelf.shares_touch key
  have handles : (shelf.touch key).2.handles = shelf.handles := by
    rw [Shelf.handles, shares, Shelf.handles]
  refine held.later (.refl heap) (held.accounted.touch key) ?_ ?_ ?_
  · exact handles ▸ held.tallied
  · exact handles ▸ held.sole
  · exact fun shared among => shares ▸ among

/-- One more handle to a module that is held. -/
theorem retain (held : shelf.Held heap outside) {handle : Handle}
    (among : handle ∈ shelf.handles ++ outside) :
    shelf.Held (heap.retain handle) (handle :: outside) :=
  -- The new handle is counted with those outside.
  held.later (heap.keeps_retain handle) held.accounted
    ((held.tallied.retain among).perm List.perm_middle.symm) held.sole (List.Subset.refl _)

/-- A new module, with its first handle for somebody outside. -/
theorem allocate (held : shelf.Held heap outside) (bytecode : Bytecode) :
    shelf.Held (heap.allocate bytecode).2 (heap.next :: outside) :=
  -- The new module has the one handle outside.
  held.later (heap.keeps_allocate bytecode) held.accounted
    ((held.tallied.allocate bytecode).perm List.perm_middle.symm) held.sole (List.Subset.refl _)

/-- A handle less for those outside. -/
theorem release {handle : Handle} (held : shelf.Held heap (handle :: outside)) :
    shelf.Held (heap.release handle) outside :=
  -- The handle is taken off the count, and no other one is touched.
  held.later (held.tallied.keeps_release handle) held.accounted
    (held.tallied.perm List.perm_middle).release held.sole (List.Subset.refl _)

/-- When some entries go and their handles are given up, each other one keeps its own. -/
theorem fewer (held : shelf.Held heap outside) {left : Shelf} {gone : List Shared}
    (accounted : left.Accounted) (perm : shelf.shares.Perm (gone ++ left.shares)) :
    left.Held (heap.releaseAll (gone.map (·.handle))) outside ∧
      heap.Keeps (heap.releaseAll (gone.map (·.handle))) := by
  -- What was held is what is given up and what is held from now on.
  have handles : shelf.handles.Perm (gone.map (·.handle) ++ left.handles) := by
    have mapped := perm.map (·.handle)
    rw [List.map_append] at mapped
    exact mapped
  have before : heap.Tallied (gone.map (·.handle) ++ (left.handles ++ outside)) := by
    rw [← List.append_assoc]
    exact held.tallied.perm (handles.append_right outside)
  refine ⟨held.later before.keeps_releaseAll accounted before.releaseAll ?_ ?_,
    before.keeps_releaseAll⟩
  · exact (List.nodup_append.mp (handles.nodup_iff.mp held.sole)).2.1
  · exact fun shared among => perm.symm.subset (List.mem_append_right _ among)

/-- The entries that make room give their handles up. -/
theorem room (held : shelf.Held heap outside) (limit? : Option Nat) (size : Nat) :
    let made := shelf.room limit? size
    made.2.Held (heap.releaseAll (made.1.map (·.shared.handle))) outside ∧
      heap.Keeps (heap.releaseAll (made.1.map (·.shared.handle))) := by
  -- What goes and what stays are all there was.
  have fewer := held.fewer (held.accounted.room limit? size)
    (held.accounted.shares_room limit? size)
  rw [List.map_map] at fewer
  exact fewer

/-- The entry of a key gives its handle up. -/
theorem remove (held : shelf.Held heap outside) (key : Fingerprint) :
    let taken := shelf.remove key
    taken.2.Held (heap.releaseAll (taken.1.toList.map (·.shared.handle))) outside ∧
      heap.Keeps (heap.releaseAll (taken.1.toList.map (·.shared.handle))) := by
  -- What goes and what stays are all there was.
  have fewer := held.fewer (held.accounted.remove key) (held.accounted.shares_remove key)
  rw [List.map_map] at fewer
  exact fewer

/-- All entries give their handles up. -/
theorem clear (held : shelf.Held heap outside) :
    shelf.clear.Held (heap.releaseAll (shelf.entries.map (·.2.shared.handle))) outside ∧
      heap.Keeps (heap.releaseAll (shelf.entries.map (·.2.shared.handle))) := by
  -- All there was goes.
  have perm : shelf.shares.Perm (shelf.shares ++ shelf.clear.shares) :=
    .of_eq (List.append_nil _).symm
  have fewer := held.fewer (accounted_empty shelf.clock) perm
  rw [shares, List.map_map] at fewer
  exact fewer

/-- A handle from outside goes into the memory with its module. -/
theorem insert {key : Fingerprint} {shared : Shared}
    (held : shelf.Held heap (shared.handle :: outside)) (absent : shelf.held? key = none)
    (own : shared.handle ∉ shelf.handles)
    (module : heap.bytecode? shared.handle = some shared.bytecode) :
    (shelf.insert key shared).2.Held heap outside := by
  -- The handles of the memory are those before and the new one.
  have shares := shares_insert absent shared
  have handles : (shelf.insert key shared).2.handles = shared.handle :: shelf.handles := by
    rw [Shelf.handles, shares]
    rfl
  constructor
  case accounted => exact held.accounted.insert key shared
  case tallied =>
    rw [handles]
    exact held.tallied.perm List.perm_middle
  case sole =>
    rw [handles]
    exact List.nodup_cons.mpr ⟨own, held.sole⟩
  case modules =>
    rw [shares]
    intro other among
    rcases List.mem_cons.mp among with rfl | older
    · exact module
    · exact held.modules other older

end Shelf.Held

/-- A key that is still in memory has the handle that it had, and one that is new there has a handle
that was not given out before. -/
structure Shelf.Follows (before : Shelf) (next : Handle) (after : Shelf) : Prop where
  kept : ∀ {key shared other}, before.held? key = some shared → after.held? key = some other →
    other = shared
  fresh : ∀ {key shared}, before.held? key = none → after.held? key = some shared →
    next ≤ shared.handle

/-- Nothing is new in a memory from which keys went at most. -/
theorem Shelf.follows_of_fewer {before after : Shelf} (next : Handle)
    (fewer : ∀ key, after.held? key = none ∨ after.held? key = before.held? key) :
    before.Follows next after := by
  -- A key that is there after was there before, with the same module.
  constructor
  case kept =>
    intro key shared other found found'
    rcases fewer key with gone | same
    · simp [gone] at found'
    · rw [same, found, Option.some.injEq] at found'
      exact found'.symm
  case fresh =>
    intro key shared absent found
    rcases fewer key with gone | same
    · simp [gone] at found
    · simp [same, absent] at found

/-- A module that is put in with a new handle, after others made room for it, is all that is new. -/
theorem Shelf.follows_put {shelf : Shelf} {key : Fingerprint} (absent : shelf.held? key = none)
    (limit? : Option Nat) (size : Nat) (shared : Shared) :
    shelf.Follows shared.handle ((shelf.room limit? size).2.insert key shared).2 := by
  -- What is found after the insert is the new module, or has stayed when room was made.
  have room := shelf.follows_of_fewer shared.handle (shelf.held?_room limit? size)
  constructor
  case kept =>
    intro other one two found found'
    rw [held?_insert] at found'
    split at found'
    · rename_i same
      simp [same, absent] at found
    · exact room.kept found found'
  case fresh =>
    intro other one missing found
    rw [held?_insert] at found
    split at found
    · exact Nat.le_of_eq (congrArg Shared.handle (Option.some.inj found))
    · exact room.fresh missing found

namespace Stock

variable {stock after : Stock} {outside : List Handle} {request : Request} {answer : Answer}

/-- A module whose first handle is outside is put in memory with a second one, and the entries that
make room give theirs up. -/
theorem held_put {key : Fingerprint} {shared : Shared}
    (held : stock.shelf.Held stock.heap (shared.handle :: outside))
    (absent : stock.shelf.held? key = none) (own : shared.handle ∉ stock.shelf.handles)
    (module : stock.heap.bytecode? shared.handle = some shared.bytecode) :
    (stock.put key shared).shelf.Held (stock.put key shared).heap (shared.handle :: outside) ∧
      stock.heap.Keeps (stock.put key shared).heap := by
  -- The entry gets a handle of its own first, so that the module stays while room is made.
  have second := held.retain (List.mem_append_right _ List.mem_cons_self)
  obtain ⟨left, keeps⟩ := second.room stock.setting.memoryLimit shared.bytecode.byteLength
  have whole := (stock.heap.keeps_retain shared.handle).trans keeps
  have module' := whole.bytecode_eq held.tallied left.tallied
    (List.mem_append_right _ List.mem_cons_self) (List.mem_append_right _ List.mem_cons_self)
  refine ⟨left.insert (Shelf.held?_room_of_none absent) ?_ (module'.trans module), whole⟩
  -- Those that stay were there before.
  have perm := (held.accounted.shares_room stock.setting.memoryLimit
    shared.bytecode.byteLength).map (·.handle)
  rw [List.map_append] at perm
  exact fun among => own (perm.symm.subset (List.mem_append_right _ among))

/-- A request leaves all handles with the memory and those outside it, and hands its own out. -/
theorem Serves.held (serves : stock.Serves request answer after)
    (held : stock.shelf.Held stock.heap outside) :
    after.shelf.Held after.heap (answer.handles ++ outside) ∧ stock.heap.Keeps after.heap := by
  cases serves with
  | @hit shared found =>
    have among := Shelf.mem_shares_of_held found
    have retained := held.retain (List.mem_append_left _ (List.mem_map_of_mem among))
    exact ⟨retained.touch _, stock.heap.keeps_retain shared.handle⟩
  | @failed answer heap failures absent due fails handles =>
    rw [fails.handles]
    rcases handles with rfl | ⟨bytecode, rfl⟩
    · exact ⟨held.touch _, .refl _⟩
    · -- The module that the memory refused is gone with its one handle.
      have allocated := held.allocate bytecode
      exact ⟨allocated.release.touch _,
        (stock.heap.keeps_allocate bytecode).trans (allocated.tallied.keeps_release _)⟩
  | @kept bytecode absent due =>
    let made := stock.made request bytecode
    let shared : Shared := ⟨stock.heap.next, bytecode⟩
    have first : made.shelf.Held made.heap (shared.handle :: outside) :=
      (held.allocate bytecode).touch _
    have absent' : made.shelf.held? (stock.setting.keyOf request) = none :=
      (Shelf.held?_touch ..).trans absent
    have own : shared.handle ∉ made.shelf.handles := by
      have handles : made.shelf.handles = stock.shelf.handles :=
        congrArg (List.map _) (stock.shelf.shares_touch _)
      rw [handles]
      -- The name of the new module was free.
      exact fun among => Nat.lt_irrefl _ (held.tallied.lt_of_mem (List.mem_append_left _ among))
    have module : made.heap.bytecode? shared.handle = some shared.bytecode :=
      stock.heap.bytecode?_allocate bytecode
    obtain ⟨put, keeps⟩ := held_put first absent' own module
    exact ⟨put, (stock.heap.keeps_allocate bytecode).trans keeps⟩

/-- A request puts its key in memory with a new handle at most. -/
theorem Serves.follows (serves : stock.Serves request answer after) :
    stock.shelf.Follows stock.heap.next after.shelf := by
  have touched := stock.shelf.held?_touch (stock.setting.keyOf request)
  cases serves with
  | hit | failed => exact Shelf.follows_of_fewer _ fun key => .inr (touched key)
  | @kept bytecode absent due =>
    have put := Shelf.follows_put ((touched _).trans absent) stock.setting.memoryLimit
      bytecode.byteLength ⟨stock.heap.next, bytecode⟩
    -- The look for the key has left each module in its place.
    exact ⟨fun found => put.kept ((touched _).trans found),
      fun missing => put.fresh ((touched _).trans missing)⟩

/-- After a request was granted a module, its key finds that module. -/
theorem Serves.held?_eq {shared : Shared}
    (serves : stock.Serves request (.returned (.ok shared)) after) :
    after.shelf.held? (stock.setting.keyOf request) = some shared := by
  -- A hit finds the module again, and a module that is kept has just been put in.
  cases serves with
  | hit found => exact (Shelf.held?_touch ..).trans found
  | failed _ _ fails => exact absurd rfl (fails shared)
  | kept =>
    refine (Shelf.held?_insert ..).trans ?_
    rw [if_pos rfl]

/-- A request takes a key out of the memory only to make room for another one. -/
theorem Serves.lost (serves : stock.Serves request answer after) {key : Fingerprint}
    {shared : Shared} (found : stock.shelf.held? key = some shared)
    (lost : after.shelf.held? key = none) :
    stock.setting.keyOf request ≠ key ∧ stock.stats.evictions < after.stats.evictions := by
  have touched := stock.shelf.held?_touch (stock.setting.keyOf request) key
  -- A hit and a failure take nothing out, and a module that is kept takes others out for room only.
  cases serves with
  | hit | failed => exact absurd ((touched.trans found).symm.trans lost) (by simp)
  | @kept bytecode absent due =>
    let left := (stock.made request bytecode).shelf.room stock.setting.memoryLimit
      bytecode.byteLength
    have apart : key ≠ stock.setting.keyOf request := by
      rintro rfl
      simp [absent] at found
    have lost' : left.2.held? key = none := by
      refine Eq.trans ?_ lost
      exact ((Shelf.held?_insert _ _ _ _).trans (if_neg apart)).symm
    have somebody : left.1 ≠ [] := by
      intro nobody
      rw [show left.2 = _ from Shelf.room_eq_of_nil nobody] at lost'
      exact absurd ((touched.trans found).symm.trans lost') (by simp)
    have counted : (stock.made request bytecode).stats.evictions = stock.stats.evictions :=
      (stock.counted_eq request).2
    refine ⟨apart.symm, ?_⟩
    show stock.stats.evictions < (stock.made request bytecode).stats.evictions + left.1.length
    have positive := List.length_pos_iff.mpr somebody
    omega

/-- A module that was not in memory is the one that was due, with a new handle. -/
theorem Serves.made_eq {shared : Shared}
    (serves : stock.Serves request (.returned (.ok shared)) after)
    (absent : stock.shelf.held? (stock.setting.keyOf request) = none) :
    shared.handle = stock.heap.next ∧ stock.due request = .finished (.ok shared.bytecode) := by
  -- Of the three ways only that of a kept module begins without one.
  cases serves with
  | hit found => simp [absent] at found
  | failed _ _ fails => exact absurd rfl (fails shared)
  | kept _ due => exact ⟨rfl, due⟩

/-- Using a directory leaves all handles with the memory and those outside it. -/
theorem held_opened (held : stock.shelf.Held stock.heap outside) (directory : Path) :
    (stock.opened directory).2.shelf.Held (stock.opened directory).2.heap outside ∧
      stock.heap.Keeps (stock.opened directory).2.heap := by
  -- The memory is cleared when the directory cannot be made, and left alone otherwise.
  unfold opened
  split
  · exact held.clear
  · exact ⟨held, .refl _⟩

/-- A deed that is no request leaves all handles with the memory and those outside it. -/
theorem held_changed (held : stock.shelf.Held stock.heap outside) (deed : Deed) :
    (stock.changed deed).2.shelf.Held (stock.changed deed).2.heap outside ∧
      stock.heap.Keeps (stock.changed deed).2.heap := by
  cases deed with
  | get request | setOptions options | setLimit limit => exact ⟨held, .refl _⟩
  | flush | drop => exact held.clear
  | invalidate key => exact held.remove key
  | setDirectory directory => exact held_opened held directory
  | renew compiler options memoryLimit directory? =>
    -- The old entries have given their handles up when the new memory is set up.
    obtain ⟨left, keeps⟩ := held.clear
    have renewed : (stock.renewed compiler options memoryLimit).shelf.Held
        (stock.renewed compiler options memoryLimit).heap outside := .empty 0 left.tallied
    cases directory? with
    | none => exact ⟨renewed, keeps⟩
    | some directory =>
      obtain ⟨opened, keeps'⟩ := held_opened renewed directory
      exact ⟨opened, keeps.trans keeps'⟩

/-- Using a directory puts nothing in memory. -/
theorem follows_opened (stock : Stock) (directory : Path) (next : Handle) :
    stock.shelf.Follows next (stock.opened directory).2.shelf := by
  -- The memory is cleared or left alone.
  refine Shelf.follows_of_fewer next fun key => ?_
  unfold opened
  split
  · exact .inl rfl
  · exact .inr rfl

/-- A deed that is no request puts nothing in memory. -/
theorem follows_changed (stock : Stock) (deed : Deed) (next : Handle) :
    stock.shelf.Follows next (stock.changed deed).2.shelf := by
  cases deed with
  | get request | setOptions options | setLimit limit =>
    exact Shelf.follows_of_fewer next fun _ => .inr rfl
  | flush | drop => exact Shelf.follows_of_fewer next fun _ => .inl rfl
  | invalidate key =>
    refine Shelf.follows_of_fewer next fun other => ?_
    show (stock.shelf.remove key).2.held? other = none ∨ (stock.shelf.remove key).2.held? other = _
    rw [Shelf.held?_remove]
    split
    · exact .inl rfl
    · exact .inr rfl
  | setDirectory directory => exact follows_opened stock directory next
  | renew compiler options memoryLimit directory? =>
    refine Shelf.follows_of_fewer next fun key => .inl ?_
    cases directory? with
    | none => rfl
    | some directory =>
      -- Whether the directory is used or not, the new memory is empty.
      show ((stock.renewed ..).opened directory).2.shelf.held? key = none
      unfold opened
      split <;> rfl

/-- A deed that is no request takes a key out of the memory only by a flush, by an invalidation of
the key, or with the whole cache. -/
theorem changed_lost (stock : Stock) (deed : Deed) {key : Fingerprint} {shared : Shared}
    (found : stock.shelf.held? key = some shared)
    (lost : (stock.changed deed).2.shelf.held? key = none) :
    deed = .flush ∨ deed = .invalidate key ∨
      (∃ compiler options limit directory?, deed = .renew compiler options limit directory?) ∨
      (stock.changed deed).1 = false := by
  have stays : ∀ {after : Shelf}, after.held? key = none → after.held? key = stock.shelf.held? key →
      False := fun gone same => absurd (found.symm.trans (same.symm.trans gone)) (by simp)
  cases deed with
  | flush => exact .inl rfl
  | drop => exact .inr (.inr (.inr rfl))
  | renew compiler options limit directory? => exact .inr (.inr (.inl ⟨_, _, _, _, rfl⟩))
  | get request | setOptions options | setLimit limit => exact (stays lost rfl).elim
  | invalidate other =>
    by_cases same : key = other
    · exact .inr (.inl (same ▸ rfl))
    · exact (stays lost ((Shelf.held?_remove ..).trans (if_neg same))).elim
  | setDirectory directory =>
    refine .inr (.inr (.inr ?_))
    have lost' : (stock.opened directory).2.shelf.held? key = none := lost
    show (stock.opened directory).1 = false
    unfold opened at lost' ⊢
    cases made : stock.disk.files.makeDirectories directory with
    | mk result files =>
      cases result with
      | error fault => rfl
      | ok =>
        -- A cache that goes on with the directory has what it had.
        rw [made] at lost'
        exact (stays lost' rfl).elim

end Stock

end ShaderBuild
