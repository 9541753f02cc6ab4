import Mathlib.Data.List.Pairwise
import ShaderBuild.Proofs.Cache.Accounts

/-! The entries in memory form a queue in the order of their last use. -/

namespace ShaderBuild

/-- Keys and modules in the order of their last use, the one that was used longest ago first. -/
abbrev Queue := List (Fingerprint × Bytecode)

namespace Queue

/-- The size of all modules together. -/
def total (queue : Queue) : Nat :=
  (queue.map (·.2.byteLength)).sum

/-- Puts a module at the back, whether it was in the queue or not. -/
def renew (queue : Queue) (key : Fingerprint) (bytecode : Bytecode) : Queue :=
  queue.filter (·.1 != key) ++ [(key, bytecode)]

/-- What is left when modules go from the front until one of some size fits under a limit. -/
def trim (limit size : Nat) : Queue → Queue
  | [] => []
  | head :: rest =>
    if limit < total (head :: rest) + size then trim limit size rest else head :: rest

/-- What is left when room is made for a module of some size, if there is a limit. -/
def room (limit? : Option Nat) (size : Nat) (queue : Queue) : Queue :=
  match limit? with
  | none => queue
  | some limit => trim limit size queue

section Ends

variable {small large : Queue} {key : Fingerprint} {bytecode : Bytecode}

/-- Room is made at the front, so that a back part is left. -/
theorem trim_suffix (limit size : Nat) (queue : Queue) : trim limit size queue <:+ queue := by
  -- Entry by entry, until the first one that may stay.
  induction queue with
  | nil => exact List.suffix_refl _
  | cons head rest ih =>
    unfold trim
    split
    · exact ih.trans (List.suffix_cons head rest)
    · exact List.suffix_refl _

/-- When anything is left, the new module fits beside it. -/
theorem trim_fits {limit size : Nat} {queue : Queue} (left : trim limit size queue ≠ []) :
    total (trim limit size queue) + size ≤ limit := by
  -- Entries go until the rest fits, or until none is left.
  induction queue with
  | nil => exact absurd rfl left
  | cons head rest ih =>
    unfold trim at left ⊢
    split
    · rename_i large
      rw [if_pos large] at left
      exact ih left
    · rename_i fits
      exact Nat.not_lt.mp fits

/-- A back part beside which the new module fits is not touched when room is made. -/
theorem suffix_trim {limit size : Nat} (inside : small <:+ large)
    (fits : total small + size ≤ limit) : small <:+ trim limit size large := by
  induction large with
  | nil => exact inside
  | cons head rest ih =>
    unfold trim
    split
    · rename_i heavy
      -- The whole queue is too large, and so the part that fits begins behind its head.
      rcases List.suffix_cons_iff.mp inside with rfl | behind
      · exact absurd fits (Nat.not_le.mpr heavy)
      · exact ih behind
    · exact inside

/-- Under a larger limit, or none, at least as much of a longer queue is left. -/
theorem room_suffix_room {tight : Nat} {wide? : Option Nat} (inside : small <:+ large)
    (wider : ∀ wide, wide? = some wide → tight ≤ wide) (size : Nat) :
    room (some tight) size small <:+ room wide? size large := by
  have kept : trim tight size small <:+ large := (trim_suffix tight size small).trans inside
  cases wide? with
  | none => exact kept
  | some wide =>
    by_cases nothing : trim tight size small = []
    · show trim tight size small <:+ _
      rw [nothing]
      exact List.nil_suffix
    · -- What is left under the smaller limit leaves room under the larger one as well.
      exact suffix_trim kept (Nat.le_trans (trim_fits nothing) (wider wide rfl))

/-- Making room takes from the front, if at all. -/
theorem room_suffix (limit? : Option Nat) (size : Nat) (queue : Queue) :
    room limit? size queue <:+ queue := by
  -- Without a limit nothing goes.
  cases limit? with
  | none => exact List.suffix_refl _
  | some limit => exact trim_suffix limit size queue

/-- A module that goes to the back of both queues leaves one the back part of the other. -/
theorem renew_suffix_renew (inside : small <:+ large) :
    small.renew key bytecode <:+ large.renew key bytecode := by
  -- Dropping the key from the larger one drops it from both parts.
  obtain ⟨front, rfl⟩ := inside
  refine ⟨front.filter (·.1 != key), ?_⟩
  rw [renew, renew, List.filter_append, List.append_assoc]

/-- A module of a key that is not in the queue joins at the back. -/
theorem renew_of_absent {queue : Queue} (absent : queue.lookup key = none) :
    queue.renew key bytecode = queue ++ [(key, bytecode)] := by
  -- There is nothing to take out of the queue first.
  rw [renew, Association.filter_of_absent absent]

/-- A module of a key that is in the queue changes its place only. -/
theorem length_renew {queue : Queue} (distinct : (queue.map (·.1)).Nodup) {other : Bytecode}
    (found : queue.lookup key = some other) :
    (queue.renew key bytecode).length = queue.length := by
  -- One entry of the key goes, and one comes.
  have perm := Association.perm_cons_filter distinct (Association.mem_of_lookup found)
  have length := perm.length_eq
  rw [List.length_cons] at length
  rw [renew, List.length_append, List.length_singleton, length]

/-- A key that a queue does not have is in no back part of it. -/
theorem lookup_of_suffix (inside : small <:+ large) (absent : large.lookup key = none) :
    small.lookup key = none := by
  -- An entry of the back part is one of the whole.
  rw [List.lookup_eq_none_iff] at absent ⊢
  exact fun entry among => absent entry (inside.subset among)

end Ends

end Queue

namespace Shelf

/-- The entries in the order of their last use, the one that was used longest ago first. -/
def byAge (shelf : Shelf) : List (Fingerprint × Entry) :=
  shelf.entries.mergeSort fun one two => one.2.lastUsed ≤ two.2.lastUsed

/-- The keys and modules in memory, the one that was used longest ago first. -/
def queue (shelf : Shelf) : Queue :=
  shelf.byAge.map fun entry => (entry.1, entry.2.shared.bytecode)

/-- The memory is accounted for, its stamps tell the entries apart, and none is ahead of the clock.
-/
structure Dated (shelf : Shelf) : Prop extends shelf.Accounted where
  apart : shelf.entries.Pairwise fun one two => one.2.lastUsed ≠ two.2.lastUsed
  past : ∀ entry ∈ shelf.entries, entry.2.lastUsed ≤ shelf.clock

/-- An empty memory is dated. -/
theorem dated_empty (clock : Nat) : Dated ⟨[], 0, clock⟩ :=
  ⟨accounted_empty clock, List.Pairwise.nil, by simp⟩

/-- The queue has all entries. -/
theorem byAge_perm (shelf : Shelf) : shelf.byAge.Perm shelf.entries :=
  -- The queue is the entries, sorted.
  List.mergeSort_perm _ _

/-- The queue is sorted. -/
theorem byAge_sorted (shelf : Shelf) :
    shelf.byAge.Pairwise fun one two => one.2.lastUsed ≤ two.2.lastUsed := by
  -- The sort goes by an order that is total and transitive.
  have sorted : shelf.byAge.Pairwise fun one two => decide (one.2.lastUsed ≤ two.2.lastUsed) :=
    List.pairwise_mergeSort (fun one two three => by simpa using Nat.le_trans)
      (fun one two => by simpa using Nat.le_total one.2.lastUsed two.2.lastUsed) shelf.entries
  exact sorted.imp of_decide_eq_true

/-- Entries that stand in order, each with a later stamp than the one before, are the queue. -/
theorem byAge_eq {shelf : Shelf} {ordered : List (Fingerprint × Entry)}
    (perm : ordered.Perm shelf.entries)
    (sorted : ordered.Pairwise fun one two => one.2.lastUsed < two.2.lastUsed) :
    shelf.byAge = ordered := by
  -- No two entries have the same stamp.
  have apart : ∀ ⦃one⦄, one ∈ ordered → ∀ ⦃two⦄, two ∈ ordered →
      one.2.lastUsed = two.2.lastUsed → one = two :=
    List.Pairwise.forall_of_forall_of_flip (fun _ _ _ => rfl)
      (sorted.imp fun later same => absurd same (Nat.ne_of_lt later))
      (sorted.imp fun later same => absurd same.symm (Nat.ne_of_lt later))
  have whole : shelf.byAge.Perm ordered := shelf.byAge_perm.trans perm.symm
  refine whole.eq_of_pairwise ?_ shelf.byAge_sorted (sorted.imp Nat.le_of_lt)
  intro one two among among' before after
  exact apart (whole.subset among) among' (Nat.le_antisymm before after)

section Dated

variable {shelf left : Shelf} {key : Fingerprint} {entry : Entry}

/-- Each entry in the queue has a later stamp than the one before. -/
theorem Dated.byAge_sorted (dated : shelf.Dated) :
    shelf.byAge.Pairwise fun one two => one.2.lastUsed < two.2.lastUsed := by
  -- In order, and no two the same.
  have apart := dated.apart.perm shelf.byAge_perm.symm Ne.symm
  exact (shelf.byAge_sorted.and apart).imp fun both => Nat.lt_of_le_of_ne both.1 both.2

/-- The counter shows the size of the queue. -/
theorem Accounted.resident_eq (accounted : shelf.Accounted) :
    shelf.resident = Queue.total shelf.queue := by
  -- Sorting does not change the total.
  rw [accounted.balanced, ← totalSize_perm shelf.byAge_perm, totalSize_eq_sum, Queue.total, queue,
    List.map_map]
  rfl

/-- A key finds in memory what it finds in the queue. -/
theorem Accounted.lookup_queue (accounted : shelf.Accounted) (key : Fingerprint) :
    shelf.queue.lookup key = (shelf.held? key).map (·.bytecode) := by
  -- A key has one entry, so that the order does not matter.
  have same : shelf.byAge.lookup key = shelf.entries.lookup key :=
    Association.lookup_perm shelf.byAge_perm accounted.distinct key
  have found := Association.lookup_map_value (fun _ (entry : Entry) => entry.shared.bytecode) key
    shelf.byAge
  rw [same] at found
  rw [held?, Option.map_map]
  exact found

/-- Dropping a key drops it from the queue. -/
theorem Dated.byAge_eraseKey (dated : shelf.Dated) (key : Fingerprint) (resident clock : Nat) :
    byAge ⟨eraseKey key shelf.entries, resident, clock⟩ = shelf.byAge.filter (·.1 != key) :=
  -- What is left of a sorted queue is sorted, and a sorted list is determined by its stamps.
  byAge_eq (shelf.byAge_perm.filter _) (dated.byAge_sorted.sublist List.filter_sublist)

/-- An entry with a new stamp, in place of the one of its key, is the last in the queue. -/
theorem Dated.byAge_renew (dated : shelf.Dated) {after : Shelf} {shared : Shared} {time : Nat}
    (perm : after.entries.Perm ((key, ⟨shared, time⟩) :: Shelf.eraseKey key shelf.entries))
    (late : shelf.clock < time) :
    after.byAge = shelf.byAge.filter (·.1 != key) ++ [(key, ⟨shared, time⟩)] := by
  have rest : (shelf.byAge.filter (·.1 != key)).Perm (Shelf.eraseKey key shelf.entries) :=
    shelf.byAge_perm.filter _
  refine byAge_eq ?_ (List.pairwise_append.mpr ⟨?_, List.pairwise_singleton _ _, ?_⟩)
  · exact (List.perm_append_comm.trans (rest.cons _)).trans perm.symm
  · exact dated.byAge_sorted.sublist List.filter_sublist
  · -- The new stamp is ahead of all others.
    intro older among newer last
    rw [List.mem_singleton.mp last]
    have known := dated.past older (shelf.byAge_perm.subset (List.mem_filter.mp among).1)
    exact Nat.lt_of_le_of_lt known late

/-- Entries that stay, under a clock that does not go back, stay dated. -/
theorem Dated.of_sublist (dated : shelf.Dated) (accounted : left.Accounted)
    (fewer : left.entries.Sublist shelf.entries) (later : shelf.clock ≤ left.clock) :
    left.Dated where
  -- Stamps stay apart, and none is ahead of the clock.
  toAccounted := accounted
  apart := dated.apart.sublist fewer
  past := fun entry among => Nat.le_trans (dated.past entry (fewer.subset among)) later

/-- An entry with the next stamp, in place of the one of its key, leaves the memory dated. -/
theorem Dated.of_renewed (dated : shelf.Dated) {after : Shelf} {shared : Shared}
    (accounted : after.Accounted)
    (perm : after.entries.Perm
      ((key, ⟨shared, shelf.clock + 1⟩) :: Shelf.eraseKey key shelf.entries))
    (next : after.clock = shelf.clock + 1) : after.Dated where
  -- The next stamp is later than all others.
  toAccounted := accounted
  apart := by
    refine List.Pairwise.perm ?_ perm.symm Ne.symm
    refine List.pairwise_cons.mpr ⟨fun other among => ?_, dated.apart.sublist List.filter_sublist⟩
    exact Nat.ne_of_gt (Nat.lt_succ_of_le (dated.past other (List.mem_filter.mp among).1))
  past := by
    intro other among
    rw [next]
    rcases List.mem_cons.mp (perm.subset among) with rfl | older
    · exact Nat.le_refl _
    · exact Nat.le_succ_of_le (dated.past other (List.mem_filter.mp older).1)

/-- What the queue is after an entry got the next stamp, in place of the one of its key. -/
theorem Dated.queue_renew (dated : shelf.Dated) {after : Shelf} {shared : Shared}
    (perm : after.entries.Perm
      ((key, ⟨shared, shelf.clock + 1⟩) :: Shelf.eraseKey key shelf.entries)) :
    after.queue = shelf.queue.renew key shared.bytecode := by
  -- The newest entry is the last one in the order of the stamps.
  rw [queue, dated.byAge_renew perm (Nat.lt_succ_self _), List.map_append, Queue.renew, queue,
    List.filter_map]
  rfl

/-- Without an entry for the key a look changes no entry. -/
theorem stamp_of_absent {entries : List (Fingerprint × Entry)} (absent : entries.lookup key = none)
    (time : Nat) : stamp key time entries = entries := by
  -- No entry has the key, so that none gets the stamp.
  refine (List.map_congr_left fun entry among => ?_).trans (List.map_id _)
  have apart := List.lookup_eq_none_iff.mp absent entry among
  exact if_neg fun same => by simp [same] at apart

/-- An entry that is found by a look gets the stamp. -/
theorem perm_stamp (accounted : shelf.Accounted) (found : shelf.get? key = some entry)
    (time : Nat) :
    (stamp key time shelf.entries).Perm
      ((key, ⟨entry.shared, time⟩) :: eraseKey key shelf.entries) := by
  have perm := Association.perm_cons_filter accounted.distinct (Association.mem_of_lookup found)
  have stamped := perm.map fun entry =>
    if entry.1 = key then (entry.1, { entry.2 with lastUsed := time }) else entry
  rw [List.map_cons, if_pos rfl] at stamped
  -- The others have other keys.
  have others : stamp key time (eraseKey key shelf.entries) = eraseKey key shelf.entries :=
    stamp_of_absent (Association.lookup_filter_self key _) time
  exact others ▸ stamped

/-- A look leaves the memory dated. -/
theorem Dated.touch (dated : shelf.Dated) (key : Fingerprint) : (shelf.touch key).2.Dated := by
  cases found : shelf.get? key with
  | none =>
    -- Only the clock goes on.
    refine dated.of_sublist (dated.toAccounted.touch key) ?_ (Nat.le_succ _)
    exact (stamp_of_absent found _) ▸ List.Sublist.refl _
  | some entry =>
    exact dated.of_renewed (dated.toAccounted.touch key) (perm_stamp dated.toAccounted found _) rfl

/-- A look that finds nothing leaves the queue. -/
theorem queue_touch_of_absent (absent : shelf.held? key = none) :
    (shelf.touch key).2.queue = shelf.queue := by
  -- The entries are the same, and so is their order.
  have same : (shelf.touch key).2.entries = shelf.entries :=
    stamp_of_absent (held?_eq_none_iff.mp absent) _
  rw [queue, byAge, same]
  rfl

/-- A module that is found by a look goes to the back of the queue. -/
theorem Dated.queue_touch (dated : shelf.Dated) {shared : Shared}
    (found : shelf.held? key = some shared) :
    (shelf.touch key).2.queue = shelf.queue.renew key shared.bytecode := by
  -- The entry that is found gets the next stamp.
  obtain ⟨entry, there, rfl⟩ := Option.map_eq_some_iff.mp found
  exact dated.queue_renew (perm_stamp dated.toAccounted there _)

/-- A module that is put in leaves the memory dated. -/
theorem Dated.insert (dated : shelf.Dated) (key : Fingerprint) (shared : Shared) :
    (shelf.insert key shared).2.Dated :=
  -- The new entry has the latest stamp, as a renewed one has.
  dated.of_renewed (dated.toAccounted.insert key shared) (.refl _) rfl

/-- A module that is put in is the last in the queue. -/
theorem Dated.queue_insert (dated : shelf.Dated) (key : Fingerprint) (shared : Shared) :
    (shelf.insert key shared).2.queue = shelf.queue.renew key shared.bytecode :=
  dated.queue_renew (.refl _)

/-- Taking the entry of a key out leaves the memory dated. -/
theorem Dated.remove (dated : shelf.Dated) (key : Fingerprint) : (shelf.remove key).2.Dated := by
  -- Entries go at most, and the clock stands.
  refine dated.of_sublist (dated.toAccounted.remove key) ?_ ?_
  all_goals
    unfold Shelf.remove
    split
  · exact .refl _
  · exact List.filter_sublist
  · exact Nat.le_refl _
  · exact Nat.le_refl _

/-- A key that is taken out leaves the queue. -/
theorem Dated.queue_remove (dated : shelf.Dated) (key : Fingerprint) :
    (shelf.remove key).2.queue = shelf.queue.filter (·.1 != key) := by
  have erased : ∀ resident clock,
      queue ⟨Shelf.eraseKey key shelf.entries, resident, clock⟩ =
        shelf.queue.filter (·.1 != key) := by
    intro resident clock
    rw [queue, dated.byAge_eraseKey, queue, List.filter_map]
    rfl
  unfold Shelf.remove
  split
  · rename_i absent
    -- Without an entry nothing changes, and there is nothing to be dropped.
    have same := erased shelf.resident shelf.clock
    rw [eraseKey_of_absent absent] at same
    exact same
  · exact erased _ _

/-- An emptied memory is dated. -/
theorem Dated.clear (shelf : Shelf) : shelf.clear.Dated :=
  dated_empty _

/-- An emptied memory has an empty queue. -/
theorem queue_clear (shelf : Shelf) : shelf.clear.queue = [] := by
  simp [queue, byAge, Shelf.clear]

/-- Taking the oldest entry out leaves the memory dated. -/
theorem Dated.evictOldest (dated : shelf.Dated) (evicted : shelf.evictOldest = some (entry, left)) :
    left.Dated := by
  -- Entries go at most, and the clock stands.
  have accounted := dated.toAccounted.evictOldest evicted
  obtain ⟨key, -, rfl⟩ := evictOldest_eq_some evicted
  exact dated.of_sublist accounted List.filter_sublist (Nat.le_refl _)

/-- The oldest entry is the first in the queue. -/
theorem Dated.byAge_evictOldest (dated : shelf.Dated)
    (evicted : shelf.evictOldest = some (entry, left)) :
    ∃ key, shelf.byAge = (key, entry) :: left.byAge := by
  have rest := (dated.evictOldest evicted).byAge_sorted
  unfold Shelf.evictOldest at evicted
  split at evicted
  · simp at evicted
  · rename_i key oldest found
    simp only [Option.some.injEq, Prod.mk.injEq] at evicted
    obtain ⟨rfl, rfl⟩ := evicted
    have perm := Association.perm_cons_filter dated.distinct (mem_of_oldest? found)
    refine ⟨key, byAge_eq ?_ (List.pairwise_cons.mpr ⟨fun other among => ?_, rest⟩)⟩
    · exact ((byAge_perm _).cons _).trans perm.symm
    · -- No stamp is older, and none is the same.
      have there := (byAge_perm _).subset among
      have younger := oldest?_le found other (List.mem_filter.mp there).1
      have apart := List.rel_of_pairwise_cons (dated.apart.perm perm Ne.symm) there
      exact Nat.lt_of_le_of_ne younger apart

/-- Making room leaves the memory dated. -/
theorem Dated.makeRoom (dated : shelf.Dated) (limit size count : Nat) :
    (Shelf.makeRoom limit size count shelf).2.Dated := by
  -- One entry goes after the other.
  induction count generalizing shelf with
  | zero => exact dated
  | succ count ih =>
    unfold Shelf.makeRoom
    split
    · cases evicted : shelf.evictOldest with
      | none => exact dated
      | some pair => exact ih (dated.evictOldest evicted)
    · exact dated

/-- As many rounds as there are entries take modules from the front until the new one fits. -/
theorem Dated.queue_makeRoom (dated : shelf.Dated) (limit size : Nat) {count : Nat}
    (enough : shelf.entries.length ≤ count) :
    (Shelf.makeRoom limit size count shelf).2.queue = shelf.queue.trim limit size := by
  -- Nothing can be taken from an empty memory.
  have empty : ∀ shelf : Shelf, shelf.entries = [] → shelf.queue = [] := by
    intro shelf nothing
    simp [queue, byAge, nothing]
  induction count generalizing shelf with
  | zero =>
    have none_ := empty shelf (List.length_eq_zero_iff.mp (Nat.le_zero.mp enough))
    rw [Shelf.makeRoom, none_]
    rfl
  | succ count ih =>
    unfold Shelf.makeRoom
    rw [dated.resident_eq]
    cases evicted : shelf.evictOldest with
    | none =>
      have none_ := empty shelf (evictOldest_eq_none evicted)
      split
      · rw [none_]
        rfl
      · rw [none_]
        rfl
    | some pair =>
      obtain ⟨entry, left⟩ := pair
      obtain ⟨key, first⟩ := dated.byAge_evictOldest evicted
      have shorter := (dated.toAccounted.perm_evictOldest evicted).length_eq
      simp only [List.length_map, List.length_cons] at shorter
      -- What goes from the memory goes from the front of the queue.
      have front : shelf.queue = (key, entry.shared.bytecode) :: left.queue := by
        rw [queue, first]
        rfl
      rw [front, Queue.trim]
      split
      · exact ih (dated.evictOldest evicted) (by omega)
      · exact front

/-- Making room under a limit, if there is one, leaves the memory dated. -/
theorem Dated.room (dated : shelf.Dated) (limit? : Option Nat) (size : Nat) :
    (Shelf.room limit? size shelf).2.Dated := by
  -- Without a limit nothing goes.
  cases limit? with
  | none => exact dated
  | some limit => exact dated.makeRoom limit size shelf.size

/-- Room is made at the front of the queue. -/
theorem Dated.queue_room (dated : shelf.Dated) (limit? : Option Nat) (size : Nat) :
    (Shelf.room limit? size shelf).2.queue = shelf.queue.room limit? size := by
  -- Without a limit nothing goes.
  cases limit? with
  | none => rfl
  | some limit => exact dated.queue_makeRoom limit size (Nat.le_refl _)

/-- As many entries made room as the queue has become shorter by. -/
theorem Accounted.length_room (accounted : shelf.Accounted) (limit? : Option Nat) (size : Nat) :
    (Shelf.room limit? size shelf).1.length + (Shelf.room limit? size shelf).2.queue.length =
      shelf.queue.length := by
  -- What goes and what stays are all there was, and a queue is as long as its memory.
  have lengths := (accounted.perm_room limit? size).length_eq
  have queued : ∀ shelf : Shelf, shelf.queue.length = shelf.entries.length := fun shelf => by
    rw [queue, List.length_map, shelf.byAge_perm.length_eq]
  rw [queued, queued]
  simpa using lengths.symm

end Dated

end Shelf

end ShaderBuild
