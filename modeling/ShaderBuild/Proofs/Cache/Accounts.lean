import Mathlib.Algebra.GroupWithZero.Nat
import ShaderBuild.Proofs.Cache.Shelf

/-! The counter of a memory shows the total size of its entries after every operation. -/

namespace ShaderBuild.Shelf

/-- Every key has one entry, and the counter shows how large the entries are together. -/
structure Accounted (shelf : Shelf) : Prop where
  distinct : (shelf.entries.map (·.1)).Nodup
  balanced : shelf.resident = totalSize shelf.entries

/-- The total size is the sum of the sizes. -/
theorem totalSize_eq_sum (entries : List (Fingerprint × Entry)) :
    totalSize entries = (entries.map (·.2.size)).sum := by
  -- Both add the sizes up from the end.
  induction entries with
  | nil => rfl
  | cons entry entries ih =>
    rw [List.map_cons, List.sum_cons, ← ih]
    rfl

/-- The total size does not depend on the order. -/
theorem totalSize_perm {entries others : List (Fingerprint × Entry)} (perm : entries.Perm others) :
    totalSize entries = totalSize others := by
  -- Sums do not depend on the order.
  rw [totalSize_eq_sum, totalSize_eq_sum]
  exact (perm.map _).sum_nat

/-- An empty memory is accounted for. -/
theorem accounted_empty (clock : Nat) : Accounted ⟨[], 0, clock⟩ :=
  ⟨List.nodup_nil, rfl⟩

/-- A key without an entry can be dropped without a change. -/
theorem eraseKey_of_absent {key : Fingerprint} {entries : List (Fingerprint × Entry)}
    (absent : entries.lookup key = none) : eraseKey key entries = entries :=
  Association.filter_of_absent absent

section Operations

variable {shelf left : Shelf} {key : Fingerprint} {entry : Entry}

/-- An entry is not larger than all entries together. -/
theorem Accounted.size_le (accounted : shelf.Accounted) (among : (key, entry) ∈ shelf.entries) :
    entry.size ≤ shelf.resident := by
  -- The total is that of the entry and that of the others.
  have perm := Association.perm_cons_filter accounted.distinct among
  rw [accounted.balanced, totalSize_perm perm]
  exact Nat.le_add_right _ _

/-- An entry that is taken out and taken off the counter leaves the rest accounted for. -/
theorem Accounted.eraseKey (accounted : shelf.Accounted) (among : (key, entry) ∈ shelf.entries)
    (clock : Nat) :
    Accounted ⟨eraseKey key shelf.entries, shelf.resident - entry.size, clock⟩ where
  distinct := Association.distinct_filter accounted.distinct key
  balanced := by
    -- The total was the size of the entry and that of the rest.
    have perm := Association.perm_cons_filter accounted.distinct among
    have total : shelf.resident = entry.size + totalSize (Shelf.eraseKey key shelf.entries) :=
      accounted.balanced.trans (totalSize_perm perm)
    show shelf.resident - entry.size = totalSize (Shelf.eraseKey key shelf.entries)
    omega

/-- A new stamp leaves the keys and the sizes, in their order. -/
theorem stamp_sizes (key : Fingerprint) (time : Nat) (entries : List (Fingerprint × Entry)) :
    (stamp key time entries).map (fun entry => (entry.1, entry.2.size)) =
      entries.map fun entry => (entry.1, entry.2.size) := by
  -- The entry of the key keeps its size, and every other one is as it was.
  rw [stamp, List.map_map]
  refine List.map_congr_left fun entry _ => ?_
  simp only [Function.comp_apply]
  split <;> rfl

/-- A look for a key leaves the memory accounted for. -/
theorem Accounted.touch (accounted : shelf.Accounted) (key : Fingerprint) :
    (shelf.touch key).2.Accounted := by
  have sizes := stamp_sizes key (shelf.clock + 1) shelf.entries
  constructor
  case distinct =>
    -- The keys are the same, in the same order.
    have keys := congrArg (List.map Prod.fst) sizes
    rw [List.map_map, List.map_map] at keys
    show ((stamp key (shelf.clock + 1) shelf.entries).map (·.1)).Nodup
    exact keys ▸ accounted.distinct
  case balanced =>
    have totals := congrArg (fun pairs => (List.map Prod.snd pairs).sum) sizes
    rw [List.map_map, List.map_map] at totals
    show shelf.resident = totalSize (stamp key (shelf.clock + 1) shelf.entries)
    rw [totalSize_eq_sum, accounted.balanced, totalSize_eq_sum]
    exact totals.symm

/-- Taking the entry of a key out leaves the memory accounted for. -/
theorem Accounted.remove (accounted : shelf.Accounted) (key : Fingerprint) :
    (shelf.remove key).2.Accounted := by
  -- Without an entry nothing changes.
  unfold Shelf.remove
  split
  · exact accounted
  · rename_i entry found
    exact accounted.eraseKey (Association.mem_of_lookup found) _

/-- Taking the entry of a key out lowers the counter by its size. -/
theorem Accounted.resident_remove (accounted : shelf.Accounted) (key : Fingerprint) :
    (shelf.remove key).2.resident + ((shelf.get? key).map Entry.size).getD 0 = shelf.resident := by
  -- The counter covers the entry, so that nothing is cut off below zero.
  unfold Shelf.remove
  cases found : shelf.get? key with
  | none => rfl
  | some entry =>
    have covered := accounted.size_le (Association.mem_of_lookup found)
    simp only [Option.map_some, Option.getD_some]
    omega

/-- Taking an entry out does not raise the counter. -/
theorem resident_remove_le (shelf : Shelf) (key : Fingerprint) :
    (shelf.remove key).2.resident ≤ shelf.resident := by
  -- The size of an entry is taken off, or nothing is.
  unfold Shelf.remove
  split
  · exact Nat.le_refl _
  · exact Nat.sub_le _ _

/-- There is an oldest entry unless there is none at all. -/
theorem oldest?_eq_none {entries : List (Fingerprint × Entry)} (none_ : oldest? entries = none) :
    entries = [] := by
  -- An entry is the oldest one, or a later one is.
  cases entries with
  | nil => rfl
  | cons entry entries =>
    unfold oldest? at none_
    split at none_
    · simp at none_
    · split at none_ <;> simp at none_

/-- What is left when the oldest entry is taken out. -/
theorem evictOldest_eq_some (evicted : shelf.evictOldest = some (entry, left)) :
    ∃ key, (key, entry) ∈ shelf.entries ∧
      left = ⟨Shelf.eraseKey key shelf.entries, shelf.resident - entry.size, shelf.clock⟩ := by
  -- The oldest entry stands in the list, and its key is taken out.
  unfold evictOldest at evicted
  split at evicted
  · simp at evicted
  · rename_i key oldest found
    simp only [Option.some.injEq, Prod.mk.injEq] at evicted
    obtain ⟨rfl, rfl⟩ := evicted
    exact ⟨key, mem_of_oldest? found, rfl⟩

/-- Nothing is taken out only when nothing is there. -/
theorem evictOldest_eq_none (none_ : shelf.evictOldest = none) : shelf.entries = [] := by
  -- Only without an oldest entry is nothing taken out.
  unfold evictOldest at none_
  split at none_
  · rename_i absent
    exact oldest?_eq_none absent
  · simp at none_

/-- Taking the oldest entry out leaves the memory accounted for. -/
theorem Accounted.evictOldest (accounted : shelf.Accounted)
    (evicted : shelf.evictOldest = some (entry, left)) : left.Accounted := by
  -- One key goes, with the size of its entry.
  obtain ⟨key, among, rfl⟩ := evictOldest_eq_some evicted
  exact accounted.eraseKey among _

/-- The entries are the oldest one and those that are left. -/
theorem Accounted.perm_evictOldest (accounted : shelf.Accounted)
    (evicted : shelf.evictOldest = some (entry, left)) :
    (shelf.entries.map (·.2)).Perm (entry :: left.entries.map (·.2)) := by
  -- Keys are distinct, so that dropping the key drops that one entry.
  obtain ⟨key, among, rfl⟩ := evictOldest_eq_some evicted
  exact (Association.perm_cons_filter accounted.distinct among).map (·.2)

/-- Making room leaves the memory accounted for. -/
theorem Accounted.makeRoom (accounted : shelf.Accounted) (limit size count : Nat) :
    (makeRoom limit size count shelf).2.Accounted := by
  -- One entry goes after the other.
  induction count generalizing shelf with
  | zero => exact accounted
  | succ count ih =>
    unfold Shelf.makeRoom
    split
    · cases evicted : shelf.evictOldest with
      | none => exact accounted
      | some pair => exact ih (accounted.evictOldest evicted)
    · exact accounted

/-- The entries are those that made room and those that are left. -/
theorem Accounted.perm_makeRoom (accounted : shelf.Accounted) (limit size count : Nat) :
    (shelf.entries.map (·.2)).Perm
      ((Shelf.makeRoom limit size count shelf).1 ++
        (Shelf.makeRoom limit size count shelf).2.entries.map (·.2)) := by
  -- Each round moves one entry to those that made room.
  induction count generalizing shelf with
  | zero => exact .refl _
  | succ count ih =>
    unfold Shelf.makeRoom
    split
    · cases evicted : shelf.evictOldest with
      | none => exact .refl _
      | some pair =>
        have rest := ih (accounted.evictOldest evicted)
        exact (accounted.perm_evictOldest evicted).trans (rest.cons _)
    · exact .refl _

/-- As many rounds as there are entries make room for whatever is not larger than the limit. -/
theorem Accounted.makeRoom_fits (accounted : shelf.Accounted) {limit size count : Nat}
    (small : size ≤ limit) (enough : shelf.entries.length ≤ count) :
    (Shelf.makeRoom limit size count shelf).2.resident + size ≤ limit := by
  -- The loop ends with room, or with nothing left and a counter of zero.
  have empty : ∀ shelf : Shelf, shelf.Accounted → shelf.entries = [] →
      shelf.resident + size ≤ limit := by
    intro shelf accounted nothing
    have zero : shelf.resident = 0 := by rw [accounted.balanced, nothing]; rfl
    omega
  induction count generalizing shelf with
  | zero => exact empty shelf accounted (List.length_eq_zero_iff.mp (Nat.le_zero.mp enough))
  | succ count ih =>
    unfold Shelf.makeRoom
    split
    · cases evicted : shelf.evictOldest with
      | none => exact empty shelf accounted (evictOldest_eq_none evicted)
      | some pair =>
        have shorter := (accounted.perm_evictOldest evicted).length_eq
        simp only [List.length_map, List.length_cons] at shorter
        exact ih (accounted.evictOldest evicted) (by omega)
    · rename_i fits
      exact Nat.not_lt.mp fits

/-- Making room under a limit, if there is one, leaves the memory accounted for. -/
theorem Accounted.room (accounted : shelf.Accounted) (limit? : Option Nat) (size : Nat) :
    (Shelf.room limit? size shelf).2.Accounted := by
  -- Without a limit no room is made.
  cases limit? with
  | none => exact accounted
  | some limit => exact accounted.makeRoom limit size shelf.size

/-- The entries are those that made room under a limit, if there is one, and those that are left. -/
theorem Accounted.perm_room (accounted : shelf.Accounted) (limit? : Option Nat) (size : Nat) :
    (shelf.entries.map (·.2)).Perm
      ((Shelf.room limit? size shelf).1 ++ (Shelf.room limit? size shelf).2.entries.map (·.2)) := by
  -- Without a limit nothing goes.
  cases limit? with
  | none => exact .refl _
  | some limit => exact accounted.perm_makeRoom limit size shelf.size

/-- Whatever is not larger than the limit fits once room was made. -/
theorem Accounted.room_fits (accounted : shelf.Accounted) {limit size : Nat}
    (small : size ≤ limit) : (Shelf.room (some limit) size shelf).2.resident + size ≤ limit :=
  -- Room is made for the whole size, which is within the limit.
  accounted.makeRoom_fits small (Nat.le_refl _)

/-- A module that is put in leaves the memory accounted for. -/
theorem Accounted.insert (accounted : shelf.Accounted) (key : Fingerprint) (shared : Shared) :
    (shelf.insert key shared).2.Accounted where
  distinct :=
    List.nodup_cons.mpr
      ⟨Association.not_mem_filter key _, Association.distinct_filter accounted.distinct key⟩
  balanced := by
    show shelf.resident + shared.bytecode.byteLength -
        ((shelf.get? key).map Entry.size).getD 0 =
      shared.bytecode.byteLength + totalSize (Shelf.eraseKey key shelf.entries)
    -- What the new entry takes the place of goes off the counter.
    cases found : shelf.get? key with
    | none =>
      rw [eraseKey_of_absent found, ← accounted.balanced, Option.map_none, Option.getD_none]
      omega
    | some previous =>
      have among := Association.mem_of_lookup found
      have rest : shelf.resident - previous.size =
          totalSize (Shelf.eraseKey key shelf.entries) :=
        (accounted.eraseKey among shelf.clock).balanced
      have covered := accounted.size_le among
      rw [Option.map_some, Option.getD_some, ← rest]
      omega

/-- Putting a module in raises the counter by its size at most. -/
theorem resident_insert_le (shelf : Shelf) (key : Fingerprint) (shared : Shared) :
    (shelf.insert key shared).2.resident ≤ shelf.resident + shared.bytecode.byteLength :=
  -- What was under the key before is taken off the sum.
  Nat.sub_le _ _

end Operations

end ShaderBuild.Shelf
