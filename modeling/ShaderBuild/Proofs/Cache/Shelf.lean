import ShaderBuild.Association
import ShaderBuild.Cache.Shelf

/-! What a key finds in memory after each operation. -/

namespace ShaderBuild.Shelf

/-- The module that a key finds in memory. -/
def held? (shelf : Shelf) (key : Fingerprint) : Option Shared :=
  (shelf.get? key).map (·.shared)

/-- A key without an entry finds no module. -/
theorem held?_eq_none_iff {shelf : Shelf} {key : Fingerprint} :
    shelf.held? key = none ↔ shelf.get? key = none := by
  -- The module is a part of the entry.
  simp [held?]

/-- A key has an entry exactly when it finds a module. -/
theorem contains_eq (shelf : Shelf) (key : Fingerprint) :
    shelf.contains key = (shelf.held? key).isSome := by
  -- Both look the key up once.
  simp [contains, held?]

/-- A key has no entry exactly when it finds no module. -/
theorem contains_eq_false_iff {shelf : Shelf} {key : Fingerprint} :
    shelf.contains key = false ↔ shelf.held? key = none := by
  -- To be contained is to be found.
  simp [contains_eq]

/-- A look-up answers with the module of the key. -/
theorem touch_fst (shelf : Shelf) (key : Fingerprint) :
    (shelf.touch key).1 = shelf.held? key := rfl

/-- A new stamp on an entry leaves every key its module. -/
theorem held?_touch (shelf : Shelf) (key other : Fingerprint) :
    (shelf.touch key).2.held? other = shelf.held? other := by
  -- Stamping changes values only, and of them only the time of the last use.
  have stamped : stamp key (shelf.clock + 1) shelf.entries = shelf.entries.map fun entry =>
      (entry.1, if entry.1 = key then { entry.2 with lastUsed := shelf.clock + 1 } else entry.2) := by
    refine List.map_congr_left fun entry _ => ?_
    split <;> rfl
  simp only [held?, get?, touch, stamped]
  rw [Association.lookup_map_value
    (fun k (entry : Entry) => if k = key then { entry with lastUsed := shelf.clock + 1 } else entry)]
  cases shelf.entries.lookup other with
  | none => rfl
  | some entry =>
    simp only [Option.map_some, Option.some.injEq]
    split <;> rfl

/-- Nothing is found in an empty memory. -/
theorem held?_clear (shelf : Shelf) (key : Fingerprint) : shelf.clear.held? key = none := rfl

/-- A dropped key finds nothing, and every other one what it found before. -/
theorem held?_eraseKey (entries : List (Fingerprint × Entry)) (resident clock : Nat)
    (key other : Fingerprint) :
    held? ⟨eraseKey key entries, resident, clock⟩ other =
      if other = key then none else held? ⟨entries, resident, clock⟩ other := by
  -- Only the entries of the dropped key are filtered out.
  simp only [held?, get?, eraseKey]
  split
  · rename_i same
    rw [same, Association.lookup_filter_self]
    rfl
  · rename_i apart
    rw [Association.lookup_filter_of_ne _ apart]

/-- Taking the entry of a key out leaves every other key its module. -/
theorem held?_remove (shelf : Shelf) (key other : Fingerprint) :
    (shelf.remove key).2.held? other = if other = key then none else shelf.held? other := by
  unfold remove
  split
  · -- Without an entry nothing changes, and the key found nothing before.
    rename_i absent
    split
    · rename_i same
      rw [same]
      exact held?_eq_none_iff.mpr absent
    · rfl
  · exact held?_eraseKey _ _ _ key other

/-- Something is taken out if and only if the key has an entry. -/
theorem isSome_remove (shelf : Shelf) (key : Fingerprint) :
    (shelf.remove key).1.isSome = shelf.contains key := by
  -- Both ask for the entry of the key.
  unfold contains remove
  split
  · rename_i absent
    rw [absent]
  · rename_i entry found
    rw [found]

/-- Taking the entry of a key out leaves every other key its entry. -/
theorem get?_remove_of_ne (shelf : Shelf) {key other : Fingerprint} (apart : other ≠ key) :
    (shelf.remove key).2.get? other = shelf.get? other := by
  -- Only the entries of the key go.
  unfold remove
  split
  · rfl
  · exact Association.lookup_filter_of_ne _ apart

/-- A module that is put in is found under its key, and every other key keeps its own. -/
theorem held?_insert (shelf : Shelf) (key other : Fingerprint) (shared : Shared) :
    (shelf.insert key shared).2.held? other =
      if other = key then some shared else shelf.held? other := by
  -- The new entry comes first, and only older entries of its key are dropped.
  simp only [insert, held?, get?, List.lookup_cons]
  split
  · rename_i same
    simp [beq_iff_eq.mp same]
  · rename_i away
    have apart : other ≠ key := by simpa using away
    simp only [eraseKey, Association.lookup_filter_of_ne _ apart, if_neg apart]

/-- Taking the oldest entry out leaves each key its module, or leaves it none. -/
theorem held?_evictOldest {shelf left : Shelf} {entry : Entry}
    (evicted : shelf.evictOldest = some (entry, left)) (key : Fingerprint) :
    left.held? key = none ∨ left.held? key = shelf.held? key := by
  unfold evictOldest at evicted
  split at evicted
  · simp at evicted
  · -- The key of the oldest entry finds nothing any more.
    simp only [Option.some.injEq, Prod.mk.injEq] at evicted
    rw [← evicted.2, held?_eraseKey]
    split
    · exact Or.inl rfl
    · exact Or.inr rfl

/-- Making room leaves each key its module, or leaves it none. -/
theorem held?_makeRoom (limit size count : Nat) (shelf : Shelf) (key : Fingerprint) :
    (makeRoom limit size count shelf).2.held? key = none ∨
      (makeRoom limit size count shelf).2.held? key = shelf.held? key := by
  -- Each round takes one entry out; what is gone stays gone.
  induction count generalizing shelf with
  | zero => exact Or.inr rfl
  | succ count ih =>
    unfold makeRoom
    split
    · cases evicted : shelf.evictOldest with
      | none => exact Or.inr rfl
      | some pair =>
        obtain ⟨entry, left⟩ := pair
        simp only
        rcases ih left with gone | same
        · exact Or.inl gone
        · rw [same]
          exact held?_evictOldest evicted key
    · exact Or.inr rfl

/-- Making room under a limit, if there is one, leaves each key its module, or leaves it none. -/
theorem held?_room (limit? : Option Nat) (size : Nat) (shelf : Shelf) (key : Fingerprint) :
    (room limit? size shelf).2.held? key = none ∨
      (room limit? size shelf).2.held? key = shelf.held? key := by
  -- Without a limit nothing is taken out.
  cases limit? with
  | none => exact Or.inr rfl
  | some limit => exact held?_makeRoom limit size shelf.size shelf key

/-- Where no entry makes room the memory is left. -/
theorem room_eq_of_nil {limit? : Option Nat} {size : Nat} {shelf : Shelf}
    (nobody : (room limit? size shelf).1 = []) : (room limit? size shelf).2 = shelf := by
  cases limit? with
  | none => rfl
  | some limit =>
    unfold room at nobody ⊢
    simp only at nobody ⊢
    cases count : shelf.size with
    | zero => rfl
    | succ count =>
      rw [count] at nobody
      unfold makeRoom at nobody ⊢
      -- An entry that is taken out would be one that makes room.
      split at nobody
      · cases evicted : shelf.evictOldest with
        | none =>
          split <;> rfl
        | some pair => simp [evicted] at nobody
      · rename_i fits
        rw [if_neg fits]

/-- A key without a module has none after room was made. -/
theorem held?_room_of_none {limit? : Option Nat} {size : Nat} {shelf : Shelf} {key : Fingerprint}
    (absent : shelf.held? key = none) : (room limit? size shelf).2.held? key = none := by
  -- Both outcomes of making room are that there is none.
  rcases held?_room limit? size shelf key with gone | same
  · exact gone
  · rw [same, absent]

end ShaderBuild.Shelf
