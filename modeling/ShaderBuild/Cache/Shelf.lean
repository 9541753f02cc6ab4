import ShaderBuild.Fingerprint
import ShaderBuild.Heap

/-! The modules that a cache keeps in memory, stamped by a clock when they are used. -/

namespace ShaderBuild

/-- A handle and the module that it was made for. -/
structure Shared where
  handle : Handle
  bytecode : Bytecode
  deriving DecidableEq

/-- A module in memory and the time of its last use. -/
structure Entry where
  shared : Shared
  lastUsed : Nat
  deriving DecidableEq

/-- The size of an entry in bytes. -/
def Entry.size (entry : Entry) : Nat := entry.shared.bytecode.byteLength

/-- The entries in memory, their total size, and the clock. -/
structure Shelf where
  entries : List (Fingerprint × Entry) := []
  resident : Nat := 0
  clock : Nat := 0
  deriving DecidableEq

namespace Shelf

/-- The entry of a key. -/
def get? (shelf : Shelf) (key : Fingerprint) : Option Entry :=
  shelf.entries.lookup key

/-- Whether a key has an entry. -/
def contains (shelf : Shelf) (key : Fingerprint) : Bool :=
  (shelf.get? key).isSome

/-- The number of entries. -/
def size (shelf : Shelf) : Nat := shelf.entries.length

/-- The entries without the one of a key. -/
def eraseKey (key : Fingerprint) (entries : List (Fingerprint × Entry)) :
    List (Fingerprint × Entry) :=
  entries.filter (·.1 != key)

/-- Stamps the entry of a key, when there is one. -/
def stamp (key : Fingerprint) (time : Nat) (entries : List (Fingerprint × Entry)) :
    List (Fingerprint × Entry) :=
  entries.map fun entry =>
    if entry.1 = key then (entry.1, { entry.2 with lastUsed := time }) else entry

/-- Looks a key up: the clock goes on, and an entry that is found is stamped. -/
def touch (shelf : Shelf) (key : Fingerprint) : Option Shared × Shelf :=
  let clock := shelf.clock + 1
  ((shelf.get? key).map (·.shared),
    { shelf with entries := stamp key clock shelf.entries, clock := clock })

/-- The entry with the oldest stamp. -/
def oldest? : List (Fingerprint × Entry) → Option (Fingerprint × Entry)
  | [] => none
  | entry :: rest =>
    match oldest? rest with
    | none => some entry
    | some other => if other.2.lastUsed < entry.2.lastUsed then some other else some entry

/-- Takes the entry of a key out. -/
def remove (shelf : Shelf) (key : Fingerprint) : Option Entry × Shelf :=
  match shelf.get? key with
  | none => (none, shelf)
  | some entry =>
    (some entry,
      { shelf with
        entries := eraseKey key shelf.entries
        resident := shelf.resident - entry.size })

/-- Takes the oldest entry out. -/
def evictOldest (shelf : Shelf) : Option (Entry × Shelf) :=
  match oldest? shelf.entries with
  | none => none
  | some (key, entry) =>
    some (entry,
      { shelf with
        entries := eraseKey key shelf.entries
        resident := shelf.resident - entry.size })

/-- Takes oldest entries out, at most so many, until a module of some size fits under a limit. -/
def makeRoom (limit size : Nat) : Nat → Shelf → List Entry × Shelf
  | 0, shelf => ([], shelf)
  | count + 1, shelf =>
    if limit < shelf.resident + size then
      match shelf.evictOldest with
      | none => ([], shelf)
      | some (entry, shelf) =>
        let (evicted, shelf) := makeRoom limit size count shelf
        (entry :: evicted, shelf)
    else ([], shelf)

/-- Takes oldest entries out until a module of some size fits, when there is a limit. -/
def room (limit? : Option Nat) (size : Nat) (shelf : Shelf) : List Entry × Shelf :=
  match limit? with
  | none => ([], shelf)
  | some limit => makeRoom limit size shelf.size shelf

/-- Puts a module in, in place of an older one of its key, which is given back. -/
def insert (shelf : Shelf) (key : Fingerprint) (shared : Shared) : Option Entry × Shelf :=
  let clock := shelf.clock + 1
  let entry : Entry := ⟨shared, clock⟩
  let previous := shelf.get? key
  (previous,
    { entries := (key, entry) :: eraseKey key shelf.entries
      resident := shelf.resident + entry.size - (previous.map Entry.size).getD 0
      clock := clock })

/-- Takes everything out. The clock goes on from where it is. -/
def clear (shelf : Shelf) : Shelf :=
  { shelf with entries := [], resident := 0 }

/-- The total size of some entries. -/
def totalSize (entries : List (Fingerprint × Entry)) : Nat :=
  entries.foldr (fun entry total => entry.2.size + total) 0

/-- Nothing is taken out when everything fits. -/
theorem makeRoom_of_fits {limit size count : Nat} {shelf : Shelf}
    (fits : shelf.resident + size ≤ limit) : makeRoom limit size count shelf = ([], shelf) := by
  -- The first comparison already ends the search.
  cases count with
  | zero => rfl
  | succ count => simp [makeRoom, Nat.not_lt.mpr fits]

/-- The oldest of some entries is one of them. -/
theorem mem_of_oldest? {entries : List (Fingerprint × Entry)} {entry : Fingerprint × Entry}
    (oldest : oldest? entries = some entry) : entry ∈ entries := by
  -- Each step keeps the head or an entry of the rest.
  induction entries generalizing entry with
  | nil => simp [oldest?] at oldest
  | cons head rest ih =>
    unfold oldest? at oldest
    split at oldest
    · simp only [Option.some.injEq] at oldest; simp [oldest]
    · rename_i other found
      split at oldest
      · simp only [Option.some.injEq] at oldest
        exact List.mem_cons_of_mem _ (ih (oldest ▸ found))
      · simp only [Option.some.injEq] at oldest; simp [oldest]

/-- No entry has an older stamp than the oldest. -/
theorem oldest?_le {entries : List (Fingerprint × Entry)} {entry : Fingerprint × Entry}
    (oldest : oldest? entries = some entry) :
    ∀ other ∈ entries, entry.2.lastUsed ≤ other.2.lastUsed := by
  -- The winner of the rest is compared with the head.
  induction entries generalizing entry with
  | nil => simp
  | cons head rest ih =>
    intro other among
    unfold oldest? at oldest
    split at oldest
    · rename_i none_
      have empty : rest = [] := by
        cases rest with
        | nil => rfl
        | cons second rest =>
          unfold oldest? at none_
          split at none_
          · simp at none_
          · split at none_ <;> simp at none_
      simp only [Option.some.injEq] at oldest
      subst empty
      simp only [List.mem_singleton] at among
      exact Nat.le_of_eq (by rw [among, oldest])
    · rename_i winner found
      have least := ih found
      split at oldest
      · rename_i older
        simp only [Option.some.injEq] at oldest
        subst oldest
        rcases List.mem_cons.mp among with rfl | inRest
        · exact Nat.le_of_lt older
        · exact least other inRest
      · rename_i younger
        simp only [Option.some.injEq] at oldest
        subst oldest
        rcases List.mem_cons.mp among with rfl | inRest
        · exact Nat.le_refl _
        · exact Nat.le_trans (Nat.not_lt.mp younger) (least other inRest)

end Shelf

end ShaderBuild
