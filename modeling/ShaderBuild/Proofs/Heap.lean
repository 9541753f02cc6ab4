import ShaderBuild.Association
import ShaderBuild.Heap

/-! The count of a handle is how often it stands in the list of the handles that are held. -/

namespace ShaderBuild.Heap

/-- Gives one handle after the other up. -/
def releaseAll (heap : Heap) (handles : List Handle) : Heap :=
  handles.foldl Heap.release heap

/-- Each handle names one cell, later handles are free, no cell is without handles, and the handles
are those that are written down. -/
structure Tallied (heap : Heap) (handles : List Handle) : Prop where
  distinct : (heap.cells.map (·.1)).Nodup
  known : ∀ entry ∈ heap.cells, entry.1 < heap.next
  held : ∀ entry ∈ heap.cells, 0 < entry.2.count
  count : ∀ handle, heap.count handle = handles.count handle

/-- Nobody holds anything on an empty heap. -/
theorem tallied_empty : Tallied .empty [] :=
  ⟨List.nodup_nil, by simp [empty], by simp [empty], fun _ => rfl⟩

/-- What becomes of a cell when a handle is added. -/
def raised (handle here : Handle) (cell : Cell) : Cell :=
  if here = handle then { cell with count := cell.count + 1 } else cell

/-- What becomes of a cell when a handle is given up. -/
def lowered (handle here : Handle) (cell : Cell) : Option Cell :=
  if here = handle then
    if cell.count ≤ 1 then none else some { cell with count := cell.count - 1 }
  else some cell

/-- The cells after a handle was added. -/
theorem cells_retain (heap : Heap) (handle : Handle) :
    (heap.retain handle).cells =
      heap.cells.map fun entry => (entry.1, raised handle entry.1 entry.2) := by
  -- The two ways to write the change agree cell by cell.
  refine List.map_congr_left fun entry _ => ?_
  unfold raised
  split <;> rfl

/-- The cells after a handle was given up. -/
theorem cells_release (heap : Heap) (handle : Handle) :
    (heap.release handle).cells = heap.cells.filterMap fun entry =>
      (lowered handle entry.1 entry.2).map fun cell => (entry.1, cell) := by
  -- A cell is changed, taken out or left; both ways to write that agree cell by cell.
  refine congrArg (fun change => heap.cells.filterMap change) (funext fun entry => ?_)
  unfold lowered
  split
  · split <;> rfl
  · rfl

/-- The cell of a handle after one was added. -/
theorem cell?_retain (heap : Heap) (handle other : Handle) :
    (heap.retain handle).cell? other = (heap.cell? other).map (raised handle other) := by
  -- The handle of a cell is not changed, so the lookup goes through the map.
  rw [cell?, cells_retain]
  exact Association.lookup_map_value (raised handle) other heap.cells

section Tallied

variable {heap : Heap} {handles : List Handle} {handle : Handle}

/-- The cell of a handle after one was given up. -/
theorem Tallied.cell?_release (tallied : heap.Tallied handles) (handle other : Handle) :
    (heap.release handle).cell? other = (heap.cell? other).bind (lowered handle other) := by
  -- A cell may be taken out, so its handle must not stand in the list a second time.
  rw [cell?, cells_release]
  exact Association.lookup_filterMap_value (lowered handle) tallied.distinct other

/-- The order in which the handles are written down does not matter. -/
theorem Tallied.perm (tallied : heap.Tallied handles) {others : List Handle}
    (perm : handles.Perm others) : heap.Tallied others where
  -- Only how often each handle stands in the list is counted.
  distinct := tallied.distinct
  known := tallied.known
  held := tallied.held
  count := fun handle => (tallied.count handle).trans (perm.count_eq handle)

/-- A handle that is held has a cell. -/
theorem Tallied.cell_of_mem (tallied : heap.Tallied handles) (among : handle ∈ handles) :
    ∃ cell, heap.cell? handle = some cell := by
  -- It stands in the list, and so its count is not zero.
  have positive : 0 < heap.count handle := by
    rw [tallied.count]
    exact List.count_pos_iff.mpr among
  unfold Heap.count at positive
  cases found : heap.cell? handle with
  | none => simp [found] at positive
  | some cell => exact ⟨cell, rfl⟩

/-- A handle that is held is not a later one. -/
theorem Tallied.lt_of_mem (tallied : heap.Tallied handles) (among : handle ∈ handles) :
    handle < heap.next := by
  -- A handle that is held has a cell, and every cell is below the next handle.
  obtain ⟨cell, found⟩ := tallied.cell_of_mem among
  exact tallied.known _ (Association.mem_of_lookup found)

/-- A new module has its first handle. -/
theorem Tallied.allocate (tallied : heap.Tallied handles) (bytecode : Bytecode) :
    (heap.allocate bytecode).2.Tallied (heap.next :: handles) where
  distinct := by
    refine List.nodup_cons.mpr ⟨fun among => ?_, tallied.distinct⟩
    -- The new name is above all names in use.
    obtain ⟨entry, there, same⟩ := List.mem_map.mp among
    exact Nat.lt_irrefl _ (same ▸ tallied.known entry there)
  known := by
    intro entry among
    rcases List.mem_cons.mp among with rfl | older
    · exact Nat.lt_succ_self _
    · exact Nat.lt_succ_of_lt (tallied.known entry older)
  held := by
    intro entry among
    rcases List.mem_cons.mp among with rfl | older
    · exact Nat.one_pos
    · exact tallied.held entry older
  count := by
    intro other
    have before := tallied.count other
    rw [List.count_cons]
    by_cases new : heap.next = other
    · -- The new handle was not held.
      have fresh : handles.count other = 0 := List.count_eq_zero.mpr fun among =>
        Nat.lt_irrefl _ (new ▸ tallied.lt_of_mem among)
      simp [Heap.count, cell?, Heap.allocate, new, fresh]
    · have away : (other == heap.next) = false := beq_eq_false_iff_ne.mpr (Ne.symm new)
      unfold Heap.count cell? at before ⊢
      simp only [Heap.allocate, List.lookup_cons, away, before]
      simp [new]

/-- One more handle to a module that is held. -/
theorem Tallied.retain (tallied : heap.Tallied handles) (among : handle ∈ handles) :
    (heap.retain handle).Tallied (handle :: handles) where
  distinct := by
    rw [cells_retain, List.map_map]
    exact tallied.distinct
  known := by
    intro entry among
    rw [cells_retain] at among
    obtain ⟨older, there, rfl⟩ := List.mem_map.mp among
    exact tallied.known older there
  held := by
    intro entry among
    rw [cells_retain] at among
    obtain ⟨older, there, rfl⟩ := List.mem_map.mp among
    have positive := tallied.held older there
    unfold raised
    split
    · exact Nat.succ_pos _
    · exact positive
  count := by
    intro other
    have before := tallied.count other
    unfold Heap.count at before ⊢
    -- Of the counts only that of the module itself grows.
    rw [cell?_retain, List.count_cons, ← before]
    by_cases own : handle = other
    · subst own
      obtain ⟨cell, found⟩ := tallied.cell_of_mem among
      simp [found, raised]
    · cases heap.cell? other with
      | none => simp [own]
      | some cell => simp [raised, own, Ne.symm own]

/-- One handle less. -/
theorem Tallied.release (tallied : heap.Tallied (handle :: handles)) :
    (heap.release handle).Tallied handles where
  distinct := by
    rw [cells_release]
    -- A cell that stays keeps its name.
    have apart := List.pairwise_map.mp tallied.distinct
    refine List.pairwise_map.mpr (apart.filterMap _ fun one two differ left kept right kept' => ?_)
    obtain ⟨cell, -, rfl⟩ := Option.map_eq_some_iff.mp kept
    obtain ⟨cell', -, rfl⟩ := Option.map_eq_some_iff.mp kept'
    exact differ
  known := by
    intro entry among
    rw [cells_release] at among
    obtain ⟨older, there, kept⟩ := List.mem_filterMap.mp among
    obtain ⟨cell, -, rfl⟩ := Option.map_eq_some_iff.mp kept
    exact tallied.known older there
  held := by
    intro entry among
    rw [cells_release] at among
    obtain ⟨older, there, kept⟩ := List.mem_filterMap.mp among
    obtain ⟨cell, lower, rfl⟩ := Option.map_eq_some_iff.mp kept
    have positive := tallied.held older there
    unfold lowered at lower
    split at lower
    · split at lower
      · simp at lower
      · rename_i more
        -- There was more than one handle.
        rw [← Option.some.inj lower]
        show 0 < older.2.count - 1
        omega
    · rw [← Option.some.inj lower]
      exact positive
  count := by
    intro other
    have before := tallied.count other
    rw [List.count_cons] at before
    unfold Heap.count at before ⊢
    rw [tallied.cell?_release]
    by_cases own : handle = other
    · subst own
      obtain ⟨cell, found⟩ := tallied.cell_of_mem List.mem_cons_self
      simp only [found, Option.map_some, Option.getD_some, beq_self_eq_true, if_true] at before
      simp only [found, Option.bind_some, lowered, if_true]
      -- The cell is gone with its last handle.
      split
      · simp only [Option.map_none, Option.getD_none]
        omega
      · simp only [Option.map_some, Option.getD_some]
        omega
    · cases found : heap.cell? other with
      | none => simpa [found, own] using before
      | some cell => simpa [found, own, lowered, Ne.symm own] using before

/-- Several handles less. -/
theorem Tallied.releaseAll {gone : List Handle} (tallied : heap.Tallied (gone ++ handles)) :
    (heap.releaseAll gone).Tallied handles := by
  -- The first of them goes, and then the others.
  induction gone generalizing heap with
  | nil => exact tallied
  | cons handle gone ih => exact ih tallied.release

end Tallied

/-- Later on, each handle that was given out has the module that it had, or none; and names of
handles are not used twice. -/
structure Keeps (before after : Heap) : Prop where
  next : before.next ≤ after.next
  bytecode : ∀ handle < before.next,
    after.bytecode? handle = none ∨ after.bytecode? handle = before.bytecode? handle

/-- A heap keeps what it has. -/
theorem Keeps.refl (heap : Heap) : heap.Keeps heap :=
  ⟨Nat.le_refl _, fun _ _ => .inr rfl⟩

/-- What is kept for a while and then for another while is kept all the time. -/
theorem Keeps.trans {first second third : Heap} (keeps : first.Keeps second)
    (keeps' : second.Keeps third) : first.Keeps third where
  -- A module that goes in the second while was there through the first one.
  next := Nat.le_trans keeps.next keeps'.next
  bytecode := by
    intro handle below
    rcases keeps'.bytecode handle (Nat.lt_of_lt_of_le below keeps.next) with gone | same
    · exact .inl gone
    · rw [same]
      exact keeps.bytecode handle below

section Keeps

variable {heap after : Heap} {handles later : List Handle} {handle : Handle}

/-- A new module leaves the others. -/
theorem keeps_allocate (heap : Heap) (bytecode : Bytecode) :
    heap.Keeps (heap.allocate bytecode).2 where
  -- The new cell has a handle of its own, which is above all that are asked for.
  next := Nat.le_succ _
  bytecode := by
    intro handle below
    have away : (handle == heap.next) = false := beq_eq_false_iff_ne.mpr (Nat.ne_of_lt below)
    refine .inr ?_
    simp only [bytecode?, cell?, allocate, List.lookup_cons, away]

/-- A new handle has its module. -/
theorem bytecode?_allocate (heap : Heap) (bytecode : Bytecode) :
    (heap.allocate bytecode).2.bytecode? heap.next = some bytecode := by
  -- The new cell is the first one, and handles are not given twice.
  simp only [bytecode?, cell?, allocate, List.lookup_cons_self, Option.map_some]

/-- One more handle changes no module. -/
theorem bytecode?_retain (heap : Heap) (handle other : Handle) :
    (heap.retain handle).bytecode? other = heap.bytecode? other := by
  -- Only the count of a cell is raised.
  rw [bytecode?, bytecode?, cell?_retain, Option.map_map]
  congr 1
  funext cell
  unfold raised
  simp only [Function.comp_apply]
  split <;> rfl

/-- One more handle leaves the modules. -/
theorem keeps_retain (heap : Heap) (handle : Handle) : heap.Keeps (heap.retain handle) :=
  -- Only a count is raised.
  ⟨Nat.le_refl _, fun other _ => .inr (heap.bytecode?_retain handle other)⟩

/-- One handle less leaves the modules, but for one that it was the last handle to. -/
theorem Tallied.keeps_release (tallied : heap.Tallied handles) (handle : Handle) :
    heap.Keeps (heap.release handle) where
  next := Nat.le_refl _
  bytecode := by
    intro other _
    rw [bytecode?, bytecode?, tallied.cell?_release]
    cases heap.cell? other with
    | none => exact .inl rfl
    | some cell =>
      -- The cell goes, or only its count changes.
      rw [Option.bind_some]
      unfold lowered
      split
      · split
        · exact .inl rfl
        · exact .inr rfl
      · exact .inr rfl

/-- Several handles less leave the modules, but for those that have no handle any more. -/
theorem Tallied.keeps_releaseAll {gone : List Handle} (tallied : heap.Tallied (gone ++ handles)) :
    heap.Keeps (heap.releaseAll gone) := by
  -- Induction on the handles that go; each one leaves a tally for the rest.
  induction gone generalizing heap with
  | nil => exact .refl heap
  | cons handle gone ih => exact (tallied.keeps_release handle).trans (ih tallied.release)

/-- A handle that is held has a module. -/
theorem Tallied.isSome_of_mem (tallied : heap.Tallied handles) (among : handle ∈ handles) :
    ∃ bytecode, heap.bytecode? handle = some bytecode := by
  -- The tally counts only handles that have a cell.
  obtain ⟨cell, found⟩ := tallied.cell_of_mem among
  exact ⟨cell.bytecode, by rw [bytecode?, found]; rfl⟩

/-- A handle that is held before and after has the same module. -/
theorem Keeps.bytecode_eq (keeps : heap.Keeps after) (tallied : heap.Tallied handles)
    (tallied' : after.Tallied later) (among : handle ∈ handles) (among' : handle ∈ later) :
    after.bytecode? handle = heap.bytecode? handle := by
  -- It cannot have none, since it is held.
  obtain ⟨bytecode, found⟩ := tallied'.isSome_of_mem among'
  rcases keeps.bytecode handle (tallied.lt_of_mem among) with gone | same
  · rw [gone] at found
    simp at found
  · exact same

end Keeps

end ShaderBuild.Heap
