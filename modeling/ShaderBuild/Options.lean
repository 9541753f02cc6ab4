import ShaderBuild.Stage

/-! The settings of a compile that change the bytecode. -/

namespace ShaderBuild

/-- Macro definitions, one value a name, in the order of the names. -/
structure Defines where
  entries : List (String × String) := []
  sorted : entries.Pairwise (fun a b => a.1 < b.1) := by exact List.Pairwise.nil

namespace Defines

instance : DecidableEq Defines := fun a b =>
  if h : a.entries = b.entries then
    isTrue (by cases a; cases b; cases h; rfl)
  else isFalse (fun e => h (e ▸ rfl))

/-- Puts a definition at its place; an older value of the name is replaced. -/
def insertEntry (name value : String) : List (String × String) → List (String × String)
  | [] => [(name, value)]
  | (n, v) :: rest =>
    if name < n then (name, value) :: (n, v) :: rest
    else if n < name then (n, v) :: insertEntry name value rest
    else (n, value) :: rest

/-- Every name after an insertion was there before or is at least as far along as the new one. -/
theorem lt_of_mem_insertEntry {low name value : String} {entries : List (String × String)}
    (before : ∀ e ∈ entries, low < e.1) (lowName : low < name) :
    ∀ e ∈ insertEntry name value entries, low < e.1 := by
  -- The new entry is above the bound, and every other name was there before.
  induction entries with
  | nil => intro e he; simp only [insertEntry, List.mem_singleton] at he; subst he; exact lowName
  | cons head rest ih =>
    obtain ⟨n, v⟩ := head
    intro e he
    have headLow : low < n := before (n, v) List.mem_cons_self
    have restLow : ∀ e ∈ rest, low < e.1 := fun e h => before e (List.mem_cons_of_mem _ h)
    unfold insertEntry at he
    split at he
    · rcases List.mem_cons.mp he with rfl | h
      · exact lowName
      · exact before e h
    · split at he
      · rcases List.mem_cons.mp he with rfl | h
        · exact headLow
        · exact ih restLow e h
      · rcases List.mem_cons.mp he with rfl | h
        · exact headLow
        · exact restLow e h

/-- An insertion keeps the names in order. -/
theorem sorted_insertEntry {name value : String} {entries : List (String × String)}
    (sorted : entries.Pairwise (fun a b => a.1 < b.1)) :
    (insertEntry name value entries).Pairwise (fun a b => a.1 < b.1) := by
  -- The walk stops at the first name that is not below the new one.
  induction entries with
  | nil => simp [insertEntry]
  | cons head rest ih =>
    obtain ⟨n, v⟩ := head
    obtain ⟨headLow, restSorted⟩ := List.pairwise_cons.mp sorted
    unfold insertEntry
    split
    · rename_i below
      refine List.pairwise_cons.mpr ⟨?_, sorted⟩
      intro e he
      rcases List.mem_cons.mp he with rfl | h
      · exact below
      · exact String.lt_trans below (headLow e h)
    · split
      · rename_i above
        exact List.pairwise_cons.mpr ⟨lt_of_mem_insertEntry headLow above, ih restSorted⟩
      · exact List.pairwise_cons.mpr ⟨headLow, restSorted⟩

/-- No definitions. -/
def empty : Defines := {}

/-- Adds a definition, in place of an older one of that name. -/
def insert (defines : Defines) (name value : String) : Defines :=
  ⟨insertEntry name value defines.entries, sorted_insertEntry defines.sorted⟩

/-- The definitions of a list; the last one of a name counts. -/
def ofList (pairs : List (String × String)) : Defines :=
  pairs.foldl (fun defines pair => defines.insert pair.1 pair.2) empty

/-- The value of a name. -/
def get? (defines : Defines) (name : String) : Option String :=
  defines.entries.lookup name

end Defines

/-- Everything that a compile depends on besides the shader's name and text. -/
structure Options where
  /-- Overrides what the text and the name say about the stage. -/
  stage : Option Stage := none
  spirvVersion : UInt8 × UInt8 := (1, 0)
  debugInfo : Bool := false
  flipVertexY : Bool := false
  defines : Defines := .empty
  deriving DecidableEq

namespace Options

/-- The options with the stage fixed. -/
def withStage (options : Options) (stage : Stage) : Options :=
  { options with stage := some stage }

/-- The options with one more definition. -/
def withDefine (options : Options) (name value : String) : Options :=
  { options with defines := options.defines.insert name value }

end Options

end ShaderBuild
