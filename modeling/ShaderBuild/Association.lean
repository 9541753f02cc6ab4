/-! Lists of keys and values: what is found after keys are dropped or their values changed. -/

namespace ShaderBuild.Association

variable {α β γ : Type} [BEq α] [LawfulBEq α]

/-- Dropping a key leaves what is found under another one. -/
theorem lookup_filter_of_ne {key other : α} (entries : List (α × β)) (apart : other ≠ key) :
    (entries.filter (·.1 != key)).lookup other = entries.lookup other := by
  -- A dropped entry is never the one that is looked for.
  induction entries with
  | nil => rfl
  | cons entry entries ih =>
    obtain ⟨here, value⟩ := entry
    by_cases same : here = key
    · subst same
      have away : (other == here) = false := by simpa using apart
      simp [List.lookup_cons, away, ih]
    · simp [List.lookup_cons, same, ih]

/-- A dropped key is not found. -/
theorem lookup_filter_self (key : α) (entries : List (α × β)) :
    (entries.filter (·.1 != key)).lookup key = none := by
  -- No entry of the key passes the filter.
  rw [List.lookup_eq_none_iff]
  intro entry among
  have kept := (List.mem_filter.mp among).2
  rw [bne_comm]
  exact kept

/-- A key without an entry can be dropped without a change. -/
theorem filter_of_absent {key : α} {entries : List (α × β)} (absent : entries.lookup key = none) :
    entries.filter (·.1 != key) = entries := by
  -- Every entry passes the test, for none of them has the key.
  refine List.filter_eq_self.mpr fun entry among => ?_
  have apart := List.lookup_eq_none_iff.mp absent entry among
  rw [bne_comm]
  exact apart

/-- A dropped key has no entry. -/
theorem not_mem_filter (key : α) (entries : List (α × β)) :
    key ∉ (entries.filter (·.1 != key)).map (·.1) := by
  -- An entry with the key would not have passed the test.
  intro among
  obtain ⟨entry, there, same⟩ := List.mem_map.mp among
  have kept := (List.mem_filter.mp there).2
  simp [same] at kept

omit [LawfulBEq α] in
/-- Keys stay distinct when one of them is dropped. -/
theorem distinct_filter {entries : List (α × β)} (distinct : (entries.map (·.1)).Nodup) (key : α) :
    ((entries.filter (·.1 != key)).map (·.1)).Nodup :=
  -- What is left is a part of the list in the same order.
  distinct.sublist (List.filter_sublist.map _)

/-- A change of values that leaves the keys changes what is found in the same way. -/
theorem lookup_map_value (change : α → β → γ) (key : α) (entries : List (α × β)) :
    (entries.map fun entry => (entry.1, change entry.1 entry.2)).lookup key =
      (entries.lookup key).map (change key) := by
  -- The first entry of the key stays the first one.
  induction entries with
  | nil => rfl
  | cons entry entries ih =>
    obtain ⟨here, value⟩ := entry
    by_cases same : key = here
    · subst same; simp
    · have away : (key == here) = false := by simpa using same
      simp [List.lookup_cons, away, ih]

/-- What is found under a key stands in the list. -/
theorem mem_of_lookup {key : α} {value : β} {entries : List (α × β)}
    (found : entries.lookup key = some value) : (key, value) ∈ entries := by
  -- The list is cut at the entry that the lookup stops at.
  obtain ⟨before, after, whole, -⟩ := List.lookup_eq_some_iff.mp found
  rw [whole]
  exact List.mem_append_right _ List.mem_cons_self

/-- Where each key has one entry, an entry that is there is found. -/
theorem lookup_of_mem {entries : List (α × β)} (distinct : (entries.map (·.1)).Nodup) {key : α}
    {value : β} (among : (key, value) ∈ entries) : entries.lookup key = some value := by
  -- No entry before it has its key.
  induction entries with
  | nil => simp at among
  | cons entry entries ih =>
    obtain ⟨fresh, distinct⟩ := List.nodup_cons.mp distinct
    rcases List.mem_cons.mp among with rfl | among
    · exact List.lookup_cons_self
    · have apart : (key == entry.1) = false := by
        refine beq_eq_false_iff_ne.mpr fun same => fresh ?_
        exact List.mem_map.mpr ⟨_, among, same⟩
      rw [List.lookup_cons, apart]
      exact ih distinct among

/-- A key without an entry finds nothing. -/
theorem lookup_of_fresh {key : α} {entries : List (α × β)} (fresh : key ∉ entries.map (·.1)) :
    entries.lookup key = none := by
  -- An entry with the key would show the key among the keys.
  rw [List.lookup_eq_none_iff]
  intro entry among
  exact bne_iff_ne.mpr fun same => fresh (List.mem_map.mpr ⟨entry, among, same.symm⟩)

/-- Where each key has one entry, a change that drops some entries changes what is found in the same
way. -/
theorem lookup_filterMap_value (change : α → β → Option γ) {entries : List (α × β)}
    (distinct : (entries.map (·.1)).Nodup) (key : α) :
    (entries.filterMap fun entry =>
        (change entry.1 entry.2).map fun value => (entry.1, value)).lookup key =
      (entries.lookup key).bind (change key) := by
  induction entries with
  | nil => rfl
  | cons entry entries ih =>
    obtain ⟨here, value⟩ := entry
    obtain ⟨fresh, rest⟩ := List.nodup_cons.mp distinct
    have behind := ih rest
    by_cases same : key = here
    · subst same
      rw [List.lookup_cons_self, Option.bind_some]
      cases changed : change key value with
      | some other => simp [changed]
      | none =>
        -- There is no other entry of the key.
        rw [lookup_of_fresh fresh, Option.bind_none] at behind
        simp only [List.filterMap_cons, changed, Option.map_none]
        exact behind
    · have away : (key == here) = false := beq_eq_false_iff_ne.mpr same
      rw [List.lookup_cons, away]
      cases changed : change here value with
      | some other =>
        simp only [List.filterMap_cons, changed, Option.map_some, List.lookup_cons, away]
        exact behind
      | none =>
        simp only [List.filterMap_cons, changed, Option.map_none]
        exact behind

/-- Where each key has one entry, the order does not matter for what is found. -/
theorem lookup_perm {entries others : List (α × β)} (perm : entries.Perm others)
    (distinct : (others.map (·.1)).Nodup) (key : α) : entries.lookup key = others.lookup key := by
  -- A key has its value in both lists or in neither.
  have distinct' : (entries.map (·.1)).Nodup := (perm.map _).nodup_iff.mpr distinct
  cases found : others.lookup key with
  | some value => exact lookup_of_mem distinct' (perm.symm.subset (mem_of_lookup found))
  | none =>
    rw [List.lookup_eq_none_iff] at found ⊢
    exact fun entry among => found entry (perm.subset among)

/-- Where each key has one entry, dropping a key takes out its entry and no other. -/
theorem perm_cons_filter {entries : List (α × β)} (distinct : (entries.map (·.1)).Nodup) {key : α}
    {value : β} (among : (key, value) ∈ entries) :
    entries.Perm ((key, value) :: entries.filter (·.1 != key)) := by
  induction entries with
  | nil => simp at among
  | cons entry entries ih =>
    obtain ⟨fresh, distinct⟩ := List.nodup_cons.mp distinct
    rcases List.mem_cons.mp among with rfl | among
    · -- Behind the entry of the key there is no other one of it.
      have kept : entries.filter (·.1 != key) = entries := by
        refine List.filter_eq_self.mpr fun other there => ?_
        refine bne_iff_ne.mpr fun same => fresh ?_
        exact List.mem_map.mpr ⟨_, there, same⟩
      rw [List.filter_cons_of_neg (by simp), kept]
    · have apart : (entry.1 != key) = true := by
        refine bne_iff_ne.mpr fun same => fresh ?_
        exact List.mem_map.mpr ⟨_, among, same.symm⟩
      have kept : (entry :: entries).filter (·.1 != key) =
          entry :: entries.filter (·.1 != key) := List.filter_cons_of_pos apart
      rw [kept]
      exact ((ih distinct among).cons entry).trans (.swap ..)

end ShaderBuild.Association
