import Mathlib.Data.List.Basic
import ShaderBuild.Association
import ShaderBuild.Toml.Document

/-! No table of a document has a key twice, however its lines put it together. -/

namespace ShaderBuild.Toml

/-- No table in a value has a key twice. -/
inductive Value.Distinct : Value → Prop
  | string (text : String) : Distinct (.string text)
  | integer (number : Int) : Distinct (.integer number)
  | float (bits : Nat) : Distinct (.float bits)
  | boolean (truth : Bool) : Distinct (.boolean truth)
  | moment (moment : Moment) : Distinct (.moment moment)
  | array {items : List Value} (inner : ∀ item ∈ items, item.Distinct) : Distinct (.array items)
  | table {members : Members} (keys : (members.map (·.1)).Nodup)
    (inner : ∀ member ∈ members, member.2.Distinct) : Distinct (.table members)

/-- No table in a document has a key twice, nor has the document itself. -/
def Members.Distinct (members : Members) : Prop :=
  (Value.table members).Distinct

/-- The same of a value that knows where it stands. -/
def Node.Distinct (node : Node) : Prop :=
  node.toValue.Distinct

/-- The same of members that know where they stand. -/
def Nodes.Distinct (nodes : Nodes) : Prop :=
  nodes.members.Distinct

section Parts

variable {items : List Value} {members : Members} {nodes : Nodes} {key : String} {node : Node}

/-- The items of an array are looked into. -/
theorem Value.distinct_array_iff :
    (Value.array items).Distinct ↔ ∀ item ∈ items, item.Distinct := by
  -- There is one way for an array to be distinct.
  constructor
  · intro distinct
    cases distinct with
    | array inner => exact inner
  · exact .array

/-- A table has distinct keys, and its members are looked into. -/
theorem Members.distinct_iff :
    members.Distinct ↔ (members.map (·.1)).Nodup ∧ ∀ member ∈ members, member.2.Distinct := by
  -- There is one way for a table to be distinct.
  constructor
  · intro distinct
    cases distinct with
    | table keys inner => exact ⟨keys, inner⟩
  · rintro ⟨keys, inner⟩
    exact .table keys inner

/-- Members lose their places one by one. -/
theorem membersOfNodes_eq (nodes : Nodes) :
    membersOfNodes nodes = nodes.map fun member => (member.1, member.2.toValue) := by
  -- Induction on the members, as places are dropped by a recursion of their own.
  induction nodes with
  | nil => rfl
  | cons member nodes ih => rw [membersOfNodes, ih, List.map_cons]

/-- Items lose their places one by one. -/
theorem valuesOfNodes_eq (items : List Node) : valuesOfNodes items = items.map Node.toValue := by
  -- Induction on the items, for the same reason.
  induction items with
  | nil => rfl
  | cons item items ih => rw [valuesOfNodes, ih, List.map_cons]

/-- Repeated tables lose their places one by one. -/
theorem valuesOfTables_eq (items : List (Extent × Nodes)) :
    valuesOfTables items = items.map fun item => .table (Nodes.members item.2) := by
  -- Induction on the tables, for the same reason.
  induction items with
  | nil => rfl
  | cons item items ih => rw [valuesOfTables, ih, List.map_cons]; rfl

/-- Members with places have the same keys as without them. -/
theorem Nodes.distinct_iff :
    nodes.Distinct ↔ (nodes.map (·.1)).Nodup ∧ ∀ member ∈ nodes, member.2.Distinct := by
  -- Places are dropped from the values; the keys are kept.
  rw [Nodes.Distinct, Nodes.members, membersOfNodes_eq, Members.distinct_iff, List.map_map,
    List.forall_mem_map]
  rfl

/-- The items of an array with places are looked into. -/
theorem Node.distinct_array_iff {place : Extent} {items : List Node} :
    (Node.array place items).Distinct ↔ ∀ item ∈ items, item.Distinct := by
  -- Places are dropped item by item.
  rw [Node.Distinct, Node.toValue, valuesOfNodes_eq, Value.distinct_array_iff, List.forall_mem_map]
  rfl

/-- A table with places has the keys that it has without them. -/
theorem Node.distinct_table_iff {origin : TableOrigin} {place : Extent} :
    (Node.table origin place nodes).Distinct ↔ nodes.Distinct :=
  Iff.rfl

/-- Repeated tables are looked into. -/
theorem Node.distinct_tables_iff {items : List (Extent × Nodes)} :
    (Node.tables items).Distinct ↔ ∀ item ∈ items, Nodes.Distinct item.2 := by
  -- Repeated tables become an array of tables.
  rw [Node.Distinct, Node.toValue, valuesOfTables_eq, Value.distinct_array_iff, List.forall_mem_map]
  rfl

end Parts

namespace Nodes

variable {nodes changed : Nodes} {key : String} {node : Node} {path : List Key}
  {origin : TableOrigin}

/-- Nothing has no key twice. -/
theorem distinct_nil : Nodes.Distinct [] :=
  distinct_iff.mpr ⟨List.nodup_nil, by simp⟩

/-- What is found under a key has no key twice. -/
theorem Distinct.of_lookup (distinct : nodes.Distinct) (found : nodes.lookup key = some node) :
    node.Distinct :=
  -- What is found is a member.
  (distinct_iff.mp distinct).2 _ (Association.mem_of_lookup found)

/-- A new key can be added. -/
theorem Distinct.append (distinct : nodes.Distinct) (fresh : nodes.lookup key = none)
    (inner : node.Distinct) : Nodes.Distinct (nodes ++ [(key, node)]) := by
  obtain ⟨keys, members⟩ := distinct_iff.mp distinct
  refine distinct_iff.mpr ⟨?_, ?_⟩
  · rw [List.map_append, List.map_singleton, List.nodup_append]
    refine ⟨keys, by simp, ?_⟩
    rintro other among own same rfl
    obtain ⟨entry, there, rfl⟩ := List.mem_map.mp among
    rw [List.mem_singleton] at same
    -- No entry has the new key.
    have apart := List.lookup_eq_none_iff.mp fresh entry there
    simp [same] at apart
  · intro member among
    rcases List.mem_append.mp among with among | same
    · exact members member among
    · rw [List.mem_singleton.mp same]
      exact inner

/-- A member that is replaced keeps its key. -/
theorem keys_replace (key : String) (node : Node) (nodes : Nodes) :
    (nodes.replace key node).map (·.1) = nodes.map (·.1) := by
  -- Induction up to the member with the key.
  induction nodes with
  | nil => rfl
  | cons member nodes ih =>
    obtain ⟨other, old⟩ := member
    rw [replace]
    split
    · rename_i same
      simp [same]
    · simp [ih]

/-- The members after one is replaced: the new one and old ones. -/
theorem mem_replace {member : String × Node} (among : member ∈ nodes.replace key node) :
    member = (key, node) ∨ member ∈ nodes := by
  -- Induction up to the member with the key; those behind it are not touched.
  induction nodes with
  | nil => simp [replace] at among
  | cons entry nodes ih =>
    obtain ⟨other, old⟩ := entry
    rw [replace] at among
    split at among
    · rcases List.mem_cons.mp among with same | among
      · exact Or.inl same
      · exact Or.inr (List.mem_cons_of_mem _ among)
    · rcases List.mem_cons.mp among with rfl | among
      · exact Or.inr List.mem_cons_self
      · exact (ih among).imp_right (List.mem_cons_of_mem _)

/-- A member can be replaced. -/
theorem Distinct.replace (distinct : nodes.Distinct) (inner : node.Distinct) :
    Nodes.Distinct (nodes.replace key node) := by
  -- The keys are the same, and each member is the new one or an old one.
  obtain ⟨keys, members⟩ := distinct_iff.mp distinct
  refine distinct_iff.mpr ⟨by rw [keys_replace]; exact keys, ?_⟩
  intro member among
  rcases mem_replace among with rfl | among
  · exact inner
  · exact members member among

/-- A member can be left out. -/
theorem Distinct.without (distinct : nodes.Distinct) : Nodes.Distinct (nodes.without key) := by
  -- What is left are some of the members.
  obtain ⟨keys, members⟩ := distinct_iff.mp distinct
  exact distinct_iff.mpr ⟨Association.distinct_filter keys key,
    fun member among => members member (List.mem_filter.mp among).1⟩

/-- A replaced member is found. -/
theorem lookup_replace {old : Node} (found : nodes.lookup key = some old) :
    (nodes.replace key node).lookup key = some node := by
  -- Induction up to the member with the key, which must be there for something to be replaced.
  induction nodes with
  | nil => simp at found
  | cons entry nodes ih =>
    obtain ⟨other, before⟩ := entry
    rw [replace]
    split
    · exact List.lookup_cons_self
    · rename_i apart
      have away : (key == other) = false := beq_eq_false_iff_ne.mpr (Ne.symm apart)
      rw [List.lookup_cons, away] at found ⊢
      exact ih found

/-- Of two replacements the last one counts. -/
theorem replace_replace (key : String) (first second : Node) (nodes : Nodes) :
    (nodes.replace key first).replace key second = nodes.replace key second := by
  -- Induction up to the member with the key: both replacements meet the same one.
  induction nodes with
  | nil => rfl
  | cons entry nodes ih =>
    obtain ⟨other, old⟩ := entry
    rw [replace, replace]
    split
    · rw [replace, if_pos rfl]
    · rename_i apart
      rw [replace, if_neg apart, ih]

/-- A member that was just added can be replaced by adding the other one. -/
theorem replace_append (fresh : nodes.lookup key = none) (first second : Node) :
    Nodes.replace key second (nodes ++ [(key, first)]) = nodes ++ [(key, second)] := by
  -- Induction on the members: none of them has the key, so the one at the end is met.
  induction nodes with
  | nil => rw [List.nil_append, replace, if_pos rfl, List.nil_append]
  | cons entry nodes ih =>
    obtain ⟨other, old⟩ := entry
    by_cases same : key = other
    · rw [same, List.lookup_cons_self] at fresh
      simp at fresh
    · rw [List.lookup_cons, beq_false_of_ne same] at fresh
      rw [List.cons_append, replace, if_neg (Ne.symm same), ih fresh, List.cons_append]

section Paths

variable {byDots : Bool} {change : TableOrigin → Nodes → Option Nodes} {part : Key}

/-- How a table came to be that a path has made. -/
def madeBy (byDots : Bool) : TableOrigin :=
  if byDots then .dotted else .implied

/-- Tables that a path can enter. -/
def Enterable (byDots : Bool) (made : TableOrigin) : Prop :=
  made ≠ .braced ∧ ¬(byDots = true ∧ made = .stated)

/-- A table that a path has made can be entered by paths of the same kind. -/
theorem enterable_madeBy (byDots : Bool) : Enterable byDots (madeBy byDots) := by
  -- Braced tables are made by values only, never on the way of a path.
  cases byDots <;> exact ⟨by decide, by decide⟩

/-- A missing table on the way is made. -/
theorem alter_fresh (fresh : nodes.lookup part.name = none) :
    nodes.alter byDots change (part :: path) origin =
      (Nodes.alter byDots change path (madeBy byDots) []).map fun inner =>
        nodes ++ [(part.name, .table (madeBy byDots) part.place inner)] := by
  -- Nothing is found on the way, so the change is made in an empty table.
  rw [Nodes.alter, fresh, Option.map_eq_bind]
  rfl

/-- A table on the way is entered, if it can be. -/
theorem alter_table {made : TableOrigin} {place : Extent} {inner : Nodes}
    (enterable : Enterable byDots made)
    (found : nodes.lookup part.name = some (.table made place inner)) :
    nodes.alter byDots change (part :: path) origin =
      (inner.alter byDots change path made).map fun inner =>
        nodes.replace part.name (.table made place inner) := by
  -- Tables in braces are closed; the others are entered if the way is of their kind.
  rw [Nodes.alter, found, Option.map_eq_bind]
  cases made with
  | braced => exact absurd rfl enterable.1
  | stated | implied | dotted => exact if_neg enterable.2

/-- A list of tables on the way is entered through its last one. -/
theorem alter_tables {before : List (Extent × Nodes)} {place : Extent} {last : Nodes}
    (found : nodes.lookup part.name = some (.tables (before ++ [(place, last)]))) :
    nodes.alter byDots change (part :: path) origin =
      (last.alter byDots change path .stated).map fun last =>
        nodes.replace part.name (.tables (before ++ [(place, last)])) := by
  -- The last table of the list is the first one from its end.
  rw [Nodes.alter, found, Option.map_eq_bind]
  simp only [List.reverse_append, List.reverse_singleton, List.singleton_append,
    List.reverse_reverse]
  rfl

/-- A path ends where something stands that is no table that it can enter. -/
theorem alter_cases (altered : nodes.alter byDots change (part :: path) origin = some changed) :
    nodes.lookup part.name = none ∨
    (∃ made place inner, Enterable byDots made ∧
      nodes.lookup part.name = some (.table made place inner)) ∨
    ∃ before place last, nodes.lookup part.name = some (.tables (before ++ [(place, last)])) := by
  -- Each way through either fails or stops at what stands under the name.
  rw [Nodes.alter] at altered
  split at altered
  · exact Or.inl ‹_›
  · simp at altered
  · simp at altered
  · simp at altered
  · rename_i made place inner open_ found
    split at altered
    · simp at altered
    · exact Or.inr (Or.inl ⟨made, place, inner, ⟨open_, ‹_›⟩, found⟩)
  · rename_i items found
    rcases List.eq_nil_or_concat' items with rfl | ⟨before, ⟨place, last⟩, rfl⟩
    · simp at altered
    · exact Or.inr (Or.inr ⟨before, place, last, found⟩)

/-- A change inside a table that keeps keys distinct keeps them distinct everywhere. -/
theorem Distinct.alter
    (keeps : ∀ {origin inner after}, Nodes.Distinct inner → change origin inner = some after →
      Nodes.Distinct after)
    (distinct : nodes.Distinct) (altered : nodes.alter byDots change path origin = some changed) :
    changed.Distinct := by
  -- Along the path: tables are made, entered or entered through the last one of a list.
  induction path generalizing nodes changed origin with
  | nil => exact keeps distinct altered
  | cons part path ih =>
    rcases alter_cases altered with fresh | ⟨made, place, inner, enterable, found⟩ |
      ⟨before, place, last, found⟩
    · rw [alter_fresh fresh] at altered
      obtain ⟨inner, entered, rfl⟩ := Option.map_eq_some_iff.mp altered
      exact distinct.append fresh (Node.distinct_table_iff.mpr (ih distinct_nil entered))
    · rw [alter_table enterable found] at altered
      obtain ⟨after, entered, rfl⟩ := Option.map_eq_some_iff.mp altered
      have inside := Node.distinct_table_iff.mp (distinct.of_lookup found)
      exact distinct.replace (Node.distinct_table_iff.mpr (ih inside entered))
    · rw [alter_tables found] at altered
      obtain ⟨after, entered, rfl⟩ := Option.map_eq_some_iff.mp altered
      have each := Node.distinct_tables_iff.mp (distinct.of_lookup found)
      refine distinct.replace (Node.distinct_tables_iff.mpr ?_)
      intro item among
      rcases List.mem_append.mp among with among | same
      · exact each item (List.mem_append_left _ among)
      · rw [List.mem_singleton.mp same]
        exact ih (each (place, last) (by simp)) entered

/-- Two changes at the end of one path are one change there. -/
theorem alter_alter {one two : TableOrigin → Nodes → Option Nodes}
    (altered : nodes.alter byDots one path origin = some changed) :
    changed.alter byDots two path origin =
      nodes.alter byDots (fun origin inner => (one origin inner).bind (two origin)) path
        origin := by
  -- What the first change finds or makes on the way is found by the second one.
  induction path generalizing nodes changed origin with
  | nil =>
    rw [Nodes.alter] at altered
    rw [Nodes.alter, Nodes.alter, altered, Option.bind_some]
  | cons part path ih =>
    rcases alter_cases altered with fresh | ⟨made, place, inner, enterable, found⟩ |
      ⟨before, place, last, found⟩
    · rw [alter_fresh fresh] at altered
      obtain ⟨inner, entered, rfl⟩ := Option.map_eq_some_iff.mp altered
      have found : List.lookup part.name
          (nodes ++ [(part.name, .table (madeBy byDots) part.place inner)]) =
          some (.table (madeBy byDots) part.place inner) := by
        rw [List.lookup_append, fresh, List.lookup_cons_self, Option.none_or]
      rw [alter_table (enterable_madeBy byDots) found, alter_fresh fresh, ih entered]
      simp only [replace_append fresh]
    · rw [alter_table enterable found] at altered
      obtain ⟨after, entered, rfl⟩ := Option.map_eq_some_iff.mp altered
      rw [alter_table enterable (lookup_replace found), alter_table enterable found, ih entered]
      simp only [replace_replace]
    · rw [alter_tables found] at altered
      obtain ⟨after, entered, rfl⟩ := Option.map_eq_some_iff.mp altered
      rw [alter_tables (lookup_replace found), alter_tables found, ih entered]
      simp only [replace_replace]

end Paths

/-- A value is added under a new key only. -/
theorem Distinct.addValue (distinct : nodes.Distinct) (inner : node.Distinct)
    (added : nodes.addValue path key node = some changed) : changed.Distinct := by
  -- The change is made in the table at the end of the path, and refused if the key is there.
  refine distinct.alter (fun {origin members after} below change => ?_) added
  split at change
  · simp at change
  · split at change
    · simp at change
    · rename_i fresh
      rw [Option.not_isSome_iff_eq_none] at fresh
      obtain rfl := Option.some.inj change
      exact below.append fresh inner

/-- Values are added one after the other. -/
theorem Distinct.foldlM_addValue {pairs : List Pair} (inner : ∀ pair ∈ pairs, pair.node.Distinct)
    (distinct : nodes.Distinct)
    (added : pairs.foldlM (fun nodes pair => Nodes.addValue pair.path pair.key pair.node nodes)
      nodes = some changed) : changed.Distinct := by
  -- Induction on the pairs, from the members that the ones before have made.
  induction pairs generalizing nodes with
  | nil =>
    obtain rfl := Option.some.inj added
    exact distinct
  | cons pair pairs ih =>
    rw [List.foldlM_cons, Option.bind_eq_bind, Option.bind_eq_some_iff] at added
    obtain ⟨after, first, others⟩ := added
    obtain ⟨here, behind⟩ := List.forall_mem_cons.mp inner
    exact ih behind (distinct.addValue here first) others

end Nodes

section Scalars

variable {text rest : List Char} {value : Value}

/-- An integer holds no table. -/
theorem distinct_of_signed64? {number : Int} (made : signed64? number = some value) :
    value.Distinct := by
  -- The number is an integer, or it is out of range.
  rw [signed64?] at made
  split at made
  · obtain rfl := Option.some.inj made
    exact .integer number
  · simp at made

/-- A number with a point holds no table. -/
theorem distinct_of_floatOf? {negative : Bool} {digits : List Char} {exponent : Int}
    (made : floatOf? negative digits exponent = some value) : value.Distinct := by
  -- The number is a float, or it is out of range.
  rw [floatOf?] at made
  split at made
  · simp at made
  · obtain rfl := Option.some.inj made
    exact .float _

/-- A decimal number holds no table. -/
theorem distinct_of_readDecimal (read : readDecimal text = some (value, rest)) :
    value.Distinct := by
  -- With neither a fraction nor an exponent the number is an integer, otherwise a float.
  simp only [readDecimal, Option.bind_eq_bind, Option.bind_eq_some_iff] at read
  obtain ⟨whole, -, fraction, -, exponent, -, made⟩ := read
  split at made
  all_goals simp only [Option.bind_eq_some_iff, Option.pure_def, Option.some.injEq,
    Prod.mk.injEq] at made
  · obtain ⟨number, made, rfl, -⟩ := made
    exact distinct_of_signed64? made
  · obtain ⟨number, made, rfl, -⟩ := made
    exact distinct_of_floatOf? made

/-- An integer in another base holds no table. -/
theorem distinct_of_readBased {base : Nat} {isDigit : Char → Bool}
    (read : readBased base isDigit text = some (value, rest)) : value.Distinct := by
  -- Numbers in other bases are integers.
  simp only [readBased, Option.bind_eq_bind, Option.bind_eq_some_iff, Option.pure_def,
    Option.some.injEq, Prod.mk.injEq] at read
  obtain ⟨digits, -, number, made, rfl, -⟩ := read
  exact distinct_of_signed64? made

/-- Infinity holds no table, nor does what is no number. -/
theorem distinct_of_readSpecial (read : readSpecial text = some (value, rest)) :
    value.Distinct := by
  -- Both special numbers are floats.
  simp only [readSpecial] at read
  split at read
  · obtain ⟨rfl, -⟩ := Prod.mk.inj (Option.some.inj read)
    exact .float _
  · obtain ⟨rfl, -⟩ := Prod.mk.inj (Option.some.inj read)
    exact .float _
  · simp at read

/-- A number or a moment holds no table. -/
theorem distinct_of_readNumber (read : readNumber text = some (value, rest)) :
    value.Distinct := by
  -- The three bases first, then moments, then decimal and special numbers.
  unfold readNumber at read
  split at read
  · exact distinct_of_readBased read
  · exact distinct_of_readBased read
  · exact distinct_of_readBased read
  · split at read
    · obtain ⟨rfl, -⟩ := Prod.mk.inj (Option.some.inj read)
      exact .moment _
    · rcases Option.or_eq_some_iff.mp read with read | ⟨-, read⟩
      · exact distinct_of_readDecimal read
      · exact distinct_of_readSpecial read

/-- A value that holds no other values holds no table. -/
theorem distinct_of_readScalar (read : readScalar text = some (value, rest)) :
    value.Distinct := by
  -- Truth values and strings are recognized by how they begin.
  unfold readScalar at read
  split at read
  · obtain ⟨rfl, -⟩ := Prod.mk.inj (Option.some.inj read)
    exact .boolean true
  · obtain ⟨rfl, -⟩ := Prod.mk.inj (Option.some.inj read)
    exact .boolean false
  · split at read
    · obtain ⟨found, -, same⟩ := Option.map_eq_some_iff.mp read
      obtain ⟨rfl, -⟩ := Prod.mk.inj same
      exact .string _
    · exact distinct_of_readNumber read
  · simp at read

end Scalars

section Values

variable {text rest : List Char} {node : Node} {readItem : Reader Node} {fuel depth : Nat}

/-- A reader of values in which no table has a key twice. -/
def ReadsDistinct (readItem : Reader Node) : Prop :=
  ∀ {text node rest}, readItem text = some (node, rest) → node.Distinct

/-- The items of an array are read one by one. -/
theorem distinct_of_readItems (reads : ReadsDistinct readItem) {items : List Node}
    (read : readItems readItem fuel text = some (items, rest)) :
    ∀ item ∈ items, item.Distinct := by
  -- Item by item; what follows a comma is read with less fuel.
  induction fuel generalizing text items rest with
  | zero => simp [readItems] at read
  | succ fuel ih =>
    simp only [readItems, Option.bind_eq_bind, Option.bind_eq_some_iff] at read
    obtain ⟨start, -, read⟩ := read
    split at read
    · obtain ⟨rfl, -⟩ := Prod.mk.inj (Option.some.inj read)
      simp
    · simp only [Option.bind_eq_some_iff] at read
      obtain ⟨⟨first, behind⟩, own, next, -, read⟩ := read
      have here := reads own
      split at read
      · simp only [Option.bind_eq_some_iff, Option.pure_def, Option.some.injEq,
          Prod.mk.injEq] at read
        obtain ⟨⟨others, end_⟩, follow, rfl, -⟩ := read
        exact List.forall_mem_cons.mpr ⟨here, ih follow⟩
      · obtain ⟨rfl, -⟩ := Prod.mk.inj (Option.some.inj read)
        exact List.forall_mem_cons.mpr ⟨here, by simp⟩
      · simp at read

/-- The value of a pair is read. -/
theorem distinct_of_readPair (reads : ReadsDistinct readItem) {pair : Pair}
    (read : readPair readItem text = some (pair, rest)) : pair.node.Distinct := by
  -- Behind the key stands a sign of equality and then the value.
  simp only [readPair, Option.bind_eq_bind, Option.bind_eq_some_iff] at read
  obtain ⟨key, -, read⟩ := read
  split at read
  · simp only [Option.bind_eq_some_iff, Option.pure_def, Option.some.injEq, Prod.mk.injEq] at read
    obtain ⟨⟨node, behind⟩, own, rfl, -⟩ := read
    exact reads own
  · simp at read

/-- The pairs between braces are read one by one. -/
theorem distinct_of_readPairs (reads : ReadsDistinct readItem) {pairs : List Pair}
    (read : readPairs readItem fuel text = some (pairs, rest)) :
    ∀ pair ∈ pairs, pair.node.Distinct := by
  -- Pair by pair; what follows a comma is read with less fuel.
  induction fuel generalizing text pairs rest with
  | zero => simp [readPairs] at read
  | succ fuel ih =>
    simp only [readPairs, Option.bind_eq_bind, Option.bind_eq_some_iff] at read
    obtain ⟨⟨first, behind⟩, own, read⟩ := read
    have here := distinct_of_readPair reads own
    split at read
    · simp only [Option.bind_eq_some_iff, Option.pure_def, Option.some.injEq,
        Prod.mk.injEq] at read
      obtain ⟨⟨others, end_⟩, follow, rfl, -⟩ := read
      exact List.forall_mem_cons.mpr ⟨here, ih follow⟩
    · obtain ⟨rfl, -⟩ := Prod.mk.inj (Option.some.inj read)
      exact List.forall_mem_cons.mpr ⟨here, by simp⟩
    · simp at read

/-- Values of every depth are read with distinct keys. -/
theorem readsDistinct_readValue (depth : Nat) : ReadsDistinct (readValue depth) := by
  -- Arrays and braces hold values that are one level less deep.
  have plain : ∀ {text place value rest}, readScalar text = some (value, rest) →
      (Node.scalar place value).Distinct := fun read => distinct_of_readScalar read
  induction depth with
  | zero =>
    intro text node rest read
    obtain ⟨⟨value, behind⟩, own, same⟩ := Option.map_eq_some_iff.mp read
    obtain ⟨rfl, -⟩ := Prod.mk.inj same
    exact plain own
  | succ depth ih =>
    intro text node rest read
    unfold readValue at read
    split at read
    · obtain ⟨⟨items, behind⟩, own, same⟩ := Option.map_eq_some_iff.mp read
      obtain ⟨rfl, -⟩ := Prod.mk.inj same
      exact Node.distinct_array_iff.mpr (distinct_of_readItems ih own)
    · simp only [Option.bind_eq_bind, Option.bind_eq_some_iff, Option.pure_def,
        Option.some.injEq, Prod.mk.injEq] at read
      obtain ⟨⟨pairs, behind⟩, own, table, made, rfl, -⟩ := read
      obtain ⟨nodes, added, rfl⟩ := Option.map_eq_some_iff.mp made
      refine Nodes.Distinct.foldlM_addValue ?_ Nodes.distinct_nil added
      rw [readBraced] at own
      split at own
      · obtain ⟨rfl, -⟩ := Prod.mk.inj (Option.some.inj own)
        simp
      · exact distinct_of_readPairs ih own
    · obtain ⟨⟨value, behind⟩, own, same⟩ := Option.map_eq_some_iff.mp read
      obtain ⟨rfl, -⟩ := Prod.mk.inj same
      exact plain own

end Values

namespace Draft

variable {draft changed : Draft} {path : List Key} {key : String} {place : Extent}

/-- A draft whose open table has no key twice, and whose document has none either when members
without such keys are put where that table goes. -/
structure Distinct (draft : Draft) : Prop where
  nodes : Nodes.Distinct draft.nodes
  closes : ∀ {place nodes finished}, Nodes.Distinct nodes →
    Draft.close? { draft with place := place, nodes := nodes } = some finished →
    Nodes.Distinct finished

/-- The members that an implied table has already have no key twice. -/
theorem distinct_impliedMembers {nodes : Nodes} (distinct : nodes.Distinct) :
    Nodes.Distinct (impliedMembers path key nodes) := by
  -- Part by part into the tables that are there, the last one where they are listed.
  induction path generalizing nodes with
  | nil =>
    rw [impliedMembers]
    split
    · exact Node.distinct_table_iff.mp (distinct.of_lookup ‹_›)
    · exact Nodes.distinct_nil
  | cons part path ih =>
    rw [impliedMembers]
    split
    · exact ih (Node.distinct_table_iff.mp (distinct.of_lookup ‹_›))
    · rename_i items found
      have each := Node.distinct_tables_iff.mp (distinct.of_lookup found)
      cases last : items.getLast? with
      | none => exact ih Nodes.distinct_nil
      | some item => exact ih (each item (List.mem_of_getLast? last))
    · exact Nodes.distinct_nil

/-- A value is added to the open table. -/
theorem Distinct.addPair? (distinct : draft.Distinct) {pair : Pair} (inner : pair.node.Distinct)
    (added : draft.addPair? pair = some changed) : changed.Distinct := by
  -- The pair goes to the open table; the way to close it stays.
  simp only [Draft.addPair?, Option.bind_eq_bind, Option.bind_eq_some_iff, Option.pure_def,
    Option.some.injEq] at added
  obtain ⟨nodes, own, rfl⟩ := added
  exact ⟨distinct.nodes.addValue inner own, distinct.closes⟩

/-- A table is opened: no table of its name is left at its place. -/
theorem Distinct.openTable? (distinct : draft.Distinct)
    (opened : draft.openTable? path key place = some changed) : changed.Distinct := by
  simp only [Draft.openTable?, Option.bind_eq_bind, Option.bind_eq_some_iff, Option.pure_def,
    Option.some.injEq] at opened
  obtain ⟨finished, closed, cleared, altered, rfl⟩ := opened
  have whole : Nodes.Distinct finished := distinct.closes distinct.nodes closed
  refine ⟨distinct_impliedMembers whole, fun {place nodes after} below put => ?_⟩
  -- The table that goes and the one that comes are one change.
  have put : Nodes.alter false
      (fun _ inner => some (inner ++ [(key, .table .stated place nodes)])) path .stated cleared =
      some after := put
  rw [Nodes.alter_alter altered] at put
  refine whole.alter (fun {origin inner after} keys change => ?_) put
  split at change
  · rename_i fresh
    obtain rfl := Option.some.inj change
    exact keys.append fresh below
  · obtain rfl := Option.some.inj change
    exact keys.without.append (Association.lookup_filter_self key inner) below
  · simp at change

/-- The next table of a list is opened: the list is there, or is made. -/
theorem Distinct.openListItem? (distinct : draft.Distinct)
    (opened : draft.openListItem? path key place = some changed) : changed.Distinct := by
  simp only [Draft.openListItem?, Option.bind_eq_bind, Option.bind_eq_some_iff, Option.pure_def,
    Option.some.injEq] at opened
  obtain ⟨finished, closed, listed, altered, rfl⟩ := opened
  -- First the list is there or is made, then a table is put behind those in it.
  have whole : Nodes.Distinct finished := distinct.closes distinct.nodes closed
  have list : Nodes.Distinct listed := by
    refine whole.alter (fun {origin inner after} keys change => ?_) altered
    split at change
    · rename_i fresh
      obtain rfl := Option.some.inj change
      exact keys.append fresh (Node.distinct_tables_iff.mpr (by simp))
    · obtain rfl := Option.some.inj change
      exact keys
    · simp at change
  refine ⟨Nodes.distinct_nil, fun {place nodes after} below put => ?_⟩
  refine list.alter (fun {origin inner after} keys change => ?_) put
  split at change
  · rename_i items found
    obtain rfl := Option.some.inj change
    have each := Node.distinct_tables_iff.mp (keys.of_lookup found)
    refine keys.replace (Node.distinct_tables_iff.mpr fun item among => ?_)
    rcases List.mem_append.mp among with among | same
    · exact each item among
    · rw [List.mem_singleton.mp same]
      exact below
  · simp at change

/-- A line keeps the keys distinct. -/
theorem Distinct.readLine {text rest : List Char} (distinct : draft.Distinct)
    (read : Toml.readLine draft text = some (changed, rest)) : changed.Distinct := by
  unfold Toml.readLine at read
  -- A line opens a list, opens a table, or adds a pair.
  split at read
  all_goals simp only [Option.bind_eq_bind, Option.bind_eq_some_iff] at read
  · obtain ⟨named, -, read⟩ := read
    split at read
    · simp only [Option.bind_eq_some_iff, Option.pure_def, Option.some.injEq,
        Prod.mk.injEq] at read
      obtain ⟨after, opened, behind, -, rfl, -⟩ := read
      exact distinct.openListItem? opened
    · simp at read
  · obtain ⟨named, -, read⟩ := read
    split at read
    · simp only [Option.bind_eq_some_iff, Option.pure_def, Option.some.injEq,
        Prod.mk.injEq] at read
      obtain ⟨after, opened, behind, -, rfl, -⟩ := read
      exact distinct.openTable? opened
    · simp at read
  · simp only [Option.pure_def, Option.some.injEq, Prod.mk.injEq] at read
    obtain ⟨⟨pair, behind⟩, own, after, added, end_, -, rfl, -⟩ := read
    exact distinct.addPair? (distinct_of_readPair (readsDistinct_readValue _) own) added

/-- Lines keep the keys distinct. -/
theorem Distinct.readLines {text : List Char} {fuel : Nat} (distinct : draft.Distinct)
    (read : Toml.readLines fuel draft text = some changed) : changed.Distinct := by
  -- Line by line.
  induction fuel generalizing draft text with
  | zero => simp [Toml.readLines] at read
  | succ fuel ih =>
    rw [Toml.readLines] at read
    split at read
    · obtain rfl := Option.some.inj read
      exact distinct
    · obtain ⟨behind, -, follow⟩ := Option.bind_eq_some_iff.mp read
      exact ih distinct follow
    · split at read
      · exact ih distinct read
      · simp only [Option.bind_eq_bind, Option.bind_eq_some_iff] at read
        obtain ⟨⟨after, behind⟩, own, follow⟩ := read
        exact ih (distinct.readLine own) follow

end Draft

end ShaderBuild.Toml
