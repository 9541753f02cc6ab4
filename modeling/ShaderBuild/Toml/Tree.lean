import ShaderBuild.Toml.Extent
import ShaderBuild.Toml.Value

/-! Documents as trees of values that know where they stand and how they came to be. -/

namespace ShaderBuild.Toml

/-- A key and where it stands. -/
structure Key where
  name : String
  place : Extent
  deriving DecidableEq, Repr

/-- How a table came to be. -/
inductive TableOrigin where
  /-- It has a header of its own. -/
  | stated
  /-- It stands between braces, and nothing can be added to it. -/
  | braced
  /-- The header of an inner table implied it. -/
  | implied
  /-- A dotted key made it. -/
  | dotted
  deriving DecidableEq, Repr

/-- A value of a document. -/
inductive Node where
  /-- A value that holds no other values. -/
  | scalar (place : Extent) (value : Value)
  | array (place : Extent) (items : List Node)
  /-- A table stands where its header and its lines, its braces or the key that made it stand. -/
  | table (origin : TableOrigin) (place : Extent) (members : List (String × Node))
  /-- The tables that repeated headers make, in order. -/
  | tables (items : List (Extent × List (String × Node)))

/-- The members of a table, key by key. -/
abbrev Nodes := List (String × Node)

mutual

/-- The value without its places. -/
def Node.toValue : Node → Value
  | .scalar _ value => value
  | .array _ items => .array (valuesOfNodes items)
  | .table _ _ members => .table (membersOfNodes members)
  | .tables items => .array (valuesOfTables items)

/-- The items of an array without their places. -/
def valuesOfNodes : List Node → List Value
  | [] => []
  | node :: rest => node.toValue :: valuesOfNodes rest

/-- The members of a table without their places. -/
def membersOfNodes : List (String × Node) → List (String × Value)
  | [] => []
  | (key, node) :: rest => (key, node.toValue) :: membersOfNodes rest

/-- Repeated tables without their places. -/
def valuesOfTables : List (Extent × List (String × Node)) → List Value
  | [] => []
  | (_, members) :: rest => .table (membersOfNodes members) :: valuesOfTables rest

end

/-- A step from a value to one that it holds. -/
inductive Step where
  | member (key : String)
  | item (index : Nat)
  deriving DecidableEq, Repr

namespace Node

/-- Where a value stands. Repeated tables reach from the first of them to the last. -/
def place : Node → Extent
  | .scalar place _ | .array place _ | .table _ place _ => place
  | .tables items =>
    match items.head?, items.getLast? with
    | some first, some last => first.1.join last.1
    | _, _ => ⟨0, 0⟩

/-- Where the value stands that some steps lead to. -/
def placeOf? : List Step → Node → Option Extent
  | [], node => some node.place
  | .member key :: steps, .table _ _ members => (members.lookup key).bind (placeOf? steps)
  | .item index :: steps, .array _ items => items[index]?.bind (placeOf? steps)
  | .item index :: steps, .tables items =>
    items[index]?.bind fun item => placeOf? steps (.table .stated item.1 item.2)
  | _, _ => none

end Node

namespace Nodes

/-- Replaces the member of a key, which keeps its place. -/
def replace (key : String) (node : Node) : Nodes → Nodes
  | [] => []
  | (other, old) :: rest =>
    if other = key then (key, node) :: rest else (other, old) :: replace key node rest

/-- Leaves out the member of a key. -/
def without (key : String) (nodes : Nodes) : Nodes :=
  nodes.filter (·.1 != key)

/-- Changes the table that a path leads to. Missing tables on the way are made and stand where their
keys stand; a list of tables is entered through its last one, and a dotted path does not enter
stated tables. -/
def alter (byDots : Bool) (change : TableOrigin → Nodes → Option Nodes) :
    List Key → TableOrigin → Nodes → Option Nodes
  | [], origin, nodes => change origin nodes
  | key :: path, _, nodes =>
    match nodes.lookup key.name with
    | none => do
      let origin := if byDots then TableOrigin.dotted else .implied
      let inner ← alter byDots change path origin []
      return nodes ++ [(key.name, .table origin key.place inner)]
    -- What is written as one value is complete.
    | some (.scalar _ _) | some (.array _ _) | some (.table .braced _ _) => none
    | some (.table origin place inner) =>
      if byDots = true ∧ origin = .stated then none
      else do
        let inner ← alter byDots change path origin inner
        return nodes.replace key.name (.table origin place inner)
    | some (.tables items) =>
      match items.reverse with
      | [] => none
      | (place, last) :: before => do
        let last ← alter byDots change path .stated last
        return nodes.replace key.name (.tables (before.reverse ++ [(place, last)]))

/-- Adds a value under a dotted path and a last key. The table must have been made by the same kind
of line, and the key must be new. -/
def addValue (path : List Key) (key : String) (node : Node) (nodes : Nodes) : Option Nodes :=
  nodes.alter true (fun origin inner =>
    if decide (origin = .dotted) = path.isEmpty then none
    else if (inner.lookup key).isSome then none
    else some (inner ++ [(key, node)])) path .stated

/-- The members without their places. -/
def members (nodes : Nodes) : Members :=
  membersOfNodes nodes

/-- Where the value stands that some steps from the document's table lead to. -/
def placeOf? (nodes : Nodes) (steps : List Step) : Option Extent :=
  Node.placeOf? steps (.table .stated ⟨0, 0⟩ nodes)

end Nodes

/-- A key with the path to its table, and a value. -/
structure Pair where
  path : List Key
  key : String
  node : Node

/-- A table from the pairs between braces. -/
def tableOfPairs? (place : Extent) (pairs : List Pair) : Option Node :=
  (pairs.foldlM (fun nodes pair => Nodes.addValue pair.path pair.key pair.node nodes) []).map
    fun nodes => .table .braced place nodes

/-- The table that the lines below a header fill. -/
inductive Opened where
  /-- The document's own table. -/
  | document
  | table (path : List Key) (key : String)
  | listItem (path : List Key) (key : String)

/-- A document up to some line: the finished tables, and the one that is open with its place so
far. -/
structure Draft where
  finished : Nodes := []
  opened : Opened := .document
  place : Extent := ⟨0, 0⟩
  nodes : Nodes := []

namespace Draft

/-- Puts the open table at its place. -/
def close? (draft : Draft) : Option Nodes :=
  match draft.opened with
  | .document => some draft.nodes
  | .table path key =>
    draft.finished.alter false (fun _ inner =>
      some (inner ++ [(key, .table .stated draft.place draft.nodes)])) path .stated
  | .listItem path key =>
    draft.finished.alter false (fun _ inner =>
      match inner.lookup key with
      | some (.tables items) =>
        some (inner.replace key (.tables (items ++ [(draft.place, draft.nodes)])))
      | _ => none) path .stated

/-- The members that an implied table already has under a path and a key. -/
def impliedMembers (path : List Key) (key : String) (nodes : Nodes) : Nodes :=
  match path with
  | [] =>
    match nodes.lookup key with
    | some (.table _ _ inner) => inner
    | _ => []
  | step :: path =>
    match nodes.lookup step.name with
    | some (.table _ _ inner) => impliedMembers path key inner
    | some (.tables items) => impliedMembers path key ((items.getLast?.map (·.2)).getD [])
    | _ => []

/-- Opens a table. A table that was only implied is taken out, and goes to the end of its own table
when it is closed again. -/
def openTable? (path : List Key) (key : String) (place : Extent) (draft : Draft) :
    Option Draft := do
  let finished ← draft.close?
  let members := impliedMembers path key finished
  let finished ← finished.alter false (fun _ inner =>
    match inner.lookup key with
    | none => some inner
    | some (.table .implied _ _) => some (inner.without key)
    | some _ => none) path .stated
  return ⟨finished, .table path key, place, members⟩

/-- Opens the next table of a list. -/
def openListItem? (path : List Key) (key : String) (place : Extent) (draft : Draft) :
    Option Draft := do
  let finished ← draft.close?
  let finished ← finished.alter false (fun _ inner =>
    match inner.lookup key with
    | none => some (inner ++ [(key, .tables [])])
    | some (.tables _) => some inner
    | some _ => none) path .stated
  return ⟨finished, .listItem path key, place, []⟩

/-- Adds a value to the open table, which then reaches up to the value's end. -/
def addPair? (pair : Pair) (draft : Draft) : Option Draft := do
  let nodes ← draft.nodes.addValue pair.path pair.key pair.node
  return { draft with nodes := nodes, place := draft.place.join pair.node.place }

end Draft

end ShaderBuild.Toml
