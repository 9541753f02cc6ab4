import ShaderBuild.Toml.Scalar
import ShaderBuild.Toml.Tree

/-! Whole documents: keys, arrays, tables between braces, headers and lines. -/

namespace ShaderBuild.Toml

/-- Characters of a key without quotes. -/
def isBareKey (c : Char) : Bool :=
  ('a' ≤ c && c ≤ 'z') || ('A' ≤ c && c ≤ 'Z') || ('0' ≤ c && c ≤ '9') || c = '_' || c = '-'

/-- Reads one part of a key. -/
def readKeyPart (text : List Char) : Option (String × List Char) :=
  match text with
  | '"' :: rest => readQuoted (rest.length + 1) [] rest
  | '\'' :: rest => readLiteral [] rest
  | _ =>
    let word := text.takeWhile isBareKey
    if word = [] then none else some (String.ofList word, text.dropWhile isBareKey)

/-- Reads the parts of a key and the gaps around them. -/
def readKeyParts : Nat → List Char → Option (List Key × List Char)
  | 0, _ => none
  | fuel + 1, text => do
    let start := skipGaps text
    let (name, rest) ← readKeyPart start
    let part : Key := ⟨name, .between start rest⟩
    match skipGaps rest with
    | '.' :: rest =>
      let (parts, rest) ← readKeyParts fuel rest
      return (part :: parts, rest)
    | rest => return ([part], rest)

/-- Keys and values nest less deeply than this. -/
def depthLimit : Nat := 80

/-- Reads a key: the path to its table and its last part. -/
def readKey (text : List Char) : Option ((List Key × String) × List Char) := do
  let (parts, rest) ← readKeyParts (text.length + 1) text
  if depthLimit ≤ parts.length then none
  else
    let last ← parts.getLast?
    return ((parts.dropLast, last.name), rest)

/-- The rest after a comment, when one is there. -/
def skipComment : List Char → List Char
  | '#' :: rest => rest.dropWhile isShown
  | rest => rest

/-- The rest after gaps, comments and line ends; a comment must end with its line. -/
def skipLines : Nat → List Char → Option (List Char)
  | 0, text => some text
  | fuel + 1, text =>
    match text with
    | ' ' :: rest => skipLines fuel rest
    | '\t' :: rest => skipLines fuel rest
    | '#' :: rest => (lineEnd? (rest.dropWhile isShown)).bind (skipLines fuel)
    | _ =>
      match lineEnd? text with
      | some rest => skipLines fuel rest
      | none => some text

/-- The rest after blank lines and comments. -/
def skipBlank (text : List Char) : Option (List Char) :=
  skipLines (text.length + 1) text

/-- Reads the items of an array up to its bracket; a comma may stand before it. -/
def readItems (readItem : Reader Node) : Nat → Reader (List Node)
  | 0, _ => none
  | fuel + 1, text => do
    let text ← skipBlank text
    match text with
    | ']' :: rest => return ([], rest)
    | _ =>
      let (item, rest) ← readItem text
      let rest ← skipBlank rest
      match rest with
      | ',' :: rest =>
        let (items, rest) ← readItems readItem fuel rest
        return (item :: items, rest)
      | ']' :: rest => return ([item], rest)
      | _ => none

/-- Reads a key, an equals sign and a value, and the gaps around them. -/
def readPair (readItem : Reader Node) (text : List Char) : Option (Pair × List Char) := do
  let ((path, key), rest) ← readKey text
  match rest with
  | '=' :: rest =>
    let (node, rest) ← readItem (skipGaps rest)
    return (⟨path, key, node⟩, skipGaps rest)
  | _ => none

/-- Reads at least one pair up to the closing brace. -/
def readPairs (readItem : Reader Node) : Nat → Reader (List Pair)
  | 0, _ => none
  | fuel + 1, text => do
    let (pair, rest) ← readPair readItem text
    match rest with
    | ',' :: rest =>
      let (pairs, rest) ← readPairs readItem fuel rest
      return (pair :: pairs, rest)
    | '\x7d' :: rest => return ([pair], rest)
    | _ => none

/-- Reads the pairs of a table after its opening brace. -/
def readBraced (readItem : Reader Node) (text : List Char) : Option (List Pair × List Char) :=
  match skipGaps text with
  | '\x7d' :: rest => some ([], rest)
  | _ => readPairs readItem (text.length + 1) text

/-- Reads a value that nests at most so deeply. -/
def readValue : Nat → Reader Node
  | 0, text => (readScalar text).map fun read => (.scalar (.between text read.2) read.1, read.2)
  | depth + 1, text =>
    match text with
    | '[' :: rest =>
      (readItems (readValue depth) (rest.length + 1) rest).map fun read =>
        (.array (.between text read.2) read.1, read.2)
    | '\x7b' :: rest => do
      let (pairs, after) ← readBraced (readValue depth) rest
      let table ← tableOfPairs? (.between text after) pairs
      return (table, after)
    | _ => (readScalar text).map fun read => (.scalar (.between text read.2) read.1, read.2)

/-- The rest of the text after the end of a line; gaps and a comment may stand before it. -/
def endLine? (text : List Char) : Option (List Char) :=
  match skipComment (skipGaps text) with
  | [] => some []
  | rest => lineEnd? rest

/-- Reads one line that is not blank into a draft. -/
def readLine (draft : Draft) (text : List Char) : Option (Draft × List Char) :=
  match text with
  | '[' :: '[' :: rest => do
    let ((path, key), rest) ← readKey rest
    match rest with
    | ']' :: ']' :: rest =>
      return (← draft.openListItem? path key (.between text rest), ← endLine? rest)
    | _ => none
  | '[' :: rest => do
    let ((path, key), rest) ← readKey rest
    match rest with
    | ']' :: rest =>
      return (← draft.openTable? path key (.between text rest), ← endLine? rest)
    | _ => none
  | _ => do
    let (pair, rest) ← readPair (readValue (depthLimit - 1)) text
    return (← draft.addPair? pair, ← endLine? rest)

/-- Reads the lines of a document. -/
def readLines : Nat → Draft → List Char → Option Draft
  | 0, _, _ => none
  | fuel + 1, draft, text =>
    match skipGaps text with
    | [] => some draft
    | '#' :: rest => (endLine? ('#' :: rest)).bind (readLines fuel draft)
    | text =>
      match lineEnd? text with
      | some rest => readLines fuel draft rest
      | none => do
        let (draft, rest) ← readLine draft text
        readLines fuel draft rest

/-- A byte order mark at the start of a document says nothing. -/
def dropMark : List Char → List Char
  | '\ufeff' :: rest => rest
  | rest => rest

/-- The table of a document with the places of its values, unless the text is no document. -/
def parse? (text : String) : Option Nodes := do
  let cs := dropMark text.toList
  let draft ← readLines (cs.length + 1) {} cs
  draft.close?

end ShaderBuild.Toml
