import ShaderBuild.Log
import ShaderBuild.Pattern.Reading
import ShaderBuild.Settings

/-! Which notes are shown, by the thresholds and the pattern of a specification. -/

namespace ShaderBuild.Log

/-- A threshold for the sources that begin with a name, or for all. -/
structure Directive where
  name : Option String
  threshold : Threshold
  deriving DecidableEq, Repr

/-- What a note must satisfy to be shown. -/
structure Filter where
  /-- Longer names come later. -/
  directives : List Directive
  /-- What must occur in the text of a note. -/
  pattern : Option Pattern := none

/-- Whether a note's level passes a threshold. -/
def passes (level : Level) : Threshold → Bool
  | none => false
  | some threshold => level.rank ≤ threshold.rank

/-- Whether a directive speaks of a source. -/
def Directive.covers (source : String) (directive : Directive) : Bool :=
  match directive.name with
  | none => true
  | some name => name.toList.isPrefixOf source.toList

/-- Whether a note is shown. -/
def Filter.shows (filter : Filter) (note : Note) : Bool :=
  (match filter.directives.reverse.find? (Directive.covers note.source) with
    | none => false
    | some directive => passes note.level directive.threshold) &&
    filter.pattern.all (·.occurs note.text.toList)

/-- Reads one directive: a level, a name, or a name and a level. -/
def readDirective (text : List Char) : Except String Directive :=
  match Text.splitAtChar '=' text with
  | [word] =>
    match threshold? (Text.trim word) with
    | some threshold => .ok ⟨none, threshold⟩
    | none => .ok ⟨some (String.ofList word), some .trace⟩
  | [name, level] =>
    let level := Text.trim level
    if level = [] then .ok ⟨some (String.ofList name), some .trace⟩
    else
      match threshold? level with
      | some threshold => .ok ⟨some (String.ofList name), threshold⟩
      | none => .error ("invalid logging spec '" ++ String.ofList level ++ "'")
  | _ => .error ("invalid logging spec '" ++ String.ofList text ++ "'")

/-- Adds a directive; an older one of its name gives way. -/
def addDirective (directive : Directive) : List Directive → List Directive
  | [] => [directive]
  | other :: rest =>
    if other.name = directive.name then directive :: rest
    else other :: addDirective directive rest

/-- The number of bytes of a directive's name. -/
def Directive.nameSize (directive : Directive) : Nat :=
  (directive.name.map String.utf8ByteSize).getD 0

/-- Puts a directive behind those with shorter names. -/
def placeDirective (directive : Directive) : List Directive → List Directive
  | [] => [directive]
  | other :: rest =>
    if directive.nameSize ≤ other.nameSize then directive :: other :: rest
    else other :: placeDirective directive rest

/-- The filter of some directives; without any, only errors are shown. -/
def Filter.ofDirectives (directives : List Directive) (pattern : Option Pattern) : Filter :=
  if directives.isEmpty then ⟨[⟨none, some .error⟩], pattern⟩
  else ⟨directives.foldr placeDirective [], pattern⟩

/-- Reads the pattern of a specification, when there is one that can be used. -/
def readPattern (text : Option (List Char)) : Option Pattern × List String :=
  match text with
  | none => (none, [])
  | some text =>
    match Pattern.read text with
    | .ok pattern => (some pattern, [])
    | .error refusal => (none, ["invalid regex filter - " ++ refusal.message text])

/-- Reads a specification, and tells which parts of it say nothing. -/
def readFilter (spec : String) : Filter × List String :=
  match Text.splitAtChar '/' spec.toList with
  | list :: rest =>
    if 2 ≤ rest.length then
      (Filter.ofDirectives [] none, ["invalid logging spec '" ++ spec ++ "' (too many '/'s)"])
    else
      let words := ((Text.splitAtChar ',' list).map Text.trim).filter (· ≠ [])
      let read := words.map readDirective
      let directives := (read.filterMap Except.toOption).foldl
        (fun directives directive => addDirective directive directives) []
      let faults := read.filterMap fun result =>
        match result with
        | .ok _ => none
        | .error fault => some fault
      let (pattern, refusals) := readPattern rest.head?
      (Filter.ofDirectives directives pattern, faults ++ refusals)
  | [] => (Filter.ofDirectives [] none, [])

end ShaderBuild.Log
