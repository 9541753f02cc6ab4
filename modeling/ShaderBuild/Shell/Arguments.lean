import ShaderBuild.Settings
import ShaderBuild.Text.Escape
import ShaderBuild.Text.Lines

/-! The words of the command line, read from left to right. -/

namespace ShaderBuild.Shell

/-- What the user asked to be compiled, and how. -/
structure Arguments where
  inputs : List Path := []
  output : Option Path := none
  config : Path := ⟨defaultSettingsFile⟩
  /-- Forces the stage of every input. -/
  stage : Option Stage := none
  cacheDirectory : Option Path := none
  noCache : Bool := false
  watch : Bool := false
  deriving DecidableEq

/-- What the program is to do. -/
inductive Command where
  | compile (arguments : Arguments)
  | help
  | version
  deriving DecidableEq

/-- Options that take a value. -/
inductive Setting where
  | output
  | config
  | stage
  | cacheDirectory
  deriving DecidableEq, Repr

/-- Options that take none. -/
inductive Flag where
  | noCache
  | watch
  | help
  | version
  deriving DecidableEq, Repr

/-- The option as a message names it. -/
def Setting.title : Setting → String
  | output => "--output <OUTPUT>"
  | config => "--config <CONFIG>"
  | stage => "--stage <STAGE>"
  | cacheDirectory => "--cache-dir <CACHE_DIR>"

/-- The option as a message names it. -/
def Flag.title : Flag → String
  | noCache => "--no-cache"
  | watch => "--watch"
  | help => "--help"
  | version => "--version"

/-- An option with a long name. -/
def longOption? : String → Option (Setting ⊕ Flag)
  | "output" => some (.inl .output)
  | "config" => some (.inl .config)
  | "stage" => some (.inl .stage)
  | "cache-dir" => some (.inl .cacheDirectory)
  | "no-cache" => some (.inr .noCache)
  | "watch" => some (.inr .watch)
  | "help" => some (.inr .help)
  | "version" => some (.inr .version)
  | _ => none

/-- An option with a one-letter name. -/
def shortOption? : Char → Option (Setting ⊕ Flag)
  | 'o' => some (.inl .output)
  | 'h' => some (.inr .help)
  | 'V' => some (.inr .version)
  | _ => none

/-- Why the command line cannot be followed. -/
inductive UsageFault where
  | unknown (word : String)
  | needless (value option : String)
  | missingValue (option : String)
  | badValue (value option reason : String)
  | repeated (option : String)
  | missingInputs
  deriving DecidableEq, Repr

/-- A word of the command line as a terminal highlights it. -/
def wrong (word : String) : String :=
  "'" ++ Text.marked "33" word ++ "'"

/-- The name of an option as a terminal highlights it. -/
def literally (option : String) : String :=
  "'" ++ Text.marked "1" option ++ "'"

/-- What is wrong, as a terminal shows it. -/
def UsageFault.problem : UsageFault → String
  | unknown word => "unexpected argument " ++ wrong word ++ " found"
  | needless value option =>
    "unexpected value " ++ wrong value ++ " for " ++ literally option ++
      " found; no more were expected"
  | missingValue option => "a value is required for " ++ wrong option ++ " but none was supplied"
  | badValue value option reason =>
    "invalid value " ++ wrong value ++ " for " ++ literally option ++ ": " ++ reason
  | repeated option => "the argument " ++ wrong option ++ " cannot be used multiple times"
  | missingInputs => "the following required arguments were not provided:"

/-- The whole message, as a terminal shows it. -/
def UsageFault.render (fault : UsageFault) : String :=
  Text.marked "1;31" "error:" ++ " " ++ fault.problem ++
    "\n\nFor more information, try " ++ literally "--help" ++ ".\n"

/-- The first line of the message, where it does not go to a terminal. -/
def UsageFault.message (fault : UsageFault) : String :=
  match Text.lines (Text.withoutEscapes fault.render.toList) with
  | [] => ""
  | first :: _ => String.ofList first.body

/-- What has been read but not yet checked. -/
inductive Pending where
  | nothing
  /-- Inputs, the last one first. -/
  | inputs (words : List String)
  | setting (setting : Setting) (value : Option String)

/-- The command line up to some word. -/
structure Reading where
  arguments : Arguments := {}
  settings : List Setting := []
  flags : List Flag := []
  pending : Pending := .nothing
  /-- After two dashes every word is an input. -/
  inputsOnly : Bool := false

/-- A path must not be empty. -/
def pathOfWord (title word : String) : Except UsageFault Path :=
  if word.isEmpty then .error (.missingValue title) else .ok ⟨word⟩

/-- Puts a value where it belongs. -/
def assignSetting (arguments : Arguments) (setting : Setting) (word : String) :
    Except UsageFault Arguments :=
  match setting with
  | .output =>
    (pathOfWord setting.title word).map fun path => { arguments with output := some path }
  | .config => (pathOfWord setting.title word).map fun path => { arguments with config := path }
  | .cacheDirectory =>
    (pathOfWord setting.title word).map fun path => { arguments with cacheDirectory := some path }
  | .stage =>
    match Stage.parse? word with
    | .ok stage => .ok { arguments with stage := some stage }
    | .error reason => .error (.badValue word setting.title reason)

namespace Reading

/-- Takes the value of an option. -/
def takeSetting (reading : Reading) (setting : Setting) (value : Option String) :
    Except UsageFault Reading :=
  match value with
  | none => .error (.missingValue setting.title)
  | some word =>
    if setting ∈ reading.settings then .error (.repeated setting.title)
    else
      (assignSetting reading.arguments setting word).map fun arguments =>
        { reading with arguments := arguments, settings := setting :: reading.settings }

/-- Checks and takes what has been read. -/
def resolve (reading : Reading) : Except UsageFault Reading :=
  match reading.pending with
  | .nothing => .ok reading
  | .setting setting value => { reading with pending := .nothing }.takeSetting setting value
  | .inputs words =>
    (words.reverse.mapM (pathOfWord "<INPUTS>...")).map fun paths =>
      { reading with
        arguments := { reading.arguments with inputs := reading.arguments.inputs ++ paths }
        pending := .nothing }

/-- Takes an input. -/
def input (reading : Reading) (word : String) : Except UsageFault Reading :=
  match reading.pending with
  | .inputs words => .ok { reading with pending := .inputs (word :: words) }
  | _ => (reading.resolve).map fun reading => { reading with pending := .inputs [word] }

/-- Begins an option that takes a value. -/
def beginSetting (reading : Reading) (setting : Setting) (value : Option String) :
    Except UsageFault Reading := do
  let reading ← reading.resolve
  match value with
  | some word => reading.takeSetting setting (some word)
  | none => return { reading with pending := .setting setting none }

/-- Takes an option without a value; asking for help or the version ends the reading. -/
def takeFlag (reading : Reading) (flag : Flag) : Except UsageFault (Command ⊕ Reading) := do
  let reading ← reading.resolve
  if flag ∈ reading.flags then throw (.repeated flag.title)
  let reading := { reading with flags := flag :: reading.flags }
  match flag with
  | .help => return .inl .help
  | .version => return .inl .version
  | .noCache =>
    return .inr { reading with arguments := { reading.arguments with noCache := true } }
  | .watch => return .inr { reading with arguments := { reading.arguments with watch := true } }

/-- Takes a word that begins with two dashes; a value may follow an equals sign. -/
def longWord (reading : Reading) (word : List Char) : Except UsageFault (Command ⊕ Reading) :=
  let name := String.ofList (word.takeWhile (· ≠ '='))
  let value :=
    match word.dropWhile (· ≠ '=') with
    | [] => none
    | _ :: rest => some (String.ofList rest)
  match longOption? name, value with
  | none, _ => .error (.unknown ("--" ++ name))
  | some (.inl setting), value => (reading.beginSetting setting value).map .inr
  | some (.inr flag), none => reading.takeFlag flag
  | some (.inr flag), some value => .error (.needless value flag.title)

/-- Takes the letters after a single dash; the letters after an option with a value are its value.
-/
def shortWord (reading : Reading) : List Char → Except UsageFault (Command ⊕ Reading)
  | [] => .ok (.inr reading)
  | letter :: rest =>
    match shortOption? letter with
    | none => .error (.unknown (String.ofList ['-', letter]))
    | some (.inl setting) =>
      let value :=
        match rest with
        | [] => none
        | '=' :: rest => some (String.ofList rest)
        | rest => some (String.ofList rest)
      (reading.beginSetting setting value).map .inr
    | some (.inr flag) => do
      match ← reading.takeFlag flag with
      | .inl command => return .inl command
      | .inr reading => reading.shortWord rest

/-- Takes the next word. -/
def word (reading : Reading) (text : String) : Except UsageFault (Command ⊕ Reading) :=
  if reading.inputsOnly then (reading.input text).map .inr
  else
    match text.toList with
    | ['-', '-'] => .ok (.inr { reading with inputsOnly := true })
    | '-' :: '-' :: rest => reading.longWord rest
    | '-' :: letter :: rest => reading.shortWord (letter :: rest)
    | _ =>
      match reading.pending with
      | .setting setting none =>
        .ok (.inr { reading with pending := .setting setting (some text) })
      | _ => (reading.input text).map .inr

/-- Takes all words. There must be an input among them. -/
def finish (reading : Reading) : List String → Except UsageFault Command
  | [] => do
    let reading ← reading.resolve
    if reading.arguments.inputs = [] then throw .missingInputs
    return .compile reading.arguments
  | text :: words => do
    match ← reading.word text with
    | .inl command => return command
    | .inr reading => reading.finish words

end Reading

/-- Reads a command line. -/
def parse (words : List String) : Except UsageFault Command :=
  Reading.finish {} words

/-- The name and the version of the program. -/
def versionText : String := "avd-shaderc 0.1.0\n"

/-- What the program can be told. -/
def helpText : String :=
  "Compile GLSL shaders to SPIR-V\n\n" ++
  "Usage: avd-shaderc [OPTIONS] <INPUTS>...\n\n" ++
  "Arguments:\n" ++
  "  <INPUTS>...  Shader source files (.vert, .frag, .comp)\n\n" ++
  "Options:\n" ++
  "  -o, --output <OUTPUT>        Output file, only valid with a single input\n" ++
  "      --config <CONFIG>        Configuration file [default: avd_shader.toml]\n" ++
  "      --stage <STAGE>          Force the stage instead of inferring it\n" ++
  "      --cache-dir <CACHE_DIR>  Persist compiled modules in this directory\n" ++
  "      --no-cache               Compile every input from scratch\n" ++
  "      --watch                  Keep running and recompile inputs when they change\n" ++
  "  -h, --help                   Print help\n" ++
  "  -V, --version                Print version\n"

end ShaderBuild.Shell
