import MeshNode.Settings.Environment

/-!
# Settings from the command line

The words of a command line are long options, clusters of short ones, values and a double dash,
behind which nothing may follow. An option with a value takes it behind an equals sign or as its
next word; what looks like an option is never a value. Every option and flag stands at most once.

A value that comes as a word of its own is checked only when the next option begins or the words
end, so a word that no option can take is reported before the value in front of it.
-/

namespace MeshNode.Settings

/-- How the log is written. -/
inductive LogFormat where
  | text
  | json
  deriving DecidableEq, Repr

/-- What the command line says. -/
structure Arguments where
  /-- The settings file. -/
  file : Option String := none
  layer : Layer := {}
  logLevel : String := "info"
  logFormat : LogFormat := .text
  deriving DecidableEq

namespace Arguments

/-- Why a command line is not carried out, or what it asks for instead. -/
inductive Problem where
  | unknownArgument (word : String)
  | invalidValue
  | valueValidation
  | argumentConflict
  | tooManyValues
  | displayHelp
  | displayVersion
  deriving DecidableEq, Repr

/-- The options that take a value. -/
inductive Key where
  | config
  | coordinator
  | vpc
  | interface
  | listenPort
  | mode
  | statusListen
  | stateDirectory
  | logLevel
  | logFormat
  deriving DecidableEq, Repr

/-- The flags. -/
inductive Flag where
  | relay
  | relayOnly
  | insecureHttp
  | help
  | version
  deriving DecidableEq, Repr

/-- What a name in front of a value or alone stands for. -/
inductive Name where
  | key (key : Key)
  | flag (flag : Flag)
  deriving DecidableEq, Repr

/-- The long names. -/
def longNames : List (String × Name) :=
  [("config", .key .config), ("coordinator-url", .key .coordinator), ("vpc-id", .key .vpc),
    ("interface", .key .interface), ("listen-port", .key .listenPort), ("mode", .key .mode),
    ("status-listen", .key .statusListen), ("state-dir", .key .stateDirectory),
    ("log-level", .key .logLevel), ("log-format", .key .logFormat), ("relay", .flag .relay),
    ("relay-only", .flag .relayOnly), ("insecure-http", .flag .insecureHttp), ("help", .flag .help),
    ("version", .flag .version)]

/-- The short names. -/
def shortNames : List (Char × Name) :=
  [('c', .key .config), ('h', .flag .help), ('V', .flag .version)]

/-! ## Values -/

/-- A value that has to be read; `problem` is what a wrong one means. -/
def reading {α : Type} (problem : Problem) (value : Option α) : Except Problem α :=
  match value with
  | some value => .ok value
  | none => .error problem

/-- A port, with one sign allowed in front. -/
def port? (text : String) : Option UInt16 := do
  let unsigned := fun digits : List Char => do
    guard (!digits.isEmpty && digits.all Char.isDigit)
    return Text.ofDigits 10 (digits.map fun c => c.toNat - '0'.toNat)
  let value ← match text.toList with
    | '-' :: digits => (unsigned digits).filter (· = 0)
    | '+' :: digits => unsigned digits
    | digits => unsigned digits
  if value < 65536 then return UInt16.ofNat value else none

/-- A path, which must not be empty. -/
def path (text : String) : Except Problem String :=
  if text.isEmpty then .error .invalidValue else .ok text

/-- The log format with a name. -/
def logFormat? (text : String) : Option LogFormat :=
  if text = "text" then some .text else if text = "json" then some .json else none

/-- Take the value of an option. -/
def assign (arguments : Arguments) (key : Key) (text : String) : Except Problem Arguments := do
  let layer := arguments.layer
  match key with
  | .config => return { arguments with file := some (← path text) }
  | .coordinator => return { arguments with layer := { layer with coordinator := some text } }
  | .vpc =>
    let vpc ← reading .valueValidation (Uuid.parse? text)
    return { arguments with layer := { layer with vpc := some vpc } }
  | .interface => return { arguments with layer := { layer with interface := some text } }
  | .listenPort =>
    let listenPort ← reading .valueValidation (port? text)
    return { arguments with layer := { layer with listenPort := some listenPort } }
  | .mode =>
    let mode ← reading .valueValidation (Environment.modeNamed text).toOption
    return { arguments with layer := { layer with mode := some mode } }
  | .statusListen =>
    let socket ← reading .valueValidation (SocketAddress.parse? text)
    return { arguments with layer := { layer with statusListen := some socket } }
  | .stateDirectory =>
    return { arguments with layer := { layer with stateDirectory := some (← path text) } }
  | .logLevel => return { arguments with logLevel := text }
  | .logFormat => return { arguments with logFormat := ← reading .invalidValue (logFormat? text) }

/-! ## Words -/

/-- A command line under way: what it says so far, which options and flags were given, and the
option that waits for its value or for its value's check. -/
structure Progress where
  arguments : Arguments := {}
  keys : List Key := []
  flags : List Flag := []
  pending : Option (Key × Option String) := none

/-- Take the value of an option that was not given before. -/
def Progress.take (progress : Progress) (key : Key) (text : String) : Except Problem Progress :=
  if progress.keys.contains key then .error .argumentConflict
  else do
    let arguments ← progress.arguments.assign key text
    return { progress with arguments, keys := key :: progress.keys }

/-- Finish the option that waits. -/
def Progress.settle (progress : Progress) : Except Problem Progress :=
  match progress.pending with
  | none => .ok progress
  | some (_, none) => .error .invalidValue
  | some (key, some text) => { progress with pending := none }.take key text

/-- An option with the value that is attached to it, if one is. -/
def Progress.option (progress : Progress) (key : Key) (attached : Option String) :
    Except Problem Progress := do
  let progress ← progress.settle
  match attached with
  | some text => progress.take key text
  | none => return { progress with pending := some (key, none) }

/-- Raise a flag. -/
def Progress.raise (progress : Progress) (flag : Flag) : Except Problem Progress := do
  let progress ← progress.settle
  if progress.flags.contains flag then .error .argumentConflict
  else
    let arguments := progress.arguments
    let layer := arguments.layer
    let progress := { progress with flags := flag :: progress.flags }
    match flag with
    | .relay =>
      return { progress with
        arguments := { arguments with layer := { layer with relay := some true } } }
    | .relayOnly =>
      return { progress with
        arguments := { arguments with layer := { layer with relayOnly := some true } } }
    | .insecureHttp =>
      return { progress with
        arguments := { arguments with layer := { layer with insecureHttp := some true } } }
    | .help => .error .displayHelp
    | .version => .error .displayVersion

/-- A long option, without its dashes. -/
def Progress.long (progress : Progress) (word : String) : Except Problem Progress :=
  let cs := word.toList
  let attached := (cs.dropWhile (· ≠ '=')).tail?.map String.ofList
  match longNames.lookup (String.ofList (cs.takeWhile (· ≠ '='))) with
  | none => .error (.unknownArgument s!"--{word}")
  | some (.key key) => progress.option key attached
  | some (.flag flag) => if attached.isSome then .error .tooManyValues else progress.raise flag

/-- A cluster of short options, without its dash. An option with a value ends it: what is left is
the value, behind an equals sign or without one. -/
def Progress.short : List Char → Progress → Except Problem Progress
  | [], progress => .ok progress
  | c :: rest, progress =>
    match shortNames.lookup c with
    | none => .error (.unknownArgument s!"-{c}")
    | some (.flag flag) => do short rest (← progress.raise flag)
    | some (.key key) =>
      match rest with
      | [] => progress.option key none
      | '=' :: value => progress.option key (some (String.ofList value))
      | value => progress.option key (some (String.ofList value))

/-- A word that is no option: the value that an option waits for. -/
def Progress.word (progress : Progress) (word : String) : Except Problem Progress :=
  match progress.pending with
  | some (key, none) => .ok { progress with pending := some (key, some word) }
  | _ => .error (.unknownArgument word)

/-- All words of a command line. -/
def readWords : List String → Progress → Except Problem Progress
  | [], progress => progress.settle
  | word :: rest, progress =>
    match word.toList with
    | ['-', '-'] =>
      match rest with
      | [] => progress.settle
      | extra :: _ => .error (.unknownArgument extra)
    | '-' :: '-' :: long => do readWords rest (← progress.long (String.ofList long))
    | '-' :: c :: short => do readWords rest (← Progress.short (c :: short) progress)
    | _ => do readWords rest (← progress.word word)

/-- Read a command line. Without an option for it, the settings file is the one that the
environment names. -/
def parse (environment : Environment) (words : List String) : Except Problem Arguments := do
  let progress ← readWords words {}
  let arguments := progress.arguments
  match arguments.file, environment "WEFT_CONFIG" with
  | none, some text => return { arguments with file := some (← path text) }
  | _, _ => return arguments

end Arguments

end MeshNode.Settings
