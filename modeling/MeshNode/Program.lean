import MeshNode.Agent
import MeshNode.LogFilter
import MeshNode.Settings.Sources

/-!
# The program

What the program prints and how it exits, as values. A command line that is not carried out ends
the program with status two, or with zero where it asked for the help or the version. Settings
that are refused and an agent that fails end it with status one and a report: what was being done,
and the chain of causes, each the cause of the one before it. In front of all that stands what was
left out of the log filter.
-/

namespace MeshNode.Program

/-- How the program ends. -/
structure Exit where
  code : UInt32 := 0
  output : String := ""
  errors : String := ""
  deriving DecidableEq, Repr

/-- The name and the version. -/
def version : String := "weftd 0.1.0"

/-! ## Reports -/

/-- A cause in a report, numbered where there are several. All lines of one cause begin at the same
column. -/
def causeText (number : Option Nat) (cause : String) : String :=
  let margin := match number with
    | some _ => "       "
    | none => "    "
  let first := match number with
    | some number =>
      let digits := toString number
      String.ofList (List.replicate (5 - digits.length) ' ') ++ digits ++ ": "
    | none => margin
  let lines := (Text.splitAt '\n' cause.toList).map String.ofList
  first ++ Text.joined ("\n" ++ margin) lines

/-- A failure report. -/
def report (context : String) (causes : List String) : String :=
  let texts := match causes with
    | [cause] => [causeText none cause]
    | causes => causes.zipIdx.map fun (cause, place) => causeText (some place) cause
  let chain := if texts.isEmpty then "" else "\n\nCaused by:\n" ++ Text.joined "\n" texts
  s!"Error: {context}{chain}\n"

/-- The exit of a failure. -/
def failed (context : String) (causes : List String) : Exit :=
  { code := 1, errors := report context causes }

/-- The chain of a settings error. -/
def settingsCauses (error : Settings.Error) : List String :=
  match error with
  | .fileUnreadable _ reason => [error.message, reason]
  | _ => [error.message]

/-- The chain of a tunnel error. -/
def tunnelCauses (error : TunnelError) : List String :=
  match error with
  | .io text => [error.message, text]
  | .spawn _ reason => [error.message, reason]
  | _ => [error.message]

/-- The chain of a key file's error. -/
def keyFileCauses (error : KeyFileError) : List String :=
  match error with
  | .access file => [error.message, file.message]
  | .invalidFormat key =>
    match key with
    | .invalidLength _ => [error.message, key.message]
    | .invalidBase64 flaw => [error.message, key.message, flaw.message]

/-- The chain of an engine error. -/
def engineCauses (error : EngineError) : List String :=
  match error with
  | .tunnel tunnel => error.message :: tunnelCauses tunnel
  | .listing listing => [error.message, listing.message]
  | .probe (.io text) => [error.message, (ProbeError.io text).message, text]
  | .probe probe => [error.message, probe.message]

/-- The chain of a coordinator error. -/
def coordinatorCauses (error : CoordinatorError) : List String :=
  match error with
  | .transport reason => [error.message, reason]
  | .malformed reason => [error.message, reason]
  | _ => [error.message]

/-- The chain of an agent's end. -/
def agentCauses (error : AgentError) : List String :=
  error.message ::
    match error with
    | .settings settings => settingsCauses settings
    | .coordinator coordinator => coordinatorCauses coordinator
    | .keyFile keyFile => keyFileCauses keyFile
    | .engine engine => engineCauses engine
    | .tunnel tunnel => tunnelCauses tunnel
    | .io text => [text]
    | .registration _ => []
    | .reauthentication _ => []

/-! ## The command line -/

/-- How the program is called. -/
def usage : String := "Usage: weftd [OPTIONS]"

/-- The text that explains the options. -/
def help : String :=
  Text.joined "\n"
    ["weft mesh agent", "", usage, "", "Options:",
      "  -c, --config <CONFIG>                    Config file path [env: WEFT_CONFIG=]",
      "      --coordinator-url <COORDINATOR_URL>  Coordinator base URL",
      "      --vpc-id <VPC_ID>                    VPC to join",
      "      --interface <INTERFACE>              Tunnel interface name",
      "      --listen-port <LISTEN_PORT>          WireGuard UDP listen port",
      "      --mode <MODE>                        Tunnel backend: kernel or userspace",
      "      --relay                              Act as the organization's relay node",
      "      --relay-only                         Reach every other peer through the relay",
      "      --insecure-http                      Allow a plain http:// coordinator URL",
      "      --status-listen <STATUS_LISTEN>      Address for the local status API",
      "      --state-dir <STATE_DIR>              Directory holding the private key",
      "      --log-level <LOG_LEVEL>              Log filter [default: info]",
      "      --log-format <LOG_FORMAT>            [default: text] [possible values: text, json]",
      "  -h, --help                               Print help",
      "  -V, --version                            Print version"]

open Settings (Arguments Environment FileContent)

/-- What is wrong with a command line. -/
def complaint : Arguments.Problem → String
  | .unknownArgument word => s!"unexpected argument '{word}' found"
  | .invalidValue => "a value is missing or not allowed for an option"
  | .valueValidation => "invalid value for an option"
  | .argumentConflict => "an option cannot be used multiple times"
  | .tooManyValues => "unexpected value for a flag"
  | .displayHelp => ""
  | .displayVersion => ""

/-- The exit of a command line that is not carried out. -/
def ofProblem (problem : Arguments.Problem) : Exit :=
  match problem with
  | .displayHelp => { output := help ++ "\n" }
  | .displayVersion => { output := version ++ "\n" }
  | _ =>
    { code := 2
      errors := s!"error: {complaint problem}\n\n{usage}\n\nFor more information, try '--help'.\n" }

/-! ## From the start to the end -/

/-- What is said of the log filter. The filter of the environment is taken if nothing is wrong with
it, and the one of the command line otherwise. -/
def filterNotes (environment : Environment) (arguments : Arguments) : String :=
  match (environment Environment.logFilterName).filter fun filter =>
    (LogFilter.flaws filter).isEmpty with
  | some _ => ""
  | none => LogFilter.notes arguments.logLevel

/-- The settings of a call, or how the program ends without any; `content` tells what stands at the
path of a settings file. -/
def prepare (content : String → FileContent) (environment : Environment) (arguments : Arguments) :
    Except Exit Settings :=
  (Settings.load content environment arguments).mapError fun error =>
    failed "failed to load configuration" (settingsCauses error)

/-- The exit of an agent that was stopped or has failed. -/
def ofEnding : Except AgentError Unit → Exit
  | .ok () => {}
  | .error error => failed "weftd exited with an error" (agentCauses error)

/-- An exit with something said before. -/
def Exit.behind (exit : Exit) (said : String) : Exit := { exit with errors := said ++ exit.errors }

/-- A whole call, with an agent that runs on its settings. -/
def run (agent : Settings → Except AgentError Unit) (content : String → FileContent)
    (environment : Environment) (words : List String) : Exit :=
  match Arguments.parse environment words with
  | .error problem => ofProblem problem
  | .ok arguments =>
    let exit := match prepare content environment arguments with
      | .error exit => exit
      | .ok settings => ofEnding (agent settings)
    exit.behind (filterNotes environment arguments)

/-- An agent on a host without a way to the coordinator ends at its first request. -/
def unconnected (_ : Settings) : Except AgentError Unit :=
  .error (.coordinator (.transport "Network is unreachable (os error 101)"))

end MeshNode.Program
