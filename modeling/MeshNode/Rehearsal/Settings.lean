import MeshNode.Rehearsal
import MeshNode.Settings.Sources

/-!
# Rehearsing the settings

Layers one by one and joined, and the settings that a whole set of sources comes to. Secrets are
shown here, because nobody but the rehearsal sees them.
-/

namespace MeshNode.Rehearsal

open Settings (Layer Environment Arguments FileContent)

/-- The environment of a rehearsal: its home directory and the given variables, which may replace
it. -/
def rehearsalEnvironment (assignments : List (String × String)) : Environment := fun name =>
  (assignments.lookup name).or (if name = "HOME" then some "/home/weft" else none)

/-- Variables with their values. -/
def assignments? : Json → Option (List (String × String))
  | .object members => members.mapM fun (name, value) => value.text?.map fun text => (name, text)
  | _ => none

/-- A number as a text, because it may be larger than a number of this format. -/
def countJson (n : Nat) : Json := .string (toString n)

/-- A secret in plain. -/
def secretJson (secret : Secret) : Json := .string secret.expose

/-- A layer with every setting, `null` where it is open. -/
def layerJson (layer : Layer) : Json :=
  let text := Json.nullable Json.string
  let flag := Json.nullable Json.bool
  let count := Json.nullable countJson
  .object
    [("coordinator_url", text layer.coordinator),
      ("vpc_id", text (layer.vpc.map Uuid.print)),
      ("auth_token", Json.nullable secretJson layer.authToken),
      ("username", text layer.user),
      ("password", Json.nullable secretJson layer.password),
      ("insecure_http", flag layer.insecureHttp),
      ("interface", text layer.interface),
      ("listen_port", Json.nullable (fun port => Json.ofNat port.toNat) layer.listenPort),
      ("mode", text (layer.mode.map TunnelKind.name)),
      ("relay", flag layer.relay),
      ("relay_only", flag layer.relayOnly),
      ("advertise_cidrs", Json.nullable PeerRecord.networksJson layer.advertised),
      ("stun_servers", Json.nullable Json.ofTexts layer.stunServers),
      ("reconcile_interval_secs", count layer.reconcileSeconds),
      ("probe_interval_secs", count layer.probeSeconds),
      ("probe_batch_size", count layer.probeBatch),
      ("probe_timeout_ms", count layer.probeMilliseconds),
      ("nat_recheck_interval_secs", count layer.natRecheckSeconds),
      ("status_listen", text (layer.statusListen.map SocketAddress.print)),
      ("state_dir", text layer.stateDirectory)]

/-- The members of checked settings. -/
def settingsMembers (settings : Settings) : List (String × Json) :=
  [("coordinator_url", .string settings.coordinator.print),
    ("vpc_id", .string settings.vpc.print),
    ("auth_token", Json.nullable secretJson settings.authToken),
    ("credentials",
      Json.nullable (fun credentials =>
        .array [.string credentials.user, secretJson credentials.password]) settings.credentials),
    ("interface", .string settings.interface),
    ("listen_port", Json.ofNat settings.listenPort.toNat),
    ("mode", .string settings.mode.name),
    ("relay", .bool settings.relay),
    ("relay_only", .bool settings.relayOnly),
    ("advertise_cidrs", PeerRecord.networksJson settings.advertised),
    ("stun_servers", Json.ofTexts settings.stunServers),
    ("reconcile_interval_secs", countJson settings.reconcileSeconds),
    ("probe_interval_secs", countJson settings.probeSeconds),
    ("probe_batch_size", countJson settings.probeBatch),
    ("probe_timeout_ms", countJson settings.probeMilliseconds),
    ("nat_recheck_interval_secs", countJson settings.natRecheckSeconds),
    ("status_listen", .string settings.statusListen.print),
    ("state_dir", .string settings.stateDirectory)]

/-- An error of the settings, by its kind and wording; those whose wording is not this library's are
shown by their kind alone. -/
def settingsError (error : Settings.Error) : Json :=
  match error with
  | .fileUnreadable _ _ => Json.failure "FileRead"
  | .fileMalformed _ => Json.failure "TomlParse"
  | .invalid field _ =>
    let named := [("error", Json.string "InvalidValue"), ("field", .string field)]
    if field = "WEFT_VPC_ID" then .object named
    else .object (named ++ [("message", .string error.message)])
  | .missing field =>
    .object
      [("error", .string "Missing"), ("field", .string field), ("message", .string error.message)]

/-- The kind of a problem with a command line. -/
def problemKind : Arguments.Problem → String
  | .unknownArgument _ => "UnknownArgument"
  | .invalidValue => "InvalidValue"
  | .valueValidation => "ValueValidation"
  | .argumentConflict => "ArgumentConflict"
  | .tooManyValues => "TooManyValues"
  | .displayHelp => "DisplayHelp"
  | .displayVersion => "DisplayVersion"

/-- A problem with a command line. -/
def problemJson (problem : Arguments.Problem) : Json := Json.failureText "Cli" (problemKind problem)

/-- Read one source of a request. -/
def layerOf (source : Json) : Option (Except Json Layer) := do
  match ← source.optional (Json.listOf? Json.text?) "argv" with
  | some words =>
    let arguments := Arguments.parse (fun _ => none) words
    return (arguments.mapError problemJson).map Arguments.layer
  | none =>
    match ← source.optional assignments? "env" with
    | some assignments =>
      return (Environment.layer fun name => assignments.lookup name).mapError settingsError
    | none =>
      let text ← source.textOf "toml"
      return ((FileContent.text text).layer "weftd.toml").mapError settingsError

/-- An answer that is a value or an error object. -/
def eitherJson {α : Type} (encode : α → Json) : Except Json α → Json
  | .ok value => encode value
  | .error error => error

/-- Rehearse layers. -/
def settingsLayers (request : Json) : Option Json := do
  let layers ← request.listIn layerOf "layers"
  let joined := layers.foldl (fun joined layer =>
    match layer with
    | .ok layer => Layer.merge joined layer
    | .error _ => joined) {}
  let settings := joined.finalize (rehearsalEnvironment []).stateDirectory
  return .ok (.object
    [("layers", .array (layers.map (eitherJson layerJson))),
      ("merged", layerJson joined),
      ("final", eitherJson (fun settings => .object (settingsMembers settings))
        (settings.mapError settingsError))])

/-- The content of a request's settings file. -/
def fileContentOf (request : Json) : Option FileContent := do
  match ← request.optional Json.text? "toml" with
  | some text => return .text text
  | none =>
    match ← request.optional Json.bytes? "toml_hex" with
    | some bytes => return .ofBytes bytes
    | none => return .absent

/-- Directories that every host has. -/
def hostDirectories : List String :=
  ["bin", "dev", "etc", "home", "lib", "opt", "proc", "root", "run", "sbin", "sys", "tmp", "usr",
    "var"]

/-- The files of the host: its directories, and the device that reads as an empty file. -/
def hostFiles : FileTree :=
  let bare : FileTree := {}
  let directories := hostDirectories.foldl (fun tree name => tree.put [name] .directory) bare
  directories.put ["dev", "null"] (.file [] 0o666)

/-- What stands at a path of the host; paths begin in its directory for passing files unless they
begin at the root. -/
def hostContent (path : String) : FileContent :=
  if path.isEmpty then .absent else .ofRead (hostFiles.read ((FilePath.ofText "/tmp").join path))

/-- The path of a request's settings file. -/
def rehearsalFile : String := "/rehearsal/weft/weftd.toml"

/-- The sources of a request: what its file holds, the variables and words that name it, in front
of its own. -/
structure SourceSet where
  content : FileContent
  assignments : List (String × String) := []
  words : List String := []

/-- Put the settings file of a request in its place. -/
def sourceSet? (content : FileContent) (place : String) : Option SourceSet :=
  match place with
  | "flag" => some { content, words := ["--config", rehearsalFile] }
  | "env" => some { content, assignments := [("WEFT_CONFIG", rehearsalFile)] }
  | "xdg" => some { content, assignments := [("XDG_CONFIG_HOME", "/rehearsal")] }
  | "none" => some { content := .absent }
  | "dir" =>
    some
      { content := .unreadable "Is a directory (os error 21)"
        words := ["--config", rehearsalFile] }
  | _ => none

/-- The levels and formats of a log. -/
def logJson (arguments : Arguments) : Json :=
  let format := match arguments.logFormat with
    | .text => "Text"
    | .json => "Json"
  Json.ofTexts [arguments.logLevel, format]

/-- Rehearse all sources together. -/
def settings (request : Json) : Option Json := do
  let content ← fileContentOf request
  let sources ← sourceSet? content (← request.defaulting "flag" Json.text? "file_at")
  let given ← request.defaulting [] assignments? "env"
  let words ← request.listOrEmpty Json.text? "argv"
  let environment := rehearsalEnvironment (sources.assignments ++ given)
  let content := fun path => if path = rehearsalFile then sources.content else hostContent path
  match Arguments.parse environment (sources.words ++ words) with
  | .error problem => return problemJson problem
  | .ok arguments =>
    match Settings.load content environment arguments with
    | .error error => return settingsError error
    | .ok settings =>
      return .ok (.object (settingsMembers settings ++ [("log", logJson arguments)]))

end MeshNode.Rehearsal
