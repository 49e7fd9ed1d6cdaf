import MeshNode.Program
import MeshNode.Rehearsal.Coordination
import MeshNode.Rehearsal.Endpoints
import MeshNode.Rehearsal.Probing

/-!
# Rehearsing the agent and the program

A whole agent on an isolated host, and the program with its exit. An agent there gets as far as
its first request to the coordinator, which is behind the loading of the device's key.
-/

namespace MeshNode.Rehearsal

/-- The key that a device gets that has none. -/
def generatedKey : PrivateKey :=
  ⟨⟨List.replicate 32 7, by simp⟩⟩

/-- The surroundings of an agent on an isolated host, over its files. -/
def isolatedSurroundings : Surroundings FileTree where
  files := FileTree.fileSystem
  stateDirectory := {}
  freshKey files := (generatedKey, files)
  transport := isolatedTransport
  reflectors :=
    { bind := fun _ files => (.ok (), files)
      query := fun _ _ files => (.error (.io unreachable), files) }
  lookup := literalLookup
  ownAddress := .loopback
  hostname := "unknown"
  teardown files := (.ok (), files)
  setup _ files := (.ok (), files)
  tunnel := ⟨fun _ files => (.error .notRunning, files)⟩
  reach _ := ⟨0, .error (.io unreachable)⟩

/-- The files of a device: its key file, if it has one. -/
def deviceFiles (key : Option String) : FileTree :=
  match key with
  | some text => ({} : FileTree).put [KeyFile.name] (.file (Bytes.ofText text) KeyFile.mode)
  | none => {}

/-- The end of an agent. -/
def agentErrorJson (error : AgentError) : Json :=
  match error with
  | .coordinator (.transport _) => undecoded "Coordinator" false
  | .coordinator (.malformed _) => undecoded "Coordinator" true
  | .coordinator _ => Json.failureText "Coordinator" error.message
  | .settings _ => Json.failureText "Config" error.message
  | .keyFile _ => Json.failureText "KeyFile" error.message
  | .engine _ => Json.failureText "Engine" error.message
  | .tunnel _ => Json.failureText "Backend" error.message
  | .io _ => Json.failureText "Io" error.message
  | .registration _ => Json.failureText "Registration" error.message
  | .reauthentication _ => Json.failureText "Reauthentication" error.message

/-- Whether a device still has a key. -/
def keepsKey (files : FileTree) : Bool :=
  (KeyFile.load FileTree.fileSystem (.ofText KeyFile.name) files).1.toOption.isSome

/-- What an agent came to, and what arrived outside of it: nothing. -/
def agentJson (result : Json) (files : FileTree) : Json :=
  .object
    [("result", result), ("registrations", .array []), ("authorization", .object []),
      ("commands", .array []), ("status", .array []), ("key_file_kept", .bool (keepsKey files))]

/-- Rehearse an agent. -/
def agent (request : Json) : Option Json := do
  request.required coordinatorScript? "server"
  let _ ← request.listIn reflectorSpec? "servers"
  let _ ← request.listOrEmpty Json.text? "fail_commands"
  let _ ← request.listOrEmpty Json.text? "status"
  let key ← request.optional Json.text? "key_file"
  match ← agentSettings? request with
  | .error refusal => return refusal
  | .ok settings =>
    let result := match Agent.run isolatedSurroundings settings [] (deviceFiles key) with
      | (.ok _, files) => agentJson (.string "stopped") files
      | (.error error, files) => agentJson (agentErrorJson error) files
    return .ok result

/-- The variables of a program whose coordinator is scripted. -/
def scriptedVariables : List (String × String) :=
  [("WEFT_COORDINATOR_URL", "http://127.0.0.1:20100"), ("WEFT_INSECURE_HTTP", "true")]

/-- Rehearse the program. With a scripted coordinator the answer tells which requests it saw. -/
def program (request : Json) : Option Json := do
  let words ← request.listIn Json.text? "argv"
  let assignments ← request.required assignments? "env"
  let scripted ← request.optional coordinatorScript? "server"
  let own := if scripted.isSome then scriptedVariables else []
  let environment := rehearsalEnvironment (own ++ assignments)
  let exit := Program.run Program.unconnected hostContent environment words
  let code := ("code", Json.ofNat exit.code.toNat)
  match scripted with
  | none =>
    return .ok (.object [code, ("stdout", .string exit.output), ("stderr", .string exit.errors)])
  | some () =>
    return .ok (.object
      [code, ("stderr", .string exit.errors), ("sigterm", .bool false), ("kinds", .array []),
        ("commands", .array [])])

end MeshNode.Rehearsal
