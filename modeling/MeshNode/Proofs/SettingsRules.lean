import MeshNode.Settings

/-!
# Which settings are accepted

There are eleven rules for joined layers. Settings come out exactly if all of them are kept, and
then each setting is what the layers say or its default. Otherwise the error names the setting of
the first rule, in a fixed order, that is broken.

The rules speak about the layer alone. Each check is shown to test its rule and nothing else, and
one lemma says what a check does in front of others.
-/

namespace MeshNode

namespace Url

/-- The scheme of a text that is an address, a web address or not. -/
def schemeOf? (text : String) : Option String :=
  match parse text with
  | .ok url => some url.scheme
  | .error (.foreignScheme scheme) => some scheme
  | .error (.malformed _) => none

theorem scheme_eq_https_iff (url : Url) : url.scheme = "https" ↔ url.secure = true := by
  cases secure : url.secure <;> simp [scheme, secure]

theorem scheme_eq_http_iff (url : Url) : url.scheme = "http" ↔ url.secure = false := by
  cases secure : url.secure <;> simp [scheme, secure]

/-- A scheme is foreign only if it is none of the two web schemes. -/
theorem not_web_of_foreignScheme {text scheme : String}
    (refused : parse text = .error (.foreignScheme scheme)) :
    scheme ≠ "http" ∧ scheme ≠ "https" := by
  unfold parse at refused
  split at refused
  · cases refused
  · rename_i found rest split
    split at refused
    · cases read : readAuthority (found = "https") (rest.dropWhile isSlash) with
      | ok url =>
        rw [read] at refused
        cases refused
      | error flaw =>
        rw [read] at refused
        cases refused
    · rename_i foreign
      split at refused
      · cases refused
      · cases refused
        exact not_or.mp foreign

end Url

namespace Settings

/-- The setting that an error is about. -/
def Error.setting? : Error → Option String
  | .invalid field _ => some field
  | .missing field => some field
  | .fileUnreadable _ _ => none
  | .fileMalformed _ => none

/-- The rules that joined layers have to keep. -/
inductive Rule where
  | coordinator
  | vpc
  | credentials
  | login
  | interface
  | probeBatch
  | relay
  | reconcileSeconds
  | probeSeconds
  | probeMilliseconds
  | natRecheckSeconds
  deriving DecidableEq

/-- The order in which the rules are looked at. -/
def Rule.order : List Rule :=
  [.coordinator, .vpc, .credentials, .login, .interface, .probeBatch, .relay, .reconcileSeconds,
    .probeSeconds, .probeMilliseconds, .natRecheckSeconds]

/-- No rule is forgotten. -/
theorem Rule.mem_order (rule : Rule) : rule ∈ Rule.order := by
  cases rule <;> decide

namespace Layer

variable {layer : Layer}

/-- A layer keeps a rule. -/
def Keeps (layer : Layer) : Rule → Prop
  | .coordinator => ∃ text, layer.coordinator = some text ∧
      (Url.schemeOf? text = some "https" ∨
        Url.schemeOf? text = some "http" ∧ layer.insecureHttp = some true)
  | .vpc => ∃ vpc, layer.vpc = some vpc
  | .credentials => layer.user.isSome = layer.password.isSome
  | .login => (∃ token, layer.authToken = some token ∧ token.expose ≠ "") ∨
      (layer.user.isSome ∧ layer.password.isSome)
  | .interface => 1 ≤ (layer.interface.getD "wg0").utf8ByteSize ∧
      (layer.interface.getD "wg0").utf8ByteSize ≤ 15
  | .probeBatch => layer.probeBatch.getD 10 ≠ 0
  | .relay => ¬ (layer.relay = some true ∧ layer.relayOnly = some true)
  | .reconcileSeconds => layer.reconcileSeconds.getD 5 ≠ 0
  | .probeSeconds => layer.probeSeconds.getD 30 ≠ 0
  | .probeMilliseconds => layer.probeMilliseconds.getD 1200 ≠ 0
  | .natRecheckSeconds => layer.natRecheckSeconds.getD 20 ≠ 0

/-- Every default passes its check: a layer that says nothing breaks the rules that ask for
something, and no other. -/
theorem empty_keeps_iff (rule : Rule) :
    ({} : Layer).Keeps rule ↔ rule ∉ [.coordinator, .vpc, .login] := by
  cases rule with
  | interface =>
    have fits : 1 ≤ "wg0".utf8ByteSize ∧ "wg0".utf8ByteSize ≤ 15 := by decide
    simpa [Keeps] using fits
  | _ => simp [Keeps]

/-- The setting that is named if a layer breaks a rule. Of the credentials it is the part that is
not given. -/
def blamed (layer : Layer) : Rule → String
  | .coordinator => "coordinator_url"
  | .vpc => "vpc_id"
  | .credentials => if layer.user.isSome then "password" else "username"
  | .login => "auth_token or username/password"
  | .interface => "interface"
  | .probeBatch => "probe_batch_size"
  | .relay => "relay_only"
  | .reconcileSeconds => "reconcile_interval_secs"
  | .probeSeconds => "probe_interval_secs"
  | .probeMilliseconds => "probe_timeout_ms"
  | .natRecheckSeconds => "nat_recheck_interval_secs"

/-- The settings that a layer stands for: what it says, and the defaults where it says nothing. An
empty token is none, and credentials are there if both of their parts are. -/
structure Resolves (layer : Layer) (stateDirectory : String) (settings : Settings) : Prop where
  coordinator : ∃ text, layer.coordinator = some text ∧ Url.parse text = .ok settings.coordinator
  vpc : layer.vpc = some settings.vpc
  authToken : ∀ token, settings.authToken = some token ↔
    layer.authToken = some token ∧ token.expose ≠ ""
  credentials : ∀ credentials, settings.credentials = some credentials ↔
    layer.user = some credentials.user ∧ layer.password = some credentials.password
  interface : settings.interface = layer.interface.getD "wg0"
  listenPort : settings.listenPort = layer.listenPort.getD 51820
  mode : settings.mode = layer.mode.getD .kernel
  relay : settings.relay = layer.relay.getD false
  relayOnly : settings.relayOnly = layer.relayOnly.getD false
  advertised : settings.advertised = layer.advertised.getD []
  stunServers : settings.stunServers = layer.stunServers.getD []
  reconcileSeconds : settings.reconcileSeconds = layer.reconcileSeconds.getD 5
  probeSeconds : settings.probeSeconds = layer.probeSeconds.getD 30
  probeBatch : settings.probeBatch = layer.probeBatch.getD 10
  probeMilliseconds : settings.probeMilliseconds = layer.probeMilliseconds.getD 1200
  natRecheckSeconds : settings.natRecheckSeconds = layer.natRecheckSeconds.getD 20
  statusListen : settings.statusListen =
    layer.statusListen.getD { address := .loopback, port := 7733 }
  stateDirectory : settings.stateDirectory = layer.stateDirectory.getD stateDirectory

/-! ## Sequences of checks -/

/-- A rule is the first one of some rules that a layer breaks. -/
def BreaksFirst (layer : Layer) (rules : List Rule) (rule : Rule) : Prop :=
  ∃ before after, rules = before ++ rule :: after ∧
    (∀ earlier ∈ before, layer.Keeps earlier) ∧ ¬ layer.Keeps rule

/-- An outcome is what some rules ask for: a value of the right kind if they are kept, and otherwise
an error that names the setting of the first one that is broken. -/
def Settles {α : Type} (layer : Layer) (rules : List Rule) (Right : α → Prop) :
    Except Error α → Prop
  | .ok value => (∀ rule ∈ rules, layer.Keeps rule) ∧ Right value
  | .error error => ∃ rule, layer.BreaksFirst rules rule ∧
      error.setting? = some (layer.blamed rule)

namespace Settles

variable {α β : Type} {rule : Rule} {rules : List Rule} {Right : α → Prop}

theorem of_kept {value : α} (kept : layer.Keeps rule) (right : Right value) :
    layer.Settles [rule] Right (.ok value) := by
  refine ⟨fun other member => ?_, right⟩
  obtain rfl := List.mem_singleton.mp member
  exact kept

theorem of_broken {error : Error} (broken : ¬ layer.Keeps rule)
    (named : error.setting? = some (layer.blamed rule)) :
    layer.Settles [rule] Right (.error error) :=
  ⟨rule, ⟨[], [], rfl, nofun, broken⟩, named⟩

/-- A check that tests a condition settles the rule that asks for it. -/
theorem of_condition {condition : Prop} [Decidable condition] {check : Except Error α} {value : α}
    {error : Error} (checked : check = if condition then .ok value else .error error)
    (asks : layer.Keeps rule ↔ condition) (right : condition → Right value)
    (named : error.setting? = some (layer.blamed rule)) : layer.Settles [rule] Right check := by
  subst checked
  split
  · rename_i holds
    exact of_kept (asks.mpr holds) (right holds)
  · rename_i fails
    exact of_broken (fun kept => fails (asks.mp kept)) named

/-- A check in front of others: what it settles, and then what they settle with its value. -/
theorem bind {Next : β → Prop} {first : Except Error α} {next : α → Except Error β}
    (front : layer.Settles [rule] Right first)
    (behind : ∀ value, Right value → layer.Settles rules Next (next value)) :
    layer.Settles (rule :: rules) Next (first >>= next) := by
  cases first with
  | error error =>
    obtain ⟨broken, ⟨before, after, listed, kept, breaks⟩, named⟩ := front
    refine ⟨broken, ⟨before, after ++ rules, ?_, kept, breaks⟩, named⟩
    rw [← List.singleton_append, listed, List.append_assoc, List.cons_append]
  | ok value =>
    obtain ⟨kept, right⟩ := front
    have keptFirst : layer.Keeps rule := kept rule (List.mem_singleton_self rule)
    change layer.Settles (rule :: rules) Next (next value)
    have settled := behind value right
    cases outcome : next value with
    | error error =>
      rw [outcome] at settled
      obtain ⟨broken, ⟨before, after, listed, keptBefore, breaks⟩, named⟩ := settled
      refine ⟨broken, ⟨rule :: before, after, by rw [listed, List.cons_append], ?_, breaks⟩, named⟩
      exact List.forall_mem_cons.mpr ⟨keptFirst, keptBefore⟩
    | ok result =>
      rw [outcome] at settled
      exact ⟨List.forall_mem_cons.mpr ⟨keptFirst, settled.1⟩, settled.2⟩

end Settles

/-! ## The checks -/

theorem given_settles {α : Type} {rule : Rule} (field : String) (setting : Option α)
    (asks : layer.Keeps rule ↔ ∃ value, setting = some value) (named : layer.blamed rule = field) :
    layer.Settles [rule] (fun value => setting = some value) (given field setting) := by
  cases setting with
  | none => exact .of_broken (fun kept => by simpa using asks.mp kept) (congrArg some named.symm)
  | some value => exact .of_kept (asks.mpr ⟨value, rfl⟩) rfl

theorem positive_settles {rule : Rule} (field : String) (value : Nat)
    (asks : layer.Keeps rule ↔ value ≠ 0) (named : layer.blamed rule = field) :
    layer.Settles [rule] (· = value) (positive field value) :=
  .of_condition (ite_not ..).symm asks (fun _ => rfl) (congrArg some named.symm)

theorem coordinatorOf_settles (layer : Layer) :
    layer.Settles [.coordinator]
      (fun url => ∃ text, layer.coordinator = some text ∧ Url.parse text = .ok url)
      layer.coordinatorOf := by
  cases written : layer.coordinator with
  | none =>
    rw [coordinatorOf, written]
    refine .of_broken (fun kept => ?_) rfl
    obtain ⟨text, given, _⟩ := kept
    cases written.symm.trans given
  | some text =>
    have asks : layer.Keeps .coordinator ↔ Url.schemeOf? text = some "https" ∨
        Url.schemeOf? text = some "http" ∧ layer.insecureHttp = some true := by
      simp [Keeps, written]
    simp only [coordinatorOf, written, given, bind, Except.bind]
    split
    · rename_i url read
      refine .of_condition rfl ?_ (fun _ => ⟨text, rfl, read⟩) rfl
      rw [asks]
      simp only [Url.schemeOf?, read, Option.some.injEq, Url.scheme_eq_https_iff,
        Url.scheme_eq_http_iff]
      cases url.secure <;> cases layer.insecureHttp <;> simp
    · rename_i flaw read
      refine .of_broken (fun kept => ?_) rfl
      simpa [Url.schemeOf?, read] using asks.mp kept
    · rename_i scheme read
      have foreign := Url.not_web_of_foreignScheme read
      refine .of_broken (fun kept => ?_) rfl
      simpa [Url.schemeOf?, read, foreign] using asks.mp kept

theorem credentialsOf_settles (layer : Layer) :
    layer.Settles [.credentials]
      (fun found => ∀ credentials, found = some credentials ↔
        layer.user = some credentials.user ∧ layer.password = some credentials.password)
      layer.credentialsOf := by
  unfold credentialsOf
  cases user : layer.user with
  | none =>
    cases password : layer.password with
    | none => exact .of_kept (by simp [Keeps, user, password]) (by simp)
    | some _ =>
      refine .of_broken (by simp [Keeps, user, password]) ?_
      simp [Error.setting?, blamed, user]
  | some _ =>
    cases password : layer.password with
    | none =>
      refine .of_broken (by simp [Keeps, user, password]) ?_
      simp [Error.setting?, blamed, user]
    | some _ =>
      refine .of_kept (by simp [Keeps, user, password]) ?_
      rintro ⟨_, _⟩
      simp

theorem tokenOf_eq_some_iff (layer : Layer) (token : Secret) :
    layer.tokenOf = some token ↔ layer.authToken = some token ∧ token.expose ≠ "" := by
  simp [tokenOf, Option.filter_eq_some_iff, Secret.isEmpty]

theorem checkLogin_settles (found : Option Credentials)
    (bothGiven : ∀ credentials, found = some credentials ↔
      layer.user = some credentials.user ∧ layer.password = some credentials.password) :
    layer.Settles [.login] (fun _ => True) (checkLogin layer.tokenOf found) := by
  have token : (∃ token, layer.authToken = some token ∧ token.expose ≠ "") ↔
      layer.tokenOf.isSome := by
    simp only [Option.isSome_iff_exists, tokenOf_eq_some_iff]
  have both : (layer.user.isSome ∧ layer.password.isSome) ↔ found.isSome := by
    simp only [Option.isSome_iff_exists, bothGiven]
    constructor
    · rintro ⟨⟨user, named⟩, password, known⟩
      exact ⟨⟨user, password⟩, named, known⟩
    · rintro ⟨credentials, named, known⟩
      exact ⟨⟨_, named⟩, _, known⟩
  refine .of_condition (ite_not ..).symm ?_ (fun _ => trivial) rfl
  rw [Keeps, token, both]
  cases layer.tokenOf <;> cases found <;> simp

theorem interfaceOf_settles (layer : Layer) :
    layer.Settles [.interface] (· = layer.interface.getD "wg0") layer.interfaceOf := by
  refine .of_condition (ite_not ..).symm ?_ (fun _ => rfl) rfl
  rw [Keeps]
  generalize layer.interface.getD "wg0" = name
  simp only [Bool.or_eq_true, decide_eq_true_eq, String.isEmpty, beq_iff_eq]
  have most : maxInterfaceName = 15 := rfl
  omega

theorem checkRelay_settles (layer : Layer) :
    layer.Settles [.relay] (fun _ => True)
      (checkRelay (layer.relay.getD false) (layer.relayOnly.getD false)) := by
  refine .of_condition (ite_not ..).symm ?_ (fun _ => trivial) rfl
  rw [Keeps]
  cases layer.relay <;> cases layer.relayOnly <;> simp

/-- The whole check settles all rules, one after the other. -/
theorem finalize_settles (stateDirectory : String) (layer : Layer) :
    layer.Settles Rule.order (layer.Resolves stateDirectory) (layer.finalize stateDirectory) := by
  refine .bind layer.coordinatorOf_settles fun coordinator readAddress => ?_
  refine .bind (given_settles "vpc_id" layer.vpc Iff.rfl rfl) fun vpc givenVpc => ?_
  refine .bind layer.credentialsOf_settles fun credentials bothGiven => ?_
  refine .bind (checkLogin_settles credentials bothGiven) fun _ _ => ?_
  refine .bind layer.interfaceOf_settles fun interface named => ?_
  refine .bind (positive_settles _ _ Iff.rfl rfl) fun probeBatch batched => ?_
  refine .bind layer.checkRelay_settles fun _ _ => ?_
  refine .bind (positive_settles _ _ Iff.rfl rfl) fun reconcileSeconds reconciled => ?_
  refine .bind (positive_settles _ _ Iff.rfl rfl) fun probeSeconds probed => ?_
  refine .bind (positive_settles _ _ Iff.rfl rfl) fun probeMilliseconds timed => ?_
  refine .bind (positive_settles _ _ Iff.rfl rfl) fun natRecheckSeconds rechecked => ?_
  refine ⟨nofun, ?_⟩
  exact {
    coordinator := readAddress
    vpc := givenVpc
    authToken := layer.tokenOf_eq_some_iff
    credentials := bothGiven
    interface := named
    listenPort := rfl
    mode := rfl
    relay := rfl
    relayOnly := rfl
    advertised := rfl
    stunServers := rfl
    reconcileSeconds := reconciled
    probeSeconds := probed
    probeBatch := batched
    probeMilliseconds := timed
    natRecheckSeconds := rechecked
    statusListen := rfl
    stateDirectory := rfl }

/-- Joined layers give settings exactly if they keep every rule. The settings are then what the
layers say, with the defaults; otherwise the first rule that is broken is the one that the error
names. -/
theorem finalize_exact (stateDirectory : String) (layer : Layer) :
    ((∃ settings, layer.finalize stateDirectory = .ok settings) ↔ ∀ rule, layer.Keeps rule) ∧
      (∀ settings, layer.finalize stateDirectory = .ok settings →
        layer.Resolves stateDirectory settings) ∧
      (∀ error, layer.finalize stateDirectory = .error error →
        ∃ rule, layer.BreaksFirst Rule.order rule ∧
          error.setting? = some (layer.blamed rule)) := by
  have settled := layer.finalize_settles stateDirectory
  cases outcome : layer.finalize stateDirectory with
  | ok settings =>
    rw [outcome] at settled
    obtain ⟨kept, resolved⟩ := settled
    refine ⟨⟨fun _ rule => kept rule rule.mem_order, fun _ => ⟨settings, rfl⟩⟩, ?_, nofun⟩
    rintro _ ⟨⟩
    exact resolved
  | error error =>
    rw [outcome] at settled
    obtain ⟨rule, first, named⟩ := settled
    refine ⟨⟨?_, fun kept => ?_⟩, ?_, ?_⟩
    · rintro ⟨_, ⟨⟩⟩
    · obtain ⟨_, _, _, _, breaks⟩ := first
      exact absurd (kept rule) breaks
    · rintro _ ⟨⟩
    · rintro _ ⟨⟩
      exact ⟨rule, first, named⟩

end Layer

end Settings

end MeshNode
