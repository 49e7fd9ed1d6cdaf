import Mathlib
import MeshNode.Proofs.Outcomes
import MeshNode.Proofs.SettingsLayers
import MeshNode.Settings.Environment

/-!
# What the environment says

Every setting has one variable and one way to read it. The layer of the environment says about a
setting what its variable reads as, and nothing where the variable is unset or empty. If some
variable cannot be read there is no layer, and the error names a variable that cannot be read.

One lemma says what a reading does in front of others, so that no setting can be read from
another's variable or put in another's place unnoticed.
-/

namespace MeshNode.Settings

namespace Setting

/-- The variable of a setting. -/
def variableName : Setting → String
  | .coordinator => "WEFT_COORDINATOR_URL"
  | .vpc => "WEFT_VPC_ID"
  | .authToken => "WEFT_AUTH_TOKEN"
  | .user => "WEFT_USERNAME"
  | .password => "WEFT_PASSWORD"
  | .insecureHttp => "WEFT_INSECURE_HTTP"
  | .interface => "WEFT_INTERFACE"
  | .listenPort => "WEFT_LISTEN_PORT"
  | .mode => "WEFT_MODE"
  | .relay => "WEFT_RELAY"
  | .relayOnly => "WEFT_RELAY_ONLY"
  | .advertised => "WEFT_ADVERTISE_CIDRS"
  | .stunServers => "WEFT_STUN_SERVERS"
  | .reconcileSeconds => "WEFT_RECONCILE_INTERVAL_SECS"
  | .probeSeconds => "WEFT_PROBE_INTERVAL_SECS"
  | .probeBatch => "WEFT_PROBE_BATCH_SIZE"
  | .probeMilliseconds => "WEFT_PROBE_TIMEOUT_MS"
  | .natRecheckSeconds => "WEFT_NAT_RECHECK_INTERVAL_SECS"
  | .statusListen => "WEFT_STATUS_LISTEN"
  | .stateDirectory => "WEFT_STATE_DIR"

/-- A text says that something is true. -/
def saysTrue (text : String) : Bool := Text.sameIgnoringCase text "true" || text == "1"

/-- The items of a text between commas, trimmed and without the empty ones. -/
def itemsOf (text : String) : List String :=
  ((Text.splitAt ',' text.toList).map fun item => String.ofList (Text.trim item)).filter
    fun item => !item.isEmpty

/-- A number of at most 64 bits. -/
def count? (text : String) : Option Nat := (Text.unsigned (2 ^ 64) text).toOption

/-- What the text of a setting's variable means, if it means anything. -/
def ofVariable : (setting : Setting) → String → Option setting.Value
  | .coordinator, text => some text
  | .vpc, text => Uuid.parse? text
  | .authToken, text => some ⟨text⟩
  | .user, text => some text
  | .password, text => some ⟨text⟩
  | .insecureHttp, text => some (saysTrue text)
  | .interface, text => some text
  | .listenPort, text => (Text.unsigned (2 ^ 16) text).toOption.map UInt16.ofNat
  | .mode, text => TunnelKind.ofName? (Text.asciiLower text)
  | .relay, text => some (saysTrue text)
  | .relayOnly, text => some (saysTrue text)
  | .advertised, text => (itemsOf text).mapM Network.parse?
  | .stunServers, text => some (itemsOf text)
  | .reconcileSeconds, text => count? text
  | .probeSeconds, text => count? text
  | .probeBatch, text => count? text
  | .probeMilliseconds, text => count? text
  | .natRecheckSeconds, text => count? text
  | .statusListen, text => SocketAddress.parse? text
  | .stateDirectory, text => some text

/-- The variables that may be wrong are those of identifiers, modes, addresses, prefixes and
numbers. -/
def canBeWrong : Setting → Bool
  | .vpc | .listenPort | .mode | .advertised | .reconcileSeconds | .probeSeconds | .probeBatch
  | .probeMilliseconds | .natRecheckSeconds | .statusListen => true
  | _ => false

end Setting

namespace Environment

variable (environment : Environment)

/-- What the environment says about a setting. -/
def supplied (setting : Setting) : Option setting.Value :=
  (environment.value? setting.variableName).bind setting.ofVariable

/-- A variable is set to a text, and not to the empty one. -/
def IsSet (name text : String) : Prop := environment name = some text ∧ text ≠ ""

theorem value?_eq_some_iff (name text : String) :
    environment.value? name = some text ↔ environment.IsSet name text := by
  simp [value?, IsSet, Option.filter_eq_some_iff]

/-- The variable of a setting is set, and its text means nothing. -/
def Misreads (setting : Setting) : Prop :=
  ∃ text, environment.IsSet setting.variableName text ∧ setting.ofVariable text = none

/-- A wrong variable belongs to a setting whose values are not just any text. -/
theorem Misreads.canBeWrong {setting : Setting} (misread : environment.Misreads setting) :
    setting.canBeWrong = true := by
  obtain ⟨text, -, meaningless⟩ := misread
  cases setting <;> first | rfl | cases meaningless

/-- The outcome of reading a setting's variable: what the environment says, or an error that names
the variable. -/
def Reads (setting : Setting) : Except Error (Option setting.Value) → Prop
  | .ok value => ¬environment.Misreads setting ∧ value = environment.supplied setting
  | .error error => environment.Misreads setting ∧
      ∃ message, error = .invalid setting.variableName message

/-- The outcome of reading the variables of some settings and of building the layer then: all that
the environment says, or an error that names a variable that cannot be read. -/
def Yields (settings : List Setting) : Except Error Layer → Prop
  | .ok layer => (∀ setting ∈ settings, ¬environment.Misreads setting) ∧
      ∀ setting, layer.get setting = environment.supplied setting
  | .error error => ∃ setting message, environment.Misreads setting ∧
      error = .invalid setting.variableName message

variable {environment}

/-- A reading is right if it is right about the unset variable and about every text. -/
theorem Reads.of_texts {setting : Setting} {outcome : Except Error (Option setting.Value)}
    (unset : environment.value? setting.variableName = none → outcome = .ok none)
    (meant : ∀ text value, environment.value? setting.variableName = some text →
      setting.ofVariable text = some value → outcome = .ok (some value))
    (wrong : ∀ text, environment.value? setting.variableName = some text →
      setting.ofVariable text = none →
        ∃ message, outcome = .error (.invalid setting.variableName message)) :
    environment.Reads setting outcome := by
  cases found : environment.value? setting.variableName with
  | none =>
    rw [unset found]
    exact ⟨by simp [Misreads, ← value?_eq_some_iff, found],
      by rw [supplied, found, Option.bind_none]⟩
  | some text =>
    cases read : setting.ofVariable text with
    | some value =>
      rw [meant text value found read]
      refine ⟨?_, by rw [supplied, found, Option.bind_some, read]⟩
      simp [Misreads, ← value?_eq_some_iff, found, read]
    | none =>
      obtain ⟨message, named⟩ := wrong text found read
      rw [named]
      exact ⟨⟨text, (environment.value?_eq_some_iff _ _).mp found, read⟩, message, rfl⟩

/-- A reading in front of others: what follows gets what the environment says. -/
theorem Reads.bind {setting : Setting} {settings : List Setting}
    {first : Except Error (Option setting.Value)} {next : Option setting.Value → Except Error Layer}
    (front : environment.Reads setting first)
    (behind : environment.Yields settings (next (environment.supplied setting))) :
    environment.Yields (setting :: settings) (first >>= next) := by
  cases first with
  | error error =>
    obtain ⟨misread, message, named⟩ := front
    exact ⟨setting, message, misread, named⟩
  | ok value =>
    obtain ⟨clean, rfl⟩ := front
    change environment.Yields _ (next (environment.supplied setting))
    cases outcome : next (environment.supplied setting) with
    | error error =>
      rw [outcome] at behind
      exact behind
    | ok layer =>
      rw [outcome] at behind
      exact ⟨List.forall_mem_cons.mpr ⟨clean, behind.1⟩, behind.2⟩

variable (environment)

/-! ## The readings -/

/-- A text that a reader takes exactly where it means something is read right. -/
theorem reading_reads (setting : Setting) (read : String → Except String setting.Value)
    (agrees : ∀ text, (read text).toOption = setting.ofVariable text) :
    environment.Reads setting (environment.reading read setting.variableName) := by
  refine Reads.of_texts ?_ ?_ ?_
  · intro unset
    rw [reading, unset]
  · intro text value found meant
    rw [← agrees] at meant
    cases outcome : read text with
    | error reason => simp [outcome, Except.toOption] at meant
    | ok result =>
      rw [outcome] at meant
      obtain rfl : result = value := Option.some.inj meant
      simp only [reading, found, outcome]
  · intro text found meaningless
    rw [← agrees] at meaningless
    cases outcome : read text with
    | error reason =>
      refine ⟨s!"'{text}': {reason}", ?_⟩
      simp only [reading, found, outcome]
    | ok result => simp [outcome, Except.toOption] at meaningless

theorem toOption_orElse {α : Type} (reason : String) (result : Option α) :
    (orElse reason result).toOption = result := by
  cases result <;> rfl

theorem toOption_count (text : String) : (count text).toOption = Setting.count? text := by
  unfold count number Setting.count?
  have bound : 1 <<< 64 = 2 ^ 64 := by decide
  rw [bound]
  cases Text.unsigned (2 ^ 64) text <;> rfl

theorem toOption_port (text : String) :
    (port text).toOption = (Text.unsigned (2 ^ 16) text).toOption.map UInt16.ofNat := by
  unfold port number
  cases Text.unsigned 65536 text <;> rfl

theorem mode_reads :
    environment.Reads .mode (environment.mode Setting.mode.variableName) := by
  refine Reads.of_texts ?_ ?_ ?_
  · intro unset
    rw [mode, unset]
  · intro text value found meant
    rw [mode, found]
    have named : TunnelKind.ofName? (Text.asciiLower text) = some value := meant
    simp only [modeNamed, named, orElse, Except.map, Except.mapError]
  · intro text found meaningless
    rw [mode, found]
    have unknown : TunnelKind.ofName? (Text.asciiLower text) = none := meaningless
    simp only [modeNamed, unknown, orElse, Except.map, Except.mapError]
    exact ⟨_, rfl⟩

/-- Reading one item after the other comes to what reading them all means. -/
theorem toOption_mapM {ε α β : Type} (read : α → Except ε β) (meaning : α → Option β)
    (agrees : ∀ item, (read item).toOption = meaning item) (items : List α) :
    (items.mapM read).toOption = items.mapM meaning := by
  induction items with
  | nil => rfl
  | cons item rest inductionHypothesis =>
    rw [List.mapM_cons, List.mapM_cons, ← agrees, ← inductionHypothesis]
    cases read item with
    | error reason => rfl
    | ok value => cases rest.mapM read <;> rfl

/-- The reason why items cannot be read is that of one of them. -/
theorem error_of_mapM {ε α β : Type} (read : α → Except ε β) (items : List α) (reason : ε)
    (failed : items.mapM read = .error reason) : ∃ item, read item = .error reason := by
  induction items with
  | nil => cases failed
  | cons item rest inductionHypothesis =>
    rw [List.mapM_cons] at failed
    cases first : read item with
    | error other =>
      rw [first] at failed
      cases failed
      exact ⟨item, first⟩
    | ok value =>
      rw [first] at failed
      cases others : rest.mapM read with
      | error other =>
        rw [others] at failed
        cases failed
        exact inductionHypothesis others
      | ok values =>
        rw [others] at failed
        cases failed

theorem networks_reads :
    environment.Reads .advertised (environment.networks Setting.advertised.variableName) := by
  let read := fun item => (network item).mapError fun reason =>
    Error.invalid Setting.advertised.variableName s!"'{item}': {reason}"
  have agrees (item : String) : (read item).toOption = Network.parse? item := by
    unfold read network orElse
    cases Network.parse? item <;> rfl
  have unfolded (text : String)
      (found : environment.value? Setting.advertised.variableName = some text) :
      environment.networks Setting.advertised.variableName =
        ((Setting.itemsOf text).mapM read).map some := by
    have items : environment.items? Setting.advertised.variableName =
        some (Setting.itemsOf text) := by
      rw [items?, found]
      rfl
    rw [networks, items]
    rfl
  have meaning (text : String) : ((Setting.itemsOf text).mapM read).toOption =
      Setting.ofVariable .advertised text := toOption_mapM read _ agrees _
  refine Reads.of_texts ?_ ?_ ?_
  · intro unset
    rw [networks, items?, unset]
    rfl
  · intro text value found meant
    rw [unfolded text found]
    rw [← meaning] at meant
    cases outcome : (Setting.itemsOf text).mapM read with
    | error reason =>
      rw [outcome] at meant
      cases meant
    | ok values =>
      rw [outcome] at meant
      cases meant
      rfl
  · intro text found meaningless
    rw [unfolded text found]
    rw [← meaning] at meaningless
    cases outcome : (Setting.itemsOf text).mapM read with
    | error reason =>
      obtain ⟨item, failed⟩ := error_of_mapM read _ reason outcome
      have named : ∃ message, reason = .invalid Setting.advertised.variableName message := by
        unfold read network orElse at failed
        cases parsed : Network.parse? item with
        | some network =>
          rw [parsed] at failed
          cases failed
        | none =>
          rw [parsed] at failed
          exact ⟨_, (Except.error.inj failed).symm⟩
      obtain ⟨message, rfl⟩ := named
      exact ⟨message, rfl⟩
    | ok values =>
      rw [outcome] at meaningless
      cases meaningless

/-! ## The whole layer -/

/-- The settings whose variables may be wrong, in the order in which they are read. -/
def readOrder : List Setting :=
  [.vpc, .listenPort, .mode, .advertised, .reconcileSeconds, .probeSeconds, .probeBatch,
    .probeMilliseconds, .natRecheckSeconds, .statusListen]

theorem mem_readOrder_iff (setting : Setting) :
    setting ∈ readOrder ↔ setting.canBeWrong = true := by
  cases setting <;> decide

/-- The layer of the environment is built from the readings. -/
theorem layer_yields : environment.Yields readOrder environment.layer := by
  have identifiers (text : String) : (identifier text).toOption = Uuid.parse? text :=
    toOption_orElse _ _
  have sockets (text : String) : (socket text).toOption = SocketAddress.parse? text :=
    toOption_orElse _ _
  refine Reads.bind (environment.reading_reads .vpc identifier identifiers) ?_
  refine Reads.bind (environment.reading_reads .listenPort port toOption_port) ?_
  refine Reads.bind environment.mode_reads ?_
  refine Reads.bind environment.networks_reads ?_
  refine Reads.bind (environment.reading_reads .reconcileSeconds count toOption_count) ?_
  refine Reads.bind (environment.reading_reads .probeSeconds count toOption_count) ?_
  refine Reads.bind (environment.reading_reads .probeBatch count toOption_count) ?_
  refine Reads.bind (environment.reading_reads .probeMilliseconds count toOption_count) ?_
  refine Reads.bind (environment.reading_reads .natRecheckSeconds count toOption_count) ?_
  refine Reads.bind (environment.reading_reads .statusListen socket sockets) ?_
  refine ⟨nofun, fun setting => ?_⟩
  cases setting
  case coordinator | user | interface | stateDirectory => exact (Option.bind_fun_some _).symm
  case authToken | password | insecureHttp | relay | relayOnly | stunServers =>
    exact Option.map_eq_bind
  all_goals rfl

/-- Either every variable can be read, and the layer of the environment says of every setting what
its own variable says, or the error names a variable that cannot be read. -/
theorem layer_cases :
    (∃ layer, environment.layer = .ok layer ∧ (∀ setting, ¬environment.Misreads setting) ∧
      ∀ setting, layer.get setting = environment.supplied setting) ∨
    ∃ setting message, environment.Misreads setting ∧
      environment.layer = .error (.invalid setting.variableName message) := by
  have yielded := environment.layer_yields
  cases outcome : environment.layer with
  | ok layer =>
    rw [outcome] at yielded
    obtain ⟨clean, said⟩ := yielded
    refine Or.inl ⟨layer, rfl, fun setting misread => ?_, said⟩
    exact clean setting ((mem_readOrder_iff setting).mpr misread.canBeWrong) misread
  | error error =>
    rw [outcome] at yielded
    obtain ⟨setting, message, misread, rfl⟩ := yielded
    exact Or.inr ⟨setting, message, misread, rfl⟩

end Environment

end MeshNode.Settings
