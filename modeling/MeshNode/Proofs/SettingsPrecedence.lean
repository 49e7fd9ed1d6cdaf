import MeshNode.Proofs.CommandLines
import MeshNode.Settings.Sources

/-!
# Which source counts

For each of the twenty settings the command line counts where it says something, then the
setting's own variable where that is set and not empty, and then the file. What is not said above
never hides what is said below, and neither does an unset or empty variable. A variable that is
set and cannot be read refuses the settings, whatever the other sources say; the error names such
a variable.

Every source has its own law; here they meet in the law of joining layers.
-/

namespace MeshNode.Settings

/-- Joined settings are what the highest source that says something says. -/
structure Precedence (words : List String) (environment : Environment) (file joined : Layer) :
    Prop where
  fromCommandLine : ∀ setting value, Arguments.Says words setting value →
    joined.get setting = some value
  fromEnvironment : ∀ setting, (∀ value, ¬Arguments.Says words setting value) →
    ∀ text, environment.IsSet setting.variableName text →
      ∃ value, setting.ofVariable text = some value ∧ joined.get setting = some value
  fromFile : ∀ setting, (∀ value, ¬Arguments.Says words setting value) →
    (∀ text, ¬environment.IsSet setting.variableName text) →
      joined.get setting = file.get setting

section Joining

variable {environment : Environment} {words : List String} {arguments : Arguments}
  (parsed : Arguments.parse environment words = .ok arguments)

include parsed

/-- The three layers together are what the highest source says. -/
theorem precedence_of_merge (clean : ∀ setting, ¬environment.Misreads setting) {layer : Layer}
    (said : ∀ setting, layer.get setting = environment.supplied setting) (file : Layer) :
    Precedence words environment file ((file.merge layer).merge arguments.layer) := by
  have silent {setting : Setting} (unsaid : ∀ value, ¬Arguments.Says words setting value) :
      arguments.layer.get setting = none := by
    rw [Option.eq_none_iff_forall_ne_some]
    exact fun value given => unsaid value ((Arguments.parse_get_iff parsed setting value).mp given)
  refine ⟨fun setting value given => ?_, fun setting unsaid text set => ?_,
    fun setting unsaid unset => ?_⟩
  · rw [Layer.get_merge, (Arguments.parse_get_iff parsed setting value).mpr given, Option.some_or]
  · rw [Layer.get_merge, silent unsaid, Option.none_or, Layer.get_merge, said, Environment.supplied,
      (environment.value?_eq_some_iff _ _).mpr set, Option.bind_some]
    cases read : setting.ofVariable text with
    | none => exact absurd ⟨text, set, read⟩ (clean setting)
    | some value => exact ⟨value, rfl, Option.some_or⟩
  · have none : environment.value? setting.variableName = none := by
      rw [Option.eq_none_iff_forall_ne_some]
      exact fun text found => unset text ((environment.value?_eq_some_iff _ _).mp found)
    rw [Layer.get_merge, silent unsaid, Option.none_or, Layer.get_merge, said, Environment.supplied,
      none, Option.bind_none, Option.none_or]

/-- For every environment, every command line that is carried out and every layer of a file: if no
variable that is set is wrong, each setting of the joined layers is what the command line says,
otherwise what its variable says, and otherwise what the file says. If some variable is wrong,
loading fails and names a wrong one. Joining layers is associative, and the empty layer changes
nothing on either side. -/
theorem sources_precedence (file : Layer) :
    ((∀ setting, ¬environment.Misreads setting) →
      ∃ joined, Precedence words environment file joined ∧
        ∀ content, fileLayer content environment arguments = .ok file →
          gather content environment arguments = .ok joined ∧
            load content environment arguments = joined.finalize environment.stateDirectory) ∧
    ((∃ setting, environment.Misreads setting) →
      ∃ setting message, environment.Misreads setting ∧
        ∀ content, fileLayer content environment arguments = .ok file →
          load content environment arguments = .error (.invalid setting.variableName message)) ∧
    (∀ first second third : Layer,
      (first.merge second).merge third = first.merge (second.merge third)) ∧
    ∀ layer : Layer, layer.merge {} = layer ∧ ({} : Layer).merge layer = layer := by
  refine ⟨fun clean => ?_, fun ⟨wrong, misread⟩ => ?_, Layer.merge_assoc,
    fun layer => ⟨layer.merge_empty, layer.empty_merge⟩⟩
  · rcases environment.layer_cases with ⟨layer, built, -, said⟩ | ⟨setting, _, misread, -⟩
    · refine ⟨_, precedence_of_merge parsed clean said file, fun content read => ?_⟩
      have gathered : gather content environment arguments =
          .ok ((file.merge layer).merge arguments.layer) := by
        rw [gather, read, built]
        rfl
      refine ⟨gathered, ?_⟩
      rw [load, gathered]
      rfl
    · exact absurd misread (clean setting)
  · rcases environment.layer_cases with ⟨_, _, clean, -⟩ | ⟨setting, message, misread, failed⟩
    · exact absurd misread (clean wrong)
    · refine ⟨setting, message, misread, fun content read => ?_⟩
      rw [load, gather, read, failed]
      rfl

end Joining

namespace Sample

/-- Variables, one of them set to nothing. -/
def shell : Environment := fun name =>
  if name = "WEFT_MODE" then some "Kernel"
  else if name = "WEFT_INTERFACE" then some "wg7"
  else if name = "WEFT_PROBE_BATCH_SIZE" then some "4"
  else if name = "WEFT_LISTEN_PORT" then some ""
  else none

/-- The same with a number that is none. -/
def wrongShell : Environment := fun name =>
  if name = "WEFT_PROBE_BATCH_SIZE" then some "ten" else shell name

/-- A command line with a text of no characters and one that is a word of its own. -/
def words : List String := ["--interface=", "-c", "weftd.toml", "--relay", "--mode", "userspace"]

/-- What the words come to. -/
def arguments : Arguments :=
  { file := some "weftd.toml"
    layer := { interface := some "", relay := some true, mode := some .userspace } }

/-- A settings file. -/
def content (_ : String) : FileContent :=
  .text "listen_port = 4500\nprobe_batch_size = 2\nrelay = false"

/-- What the file says. -/
def file : Layer := { listenPort := some 4500, probeBatch := some 2, relay := some false }

end Sample

/-- The command line's mode, flag and empty interface name hide what is below. The batch size is
the variable's, and the empty variable hides nothing, so the port is the file's. A wrong number is
named. -/
theorem sources_precedence_samples :
    (∃ joined : Layer, gather Sample.content Sample.shell Sample.arguments = .ok joined ∧
      joined.get .interface = some "" ∧ joined.get .mode = some TunnelKind.userspace ∧
      joined.get .relay = some true ∧ joined.get .probeBatch = some (4 : Nat) ∧
      joined.get .listenPort = some (4500 : UInt16)) ∧
    ∃ setting message, Sample.wrongShell.Misreads setting ∧
      load Sample.content Sample.wrongShell Sample.arguments =
        .error (.invalid setting.variableName message) := by
  have parsed : Arguments.parse Sample.shell Sample.words = .ok Sample.arguments := rfl
  have parsedToo : Arguments.parse Sample.wrongShell Sample.words = .ok Sample.arguments := rfl
  have read : fileLayer Sample.content Sample.shell Sample.arguments = .ok Sample.file := by
    decide +kernel
  have readToo : fileLayer Sample.content Sample.wrongShell Sample.arguments =
      .ok Sample.file := read
  have taken := Arguments.parse_get_iff parsed
  refine ⟨?right, ?wrong⟩
  case right =>
    have clean : ∀ setting, ¬Sample.shell.Misreads setting := by
      rintro setting ⟨text, ⟨found, nonempty⟩, meaningless⟩
      cases setting <;> simp only [Sample.shell, Setting.variableName] at found
      case mode | interface | probeBatch =>
        cases found
        exact absurd meaningless (by decide)
      case listenPort =>
        cases found
        exact nonempty rfl
      all_goals simp at found
    obtain ⟨joined, precedence, loaded⟩ := (sources_precedence parsed Sample.file).1 clean
    refine ⟨joined, (loaded Sample.content read).1,
      precedence.fromCommandLine _ _ ((taken .interface "").mp rfl),
      precedence.fromCommandLine _ _ ((taken .mode TunnelKind.userspace).mp rfl),
      precedence.fromCommandLine _ _ ((taken .relay true).mp rfl), ?_, ?_⟩
    · have unsaid (value : Nat) : ¬Arguments.Says Sample.words .probeBatch value := by
        rw [← taken]
        nofun
      obtain ⟨value, meant, counts⟩ :=
        precedence.fromEnvironment .probeBatch unsaid "4" ⟨rfl, by decide⟩
      cases meant
      exact counts
    · have unsaid (value : UInt16) : ¬Arguments.Says Sample.words .listenPort value := by
        rw [← taken]
        nofun
      refine precedence.fromFile .listenPort unsaid ?_
      rintro text ⟨found, nonempty⟩
      cases found
      exact nonempty rfl
  case wrong =>
    have misread : Sample.wrongShell.Misreads .probeBatch :=
      ⟨"ten", ⟨rfl, by decide⟩, by decide⟩
    obtain ⟨setting, message, wrong, failed⟩ :=
      (sources_precedence parsedToo Sample.file).2.1 ⟨_, misread⟩
    exact ⟨setting, message, wrong, failed Sample.content readToo⟩

end MeshNode.Settings
