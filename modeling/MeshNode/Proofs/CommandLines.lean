import Mathlib.Data.List.TakeWhile
import MeshNode.Proofs.EnvironmentLayers
import MeshNode.Settings.Arguments

/-!
# What a command line says

An option is given a text by a word that holds both with an equals sign between them, or by the
option's word with the text as the word behind it. A flag is raised by its word. That is all that
decides what the layer of a command line says, wherever the words stand and whatever stands
between them: of a command line that is carried out, a setting has a value exactly if its own
option is given a text that means the value, or its own flag is raised.

A command line is read word by word, with one option that may wait for its text. The law of one
step says what the step adds to what has been said; a value that is there is never replaced,
because every option is taken at most once.
-/

namespace MeshNode.Settings

namespace Arguments

/-- The long name of an option. -/
def Key.longName : Key → String
  | .config => "config"
  | .coordinator => "coordinator-url"
  | .vpc => "vpc-id"
  | .interface => "interface"
  | .listenPort => "listen-port"
  | .mode => "mode"
  | .statusListen => "status-listen"
  | .stateDirectory => "state-dir"
  | .logLevel => "log-level"
  | .logFormat => "log-format"

/-- The long name of a flag. -/
def Flag.longName : Flag → String
  | .relay => "relay"
  | .relayOnly => "relay-only"
  | .insecureHttp => "insecure-http"
  | .help => "help"
  | .version => "version"

/-- The word of a long name. -/
def bareWord (name : String) : String := "--" ++ name

/-- The word of a long name with a text attached. -/
def attachedWord (name text : String) : String := "--" ++ name ++ "=" ++ text

/-- An option is given a text. -/
def Gives (words : List String) (key : Key) (text : String) : Prop :=
  attachedWord key.longName text ∈ words ∨ [bareWord key.longName, text] <:+: words

/-- A flag is raised. -/
def Raises (words : List String) (flag : Flag) : Prop := bareWord flag.longName ∈ words

end Arguments

open Arguments

namespace Setting

/-- The option of a setting. -/
def key? : Setting → Option Key
  | .coordinator => some .coordinator
  | .vpc => some .vpc
  | .interface => some .interface
  | .listenPort => some .listenPort
  | .mode => some .mode
  | .statusListen => some .statusListen
  | .stateDirectory => some .stateDirectory
  | _ => none

/-- The flag of a setting. -/
def flag? : Setting → Option Flag
  | .relay => some .relay
  | .relayOnly => some .relayOnly
  | .insecureHttp => some .insecureHttp
  | _ => none

/-- What the text of a setting's option means, if it means anything. -/
def ofOption : (setting : Setting) → String → Option setting.Value
  | .coordinator, text => some text
  | .vpc, text => Uuid.parse? text
  | .interface, text => some text
  | .listenPort, text => Arguments.port? text
  | .mode, text => TunnelKind.ofName? (Text.asciiLower text)
  | .statusListen, text => SocketAddress.parse? text
  | .stateDirectory, text => if text.isEmpty then none else some text
  | _, _ => none

/-- What a setting is if its flag is raised. -/
def ofFlag : (setting : Setting) → Option setting.Value
  | .relay => some true
  | .relayOnly => some true
  | .insecureHttp => some true
  | _ => none

/-- An option's text makes a setting a value. -/
def TakenFrom (setting : Setting) (key : Key) (text : String) (value : setting.Value) : Prop :=
  setting.key? = some key ∧ setting.ofOption text = some value

/-- A flag makes a setting a value. -/
def SetBy (setting : Setting) (flag : Flag) (value : setting.Value) : Prop :=
  setting.flag? = some flag ∧ setting.ofFlag = some value

end Setting

namespace Arguments

/-- The words say that a setting has a value. -/
def Says (words : List String) (setting : Setting) (value : setting.Value) : Prop :=
  (∃ key text, Gives words key text ∧ setting.TakenFrom key text value) ∨
    ∃ flag, Raises words flag ∧ setting.SetBy flag value

/-! ## Taking values -/

section Assignment

theorem reading_eq_ok_iff {α : Type} (problem : Problem) (read : Option α) (value : α) :
    reading problem read = .ok value ↔ read = some value := by
  cases read <;> simp [reading]

theorem path_eq_ok_iff (text value : String) :
    path text = .ok value ↔ Setting.ofOption .stateDirectory text = some value := by
  simp only [path, Setting.ofOption]
  split <;> simp

variable {arguments : Arguments} {key : Key} {text : String} {next : Arguments}

/-- An option that is taken makes its setting what its text means, and changes no other. -/
theorem assign_setting {setting : Setting} (own : setting.key? = some key)
    (taken : arguments.assign key text = .ok next) :
    ∃ value, setting.ofOption text = some value ∧
      next.layer = arguments.layer.put setting value := by
  cases setting <;> cases own
  case coordinator | interface =>
    cases taken
    exact ⟨text, rfl, rfl⟩
  case stateDirectory =>
    obtain ⟨directory, read, built⟩ := (Outcome.bind_eq_ok_iff _ _ _).mp taken
    cases built
    exact ⟨directory, (path_eq_ok_iff _ _).mp read, rfl⟩
  case mode =>
    obtain ⟨mode, read, built⟩ := (Outcome.bind_eq_ok_iff _ _ _).mp taken
    cases built
    rw [reading_eq_ok_iff, Environment.modeNamed, Environment.toOption_orElse] at read
    exact ⟨mode, read, rfl⟩
  case vpc | listenPort | statusListen =>
    obtain ⟨value, read, built⟩ := (Outcome.bind_eq_ok_iff _ _ _).mp taken
    cases built
    exact ⟨value, (reading_eq_ok_iff _ _ _).mp read, rfl⟩

/-- An option that belongs to no setting changes none. -/
theorem assign_unset (foreign : ∀ setting : Setting, setting.key? ≠ some key)
    (taken : arguments.assign key text = .ok next) : next.layer = arguments.layer := by
  cases key
  case config | logFormat =>
    obtain ⟨_, _, built⟩ := (Outcome.bind_eq_ok_iff _ _ _).mp taken
    cases built
    rfl
  case logLevel =>
    cases taken
    rfl
  case coordinator => exact absurd rfl (foreign .coordinator)
  case vpc => exact absurd rfl (foreign .vpc)
  case interface => exact absurd rfl (foreign .interface)
  case listenPort => exact absurd rfl (foreign .listenPort)
  case mode => exact absurd rfl (foreign .mode)
  case statusListen => exact absurd rfl (foreign .statusListen)
  case stateDirectory => exact absurd rfl (foreign .stateDirectory)

end Assignment

/-! ## One step -/

namespace Progress

/-- What has been said so far: the layer, and the option whose text is not taken yet. -/
def Holds (progress : Progress) (setting : Setting) (value : setting.Value) : Prop :=
  progress.arguments.layer.get setting = some value ∨
    ∃ key text, progress.pending = some (key, some text) ∧ setting.TakenFrom key text value

/-- An option waits for a word that may be its text. -/
def Waits (progress : Progress) : Prop := ∃ key, progress.pending = some (key, none)

/-- What the layer says comes from options and flags that were given. -/
def Accounted (progress : Progress) : Prop :=
  ∀ setting value, progress.arguments.layer.get setting = some value →
    (∃ key ∈ progress.keys, setting.key? = some key) ∨
      ∃ flag ∈ progress.flags, setting.flag? = some flag

/-- A step keeps what was said and adds to it. -/
structure Adds (progress next : Progress)
    (added : (setting : Setting) → setting.Value → Prop) : Prop where
  accounted : next.Accounted
  holds : ∀ setting value,
    next.Holds setting value ↔ progress.Holds setting value ∨ added setting value

end Progress

theorem flag?_eq_none {setting : Setting} {key : Key} (own : setting.key? = some key) :
    setting.flag? = none := by
  cases setting <;> first | rfl | cases own

theorem key?_inj {one other : Setting} {key : Key} (own : one.key? = some key)
    (same : other.key? = some key) : one = other := by
  cases one <;> cases own <;> cases other <;> first | rfl | cases same

theorem flag?_inj {one other : Setting} {flag : Flag} (own : one.flag? = some flag)
    (same : other.flag? = some flag) : one = other := by
  cases one <;> cases own <;> cases other <;> first | rfl | cases same

section Steps

variable {progress next : Progress}

theorem holds_iff_of_settled (settled : progress.pending = none) (setting : Setting)
    (value : setting.Value) :
    progress.Holds setting value ↔ progress.arguments.layer.get setting = some value := by
  simp [Progress.Holds, settled]

theorem holds_iff_of_pending {key : Key} {text : String}
    (waiting : progress.pending = some (key, some text)) (setting : Setting)
    (value : setting.Value) :
    progress.Holds setting value ↔
      progress.arguments.layer.get setting = some value ∨ setting.TakenFrom key text value := by
  simp [Progress.Holds, waiting, and_assoc]

theorem holds_iff_of_waiting {key : Key} (waiting : progress.pending = some (key, none))
    (setting : Setting) (value : setting.Value) :
    progress.Holds setting value ↔ progress.arguments.layer.get setting = some value := by
  simp [Progress.Holds, waiting]

/-- A setting whose option has not been given is open. -/
theorem get_of_ungiven (accounted : progress.Accounted) {setting : Setting} {key : Key}
    (own : setting.key? = some key) (ungiven : key ∉ progress.keys) :
    progress.arguments.layer.get setting = none := by
  rw [Option.eq_none_iff_forall_ne_some]
  intro value said
  rcases accounted setting value said with ⟨other, given, owned⟩ | ⟨flag, -, owned⟩
  · obtain rfl : other = key := Option.some.inj (owned.symm.trans own)
    exact ungiven given
  · cases (flag?_eq_none own).symm.trans owned

/-- A setting whose flag has not been raised is open. -/
theorem get_of_unraised (accounted : progress.Accounted) {setting : Setting} {flag : Flag}
    (own : setting.flag? = some flag) (unraised : flag ∉ progress.flags) :
    progress.arguments.layer.get setting = none := by
  rw [Option.eq_none_iff_forall_ne_some]
  intro value said
  rcases accounted setting value said with ⟨key, -, owned⟩ | ⟨other, given, owned⟩
  · cases (flag?_eq_none owned).symm.trans own
  · obtain rfl : other = flag := Option.some.inj (owned.symm.trans own)
    exact unraised given

/-- Between steps with no option waiting, a step adds what it adds to the layer. What it adds has to
come from an option or a flag that is given then. -/
theorem adds_of_layer {added : (setting : Setting) → setting.Value → Prop}
    (accounted : progress.Accounted) (settled : progress.pending = none)
    (still : next.pending = none) (keys : progress.keys ⊆ next.keys)
    (flags : progress.flags ⊆ next.flags)
    (owned : ∀ setting value, added setting value →
      (∃ key ∈ next.keys, setting.key? = some key) ∨
        ∃ flag ∈ next.flags, setting.flag? = some flag)
    (layer : ∀ setting value, next.arguments.layer.get setting = some value ↔
      progress.arguments.layer.get setting = some value ∨ added setting value) :
    progress.Adds next added where
  accounted setting value said := by
    rcases (layer setting value).mp said with before | new
    · rcases accounted setting value before with ⟨key, given, own⟩ | ⟨flag, raised, own⟩
      · exact Or.inl ⟨key, keys given, own⟩
      · exact Or.inr ⟨flag, flags raised, own⟩
    · exact owned setting value new
  holds setting value := by
    rw [holds_iff_of_settled still, holds_iff_of_settled settled, layer]

/-- Taking an option adds what its text means for its setting. -/
theorem take_adds {key : Key} {text : String} (accounted : progress.Accounted)
    (settled : progress.pending = none) (taken : progress.take key text = .ok next) :
    progress.Adds next (fun setting value => setting.TakenFrom key text value) ∧
      next.pending = none := by
  unfold Progress.take at taken
  split at taken
  · cases taken
  rename_i absent
  have ungiven : key ∉ progress.keys := by simpa using absent
  obtain ⟨arguments, assigned, built⟩ := (Outcome.bind_eq_ok_iff _ _ _).mp taken
  cases built
  refine ⟨adds_of_layer accounted settled settled (List.subset_cons_self _ _) (List.Subset.refl _)
    (fun _ _ added => Or.inl ⟨key, List.mem_cons_self, added.1⟩) ?_, settled⟩
  by_cases owned : ∃ target : Setting, target.key? = some key
  · obtain ⟨target, own⟩ := owned
    obtain ⟨given, meant, put⟩ := assign_setting own assigned
    rw [put]
    refine Layer.get_put_iff (get_of_ungiven accounted own ungiven) ?_ ?_
    · simp [Setting.TakenFrom, own, meant]
    · exact fun setting value added => key?_inj added.1 own
  · have foreign : ∀ target : Setting, target.key? ≠ some key := not_exists.mp owned
    intro setting value
    rw [assign_unset foreign assigned]
    exact (or_iff_left fun added => foreign setting added.1).symm

/-- Settling an option takes its text, which was said before. -/
theorem settle_adds (accounted : progress.Accounted) (settled : progress.settle = .ok next) :
    progress.Adds next (fun _ _ => False) ∧ next.pending = none ∧ ¬progress.Waits := by
  unfold Progress.settle at settled
  split at settled
  · rename_i none
    cases settled
    exact ⟨⟨accounted, fun _ _ => by simp⟩, none, by simp [Progress.Waits, none]⟩
  · cases settled
  · rename_i key text waiting
    have accountedFree : Progress.Accounted { progress with pending := none } := accounted
    obtain ⟨⟨kept, holds⟩, pending⟩ := take_adds accountedFree rfl settled
    refine ⟨⟨kept, fun setting value => ?_⟩, pending, by simp [Progress.Waits, waiting]⟩
    rw [holds, holds_iff_of_settled rfl, holds_iff_of_pending waiting, or_false]

/-- An option with its text attached adds what the text means; one without waits for it. -/
theorem option_adds {key : Key} {attached : Option String} (accounted : progress.Accounted)
    (read : progress.option key attached = .ok next) :
    progress.Adds next
        (fun setting value => ∃ text, attached = some text ∧ setting.TakenFrom key text value) ∧
      (attached ≠ none → next.pending = none) ∧
      (attached = none → next.pending = some (key, none)) ∧ ¬progress.Waits := by
  obtain ⟨before, settled, taken⟩ := (Outcome.bind_eq_ok_iff _ _ _).mp read
  obtain ⟨⟨kept, holds⟩, pending, patient⟩ := settle_adds accounted settled
  cases attached with
  | none =>
    cases taken
    refine ⟨⟨kept, fun setting value => ?_⟩, nofun, fun _ => rfl, patient⟩
    have before := (holds_iff_of_settled pending setting value).symm.trans (holds setting value)
    rw [holds_iff_of_waiting rfl]
    simpa using before
  | some text =>
    obtain ⟨⟨keptAfter, holdsAfter⟩, pendingAfter⟩ := take_adds kept pending taken
    refine ⟨⟨keptAfter, fun setting value => ?_⟩, fun _ => pendingAfter, nofun, patient⟩
    rw [holdsAfter, holds]
    simp

/-- Raising a flag adds what it means for its setting. -/
theorem raise_adds {flag : Flag} (accounted : progress.Accounted)
    (raised : progress.raise flag = .ok next) :
    progress.Adds next (fun setting value => setting.SetBy flag value) ∧ next.pending = none ∧
      ¬progress.Waits := by
  obtain ⟨before, settled, taken⟩ := (Outcome.bind_eq_ok_iff _ _ _).mp raised
  obtain ⟨⟨kept, holds⟩, pending, patient⟩ := settle_adds accounted settled
  split at taken
  · cases taken
  rename_i absent
  have unraised : flag ∉ before.flags := by simpa using absent
  obtain ⟨target, given, own, meant, layer, flags, keys, still⟩ :
      ∃ (target : Setting) (given : target.Value), target.flag? = some flag ∧
        target.ofFlag = some given ∧
        next.arguments.layer = before.arguments.layer.put target given ∧
        next.flags = flag :: before.flags ∧ next.keys = before.keys ∧
        next.pending = before.pending := by
    cases flag <;> cases taken
    · exact ⟨.relay, true, rfl, rfl, rfl, rfl, rfl, rfl⟩
    · exact ⟨.relayOnly, true, rfl, rfl, rfl, rfl, rfl, rfl⟩
    · exact ⟨.insecureHttp, true, rfl, rfl, rfl, rfl, rfl, rfl⟩
  have raises : before.Adds next (fun setting value => setting.SetBy flag value) := by
    refine adds_of_layer kept pending (still.trans pending) (keys ▸ List.Subset.refl _)
      (flags ▸ List.subset_cons_self _ _)
      (fun _ _ set => Or.inr ⟨flag, flags ▸ List.mem_cons_self, set.1⟩) ?_
    rw [layer]
    refine Layer.get_put_iff (get_of_unraised kept own unraised) ?_ ?_
    · simp [Setting.SetBy, own, meant]
    · exact fun setting value set => flag?_inj set.1 own
  refine ⟨⟨raises.accounted, fun setting value => ?_⟩, still.trans pending, patient⟩
  rw [raises.holds, holds, or_false]

end Steps

/-! ## Words -/

theorem toList_bareWord (name : String) : (bareWord name).toList = '-' :: '-' :: name.toList := by
  have dashes : "--".toList = ['-', '-'] := rfl
  rw [bareWord, String.toList_append, dashes]
  rfl

theorem toList_attachedWord (name text : String) :
    (attachedWord name text).toList = '-' :: '-' :: (name.toList ++ '=' :: text.toList) := by
  have dashes : "--".toList = ['-', '-'] := rfl
  have equals : "=".toList = ['='] := rfl
  simp only [attachedWord, String.toList_append, dashes, equals]
  simp

/-- The name in a long word. -/
def nameOf (long : List Char) : String := String.ofList (long.takeWhile (· ≠ '='))

/-- The text that is attached to a name in a long word. -/
def attachedTo (long : List Char) : Option String :=
  (long.dropWhile (· ≠ '=')).tail?.map String.ofList

theorem Key.plain (key : Key) : '=' ∉ key.longName.toList := by cases key <;> decide

theorem Flag.plain (flag : Flag) : '=' ∉ flag.longName.toList := by cases flag <;> decide

/-- What stands before the first equals sign and behind it. -/
theorem cut_iff (long name text : List Char) (plain : '=' ∉ name) :
    long = name ++ '=' :: text ↔
      long.takeWhile (· ≠ '=') = name ∧ (long.dropWhile (· ≠ '=')).tail? = some text := by
  have all : ∀ c ∈ name, decide (c ≠ '=') = true := fun c member =>
    decide_eq_true (fun same => plain (same ▸ member))
  constructor
  · rintro rfl
    rw [List.takeWhile_append_of_pos all, List.dropWhile_append_of_pos all]
    simp
  · rintro ⟨front, behind⟩
    have whole := List.takeWhile_append_dropWhile (p := (· ≠ '=')) (l := long)
    rw [front] at whole
    cases rest : long.dropWhile (· ≠ '=') with
    | nil =>
      rw [rest] at behind
      cases behind
    | cons c others =>
      have stops : c = '=' := by
        have left : long.dropWhile (· ≠ '=') ≠ [] := by rw [rest]; exact List.cons_ne_nil _ _
        have head := List.head_dropWhile_not (· ≠ '=') left
        simp only [rest, List.head_cons] at head
        simpa using head
      rw [rest] at behind whole
      obtain rfl : others = text := Option.some.inj behind
      rw [← whole, stops]

/-- A text without an equals sign is its own front. -/
theorem uncut_iff (long name : List Char) (plain : '=' ∉ name) :
    long = name ↔
      long.takeWhile (· ≠ '=') = name ∧ (long.dropWhile (· ≠ '=')).tail? = none := by
  have all : ∀ c ∈ name, decide (c ≠ '=') = true := fun c member =>
    decide_eq_true (fun same => plain (same ▸ member))
  constructor
  · rintro rfl
    have whole := List.takeWhile_append_dropWhile (p := (· ≠ '=')) (l := long)
    have nothing : long.dropWhile (· ≠ '=') = [] := List.dropWhile_eq_nil_iff.mpr all
    rw [nothing, List.append_nil] at whole
    exact ⟨whole, by rw [nothing]; rfl⟩
  · rintro ⟨front, behind⟩
    have whole := List.takeWhile_append_dropWhile (p := (· ≠ '=')) (l := long)
    cases rest : long.dropWhile (· ≠ '=') with
    | nil => rw [← whole, rest, List.append_nil, front]
    | cons c others =>
      rw [rest] at behind
      cases behind

section Shape

variable {word name : String} {long : List Char} (shape : word.toList = '-' :: '-' :: long)
  (plain : '=' ∉ name.toList)

include shape plain

theorem eq_attachedWord_iff (text : String) :
    word = attachedWord name text ↔ nameOf long = name ∧ attachedTo long = some text := by
  rw [← String.toList_inj, shape, toList_attachedWord, List.cons.injEq, List.cons.injEq,
    cut_iff long _ _ plain, nameOf, attachedTo, ← String.toList_inj, String.toList_ofList,
    Option.map_eq_some_iff]
  simp only [true_and]
  refine and_congr_right fun _ => ⟨fun behind => ⟨_, behind, String.ofList_toList⟩, ?_⟩
  rintro ⟨rest, behind, rfl⟩
  rw [behind, String.toList_ofList]

theorem eq_bareWord_iff :
    word = bareWord name ↔ nameOf long = name ∧ attachedTo long = none := by
  rw [← String.toList_inj, shape, toList_bareWord, List.cons.injEq, List.cons.injEq,
    uncut_iff long _ plain, nameOf, attachedTo, ← String.toList_inj, String.toList_ofList,
    Option.map_eq_none_iff]
  simp only [true_and]

end Shape

theorem gives_cons_iff (word : String) (rest : List String) (key : Key) (text : String) :
    Gives (word :: rest) key text ↔
      word = attachedWord key.longName text ∨
        (word = bareWord key.longName ∧ rest.head? = some text) ∨ Gives rest key text := by
  have next : [bareWord key.longName, text] <:+: word :: rest ↔
      (word = bareWord key.longName ∧ rest.head? = some text) ∨
        [bareWord key.longName, text] <:+: rest := by
    rw [List.infix_cons_iff, List.cons_prefix_cons, eq_comm (a := word)]
    refine or_congr_left (and_congr_right fun _ => ?_)
    cases rest with
    | nil => simp
    | cons head others => simp [List.cons_prefix_cons, eq_comm (a := head)]
  rw [Gives, Gives, next, List.mem_cons, eq_comm (a := attachedWord key.longName text), or_assoc]
  exact or_congr_right or_left_comm

theorem raises_cons_iff (word : String) (rest : List String) (flag : Flag) :
    Raises (word :: rest) flag ↔ word = bareWord flag.longName ∨ Raises rest flag := by
  rw [Raises, Raises, List.mem_cons, eq_comm]

/-- What a word says by itself. -/
def WordSays (word : String) (setting : Setting) (value : setting.Value) : Prop :=
  (∃ key text, word = attachedWord key.longName text ∧ setting.TakenFrom key text value) ∨
    ∃ flag, word = bareWord flag.longName ∧ setting.SetBy flag value

/-- The front of some words is the text of an option that stands before them. -/
def Continues (key : Key) (words : List String) (setting : Setting) (value : setting.Value) :
    Prop :=
  ∃ text, words.head? = some text ∧ setting.TakenFrom key text value

/-- Words say what the first of them says, by itself or with the next one, and what the others
say. -/
theorem says_cons_iff (word : String) (rest : List String) (setting : Setting)
    (value : setting.Value) :
    Says (word :: rest) setting value ↔
      WordSays word setting value ∨
        (∃ key, word = bareWord key.longName ∧ Continues key rest setting value) ∨
          Says rest setting value := by
  simp only [Says, WordSays, Continues, gives_cons_iff, raises_cons_iff]
  grind

/-- A word that does not begin with two dashes says nothing. -/
theorem says_cons_of_short {word : String} (short : ∀ long, word.toList ≠ '-' :: '-' :: long)
    (rest : List String) (setting : Setting) (value : setting.Value) :
    Says (word :: rest) setting value ↔ Says rest setting value := by
  have bare (name : String) : word ≠ bareWord name := by
    rintro rfl
    exact short _ (toList_bareWord name)
  have attached (name text : String) : word ≠ attachedWord name text := by
    rintro rfl
    exact short _ (toList_attachedWord name text)
  simp [says_cons_iff, WordSays, bare, attached]

/-! ## The whole line -/

section Line

variable {progress next : Progress}

/-- The long name of an option or a flag. -/
def Name.longName : Name → String
  | .key option => option.longName
  | .flag raised => raised.longName

theorem Name.plain (name : Name) : '=' ∉ name.longName.toList := by
  rcases name with option | raised
  · exact option.plain
  · exact raised.plain

/-- The table of long names is the table of these. -/
theorem lookup_longNames (text : String) (found : Name)
    (known : longNames.lookup text = some found) (other : Name) :
    text = other.longName ↔ found = other := by
  have listed : ∀ entry ∈ longNames, entry.1 = entry.2.longName := by decide
  have complete : longNames.lookup other.longName = some other := by
    rcases other with option | raised
    · cases option <;> rfl
    · cases raised <;> rfl
  constructor
  · rintro rfl
    exact Option.some.inj (known.symm.trans complete)
  · rintro rfl
    obtain ⟨front, behind, whole, -⟩ := List.lookup_eq_some_iff.mp known
    exact listed (text, found) (by simp [whole])

section LongWords

variable {word : String} {long : List Char} (shape : word.toList = '-' :: '-' :: long)
  {found : Name} (known : longNames.lookup (nameOf long) = some found)

include shape known

theorem bareWord_of_lookup (other : Name) :
    word = bareWord other.longName ↔ found = other ∧ attachedTo long = none := by
  rw [eq_bareWord_iff shape other.plain, lookup_longNames _ _ known]

theorem wordSays_of_lookup (setting : Setting) (value : setting.Value) :
    WordSays word setting value ↔
      (∃ key text, found = .key key ∧ attachedTo long = some text ∧
        setting.TakenFrom key text value) ∨
      ∃ flag, found = .flag flag ∧ attachedTo long = none ∧ setting.SetBy flag value := by
  have attached (key : Key) (text : String) : word = attachedWord key.longName text ↔
      found = .key key ∧ attachedTo long = some text := by
    rw [eq_attachedWord_iff shape key.plain, ← lookup_longNames _ _ known]
    rfl
  have bare (flag : Flag) : word = bareWord flag.longName ↔
      found = .flag flag ∧ attachedTo long = none :=
    bareWord_of_lookup shape known (.flag flag)
  simp only [WordSays, attached, bare, and_assoc]

end LongWords

/-- A long word adds what it says by itself, and waits if it is the word of an option. -/
theorem long_adds {word : String} {long : List Char} (shape : word.toList = '-' :: '-' :: long)
    (accounted : progress.Accounted) (read : progress.long (String.ofList long) = .ok next) :
    progress.Adds next (WordSays word) ∧
      (∀ key, next.pending = some (key, none) ↔ word = bareWord key.longName) ∧
      ¬progress.Waits := by
  unfold Progress.long at read
  simp only [String.toList_ofList] at read
  split at read
  · cases read
  · rename_i key known
    have wordSays := wordSays_of_lookup shape known
    have bare (other : Key) := bareWord_of_lookup shape known (.key other)
    obtain ⟨⟨kept, holds⟩, taken, waits, patient⟩ := option_adds accounted read
    refine ⟨⟨kept, fun setting value => ?_⟩, fun other => ?_, patient⟩
    · rw [holds, wordSays]
      simp [attachedTo]
    · refine Iff.trans ?_ (bare other).symm
      cases behind : attachedTo long with
      | none => simp [waits behind]
      | some text => simp [taken (fun none => nomatch behind.symm.trans none)]
  · rename_i flag known
    have wordSays := wordSays_of_lookup shape known
    have bare (other : Key) := bareWord_of_lookup shape known (.key other)
    split at read
    · cases read
    · rename_i alone
      obtain ⟨⟨kept, holds⟩, pending, patient⟩ := raise_adds accounted read
      have none : attachedTo long = none := by simpa [attachedTo] using alone
      refine ⟨⟨kept, fun setting value => ?_⟩, fun other => ?_, patient⟩
      · rw [holds, wordSays]
        simp [none]
      · refine Iff.trans ?_ (bare other).symm
        simp [pending]

theorem not_takenFrom_config (setting : Setting) (text : String) (value : setting.Value) :
    ¬setting.TakenFrom .config text value := by
  rintro ⟨own, -⟩
  cases setting <;> cases own

/-- A command line that asks for the help or the version is not carried out. -/
theorem not_raised {flag : Flag} (asks : flag = .help ∨ flag = .version) :
    progress.raise flag ≠ .ok next := by
  intro raised
  obtain ⟨before, -, taken⟩ := (Outcome.bind_eq_ok_iff _ _ _).mp raised
  split at taken
  · cases taken
  · rcases asks with rfl | rfl <;> cases taken

theorem lookup_shortNames {c : Char} {found : Name} (known : shortNames.lookup c = some found) :
    found = .key .config ∨ found = .flag .help ∨ found = .flag .version := by
  have listed : ∀ entry ∈ shortNames,
      entry.2 = .key .config ∨ entry.2 = .flag .help ∨ entry.2 = .flag .version := by decide
  obtain ⟨front, behind, whole, -⟩ := List.lookup_eq_some_iff.mp known
  exact listed (c, found) (by simp [whole])

/-- A cluster of short options is about no setting. -/
theorem short_adds {c : Char} {rest : List Char} (accounted : progress.Accounted)
    (read : Progress.short (c :: rest) progress = .ok next) :
    progress.Adds next (fun _ _ => False) ∧
      (∀ key, next.pending = some (key, none) → key = .config) ∧ ¬progress.Waits := by
  unfold Progress.short at read
  split at read
  · cases read
  · rename_i flag known
    have asks : flag = .help ∨ flag = .version := by simpa using lookup_shortNames known
    obtain ⟨middle, raised, -⟩ := (Outcome.bind_eq_ok_iff _ _ _).mp read
    exact absurd raised (not_raised asks)
  · rename_i key known
    obtain rfl : key = .config := by simpa using lookup_shortNames known
    obtain ⟨attached, taken⟩ : ∃ attached, progress.option .config attached = .ok next := by
      split at read <;> exact ⟨_, read⟩
    obtain ⟨⟨kept, holds⟩, settled, waits, patient⟩ := option_adds accounted taken
    refine ⟨⟨kept, fun setting value => ?_⟩, fun other pending => ?_, patient⟩
    · rw [holds]
      simp [not_takenFrom_config]
    · cases attached with
      | none =>
        rw [waits rfl] at pending
        cases pending
        rfl
      | some text =>
        rw [settled nofun] at pending
        cases pending

/-- A word that is no option is the text of the option that waits. -/
theorem word_adds {text : String} (accounted : progress.Accounted)
    (read : progress.word text = .ok next) :
    ∃ key, progress.pending = some (key, none) ∧ next.pending = some (key, some text) ∧
      progress.Adds next (fun setting value => setting.TakenFrom key text value) := by
  unfold Progress.word at read
  split at read
  · rename_i key waiting
    cases read
    refine ⟨key, waiting, rfl, accounted, fun setting value => ?_⟩
    rw [holds_iff_of_waiting waiting]
    exact holds_iff_of_pending rfl setting value
  · cases read

/-- What words add to what was said: the first may be the text of an option in front of them. -/
def Said (progress : Progress) (words : List String) (setting : Setting) (value : setting.Value) :
    Prop :=
  progress.Holds setting value ∨
    (∃ key, progress.pending = some (key, none) ∧ Continues key words setting value) ∨
      Says words setting value

theorem said_iff_of_patient (patient : ¬progress.Waits) (words : List String) (setting : Setting)
    (value : setting.Value) :
    Said progress words setting value ↔
      progress.Holds setting value ∨ Says words setting value := by
  have none (key : Key) : progress.pending ≠ some (key, none) := fun waits => patient ⟨key, waits⟩
  simp [Said, none]

/-- A step from one word to the next keeps what is said by what was read and what is left. -/
structure KeepsSaid (progress : Progress) (words : List String) (next : Progress)
    (rest : List String) : Prop where
  accounted : next.Accounted
  said : ∀ setting value, Said next rest setting value ↔ Said progress words setting value

theorem long_keepsSaid {word : String} {long : List Char} (rest : List String)
    (shape : word.toList = '-' :: '-' :: long) (accounted : progress.Accounted)
    (read : progress.long (String.ofList long) = .ok next) :
    KeepsSaid progress (word :: rest) next rest := by
  obtain ⟨⟨kept, holds⟩, waits, patient⟩ := long_adds shape accounted read
  refine ⟨kept, fun setting value => ?_⟩
  rw [said_iff_of_patient patient, says_cons_iff, Said, holds]
  simp only [waits, or_assoc]

theorem short_keepsSaid {word : String} {c : Char} {cluster : List Char} (rest : List String)
    (shape : word.toList = '-' :: c :: cluster) (single : c ≠ '-')
    (accounted : progress.Accounted) (read : Progress.short (c :: cluster) progress = .ok next) :
    KeepsSaid progress (word :: rest) next rest := by
  obtain ⟨⟨kept, holds⟩, waits, patient⟩ := short_adds accounted read
  have short : ∀ long, word.toList ≠ '-' :: '-' :: long := by
    intro long same
    rw [shape] at same
    injection same with _ behind
    injection behind with dash _
    exact single dash
  have idle (setting : Setting) (value : setting.Value) :
      ¬∃ key, next.pending = some (key, none) ∧ Continues key rest setting value := by
    rintro ⟨key, waiting, text, -, taken⟩
    obtain rfl := waits key waiting
    exact not_takenFrom_config setting text value taken
  refine ⟨kept, fun setting value => ?_⟩
  rw [said_iff_of_patient patient, says_cons_of_short short, Said, holds]
  simp only [idle, or_false, false_or]

theorem word_keepsSaid {word : String} (rest : List String)
    (short : ∀ long, word.toList ≠ '-' :: '-' :: long) (accounted : progress.Accounted)
    (read : progress.word word = .ok next) : KeepsSaid progress (word :: rest) next rest := by
  obtain ⟨key, waiting, taken, kept, holds⟩ := word_adds accounted read
  have patient : ¬next.Waits := by
    rintro ⟨other, waits⟩
    rw [taken] at waits
    cases waits
  refine ⟨kept, fun setting value => ?_⟩
  rw [said_iff_of_patient patient, holds, Said, says_cons_of_short short, or_assoc]
  simp [waiting, Continues]

theorem settle_said {final : Progress} {words : List String} (accounted : progress.Accounted)
    (settled : progress.settle = .ok final) {setting : Setting} {value : setting.Value}
    (silent : ¬Says words setting value) :
    final.arguments.layer.get setting = some value ↔ Said progress words setting value := by
  obtain ⟨⟨-, holds⟩, pending, patient⟩ := settle_adds accounted settled
  rw [← holds_iff_of_settled pending, holds, said_iff_of_patient patient]
  simp [silent]

/-- Two dashes alone say nothing. -/
theorem not_says_end (setting : Setting) (value : setting.Value) : ¬Says ["--"] setting value := by
  have shape : "--".toList = '-' :: '-' :: [] := rfl
  have bare (name : Name) : "--" ≠ bareWord name.longName := by
    intro same
    have named := ((eq_bareWord_iff shape name.plain).mp same).1
    revert named
    rcases name with option | raised
    · cases option <;> decide
    · cases raised <;> decide
  have attached (key : Key) (text : String) : "--" ≠ attachedWord key.longName text := by
    intro same
    have behind := ((eq_attachedWord_iff shape key.plain text).mp same).2
    cases behind
  rintro (⟨key, text, given | given, -⟩ | ⟨flag, raised, -⟩)
  · exact attached key text (List.mem_singleton.mp given).symm
  · exact absurd given.length_le (by simp)
  · exact bare (.flag flag) (List.mem_singleton.mp raised).symm

/-- The whole line says what its words say. -/
theorem readWords_get_iff (words : List String) (final : Progress) (accounted : progress.Accounted)
    (read : readWords words progress = .ok final) (setting : Setting) (value : setting.Value) :
    final.arguments.layer.get setting = some value ↔ Said progress words setting value := by
  induction words generalizing progress with
  | nil => exact settle_said accounted read (by simp [Says, Gives, Raises])
  | cons word rest inductionHypothesis =>
    have goesOn {next : Progress} (kept : KeepsSaid progress (word :: rest) next rest)
        (others : readWords rest next = .ok final) :
        final.arguments.layer.get setting = some value ↔
          Said progress (word :: rest) setting value :=
      (inductionHypothesis kept.accounted others).trans (kept.said setting value)
    unfold readWords at read
    split at read
    · rename_i shape
      obtain rfl : word = "--" := String.toList_inj.mp shape
      cases rest with
      | nil => exact settle_said accounted read (not_says_end setting value)
      | cons extra others => cases read
    · rename_i long _ shape
      obtain ⟨next, taken, others⟩ := (Outcome.bind_eq_ok_iff _ _ _).mp read
      exact goesOn (long_keepsSaid rest shape accounted taken) others
    · rename_i single shape
      obtain ⟨next, taken, others⟩ := (Outcome.bind_eq_ok_iff _ _ _).mp read
      exact goesOn (short_keepsSaid rest shape single accounted taken) others
    · rename_i short _
      obtain ⟨next, taken, others⟩ := (Outcome.bind_eq_ok_iff _ _ _).mp read
      exact goesOn (word_keepsSaid rest short accounted taken) others

end Line

/-- A command line that is carried out gives a setting a value exactly if its words say so. -/
theorem parse_get_iff {environment : Environment} {words : List String} {arguments : Arguments}
    (parsed : parse environment words = .ok arguments) (setting : Setting)
    (value : setting.Value) :
    arguments.layer.get setting = some value ↔ Says words setting value := by
  obtain ⟨final, read, named⟩ := (Outcome.bind_eq_ok_iff _ _ _).mp parsed
  have same : arguments.layer = final.arguments.layer := by
    dsimp only at named
    split at named
    · obtain ⟨file, -, built⟩ := (Outcome.bind_eq_ok_iff _ _ _).mp named
      cases built
      rfl
    · cases named
      rfl
  have start : Progress.Accounted {} := by
    intro setting value said
    rw [Layer.get_empty] at said
    cases said
  rw [same, readWords_get_iff words final start read]
  simp [Said, Progress.Holds]

end Arguments

end MeshNode.Settings
