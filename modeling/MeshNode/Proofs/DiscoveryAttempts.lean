import MeshNode.Discovery

/-!
# What a discovery rests on

A survey is an attempt in which every reflector is asked, however many answer. It says what an
attempt can find out: whether the listen port can be bound, and what each reflector replies. A
discovery makes the surveys of its attempts one after the other until one has an answer, and it
breaks that one off behind the second answer. It asks nothing else, which is read off a record that
the states of every client can keep, and only the answers of this one attempt are classified.

Where no survey has an answer, all of them are made in full, and the node falls back to its own
address.
-/

namespace MeshNode

namespace Discovery

/-- What a reflector replied to a query. -/
structure Reply where
  reflector : Reflector
  outcome : Except Stun.Failure SocketAddress

/-- The answer in a reply, if the query did not fail. -/
def Reply.answer? (reply : Reply) : Option Answer :=
  reply.outcome.toOption.map fun mapped => (reply.reflector.name, mapped)

/-- The answers among replies. -/
def answersIn (replies : List Reply) : List Answer := replies.filterMap Reply.answer?

/-- What a client was told to do, and what came of it. -/
inductive Event where
  | bind (port : SourcePort) (outcome : Except BindFailure Unit)
  | query (port : SourcePort) (reply : Reply)

end Discovery

open Discovery (Reply Event Answer answersIn)

variable {World : Type}

/-- The same client with a record of what it does. -/
def ReflectorClient.logged (client : ReflectorClient World) :
    ReflectorClient (List Event × World) where
  bind port state :=
    let (outcome, world) := client.bind port state.2
    (outcome, state.1 ++ [.bind port outcome], world)
  query port reflector state :=
    let (outcome, world) := client.query port reflector state.2
    (outcome, state.1 ++ [.query port ⟨reflector, outcome⟩], world)

namespace Discovery

/-! ## Surveys -/

/-- What an attempt can find out. -/
structure Survey where
  bound : Except BindFailure Unit
  replies : List Reply

/-- The port is bound, and some reflector answers. -/
def Survey.Answered (survey : Survey) : Prop :=
  survey.bound = .ok () ∧ answersIn survey.replies ≠ []

/-- What a client is told to do in a survey, and what comes of it. -/
def Survey.events (survey : Survey) : List Event :=
  .bind .listen survey.bound :: survey.replies.map (.query .listen)

section Surveys

variable (client : ReflectorClient World)

/-- Ask every reflector in order. -/
def askAll (port : SourcePort) : List Reflector → World → List Reply × World
  | [], world => ([], world)
  | reflector :: rest, world =>
    let (outcome, world) := client.query port reflector world
    let (replies, world) := askAll port rest world
    (⟨reflector, outcome⟩ :: replies, world)

/-- One attempt in which every reflector is asked, if the port can be bound. -/
def survey (reflectors : List Reflector) (world : World) : Survey × World :=
  match client.bind .listen world with
  | (.error failure, world) => (⟨.error failure, []⟩, world)
  | (.ok (), world) =>
    let (replies, world) := askAll client .listen reflectors world
    (⟨.ok (), replies⟩, world)

/-- So many surveys one after the other. -/
def surveys (reflectors : List Reflector) : (count : Nat) → World → List Survey
  | 0, _ => []
  | count + 1, world =>
    let (first, world) := survey client reflectors world
    first :: surveys reflectors count world

theorem askAll_cons (port : SourcePort) (reflector : Reflector) (rest : List Reflector)
    (world : World) :
    askAll client port (reflector :: rest) world =
      let reply := client.query port reflector world
      (⟨reflector, reply.1⟩ :: (askAll client port rest reply.2).1,
        (askAll client port rest reply.2).2) := rfl

theorem surveys_succ (reflectors : List Reflector) (count : Nat) (world : World) :
    surveys client reflectors (count + 1) world =
      (survey client reflectors world).1 ::
        surveys client reflectors count (survey client reflectors world).2 := rfl

@[simp] theorem length_surveys (reflectors : List Reflector) (count : Nat) (world : World) :
    (surveys client reflectors count world).length = count := by
  induction count generalizing world with
  | zero => rfl
  | succ count inductionHypothesis => exact congrArg (· + 1) (inductionHypothesis _)

/-- Every reflector replies, in its turn. -/
theorem map_reflector_askAll (port : SourcePort) (reflectors : List Reflector) (world : World) :
    (askAll client port reflectors world).1.map Reply.reflector = reflectors := by
  induction reflectors generalizing world with
  | nil => rfl
  | cons reflector rest inductionHypothesis =>
    exact congrArg (reflector :: ·) (inductionHypothesis _)

theorem reflectors_of_bound (reflectors : List Reflector) (world : World)
    (bound : (survey client reflectors world).1.bound = .ok ()) :
    (survey client reflectors world).1.replies.map Reply.reflector = reflectors := by
  unfold survey at bound ⊢
  split
  · rename_i heldPort
    rw [heldPort] at bound
    cases bound
  · exact map_reflector_askAll client .listen reflectors _

theorem answersIn_of_not_answered (reflectors : List Reflector) (world : World)
    (silent : ¬(survey client reflectors world).1.Answered) :
    answersIn (survey client reflectors world).1.replies = [] := by
  by_cases nothing : answersIn (survey client reflectors world).1.replies = []
  · exact nothing
  · refine absurd ⟨?_, nothing⟩ silent
    unfold survey at nothing ⊢
    split
    · rename_i held
      rw [held] at nothing
      exact absurd rfl nothing
    · rfl

end Surveys

/-! ## Up to the wanted answers -/

/-- Replies are broken off behind the wanted number of answers, and only there. -/
structure BrokenOff (wanted : Nat) (asked unasked : List Reply) : Prop where
  bounded : (answersIn asked).length ≤ wanted
  /-- Where fewer have answered, all have been asked. -/
  exhausted : (answersIn asked).length < wanted → unasked = []
  /-- Nobody is asked behind the last answer that is wanted. -/
  decided : (answersIn asked).length = wanted →
    ∀ last, asked.getLast? = some last → last.answer? ≠ none

theorem answersIn_cons_of_none (reply : Reply) (rest : List Reply)
    (failed : reply.answer? = none) : answersIn (reply :: rest) = answersIn rest :=
  List.filterMap_cons_none failed

theorem answersIn_cons_of_some (reply : Reply) (rest : List Reply) (answer : Answer)
    (answered : reply.answer? = some answer) :
    answersIn (reply :: rest) = answer :: answersIn rest :=
  List.filterMap_cons_some answered

namespace BrokenOff

variable {wanted : Nat} {asked unasked : List Reply}

theorem unwanted (replies : List Reply) : BrokenOff 0 [] replies :=
  ⟨Nat.le_refl 0, fun fewer => absurd fewer (Nat.not_lt_zero _), by intro _ _ found; cases found⟩

theorem nobody (wanted : Nat) : BrokenOff wanted [] [] :=
  ⟨Nat.zero_le wanted, fun _ => rfl, by intro _ _ found; cases found⟩

theorem failed (rest : BrokenOff (wanted + 1) asked unasked) (reply : Reply)
    (failed : reply.answer? = none) : BrokenOff (wanted + 1) (reply :: asked) unasked := by
  constructor
  · rw [answersIn_cons_of_none reply asked failed]
    exact rest.bounded
  · rw [answersIn_cons_of_none reply asked failed]
    exact rest.exhausted
  · rw [answersIn_cons_of_none reply asked failed]
    intro complete last found
    cases asked with
    | nil => cases complete
    | cons next later =>
      rw [List.getLast?_cons_cons] at found
      exact rest.decided complete last found

theorem answered (rest : BrokenOff wanted asked unasked) (reply : Reply) (answer : Answer)
    (answered : reply.answer? = some answer) :
    BrokenOff (wanted + 1) (reply :: asked) unasked := by
  have more : (answersIn (reply :: asked)).length = (answersIn asked).length + 1 := by
    rw [answersIn_cons_of_some reply asked answer answered, List.length_cons]
  constructor
  · rw [more]
    exact Nat.succ_le_succ rest.bounded
  · rw [more]
    exact fun fewer => rest.exhausted (Nat.lt_of_succ_lt_succ fewer)
  · rw [more]
    intro complete last found
    cases asked with
    | nil =>
      obtain rfl : reply = last := Option.some.inj found
      simp [answered]
    | cons next later =>
      rw [List.getLast?_cons_cons] at found
      exact rest.decided (Nat.succ.inj complete) last found

/-- Where some are wanted and nobody that was asked has answered, nobody answers. -/
theorem unasked_of_silent (broken : BrokenOff (wanted + 1) asked unasked)
    (silent : answersIn asked = []) : unasked = [] :=
  broken.exhausted (by rw [silent]; exact Nat.succ_pos wanted)

theorem silent_iff (broken : BrokenOff (wanted + 1) asked unasked) :
    answersIn asked = [] ↔ answersIn (asked ++ unasked) = [] := by
  have joined : answersIn (asked ++ unasked) = answersIn asked ++ answersIn unasked :=
    List.filterMap_append
  constructor
  · intro silent
    rw [joined, silent, broken.unasked_of_silent silent]
    rfl
  · intro silent
    rw [joined] at silent
    exact (List.append_eq_nil_iff.mp silent).1

end BrokenOff

/-! ## Attempts -/

section Attempts

variable (client : ReflectorClient World)

/-- Reflectors are asked up to the wanted number of answers. The record has these queries and no
others. -/
theorem collect_eq (port : SourcePort) (wanted : Nat) (reflectors : List Reflector)
    (world : World) (log : List Event) :
    ∃ asked unasked after,
      (askAll client port reflectors world).1 = asked ++ unasked ∧
      BrokenOff wanted asked unasked ∧
      (unasked = [] → after = (askAll client port reflectors world).2) ∧
      collect client port wanted reflectors world = (answersIn asked, after) ∧
      collect client.logged port wanted reflectors (log, world) =
        (answersIn asked, log ++ asked.map (.query port), after) := by
  induction reflectors generalizing wanted world log with
  | nil =>
    refine ⟨[], [], world, rfl, .nobody wanted, fun _ => rfl, ?_, ?_⟩
    · cases wanted <;> rfl
    · rw [List.map_nil, List.append_nil]
      cases wanted <;> rfl
  | cons reflector rest inductionHypothesis =>
    cases wanted with
    | zero =>
      refine ⟨[], _, world, rfl, .unwanted _, fun empty => ?_, rfl, ?_⟩
      · cases empty
      rw [List.map_nil, List.append_nil]
      rfl
    | succ wanted =>
      have loggedQuery : client.logged.query port reflector (log, world) =
          ((client.query port reflector world).1,
            log ++ [.query port ⟨reflector, (client.query port reflector world).1⟩],
            (client.query port reflector world).2) := rfl
      rw [askAll_cons, collect, collect, loggedQuery]
      obtain ⟨outcome, next⟩ := client.query port reflector world
      cases outcome with
      | error failure =>
        obtain ⟨asked, unasked, after, split, broken, whole, run, recorded⟩ :=
          inductionHypothesis (wanted + 1) next (log ++ [.query port ⟨reflector, .error failure⟩])
        refine ⟨⟨reflector, .error failure⟩ :: asked, unasked, after, ?_, ?_, whole, run, ?_⟩
        · exact congrArg (_ :: ·) split
        · exact broken.failed _ rfl
        · rw [List.append_assoc] at recorded
          exact recorded
      | ok mapped =>
        obtain ⟨asked, unasked, after, split, broken, whole, run, recorded⟩ :=
          inductionHypothesis wanted next (log ++ [.query port ⟨reflector, .ok mapped⟩])
        refine ⟨⟨reflector, .ok mapped⟩ :: asked, unasked, after, ?_, ?_, whole, ?_, ?_⟩
        · exact congrArg (_ :: ·) split
        · exact broken.answered _ (reflector.name, mapped) rfl
        · simp only [run]
          rfl
        · rw [List.append_assoc] at recorded
          simp only [recorded]
          rfl

/-- An attempt is a survey that is broken off behind the second answer. -/
theorem attempt_eq (reflectors : List Reflector) (world : World) (log : List Event) :
    ∃ asked unasked after,
      (survey client reflectors world).1.replies = asked ++ unasked ∧
      BrokenOff 2 asked unasked ∧
      (unasked = [] → after = (survey client reflectors world).2) ∧
      attempt client reflectors world = (answersIn asked, after) ∧
      attempt client.logged reflectors (log, world) =
        (answersIn asked,
          log ++ .bind .listen (survey client reflectors world).1.bound ::
            asked.map (.query .listen), after) := by
  have loggedBind : client.logged.bind .listen (log, world) =
      ((client.bind .listen world).1, log ++ [.bind .listen (client.bind .listen world).1],
        (client.bind .listen world).2) := rfl
  unfold survey attempt
  rw [loggedBind]
  obtain ⟨outcome, next⟩ := client.bind .listen world
  cases outcome with
  | error failure => exact ⟨[], [], next, rfl, .nobody 2, fun _ => rfl, rfl, rfl⟩
  | ok done =>
    obtain ⟨asked, unasked, after, split, broken, whole, run, recorded⟩ :=
      collect_eq client .listen 2 reflectors next (log ++ [.bind .listen (.ok ())])
    refine ⟨asked, unasked, after, split, broken, whole, run, ?_⟩
    rw [List.append_assoc] at recorded
    exact recorded

/-- An attempt that gets no answer is a survey, and so is the next one behind it. -/
theorem attempt_of_not_answered (reflectors : List Reflector) (world : World) (log : List Event)
    (silent : ¬(survey client reflectors world).1.Answered) :
    attempt client reflectors world = ([], (survey client reflectors world).2) ∧
      attempt client.logged reflectors (log, world) =
        ([], log ++ (survey client reflectors world).1.events,
          (survey client reflectors world).2) := by
  obtain ⟨asked, unasked, after, split, broken, whole, run, recorded⟩ :=
    attempt_eq client reflectors world log
  have nothing := answersIn_of_not_answered client reflectors world silent
  have nobody : answersIn asked = [] := broken.silent_iff.mpr (split ▸ nothing)
  obtain rfl := broken.unasked_of_silent nobody
  rw [List.append_nil] at split
  rw [run, recorded, nobody, whole rfl, Survey.events, split]
  exact ⟨rfl, rfl⟩

/-- As long as no survey has an answer, the attempts are the surveys. -/
theorem attempts_of_not_answered (reflectors : List Reflector) (count : Nat) (world : World)
    (log : List Event)
    (silent : ∀ survey ∈ surveys client reflectors count world, ¬survey.Answered) :
    ∃ after, attempts client reflectors count world = ([], after) ∧
      attempts client.logged reflectors count (log, world) =
        ([], log ++ (surveys client reflectors count world).flatMap Survey.events, after) := by
  induction count generalizing world log with
  | zero => exact ⟨world, rfl, by simp [surveys, attempts]⟩
  | succ count inductionHypothesis =>
    have here := silent _ List.mem_cons_self
    obtain ⟨run, recorded⟩ := attempt_of_not_answered client reflectors world log here
    obtain ⟨after, laterRun, laterRecorded⟩ := inductionHypothesis
      (survey client reflectors world).2 (log ++ (survey client reflectors world).1.events)
      (fun survey member => silent survey (List.mem_cons_of_mem _ member))
    refine ⟨after, ?_, ?_⟩
    · rw [attempts, run]
      exact laterRun
    · rw [attempts, recorded]
      rw [List.append_assoc] at laterRecorded
      exact laterRecorded

/-- The attempts end with the first survey that has an answer, broken off behind the second one. -/
theorem attempts_of_answered (reflectors : List Reflector) (count : Nat) (world : World)
    (log : List Event) (before behind : List Survey) (first : Survey)
    (split : surveys client reflectors count world = before ++ first :: behind)
    (silent : ∀ earlier ∈ before, ¬earlier.Answered) (answered : first.Answered) :
    ∃ asked unasked after,
      (asked ++ unasked).map Reply.reflector = reflectors ∧
      first.replies = asked ++ unasked ∧ BrokenOff 2 asked unasked ∧ answersIn asked ≠ [] ∧
      attempts client reflectors count world = (answersIn asked, after) ∧
      attempts client.logged reflectors count (log, world) =
        (answersIn asked,
          log ++ (before.flatMap Survey.events ++
            .bind .listen (.ok ()) :: asked.map (.query .listen)), after) := by
  induction count generalizing world log before with
  | zero => cases before <;> cases split
  | succ count inductionHypothesis =>
    cases before with
    | nil =>
      rw [surveys_succ] at split
      obtain ⟨rfl, -⟩ := List.cons.inj split
      obtain ⟨asked, unasked, after, replies, broken, -, run, recorded⟩ :=
        attempt_eq client reflectors world log
      obtain ⟨bound, some⟩ := answered
      have heard : answersIn asked ≠ [] := fun silent =>
        some (replies ▸ broken.silent_iff.mp silent)
      have all := reflectors_of_bound client reflectors world bound
      refine ⟨asked, unasked, after, replies ▸ all, replies, broken, heard, ?_, ?_⟩
      · rw [attempts, run]
        cases found : answersIn asked with
        | nil => exact absurd found heard
        | cons answer more => rfl
      · rw [attempts, recorded, bound]
        cases found : answersIn asked with
        | nil => exact absurd found heard
        | cons answer more => rfl
    | cons earlier before =>
      rw [surveys_succ] at split
      obtain ⟨rfl, splitBehind⟩ := List.cons.inj split
      have here := silent _ List.mem_cons_self
      obtain ⟨run, recorded⟩ := attempt_of_not_answered client reflectors world log here
      obtain ⟨asked, unasked, after, all, replies, broken, heard, laterRun, laterRecorded⟩ :=
        inductionHypothesis (survey client reflectors world).2
          (log ++ (survey client reflectors world).1.events) before splitBehind
          (fun earlier member => silent earlier (List.mem_cons_of_mem _ member))
      refine ⟨asked, unasked, after, all, replies, broken, heard, ?_, ?_⟩
      · rw [attempts, run]
        exact laterRun
      · rw [attempts, recorded]
        rw [List.append_assoc, ← List.append_assoc _ (before.flatMap _)] at laterRecorded
        exact laterRecorded

end Attempts

/-! ## The verdict -/

theorem isSymmetric_cons (first : SocketAddress) (rest : List SocketAddress) :
    isSymmetric (first :: rest) = true ↔ ∃ other ∈ rest, other ≠ first := by
  simp [isSymmetric]

/-- For every client, whatever it does. Let one survey be the first of the discovery's that binds
the port and has an answer. The surveys before it are made in full and no attempt is made behind
it; its reflectors are asked in order, and nobody behind the second answer. The first answer is the
reflexive endpoint, and its reflector is named; the verdict is symmetric exactly if there is a
second answer and it differs. If there is no such survey, all of them are made, and the discovery
falls back to the node's own address. -/
theorem discover_classifies (client : ReflectorClient World) (own : SocketAddress) (count : Nat)
    (reflectors : List Reflector) (world : World) :
    let found := (discover client own count reflectors world).1
    let log := (discover client.logged own count reflectors ([], world)).2.1
    let made := surveys client reflectors (max count 1) world
    (∀ before first behind, made = before ++ first :: behind →
      (∀ earlier ∈ before, ¬earlier.Answered) → first.Answered →
      ∃ asked unasked answer more,
        (asked ++ unasked).map Reply.reflector = reflectors ∧
        first.replies = asked ++ unasked ∧ BrokenOff 2 asked unasked ∧
        answersIn asked = answer :: more ∧
        log = before.flatMap Survey.events ++
          .bind .listen (.ok ()) :: asked.map (.query .listen) ∧
        found.own = own ∧ found.reflexive = answer.2 ∧ found.reflector = some answer.1 ∧
        found.fallback = false ∧
        (found.symmetric = true ↔ ∃ second ∈ more, second.2 ≠ answer.2)) ∧
    ((∀ survey ∈ made, ¬survey.Answered) →
      made.length = max count 1 ∧ log = made.flatMap Survey.events ∧
      found = ⟨own, own, none, false, true⟩) := by
  intro found log made
  constructor
  · intro before first behind split silent answered
    obtain ⟨asked, unasked, after, all, replies, broken, heard, run, recorded⟩ :=
      attempts_of_answered client reflectors (max count 1) world [] before behind first split
        silent answered
    obtain ⟨answer, more, listed⟩ := List.exists_cons_of_ne_nil heard
    have result : found = classify own (answer :: more) := by
      change (discover client own count reflectors world).1 = _
      rw [discover, run, listed]
    have record : log = before.flatMap Survey.events ++
        .bind .listen (.ok ()) :: asked.map (.query .listen) := by
      change (discover client.logged own count reflectors ([], world)).2.1 = _
      rw [discover, recorded]
      rfl
    refine ⟨asked, unasked, answer, more, all, replies, broken, listed, record, ?_⟩
    rw [result]
    refine ⟨rfl, rfl, rfl, rfl, ?_⟩
    refine (isSymmetric_cons answer.2 (more.map Prod.snd)).trans ⟨?_, ?_⟩
    · rintro ⟨_, member, differs⟩
      obtain ⟨second, listed, rfl⟩ := List.mem_map.mp member
      exact ⟨second, listed, differs⟩
    · rintro ⟨second, listed, differs⟩
      exact ⟨second.2, List.mem_map.mpr ⟨second, listed, rfl⟩, differs⟩
  · intro silent
    obtain ⟨after, run, recorded⟩ :=
      attempts_of_not_answered client reflectors (max count 1) world [] silent
    refine ⟨length_surveys client reflectors (max count 1) world, ?_, ?_⟩
    · change (discover client.logged own count reflectors ([], world)).2.1 = _
      rw [discover, recorded]
      rfl
    · change (discover client own count reflectors world).1 = _
      rw [discover, run]
      rfl

end Discovery

namespace Sample

/-- A client that follows a script of what binding and queries come to. -/
def scriptedClient : ReflectorClient
    (List (Except BindFailure Unit) × List (Except Stun.Failure SocketAddress)) where
  bind _ script := (script.1.headD (.error .inUse), script.1.tail, script.2)
  query _ _ script := (script.2.headD (.error .timeout), script.1, script.2.tail)

/-- An address with a port. -/
def endpoint (bits : BitVec 32) (port : UInt16) : SocketAddress := ⟨.v4 bits, port, 0⟩

/-- The reflectors of a discovery. -/
def fourReflectors : List Reflector :=
  ["first", "second", "third", "fourth"].map fun name => ⟨name, endpoint 0x5BC0_0201 3478⟩

/-- The port is held at first. Then nobody answers, and then everyone but the first reflector, each
with another port. -/
def answeringScript :
    List (Except BindFailure Unit) × List (Except Stun.Failure SocketAddress) :=
  ([.error .inUse, .ok (), .ok ()],
    List.replicate 5 (.error .timeout) ++
      [1001, 1002, 1003].map fun port => .ok (endpoint 0xCB00_7109 port))

end Sample

namespace Discovery

/-- The third attempt decides, and its fourth reflector is not asked; with two attempts, none has an
answer. -/
theorem discover_answeringScript :
    let own := Sample.endpoint 0xC0A8_0002 51820
    let found := fun count =>
      (discover Sample.scriptedClient own count Sample.fourReflectors Sample.answeringScript).1
    (∃ asked unasked answer more,
      (asked ++ unasked).map Reply.reflector = Sample.fourReflectors ∧
      BrokenOff 2 asked unasked ∧ answersIn asked = answer :: more ∧
      (found 3).reflexive = answer.2 ∧ (found 3).reflector = some answer.1 ∧
      ∃ second ∈ more, second.2 ≠ answer.2) ∧
    found 2 = ⟨own, own, none, false, true⟩ := by
  intro own found
  have silent : ∀ survey ∈ surveys Sample.scriptedClient Sample.fourReflectors 2
      Sample.answeringScript, ¬survey.Answered := by
    intro survey member
    rcases List.mem_cons.mp member with rfl | member
    · exact fun answered => nomatch answered.1
    · obtain rfl := List.mem_singleton.mp member
      exact fun answered => answered.2 rfl
  obtain ⟨decided, -⟩ := discover_classifies Sample.scriptedClient own 3 Sample.fourReflectors
    Sample.answeringScript
  obtain ⟨-, undecided⟩ := discover_classifies Sample.scriptedClient own 2 Sample.fourReflectors
    Sample.answeringScript
  constructor
  · obtain ⟨asked, unasked, answer, more, all, -, broken, listed, -, -, reflexive, reflector, -,
      symmetric⟩ :=
      decided _ (survey Sample.scriptedClient Sample.fourReflectors
          ([.ok ()], Sample.answeringScript.2.drop 4)).1 [] rfl silent
        ⟨rfl, List.cons_ne_nil _ _⟩
    exact ⟨asked, unasked, answer, more, all, broken, listed, reflexive, reflector,
      symmetric.mp rfl⟩
  · exact (undecided silent).2.2

end Discovery

end MeshNode
