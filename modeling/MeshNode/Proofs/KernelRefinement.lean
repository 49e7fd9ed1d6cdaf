import Mathlib.Data.Finset.Basic
import MeshNode.Proofs.ArgumentTexts
import MeshNode.Proofs.IdentityTexts
import MeshNode.Tunnel.Kernel

/-!
# The kernel's tunnel is a map and a set

Seen from above, a tunnel is a map of peers and a set of routes, and a request is one operation on
them. The kernel's tunnel says all it wants in the arguments of commands and learns the rest from
outputs and error texts. Over a kernel that does what it reads there, every request is granted with
the answer and the effect that it has on the map and the set.

`Instruction.read?` is what such a kernel reads, and `IdealKernel` what it does. What the tunnel
makes of errors holds over every kernel: an error is returned, unless it says in one way for each of
two commands that there was nothing left to do.
-/

namespace MeshNode

/-! ## A map and a set -/

/-- What a tunnel keeps about a peer. A keepalive of zero seconds is none. -/
structure PeerEntry where
  endpoint : SocketAddress
  keepalive : UInt16
  allowed : List Network
  deriving DecidableEq, Repr

/-- What is kept of a peer that is configured. -/
def PeerEntry.ofPeer (peer : TunnelPeer) : PeerEntry :=
  ⟨peer.endpoint, peer.keepalive.getD 0, peer.allowed⟩

/-- A tunnel as a map of peers and a set of routes. -/
structure AbstractTunnel where
  peers : PublicKey → Option PeerEntry := fun _ => none
  routes : Finset Network := ∅

namespace AbstractTunnel

variable (tunnel : AbstractTunnel)

/-- The map with an entry, or without one. -/
def setPeer (key : PublicKey) (entry : Option PeerEntry) : AbstractTunnel :=
  { tunnel with peers := Function.update tunnel.peers key entry }

/-- The set with a route more. -/
def addRoute (network : Network) : AbstractTunnel :=
  { tunnel with routes := insert network tunnel.routes }

/-- The set without a route. -/
def deleteRoute (network : Network) : AbstractTunnel :=
  { tunnel with routes := tunnel.routes.erase network }

/-- What a request answers, and what it leaves. -/
def grant : (request : Request) → AbstractTunnel → request.Reply × AbstractTunnel
  | .configure peer, tunnel => ((), tunnel.setPeer peer.publicKey (some (.ofPeer peer)))
  | .remove key, tunnel => ((), tunnel.setPeer key none)
  | .routeExists network, tunnel => (decide (network ∈ tunnel.routes), tunnel)
  | .addRoute network, tunnel => ((), tunnel.addRoute network)
  | .deleteRoute network, tunnel => ((), tunnel.deleteRoute network)

/-- What requests leave, one after another. -/
def after (requests : List Request) (tunnel : AbstractTunnel) : AbstractTunnel :=
  requests.foldl (fun tunnel request => (grant request tunnel).2) tunnel

end AbstractTunnel

/-! ## What a kernel reads in commands -/

/-- What a command asks of a kernel. -/
inductive Instruction where
  | setPeer (interface : String) (key : PublicKey) (entry : PeerEntry)
  | removePeer (interface : String) (key : PublicKey)
  | showRoute (interface : String) (network : Network)
  | addRoute (interface : String) (network : Network)
  | deleteRoute (interface : String) (network : Network)

namespace Instruction

/-- Seconds between keepalives, as a decimal number of two bytes. -/
def keepalive? (text : String) : Option UInt16 :=
  (Text.number? 10 text.toList).bind fun seconds =>
    if seconds < 65536 then some (UInt16.ofNat seconds) else none

/-- Prefixes with commas between them; the empty text lists none. -/
def allowed? (text : String) : Option (List Network) :=
  if text.toList = [] then some []
  else ((Text.splitAt ',' text.toList).map String.ofList).mapM Network.parse?

/-- A family by its flag. -/
def family? (flag : String) : Option Family :=
  if flag = "-4" then some .v4 else if flag = "-6" then some .v6 else none

/-- A prefix of the family that a flag names. -/
def prefix? (flag text : String) : Option Network :=
  (Network.parse? text).filter fun network => family? flag = some network.address.family

/-- What a command asks, read from its arguments alone. -/
def read? : Command → Option Instruction
  | ⟨"wg", ["set", interface, "peer", key, "endpoint", endpoint,
      "persistent-keepalive", keepalive, "allowed-ips", allowed]⟩ => do
    let key ← (PublicKey.ofBase64 key).toOption
    let endpoint ← SocketAddress.parse? endpoint
    let keepalive ← keepalive? keepalive
    let allowed ← allowed? allowed
    return .setPeer interface key ⟨endpoint, keepalive, allowed⟩
  | ⟨"wg", ["set", interface, "peer", key, "remove"]⟩ =>
    (PublicKey.ofBase64 key).toOption.map (.removePeer interface)
  | ⟨"ip", [flag, "route", "show", text, "dev", interface]⟩ =>
    (prefix? flag text).map (.showRoute interface)
  | ⟨"ip", [flag, "route", "add", text, "dev", interface]⟩ =>
    (prefix? flag text).map (.addRoute interface)
  | ⟨"ip", [flag, "route", "del", text, "dev", interface]⟩ =>
    (prefix? flag text).map (.deleteRoute interface)
  | _ => none

theorem keepalive?_repr (seconds : UInt16) : keepalive? seconds.toNat.repr = some seconds := by
  have small : seconds.toNat < 65536 := seconds.toNat_lt
  simp only [keepalive?, Text.number?_repr, Option.bind_some, if_pos small]
  rw [UInt16.ofNat_toNat]

/-- A list of prefixes is read back, also an empty one. -/
theorem allowed?_joined (networks : List Network) :
    allowed? (Text.joined "," (networks.map Network.print)) = some networks := by
  cases networks with
  | nil => rfl
  | cons first others =>
    have absent : ∀ part ∈ first.print :: others.map Network.print, ',' ∉ part.toList := by
      intro part member
      have listed : part ∈ (first :: others).map Network.print := member
      obtain ⟨network, -, rfl⟩ := List.mem_map.mp listed
      exact network.comma_not_mem_print
    have pieces := Text.splitAt_joined ',' first.print (others.map Network.print) absent
    have given : (Text.joined "," (first.print :: others.map Network.print)).toList ≠ [] := by
      intro empty
      rw [show String.singleton ',' = "," from rfl, empty] at pieces
      have shown : first.print.toList = [] := (List.cons.inj pieces).1.symm
      simp [Network.toList_print] at shown
    rw [allowed?, List.map_cons, if_neg given]
    rw [show "," = String.singleton ',' from rfl, pieces, mapM_eq_some_iff]
    simp [List.forall₂_map_left_iff, List.forall₂_same, Network.parse?_print]

theorem prefix?_print (network : Network) :
    prefix? (KernelTunnel.familyFlag network) network.print = some network := by
  have flagged : family? (KernelTunnel.familyFlag network) = some network.address.family := by
    unfold KernelTunnel.familyFlag
    split
    · rename_i shown
      rw [shown]
      rfl
    · rename_i shown
      rw [shown]
      rfl
  simp [prefix?, Network.parse?_print, flagged]

end Instruction

/-! ## An ideal kernel -/

/-- An output has a line that is not blank. -/
def HasVisibleLine (output : String) : Prop :=
  ∃ line ∈ Text.splitAt '\n' output.toList, ∃ c ∈ line, Text.isBlank c = false

/-- A command failed with the given words in its error text. -/
def FailsWith (words : String) (outcome : Except TunnelError String) : Prop :=
  ∃ program arguments status stderr, outcome = .error (.command program arguments status stderr) ∧
    words.toList <:+: stderr.toList

/-- A kernel does to the interfaces that a view shows what it reads in commands. Its outputs are
open where nothing is asked of them, and so is the rest of its error texts. -/
structure IdealKernel {World : Type} (runner : CommandRunner World)
    (view : World → String → AbstractTunnel) : Prop where
  setPeer : ∀ command interface key entry world,
    Instruction.read? command = some (.setPeer interface key entry) →
      (∃ output, (runner.run command world).1 = .ok output) ∧
        view (runner.run command world).2 = Function.update (view world) interface
          ((view world interface).setPeer key (some entry))
  removePeer : ∀ command interface key world,
    Instruction.read? command = some (.removePeer interface key) →
      (∃ output, (runner.run command world).1 = .ok output) ∧
        view (runner.run command world).2 = Function.update (view world) interface
          ((view world interface).setPeer key none)
  showRoute : ∀ command interface network world,
    Instruction.read? command = some (.showRoute interface network) →
      (∃ output, (runner.run command world).1 = .ok output ∧
        (HasVisibleLine output ↔ network ∈ (view world interface).routes)) ∧
        view (runner.run command world).2 = view world
  addRoute : ∀ command interface network world,
    Instruction.read? command = some (.addRoute interface network) →
      if network ∈ (view world interface).routes then
        FailsWith "File exists" (runner.run command world).1 ∧
          view (runner.run command world).2 = view world
      else
        (∃ output, (runner.run command world).1 = .ok output) ∧
          view (runner.run command world).2 = Function.update (view world) interface
            ((view world interface).addRoute network)
  deleteRoute : ∀ command interface network world,
    Instruction.read? command = some (.deleteRoute interface network) →
      if network ∈ (view world interface).routes then
        (∃ output, (runner.run command world).1 = .ok output) ∧
          view (runner.run command world).2 = Function.update (view world) interface
            ((view world interface).deleteRoute network)
      else
        FailsWith "No such process" (runner.run command world).1 ∧
          view (runner.run command world).2 = view world

/-- The line that a driver looks for is one that is not blank; line ends are blank. -/
theorem hasLine_iff (output : String) :
    KernelTunnel.hasLine output = true ↔ HasVisibleLine output := by
  simp only [KernelTunnel.hasLine, HasVisibleLine, List.any_eq_true, Bool.not_eq_true']
  constructor
  · rintro ⟨c, member, visible⟩
    have other : c ≠ '\n' := by
      rintro rfl
      cases visible
    obtain ⟨line, listed, inside⟩ :=
      (Text.exists_mem_splitAt_iff '\n' output.toList c other).mpr member
    exact ⟨line, listed, c, inside, visible⟩
  · rintro ⟨line, listed, c, inside, visible⟩
    have other : c ≠ '\n' := by
      rintro rfl
      cases visible
    exact ⟨c, (Text.exists_mem_splitAt_iff '\n' _ c other).mp ⟨line, listed, inside⟩, visible⟩

namespace KernelTunnel

variable (tunnel : KernelTunnel)

/-! ## What the commands of a tunnel say -/

/-- The command of a request. -/
def command : Request → Command
  | .configure peer => tunnel.setPeer peer
  | .remove key => tunnel.removePeer key
  | .routeExists network => tunnel.route "show" network
  | .addRoute network => tunnel.route "add" network
  | .deleteRoute network => tunnel.route "del" network

/-- What a request asks of the kernel. -/
def instruction : Request → Instruction
  | .configure peer => .setPeer tunnel.interface peer.publicKey (.ofPeer peer)
  | .remove key => .removePeer tunnel.interface key
  | .routeExists network => .showRoute tunnel.interface network
  | .addRoute network => .addRoute tunnel.interface network
  | .deleteRoute network => .deleteRoute tunnel.interface network

/-- The endpoint that a request sets is one that can be printed. -/
def Proper (request : Request) : Prop :=
  ∀ peer, request = .configure peer → peer.endpoint.Proper

/-- What a request asks is read in its command. -/
theorem read?_command (request : Request) (proper : Proper request) :
    Instruction.read? (tunnel.command request) = some (tunnel.instruction request) := by
  cases request with
  | configure peer =>
    have endpoint := SocketAddress.parse?_print peer.endpoint (proper peer rfl)
    simp [command, instruction, setPeer, wg, Instruction.read?, PublicKey.ofBase64_toBase64,
      Except.toOption, endpoint, Instruction.keepalive?_repr, Instruction.allowed?_joined,
      PeerEntry.ofPeer]
  | remove key =>
    simp [command, instruction, removePeer, wg, Instruction.read?, PublicKey.ofBase64_toBase64,
      Except.toOption]
  | routeExists network | addRoute network | deleteRoute network =>
    simp [command, instruction, route, ip, Instruction.read?, Instruction.prefix?_print]

/-! ## One request -/

/-- What the outcome of its command means for a request. -/
def reply : (request : Request) → Except TunnelError String → Except TunnelError request.Reply
  | .configure _, outcome => outcome.map fun _ => ()
  | .remove _, outcome => outcome.map fun _ => ()
  | .routeExists _, outcome => outcome.map hasLine
  | .addRoute _, .ok _ => .ok ()
  | .addRoute _, .error error => if error.mentions "File exists" then .ok () else .error error
  | .deleteRoute _, .ok _ => .ok ()
  | .deleteRoute _, .error error =>
    if error.mentions "No such process" then .ok () else .error error

/-- A request is answered by running its command, once. -/
theorem answer_eq {World : Type} (runner : CommandRunner World) (request : Request)
    (world : World) :
    tunnel.answer runner request world =
      (reply request (runner.run (tunnel.command request) world).1,
        (runner.run (tunnel.command request) world).2) := by
  cases request with
  | configure | remove | routeExists => rfl
  | addRoute network | deleteRoute network =>
    rw [answer, performUnless, command]
    split
    · rename_i ran
      rw [ran]
      rfl
    · rename_i ran
      rw [ran]
      rfl

/-- An error says in the words for its request that there was nothing left to do. -/
def Forgives (request : Request) (error : TunnelError) : Prop :=
  match request, error with
  | .addRoute _, .command _ _ _ stderr => "File exists".toList <:+: stderr.toList
  | .deleteRoute _, .command _ _ _ stderr => "No such process".toList <:+: stderr.toList
  | _, _ => False

/-- A command that fails fails its request with the same error, unless it is forgiven. -/
theorem reply_error (request : Request) (error : TunnelError) :
    (Forgives request error → ∃ answer, reply request (.error error) = .ok answer) ∧
      (¬ Forgives request error → reply request (.error error) = .error error) := by
  cases request <;> cases error <;>
    simp [Forgives, reply, Except.map, TunnelError.mentions, Text.occursIn_iff]

theorem mentions_of_failsWith (words : String) (outcome : Except TunnelError String)
    (failed : FailsWith words outcome) :
    ∃ error, outcome = .error error ∧ error.mentions words = true := by
  obtain ⟨program, arguments, status, stderr, rfl, said⟩ := failed
  exact ⟨_, rfl, (Text.occursIn_iff words stderr).mpr said⟩

section Ideal

variable {World : Type} {runner : CommandRunner World} {view : World → String → AbstractTunnel}

/-- Over an ideal kernel a request does to the interface what it does to the map and the set, and
nothing to any other interface. -/
theorem answer_ideal (ideal : IdealKernel runner view) (request : Request)
    (proper : Proper request) (world : World) :
    (tunnel.answer runner request world).1 =
        .ok (AbstractTunnel.grant request (view world tunnel.interface)).1 ∧
      view (tunnel.answer runner request world).2 =
        Function.update (view world) tunnel.interface
          (AbstractTunnel.grant request (view world tunnel.interface)).2 := by
  have read := tunnel.read?_command request proper
  rw [answer_eq]
  cases request with
  | configure peer =>
    obtain ⟨⟨output, ran⟩, moved⟩ := ideal.setPeer _ _ _ _ world read
    exact ⟨by rw [ran]; rfl, moved⟩
  | remove key =>
    obtain ⟨⟨output, ran⟩, moved⟩ := ideal.removePeer _ _ _ world read
    exact ⟨by rw [ran]; rfl, moved⟩
  | routeExists network =>
    obtain ⟨⟨output, ran, shown⟩, still⟩ := ideal.showRoute _ _ _ world read
    have found : hasLine output = decide (network ∈ (view world tunnel.interface).routes) := by
      rw [Bool.eq_iff_iff, hasLine_iff, decide_eq_true_iff, shown]
    refine ⟨?_, still.trans (Function.update_eq_self _ _).symm⟩
    rw [ran, reply, Except.map, found, AbstractTunnel.grant]
  | addRoute network =>
    have added := ideal.addRoute _ _ _ world read
    split at added
    · rename_i present
      obtain ⟨failed, still⟩ := added
      obtain ⟨error, ran, said⟩ := mentions_of_failsWith _ _ failed
      have same : (view world tunnel.interface).addRoute network = view world tunnel.interface := by
        rw [AbstractTunnel.addRoute, Finset.insert_eq_of_mem present]
      refine ⟨by rw [ran, reply, if_pos said, AbstractTunnel.grant], ?_⟩
      rw [still, AbstractTunnel.grant, same, Function.update_eq_self]
    · obtain ⟨⟨output, ran⟩, moved⟩ := added
      exact ⟨by rw [ran]; rfl, moved⟩
  | deleteRoute network =>
    have deleted := ideal.deleteRoute _ _ _ world read
    split at deleted
    · obtain ⟨⟨output, ran⟩, moved⟩ := deleted
      exact ⟨by rw [ran]; rfl, moved⟩
    · rename_i absent
      obtain ⟨failed, still⟩ := deleted
      obtain ⟨error, ran, said⟩ := mentions_of_failsWith _ _ failed
      have same : (view world tunnel.interface).deleteRoute network =
          view world tunnel.interface := by
        rw [AbstractTunnel.deleteRoute, Finset.erase_eq_of_notMem absent]
      refine ⟨by rw [ran, reply, if_pos said, AbstractTunnel.grant], ?_⟩
      rw [still, AbstractTunnel.grant, same, Function.update_eq_self]

/-! ## Any number of requests -/

/-- What requests leave, one after another. -/
def after (runner : CommandRunner World) (requests : List Request) (world : World) : World :=
  requests.foldl (fun world request => (tunnel.answer runner request world).2) world

theorem view_after (ideal : IdealKernel runner view) (requests : List Request)
    (proper : ∀ request ∈ requests, Proper request) (world : World) :
    view (tunnel.after runner requests world) =
      Function.update (view world) tunnel.interface
        ((view world tunnel.interface).after requests) := by
  induction requests generalizing world with
  | nil => exact (Function.update_eq_self _ _).symm
  | cons request rest inductionHypothesis =>
    have moved := (tunnel.answer_ideal ideal request (proper request List.mem_cons_self) world).2
    have others := inductionHypothesis
      (fun other member => proper other (List.mem_cons_of_mem request member))
      (tunnel.answer runner request world).2
    rw [moved, Function.update_idem, Function.update_self] at others
    exact others

end Ideal

/-- A tunnel over commands grants every request with the answer and the effect that the request has
on a map of peers and a set of routes, and touches no other interface. -/
structure RefinesAbstract {World : Type} (runner : CommandRunner World)
    (view : World → String → AbstractTunnel) : Prop where
  /-- Whatever was asked before, a request is granted, with the answer of the map and the set. -/
  granted : ∀ earlier request world, (∀ asked ∈ earlier ++ [request], Proper asked) →
    (tunnel.answer runner request (tunnel.after runner earlier world)).1 =
      .ok (AbstractTunnel.grant request ((view world tunnel.interface).after earlier)).1
  /-- Requests leave the peers and the routes that they leave in the map and the set. -/
  moved : ∀ requests world, (∀ asked ∈ requests, Proper asked) →
    view (tunnel.after runner requests world) =
      Function.update (view world) tunnel.interface
        ((view world tunnel.interface).after requests)

/-- Every error of a command is returned, but for the two that say that a route to be added is there
and that one to be deleted is not. -/
def ReturnsErrors {World : Type} (runner : CommandRunner World) : Prop :=
  ∀ request world error, (runner.run (tunnel.command request) world).1 = .error error →
    (Forgives request error → ∃ reply, (tunnel.answer runner request world).1 = .ok reply) ∧
      (¬ Forgives request error → (tunnel.answer runner request world).1 = .error error)

/-- Over an ideal kernel the kernel's tunnel is a map of peers and a set of routes, and over every
kernel it returns the errors of its commands. -/
theorem kernel_refines_abstract {World : Type} (runner : CommandRunner World) :
    (∀ view, IdealKernel runner view → tunnel.RefinesAbstract runner view) ∧
      tunnel.ReturnsErrors runner := by
  refine ⟨fun view ideal => ⟨fun earlier request world proper => ?_, ?_⟩, ?_⟩
  · have before : ∀ asked ∈ earlier, Proper asked :=
      fun asked member => proper asked (List.mem_append_left _ member)
    have last : Proper request := proper request (by simp)
    have reached := congrFun (tunnel.view_after ideal earlier before world) tunnel.interface
    rw [Function.update_self] at reached
    rw [(tunnel.answer_ideal ideal request last _).1, reached]
  · exact fun requests world proper => tunnel.view_after ideal requests proper world
  · intro request world error failed
    rw [answer_eq, failed]
    exact reply_error request error

/-! ## A kernel as it should be -/

namespace Sample

/-- What an instruction answers and does. -/
def execute (kernel : String → AbstractTunnel) :
    Instruction → Except TunnelError String × (String → AbstractTunnel)
  | .setPeer interface key entry =>
    (.ok "", Function.update kernel interface ((kernel interface).setPeer key (some entry)))
  | .removePeer interface key =>
    (.ok "", Function.update kernel interface ((kernel interface).setPeer key none))
  | .showRoute interface network =>
    (.ok (if network ∈ (kernel interface).routes then "scope link\n" else "\n"), kernel)
  | .addRoute interface network =>
    if network ∈ (kernel interface).routes then
      (.error (.command "ip" "route add" 2 "RTNETLINK answers: File exists"), kernel)
    else (.ok "", Function.update kernel interface ((kernel interface).addRoute network))
  | .deleteRoute interface network =>
    if network ∈ (kernel interface).routes then
      (.ok "", Function.update kernel interface ((kernel interface).deleteRoute network))
    else (.error (.command "ip" "route del" 2 "RTNETLINK answers: No such process"), kernel)

/-- A kernel that is nothing but its interfaces. Commands that it does not know succeed. -/
def runner : CommandRunner (String → AbstractTunnel) where
  run command kernel :=
    match Instruction.read? command with
    | some instruction => execute kernel instruction
    | none => (.ok "", kernel)

theorem run_of_read (command : Command) (instruction : Instruction)
    (kernel : String → AbstractTunnel) (read : Instruction.read? command = some instruction) :
    runner.run command kernel = execute kernel instruction := by
  simp only [runner, read]

theorem ideal : IdealKernel runner id where
  setPeer command interface key entry kernel read := by
    rw [run_of_read _ _ _ read]
    exact ⟨⟨_, rfl⟩, rfl⟩
  removePeer command interface key kernel read := by
    rw [run_of_read _ _ _ read]
    exact ⟨⟨_, rfl⟩, rfl⟩
  showRoute command interface network kernel read := by
    rw [run_of_read _ _ _ read]
    refine ⟨⟨_, rfl, ?_⟩, rfl⟩
    rw [← hasLine_iff]
    by_cases present : network ∈ (kernel interface).routes
    · simpa [present] using by decide
    · simpa [present] using by decide
  addRoute command interface network kernel read := by
    rw [run_of_read _ _ _ read, execute]
    by_cases present : network ∈ (kernel interface).routes
    · simp only [id_eq, if_pos present]
      exact ⟨⟨_, _, _, _, rfl, by decide⟩, trivial⟩
    · simp only [id_eq, if_neg present]
      exact ⟨⟨_, rfl⟩, trivial⟩
  deleteRoute command interface network kernel read := by
    rw [run_of_read _ _ _ read, execute]
    by_cases present : network ∈ (kernel interface).routes
    · simp only [id_eq, if_pos present]
      exact ⟨⟨_, rfl⟩, trivial⟩
    · simp only [id_eq, if_neg present]
      exact ⟨⟨_, _, _, _, rfl, by decide⟩, trivial⟩

/-- A tunnel whose name could be taken for a word of a command. -/
def devTunnel : KernelTunnel := ⟨"dev", "/state/private.key"⟩

def prefixV6 : Network := ⟨.v6 0, 0, by decide⟩

/-- A peer behind a scoped address that may use no prefix. -/
def peer : TunnelPeer :=
  ⟨⟨List.replicate 32 35, by decide⟩, ⟨.v6 1, 51820, 3⟩, [], some 0, .relayPeer⟩

def requests : List Request := [.configure peer, .addRoute prefixV6, .addRoute prefixV6]

end Sample

/-- A route that was added twice is there, and a peer without a keepalive has one of zero. -/
theorem kernel_refines_abstract_sample :
    IdealKernel Sample.runner id ∧
      (Sample.devTunnel.answer Sample.runner (.routeExists Sample.prefixV6)
        (Sample.devTunnel.after Sample.runner Sample.requests fun _ => {})).1 = .ok true ∧
      (Sample.devTunnel.after Sample.runner Sample.requests (fun _ => {}) "dev").peers
        Sample.peer.publicKey = some ⟨Sample.peer.endpoint, 0, []⟩ := by
  have refines := (Sample.devTunnel.kernel_refines_abstract Sample.runner).1 id Sample.ideal
  have proper : ∀ asked ∈ Sample.requests ++ [.routeExists Sample.prefixV6], Proper asked := by
    intro asked member peer same
    subst same
    have shown : peer = Sample.peer := by simpa [Sample.requests] using member
    subst shown
    exact nofun
  refine ⟨Sample.ideal, (refines.granted Sample.requests _ _ proper).trans ?_, ?_⟩
  · decide
  · have moved := refines.moved Sample.requests (fun _ => {})
      fun asked member => proper asked (List.mem_append_left _ member)
    rw [id_eq, id_eq] at moved
    rw [moved]
    decide

end KernelTunnel

end MeshNode
