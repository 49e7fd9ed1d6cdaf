import MeshNode.Proofs.Changes
import MeshNode.Proofs.Tables

/-!
# What may be relied on in a tunnel

Two laws that a driver may keep, each about a view of its states. A driver holds
peers if a granted change leaves its key as it was wanted and no request touches
any other key; what a failed change leaves at its own key is not said. A driver
holds routes if it answers for the exact prefix, a granted request adds or deletes
that prefix alone, and a failed one leaves every route where it was.

Neither law says which requests fail. The scripted tunnel keeps both and fails as
it is told to; a peer whose change fails is lost there.
-/

namespace MeshNode

variable {World : Type}

/-- The law of the peers. -/
structure HoldsPeers (driver : Driver World)
    (peerAt : World → PublicKey → Option TunnelPeer) : Prop where
  /-- A granted change leaves its key as it was wanted. -/
  granted : ∀ (change : Change) world, (driver.answer change.request world).1.isOk = true →
    peerAt (driver.answer change.request world).2 change.key = change.wanted
  /-- Granted or not, a change touches no other key. -/
  others : ∀ (change : Change) world key, key ≠ change.key →
    peerAt (driver.answer change.request world).2 key = peerAt world key
  /-- Requests about routes touch no peer. -/
  routeBlind : RouteBlind driver peerAt

/-- The law of the routes. -/
structure HoldsRoutes (driver : Driver World) (routed : World → Network → Prop) : Prop where
  /-- A prefix is found exactly if it is routed. -/
  found : ∀ network world answer,
    (driver.answer (.routeExists network) world).1 = .ok answer →
      (answer = true ↔ routed world network)
  /-- Looking for a route changes none. -/
  looked : ∀ network world other,
    routed (driver.answer (.routeExists network) world).2 other ↔ routed world other
  /-- A granted addition adds its prefix alone, a failed one nothing. -/
  added : ∀ network world other,
    routed (driver.answer (.addRoute network) world).2 other ↔
      routed world other ∨
        ((driver.answer (.addRoute network) world).1.isOk = true ∧ other = network)
  /-- A granted deletion deletes its prefix alone, a failed one nothing. -/
  deleted : ∀ network world other,
    routed (driver.answer (.deleteRoute network) world).2 other ↔
      routed world other ∧
        ¬((driver.answer (.deleteRoute network) world).1.isOk = true ∧ other = network)
  /-- Changes of peers change no route. -/
  changed : ∀ (change : Change) world other,
    routed (driver.answer change.request world).2 other ↔ routed world other

/-- A tunnel with a table of peers and a table of routes, whose requests fail as a script says. -/
structure ScriptedTunnel where
  peers : Table PublicKey TunnelPeer := Table.empty
  routes : List Network := []
  /-- Whether the next requests fail, in order; behind the script none does. -/
  script : List Bool := []
  deriving DecidableEq, Repr

namespace ScriptedTunnel

/-- What a granted request answers, and what it changes. -/
def granted : (request : Request) → ScriptedTunnel → request.Reply × ScriptedTunnel
  | .configure peer, tunnel =>
    ((), { tunnel with peers := tunnel.peers.insert peer.publicKey peer })
  | .remove key, tunnel => ((), { tunnel with peers := tunnel.peers.erase key })
  | .routeExists network, tunnel => (tunnel.routes.contains network, tunnel)
  | .addRoute network, tunnel => ((), { tunnel with routes := network :: tunnel.routes })
  | .deleteRoute network, tunnel =>
    ((), { tunnel with routes := tunnel.routes.filter (· ≠ network) })

/-- What a failed request leaves: a peer that was to be changed is gone. -/
def disturbed : Request → ScriptedTunnel → ScriptedTunnel
  | .configure peer, tunnel => { tunnel with peers := tunnel.peers.erase peer.publicKey }
  | .remove key, tunnel => { tunnel with peers := tunnel.peers.erase key }
  | .routeExists _, tunnel => tunnel
  | .addRoute _, tunnel => tunnel
  | .deleteRoute _, tunnel => tunnel

/-- The driver of a scripted tunnel. -/
def driver : Driver ScriptedTunnel where
  answer request tunnel :=
    match tunnel.script with
    | true :: rest => (.error .notRunning, disturbed request { tunnel with script := rest })
    | false :: rest =>
      let (reply, tunnel) := granted request { tunnel with script := rest }
      (.ok reply, tunnel)
    | [] =>
      let (reply, tunnel) := granted request tunnel
      (.ok reply, tunnel)

/-- The peer of a key. -/
def peerAt (tunnel : ScriptedTunnel) (key : PublicKey) : Option TunnelPeer := tunnel.peers.get? key

/-- Whether a prefix is routed. -/
def Routed (tunnel : ScriptedTunnel) (network : Network) : Prop := network ∈ tunnel.routes

/-- The scripted tunnel keeps the law of the peers. -/
theorem holdsPeers : HoldsPeers driver peerAt where
  granted change tunnel success := by
    obtain ⟨peers, routes, script⟩ := tunnel
    rcases script with _ | ⟨_ | _, rest⟩ <;> cases change <;>
      simp_all [driver, granted, peerAt, Change.request, Change.key, Change.wanted,
        Except.isOk, Except.toBool]
  others change tunnel key other := by
    obtain ⟨peers, routes, script⟩ := tunnel
    rcases script with _ | ⟨_ | _, rest⟩ <;> cases change <;> rw [Change.key] at other <;>
      simp [driver, granted, disturbed, peerAt, Change.request, Table.get?_insert,
        Table.get?_erase, other]
  routeBlind := by
    constructor
    all_goals
      rintro network ⟨peers, routes, script⟩
      rcases script with _ | ⟨_ | _, rest⟩ <;> rfl

/-- The scripted tunnel keeps the law of the routes. -/
theorem holdsRoutes : HoldsRoutes driver Routed where
  found network tunnel answer success := by
    obtain ⟨peers, routes, script⟩ := tunnel
    rcases script with _ | ⟨_ | _, rest⟩ <;> simp_all [driver, granted, Routed]
    all_goals grind
  looked network tunnel other := by
    obtain ⟨peers, routes, script⟩ := tunnel
    rcases script with _ | ⟨_ | _, rest⟩ <;> rfl
  added network tunnel other := by
    obtain ⟨peers, routes, script⟩ := tunnel
    rcases script with _ | ⟨_ | _, rest⟩ <;>
      simp [driver, granted, disturbed, Routed, Except.isOk, Except.toBool, or_comm]
  deleted network tunnel other := by
    obtain ⟨peers, routes, script⟩ := tunnel
    rcases script with _ | ⟨_ | _, rest⟩ <;>
      simp [driver, granted, disturbed, Routed, Except.isOk, Except.toBool]
  changed change tunnel other := by
    obtain ⟨peers, routes, script⟩ := tunnel
    rcases script with _ | ⟨_ | _, rest⟩ <;> cases change <;> rfl

end ScriptedTunnel

end MeshNode
