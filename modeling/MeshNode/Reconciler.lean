import MeshNode.Applier
import MeshNode.DeviceCache
import MeshNode.Path

/-!
# Reconciliation

Each tick fetches the whole listing of the organization. Where anything that feeds path
selection has moved, the node computes every path anew, replaces the device cache and
pushes to the tunnel only the peers whose configuration differs from what is applied.

A tick is made of separate steps, each a definition of its own: preparing the listing,
deciding whether to run, planning, comparing the plan with what is applied, and settling
the outcome. Five facts decide whether to run: the phase, the listing, the keys whose last
change failed, the verdict on the relays and the generation of the local node.
-/

namespace MeshNode

/-- Why no listing came. -/
inductive ListingError where
  /-- The tick is skipped. -/
  | transient (reason : String)
  /-- The session is no longer valid. -/
  | unauthorized (reason : String)
  deriving DecidableEq, Repr

/-- The wording of a failed fetch. -/
def ListingError.message : ListingError → String
  | .transient reason => s!"transient listing failure: {reason}"
  | .unauthorized reason => s!"unauthorized: {reason}"

/-- Where the reconciler stands. -/
inductive Phase where
  | initializing
  | steady
  | reauthenticating
  deriving DecidableEq, Repr

/-- The name of a phase. -/
def Phase.name : Phase → String
  | .initializing => "initializing"
  | .steady => "steady"
  | .reauthenticating => "reauthenticating"

/-- What a tick did. -/
inductive TickOutcome where
  /-- No listing came and nothing was touched. -/
  | skipped
  | unchanged
  | applied
  deriving DecidableEq, Repr

/-- The name of an outcome. -/
def TickOutcome.name : TickOutcome → String
  | .skipped => "Skipped"
  | .unchanged => "Unchanged"
  | .applied => "Applied"

/-- The report of a tick. -/
structure TickReport where
  outcome : TickOutcome
  peers : Nat := 0
  unreachable : Nat := 0
  converging : Nat := 0
  apply : ApplyReport := {}
  deriving DecidableEq, Repr

/-- The reconciler's memory. -/
structure Reconciler where
  phase : Phase := .initializing
  steadyOnce : Bool := false
  applier : Applier := {}
  applied : Table PublicKey TunnelPeer := Table.empty
  /-- Keys whose last change failed, so that the tunnel's state for them is unknown. -/
  dirty : List PublicKey := []
  lastRelayHealthy : Option Bool := none
  lastGeneration : Option UInt64 := none
  deriving DecidableEq, Repr

namespace Reconciler

/-- Stop until the session is restored. -/
def awaitSession (reconciler : Reconciler) : Reconciler :=
  { reconciler with phase := .reauthenticating }

/-- Go on after the session was restored. -/
def resume (reconciler : Reconciler) : Reconciler :=
  { reconciler with phase := if reconciler.steadyOnce then .steady else .initializing }

/-- Drop every record whose identifier equals that of the record before it. -/
def dropRepeats : List PeerRecord → List PeerRecord
  | [] => []
  | [record] => [record]
  | record :: next :: rest =>
    if record.id = next.id then dropRepeats (record :: rest)
    else record :: dropRepeats (next :: rest)
termination_by records => records.length

/-- The listing without the local node, by ascending identifier; of records with one
identifier the first listed counts. -/
def prepare (node : LocalNode) (listing : List PeerRecord) : List PeerRecord :=
  dropRepeats ((listing.filter fun record => !node.isSelf record).mergeSort
    fun a b => a.id.rank ≤ b.id.rank)

/-- Look for an identifier by halving. Each step compares it with that of the record in the middle
and keeps half of the records, rounded up: the first ones or the last ones. Only where identifiers
ascend is that the half in which the record would stand. -/
def bisect (id : Uuid) (records : List PeerRecord) : Bool :=
  if several : 1 < records.length then
    let half := records.length / 2
    have inside : half < records.length := Nat.div_lt_self (Nat.zero_lt_of_lt several) (by decide)
    if id.rank < records[half].id.rank then bisect id (records.take (records.length - half))
    else bisect id (records.drop half)
  else records.any (·.id = id)
termination_by records.length
decreasing_by
  all_goals
    simp only [List.length_take, List.length_drop]
    omega

/-- How a prepared listing differs from a snapshot: the numbers of records that are new, that
changed, and that are gone. -/
structure ListingDiff where
  added : Nat
  changed : Nat
  removed : Nat
  deriving DecidableEq, Repr

/-- Compare a prepared listing with a snapshot. -/
def listingDiff (snapshot : Table Uuid CacheEntry) (peers : List PeerRecord) : ListingDiff :=
  { added := peers.countP fun peer => !snapshot.contains peer.id
    changed := peers.countP fun peer =>
      match snapshot.get? peer.id with
      | some entry => entry.record ≠ peer
      | none => false
    removed := snapshot.keys.countP fun id => !bisect id peers }

/-- Whether anything differs. -/
def ListingDiff.differs (diff : ListingDiff) : Bool := 0 < diff.added + diff.changed + diff.removed

/-- Whether a tick has to compute the paths. -/
def mustRun (reconciler : Reconciler) (node : LocalNode) (cache : DeviceCache)
    (peers : List PeerRecord) : Bool :=
  reconciler.phase ≠ .steady ||
    (listingDiff cache.snapshot peers).differs ||
    !reconciler.dirty.isEmpty ||
    reconciler.lastRelayHealthy ≠ some (cache.relayHealthyAmong peers) ||
    reconciler.lastGeneration ≠ some node.generation

/-- The prefixes behind the peers that go through the relay, in the order of the peers. -/
def relayedChildren (paths : List (PeerRecord × PeerPath)) : List Network :=
  paths.flatMap fun (_, path) =>
    match path with
    | .viaRelay child => child
    | _ => []

/-- The configuration that a path asks for. A converging peer keeps the one it has. -/
def configOf? (applied : Table PublicKey TunnelPeer) (peer : PeerRecord) :
    PeerPath → Option TunnelPeer
  | .direct config => some config
  | .converging _ => applied.get? peer.publicKey
  | .viaRelay _ => none
  | .unreachable => none

/-- A relay also carries the relayed prefixes. -/
def carryChildren (peer : PeerRecord) (children : List Network) (config : TunnelPeer) :
    TunnelPeer :=
  if peer.relay && !children.isEmpty then
    { config with allowed := Network.distinct (config.allowed ++ children) }
  else config

/-- The final configuration of a peer. -/
def desiredConfig? (applied : Table PublicKey TunnelPeer) (children : List Network)
    (peer : PeerRecord) (path : PeerPath) : Option TunnelPeer :=
  (configOf? applied peer path).map (carryChildren peer children)

/-- The cache entry of a peer: with a configuration its endpoint, method and prefixes; without
one the method of the path, and the prefixes that go through the relay. -/
def entryOf (peer : PeerRecord) (path : PeerPath) (config : Option TunnelPeer) : CacheEntry :=
  match config with
  | some config => ⟨peer, some config.method, some config.endpoint, config.allowed⟩
  | none =>
    match path with
    | .viaRelay child => ⟨peer, path.method?, none, Network.distinct (peer.allowed ++ child)⟩
    | _ => ⟨peer, path.method?, none, []⟩

/-- What one full computation wants: the cache entries, the tunnel's peers, and how many peers
are out of reach or converging. -/
structure Plan where
  entries : Table Uuid CacheEntry := Table.empty
  desired : Table PublicKey TunnelPeer := Table.empty
  unreachable : Nat := 0
  converging : Nat := 0
  deriving DecidableEq, Repr

/-- Add one peer to a plan. -/
def Plan.add (applied : Table PublicKey TunnelPeer) (children : List Network) (plan : Plan)
    (peerPath : PeerRecord × PeerPath) : Plan :=
  let (peer, path) := peerPath
  let config := desiredConfig? applied children peer path
  { entries := plan.entries.insert peer.id (entryOf peer path config)
    desired := match config with
      | some config => plan.desired.insert config.publicKey config
      | none => plan.desired
    unreachable := plan.unreachable + (if path = .unreachable then 1 else 0)
    converging := plan.converging + (match path with | .converging _ => 1 | _ => 0) }

/-- The paths to the prepared peers. -/
def pathsOf (node : LocalNode) (peers : List PeerRecord) (relayHealthy : Bool) :
    List (PeerRecord × PeerPath) :=
  peers.map fun peer => (peer, PeerPath.select node peer relayHealthy)

/-- Plan for the paths to all peers. -/
def plan (applied : Table PublicKey TunnelPeer) (paths : List (PeerRecord × PeerPath)) : Plan :=
  paths.foldl (Plan.add applied (relayedChildren paths)) {}

/-- The peers to configure, by ascending key: the desired ones that are not applied as desired
or whose last change failed. -/
def toConfigure (reconciler : Reconciler) (desired : Table PublicKey TunnelPeer) :
    List TunnelPeer :=
  (desired.values.filter fun peer =>
    reconciler.dirty.contains peer.publicKey ||
      reconciler.applied.get? peer.publicKey ≠ some peer).mergeSort
    fun a b => a.publicKey.rank ≤ b.publicKey.rank

/-- The keys to remove, each once and ascending: those that are applied, or whose last change
failed, and that are not desired. -/
def toRemove (reconciler : Reconciler) (desired : Table PublicKey TunnelPeer) : List PublicKey :=
  ((reconciler.applied.keys ++ reconciler.dirty).filter
    fun key => !desired.contains key).eraseDups.mergeSort fun a b => a.rank ≤ b.rank

/-- Mark a key as one whose last change failed. -/
def markDirty (dirty : List PublicKey) (key : PublicKey) : List PublicKey :=
  if key ∈ dirty then dirty else dirty ++ [key]

/-- Take the outcome of a configured peer into account: a failed one is no longer known to be
applied. -/
def settleConfigured (report : ApplyReport) (reconciler : Reconciler) (peer : TunnelPeer) :
    Reconciler :=
  if report.failed peer.publicKey then
    { reconciler with
      applied := reconciler.applied.erase peer.publicKey
      dirty := markDirty reconciler.dirty peer.publicKey }
  else
    { reconciler with
      applied := reconciler.applied.insert peer.publicKey peer
      dirty := reconciler.dirty.filter (· ≠ peer.publicKey) }

/-- Take the outcome of a removed key into account: a failed removal leaves it applied. -/
def settleRemoved (report : ApplyReport) (reconciler : Reconciler) (key : PublicKey) : Reconciler :=
  if report.failed key then { reconciler with dirty := markDirty reconciler.dirty key }
  else
    { reconciler with
      applied := reconciler.applied.erase key
      dirty := reconciler.dirty.filter (· ≠ key) }

/-- Take the outcome of a whole pass into account. -/
def settle (report : ApplyReport) (added : List TunnelPeer) (removed : List PublicKey)
    (reconciler : Reconciler) : Reconciler :=
  removed.foldl (settleRemoved report) (added.foldl (settleConfigured report) reconciler)

end Reconciler

/-- A node at work: what it knows about itself, the device cache, the reconciler's memory, and the
state of the tunnel. -/
structure Node (World : Type) where
  localNode : LocalNode
  cache : DeviceCache := {}
  reconciler : Reconciler := {}
  world : World

namespace Node

open Reconciler

variable {World : Type} (driver : Driver World)

/-- Compute all paths for prepared peers and apply the difference. -/
def fullPass (peers : List PeerRecord) (node : Node World) : TickReport × Node World :=
  let reconciler := node.reconciler
  let relayHealthy := node.cache.relayHealthyAmong peers
  let plan := Reconciler.plan reconciler.applied (pathsOf node.localNode peers relayHealthy)
  let added := reconciler.toConfigure plan.desired
  let removed := reconciler.toRemove plan.desired
  let pass := Applier.apply driver added removed reconciler.applier node.world
  let settled := settle pass.report added removed { reconciler with applier := pass.applier }
  let report : TickReport :=
    { outcome := .applied
      peers := plan.entries.size
      unreachable := plan.unreachable
      converging := plan.converging
      apply := pass.report }
  (report,
    { node with
      cache := node.cache.replace plan.entries
      reconciler :=
        { settled with
          phase := .steady
          steadyOnce := true
          lastRelayHealthy := some relayHealthy
          lastGeneration := some node.localNode.generation }
      world := pass.world })

/-- One tick with the answer of the listing fetch. A transient failure skips the tick; an
unauthorized one stops the reconciler until the session is restored. -/
def tick (fetched : Except ListingError (List PeerRecord)) (node : Node World) :
    Except ListingError TickReport × Node World :=
  match fetched with
  | .error (.transient _) => (.ok { outcome := .skipped }, node)
  | .error (.unauthorized reason) =>
    (.error (.unauthorized reason), { node with reconciler := node.reconciler.awaitSession })
  | .ok listing =>
    let peers := prepare node.localNode listing
    if node.reconciler.mustRun node.localNode node.cache peers then
      let (report, node) := node.fullPass driver peers
      (.ok report, node)
    else (.ok { outcome := .unchanged }, node)

end Node

end MeshNode
