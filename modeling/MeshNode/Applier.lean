import MeshNode.Tunnel

/-!
# Applying changes to the tunnel

The applier pushes configured and removed peers to a tunnel driver, one after
another. A peer that fails is reported and the pass goes on. For every key the
applier remembers the routes that it relies on, so a removal deletes those alone, and
a route that two peers rely on stays until the last of them is gone.

A default route is never installed; a peer that offers one is reported as a candidate
for an exit node.
-/

namespace MeshNode

/-- What became of one pass. -/
structure ApplyReport where
  configured : List PublicKey := []
  removed : List PublicKey := []
  failures : List (PublicKey × TunnelError) := []
  exitNodeCandidates : List PublicKey := []
  deriving DecidableEq, Repr

namespace ApplyReport

/-- Nothing failed. -/
def isClean (report : ApplyReport) : Bool := report.failures.isEmpty

/-- Whether a key is among the failures. -/
def failed (report : ApplyReport) (key : PublicKey) : Bool :=
  report.failures.any fun failure => failure.1 == key

/-- Nothing was done and nothing failed. -/
def isEmpty (report : ApplyReport) : Bool :=
  report.configured.isEmpty && report.removed.isEmpty && report.failures.isEmpty

end ApplyReport

/-- The applier's memory: the routes each key relies on. -/
structure Applier where
  installed : Table PublicKey (List Network) := Table.empty
  deriving DecidableEq, Repr

namespace Applier

/-- The routes a key relies on. -/
def routesOf (applier : Applier) (key : PublicKey) : List Network :=
  (applier.installed.get? key).getD []

/-- Whether another key relies on a route. -/
def ownedElsewhere (applier : Applier) (key : PublicKey) (network : Network) : Bool :=
  applier.installed.entries.any fun entry => entry.1 ≠ key && entry.2.contains network

/-- How far the routes of one peer came: the ones that are there, whether a default
route was passed over, and the failure that ended the walk. -/
structure RouteWalk where
  owned : List Network := []
  exitNode : Bool := false
  failure : Option TunnelError := none
  deriving DecidableEq, Repr

/-- Make sure of the routes of a list, up to the first failure. -/
def ensureRoutes {World : Type} (driver : Driver World) (walk : RouteWalk) :
    List Network → World → RouteWalk × World
  | [], world => (walk, world)
  | network :: rest, world =>
    if network.isDefaultRoute then ensureRoutes driver { walk with exitNode := true } rest world
    else
      match driver.ensureRoute network world with
      | (.ok (), world) =>
        ensureRoutes driver { walk with owned := walk.owned ++ [network] } rest world
      | (.error error, world) => ({ walk with failure := some error }, world)

/-- Earlier routes, then the new ones that are not among them. -/
def merged (earlier : List Network) (new : List Network) : List Network :=
  new.foldl (fun kept network => if network ∈ kept then kept else kept ++ [network]) earlier

variable {World : Type} (driver : Driver World)

/-- Configure one peer and bring its routes up to date. Where a route fails, everything
the key may rely on is kept for the next attempt; where all succeed, the routes that are
no longer wanted are deleted unless another key relies on them. The answer tells whether
the peer offers a default route. -/
def applyPeer (peer : TunnelPeer) (applier : Applier) (world : World) :
    Except TunnelError Bool × Applier × World :=
  match driver.answer (.configure peer) world with
  | (.error error, world) => (.error error, applier, world)
  | (.ok (), world) =>
    let (walk, world) := ensureRoutes driver {} peer.allowed world
    let earlier := applier.routesOf peer.publicKey
    match walk.failure with
    | some error =>
      (.error error, ⟨applier.installed.insert peer.publicKey (merged earlier walk.owned)⟩, world)
    | none =>
      let others : Applier := ⟨applier.installed.erase peer.publicKey⟩
      let stale := earlier.filter fun network =>
        !walk.owned.contains network && !others.ownedElsewhere peer.publicKey network
      let world := driver.deleteRoutes stale world
      let installed :=
        if walk.owned.isEmpty then others.installed
        else others.installed.insert peer.publicKey walk.owned
      (.ok walk.exitNode, ⟨installed⟩, world)

/-- Remove one peer and delete the routes that no other key relies on. -/
def removePeer (key : PublicKey) (applier : Applier) (world : World) :
    Except TunnelError Unit × Applier × World :=
  match driver.answer (.remove key) world with
  | (.error error, world) => (.error error, applier, world)
  | (.ok (), world) =>
    let others : Applier := ⟨applier.installed.erase key⟩
    let stale := (applier.routesOf key).filter fun network => !others.ownedElsewhere key network
    (.ok (), others, driver.deleteRoutes stale world)

/-- A pass under way: the report so far, the applier's memory and the tunnel. -/
structure Pass (World : Type) where
  report : ApplyReport
  applier : Applier
  world : World

/-- Configure the next peer of a pass. -/
def Pass.configure (pass : Pass World) (peer : TunnelPeer) : Pass World :=
  match applyPeer driver peer pass.applier pass.world with
  | (.ok exitNode, applier, world) =>
    let report := pass.report
    let candidates :=
      if exitNode then report.exitNodeCandidates ++ [peer.publicKey] else report.exitNodeCandidates
    ⟨{ report with
        configured := report.configured ++ [peer.publicKey], exitNodeCandidates := candidates },
      applier, world⟩
  | (.error error, applier, world) =>
    ⟨{ pass.report with failures := pass.report.failures ++ [(peer.publicKey, error)] }, applier,
      world⟩

/-- Remove the next peer of a pass. -/
def Pass.remove (pass : Pass World) (key : PublicKey) : Pass World :=
  match removePeer driver key pass.applier pass.world with
  | (.ok (), applier, world) =>
    ⟨{ pass.report with removed := pass.report.removed ++ [key] }, applier, world⟩
  | (.error error, applier, world) =>
    ⟨{ pass.report with failures := pass.report.failures ++ [(key, error)] }, applier, world⟩

/-- One pass: configure the added peers in order, then remove the removed keys. -/
def apply (added : List TunnelPeer) (removed : List PublicKey) (applier : Applier) (world : World) :
    Pass World :=
  removed.foldl (Pass.remove driver) (added.foldl (Pass.configure driver) ⟨{}, applier, world⟩)

end Applier

end MeshNode
