import MeshNode.Proofs.Convergence

/-!
# The cache agrees with the tunnel

A full pass plans the entries of the cache and the peers of the tunnel in one walk over
the paths, but apart. After a pass without failures what is applied is what was desired,
so the two can be compared: every listed device but the local node has one entry, the
entry of a device that is applied shows the configuration that is applied, and nothing
is applied without an entry.

Without a configuration an entry shows the path. It names the relay exactly where the
device is reached through it, the intended method while an endpoint is missing, and
nothing where there is no path. A converging device may be on either side: it keeps what
was applied for it before, if anything was.
-/

namespace MeshNode

/-- What an entry of the cache shows of the path to its device and of what is applied for it. -/
structure CacheEntry.Shows (entry : CacheEntry) (path : PeerPath) (applied : Option TunnelPeer) :
    Prop where
  /-- There is an endpoint exactly where something is applied, and it is the applied one. -/
  endpoint : entry.endpoint = applied.map TunnelPeer.endpoint
  configured : ∀ peer, applied = some peer →
    entry.method = some peer.method ∧ entry.allowed = peer.allowed
  /-- Without a configuration the method is the relay's exactly where the path goes through it. -/
  viaRelay : applied = none → (entry.method = some .viaRelay ↔ ∃ child, path = .viaRelay child)
  /-- Through the relay go the device's own prefixes and then those that are reached behind it, each
  truncated and the first of equal ones kept. -/
  relayed : ∀ child, path = .viaRelay child →
    applied = none ∧
      entry.allowed = ((entry.record.allowed ++ child).map Network.truncate).eraseDups
  converging : ∀ method, path = .converging method → applied = none →
    entry.method = some method ∧ entry.allowed = []
  unreachable : path = .unreachable →
    applied = none ∧ entry.method = none ∧ entry.allowed = []
  /-- A device that is dialled has a configuration. -/
  direct : ∀ peer, path = .direct peer → applied.isSome = true

namespace Reconciler

/-- With a configuration an entry shows it, whichever path asked for it. -/
theorem shows_configured (record : PeerRecord) (path : PeerPath) (config : TunnelPeer)
    (asks : (∃ dialled, path = .direct dialled) ∨ ∃ method, path = .converging method) :
    (entryOf record path (some config)).Shows path (some config) := by
  have direct : (∀ child, path ≠ .viaRelay child) ∧ path ≠ .unreachable := by
    rcases asks with ⟨dialled, rfl⟩ | ⟨method, rfl⟩ <;> exact ⟨nofun, nofun⟩
  exact
    { endpoint := rfl
      configured := fun peer same => Option.some.inj same ▸ ⟨rfl, rfl⟩
      viaRelay := nofun
      relayed := fun child relayed => absurd relayed (direct.1 child)
      converging := fun _ _ => nofun
      unreachable := fun unreachable => absurd unreachable direct.2
      direct := fun _ _ => rfl }

/-- The entry that is planned for a path shows it and the configuration that the path asks for. -/
theorem shows_entryOf (node : LocalNode) (relayHealthy : Bool)
    (applied : Table PublicKey TunnelPeer) (children : List Network) (record : PeerRecord) :
    let path := PeerPath.select node record relayHealthy
    let config := desiredConfig? applied children record path
    (entryOf record path config).Shows path config := by
  intro path config
  cases chosen : path with
  | direct dialled =>
    have asked : config = some (carryChildren record children dialled) := by
      simp [config, chosen, desiredConfig?, configOf?]
    rw [asked]
    exact shows_configured record _ _ (Or.inl ⟨dialled, rfl⟩)
  | converging method =>
    have intended : method ≠ .viaRelay :=
      method_of_select_converging node relayHealthy record method chosen
    cases config with
    | some kept => exact shows_configured record _ _ (Or.inr ⟨method, rfl⟩)
    | none => constructor <;> simp [entryOf, PeerPath.method?, intended]
  | viaRelay child =>
    have asked : config = none := by simp [config, chosen, desiredConfig?, configOf?]
    rw [asked]
    constructor <;> simp [entryOf, PeerPath.method?, Network.distinct_eq_eraseDups]
  | unreachable =>
    have asked : config = none := by simp [config, chosen, desiredConfig?, configOf?]
    rw [asked]
    constructor <;> simp [entryOf, PeerPath.method?]

end Reconciler

namespace Node

open Reconciler

variable {World : Type} (driver : Driver World)

section Planned

variable (node : Node World) (peers : List PeerRecord)

/-- A plan holds one entry for each of its records, at the record's identifier. -/
theorem plan_records (applied : Table PublicKey TunnelPeer) (localNode : LocalNode)
    (relayHealthy : Bool) (apart : (peers.map PeerRecord.id).Nodup) (id : Uuid) :
    ((plan applied (pathsOf localNode peers relayHealthy)).entries.get? id).map
      CacheEntry.record = peers.find? fun record => record.id = id := by
  obtain ⟨held, listed⟩ := plan_holds peers applied localNode relayHealthy apart
  cases found : peers.find? fun record => record.id = id with
  | some record =>
    have member : record ∈ peers := List.mem_of_find?_eq_some found
    have own : record.id = id := by simpa using List.find?_some found
    obtain ⟨entry, planned, rfl⟩ := held record member
    rw [← own, planned]
    rfl
  | none =>
    cases planned : (plan applied (pathsOf localNode peers relayHealthy)).entries.get? id with
    | none => rfl
    | some entry =>
      obtain ⟨record, member, own⟩ := listed id entry planned
      have other := List.find?_eq_none.mp found record member
      exact absurd (decide_eq_true own) other

theorem planFor_records (apart : (peers.map PeerRecord.id).Nodup) (id : Uuid) :
    ((node.planFor peers).entries.get? id).map CacheEntry.record =
      peers.find? fun record => record.id = id :=
  plan_records peers node.reconciler.applied node.localNode _ apart id

end Planned

/-- In every reachable state, and for every listing with distinct keys: a tick that applies
without failures leaves in the cache one entry for each identifier that is listed for another
device than the local node, with the first such record; each entry shows the path to its device
and what is applied for it; and nothing is applied besides. -/
theorem cache_shows_applied (localNode : LocalNode) (cache : DeviceCache) (applier : Applier)
    (world : World) (events : List NodeEvent) (listing : List PeerRecord)
    (apart : (listing.map PeerRecord.publicKey).Nodup) (report : TickReport)
    (after : Node World) :
    let node := run driver events (start localNode cache applier world)
    let relayHealthy := node.cache.relayHealthyAmong (prepare node.localNode listing)
    node.tick driver (.ok listing) = (.ok report, after) → report.outcome = .applied →
      report.apply.isClean = true →
      (∀ id, (after.cache.snapshot.get? id).map CacheEntry.record =
          listing.find? fun record => record.id = id && !node.localNode.isSelf record) ∧
        (∀ id entry, after.cache.snapshot.get? id = some entry →
          entry.Shows (PeerPath.select node.localNode entry.record relayHealthy)
            (after.reconciler.applied.get? entry.record.publicKey)) ∧
        ∀ key peer, after.reconciler.applied.get? key = some peer →
          ∃ id entry, after.cache.snapshot.get? id = some entry ∧
            entry.record.publicKey = key := by
  intro node relayHealthy ticked applies clean
  obtain ⟨rfl, rfl⟩ := fullPass_of_applied driver node listing report after ticked applies
  let peers := prepare node.localNode listing
  let paths := pathsOf node.localNode peers relayHealthy
  let children := relayedChildren paths
  have keyed : Keyed node.reconciler.applied :=
    run_keyed driver localNode cache applier world events
  have idsApart : (peers.map PeerRecord.id).Nodup := prepare_ids_nodup node.localNode listing
  have keysApart : (paths.map fun pair => pair.1.publicKey).Nodup := by
    rw [publicKeys_pathsOf]
    exact prepare_map_nodup node.localNode listing PeerRecord.publicKey apart
  have own : AsksOwnKey node.reconciler.applied children paths :=
    asksOwnKey_pathsOf node.localNode relayHealthy _ keyed children peers
  have applied : ∀ key,
      (node.fullPass driver peers).2.reconciler.applied.get? key =
        (planThrough node.reconciler.applied children paths).desired.get? key :=
    (fullPass_clean driver peers node clean).2
  have entries : ∀ id entry, (node.fullPass driver peers).2.cache.snapshot.get? id = some entry ↔
      ∃ pair ∈ paths, pair.1.id = id ∧ entry = entryOf pair.1 pair.2
        (desiredConfig? node.reconciler.applied children pair.1 pair.2) :=
    planThrough_entries node.reconciler.applied children paths (by rwa [ids_pathsOf])
  refine ⟨fun id => ?records, fun id entry found => ?shows, fun key peer found => ?noOther⟩
  case records =>
    rw [← find?_prepare]
    exact planFor_records node peers idsApart id
  case shows =>
    obtain ⟨pair, member, _, rfl⟩ := (entries id entry).mp found
    rw [record_entryOf, applied,
      desired_of_mem_paths node.reconciler.applied children paths keysApart own pair member]
    obtain ⟨record, _, rfl⟩ := List.mem_map.mp member
    exact shows_entryOf node.localNode relayHealthy node.reconciler.applied children record
  case noOther =>
    rw [applied, planThrough_desired node.reconciler.applied children paths keysApart own] at found
    obtain ⟨pair, member, ownKey, _⟩ := found
    exact ⟨pair.1.id, _, (entries _ _).mpr ⟨pair, member, rfl, rfl⟩,
      (congrArg PeerRecord.publicKey (record_entryOf _ _ _)).trans ownKey⟩

/-- A device whose endpoint is no longer finished converges. Its entry has the new record, and the
endpoint of the configuration that is still applied. -/
theorem converging_entry_shows_kept :
    let node := run ScriptedTunnel.driver [.tick (.ok [Sample.device "2.2.2.2:51820"])]
      (start Sample.home {} {} {})
    let pass := node.fullPass ScriptedTunnel.driver (prepare node.localNode [Sample.device ""])
    node.tick ScriptedTunnel.driver (.ok [Sample.device ""]) = (.ok pass.1, pass.2) ∧
      pass.1.apply.isClean = true ∧
      PeerPath.select node.localNode (Sample.device "") false = .converging .reflexive ∧
      ∃ entry peer, pass.2.cache.snapshot.get? ⟨1⟩ = some entry ∧
        pass.2.reconciler.applied.get? (Sample.key 1) = some peer ∧
        entry.record = Sample.device "" ∧ entry.endpoint = some peer.endpoint ∧
        entry.method = some peer.method ∧ entry.allowed = peer.allowed := by
  intro node pass
  have must : node.reconciler.mustRun node.localNode node.cache
      (prepare node.localNode [Sample.device ""]) = true := by decide +kernel
  have clean : pass.1.apply.isClean = true := by decide +kernel
  have ticked : node.tick ScriptedTunnel.driver (.ok [Sample.device ""]) = (.ok pass.1, pass.2) :=
    if_pos must
  have converges : PeerPath.select node.localNode (Sample.device "") false =
      .converging .reflexive := by decide +kernel
  obtain ⟨records, shows, _⟩ := cache_shows_applied ScriptedTunnel.driver Sample.home {} {} {} _
    [Sample.device ""] (List.nodup_singleton _) pass.1 pass.2 ticked rfl clean
  have listed := records ⟨1⟩
  rw [show [Sample.device ""].find? _ = some (Sample.device "") by decide +kernel] at listed
  obtain ⟨entry, found, own⟩ := Option.map_eq_some_iff.mp listed
  obtain ⟨peer, applied⟩ : ∃ peer, pass.2.reconciler.applied.get? (Sample.key 1) = some peer :=
    Option.isSome_iff_exists.mp (by decide +kernel)
  have shown := shows ⟨1⟩ entry found
  rw [own] at shown
  have endpoint := shown.endpoint
  obtain ⟨method, allowed⟩ := shown.configured peer applied
  rw [show pass.2.reconciler.applied.get? (Sample.device "").publicKey = some peer from applied]
    at endpoint
  exact ⟨ticked, clean, converges, entry, peer, found, applied, own, endpoint, method, allowed⟩

end Node

end MeshNode
