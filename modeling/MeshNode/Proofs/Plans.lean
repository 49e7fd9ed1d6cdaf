import Mathlib.Data.List.Nodup
import MeshNode.Proofs.Prefixes
import MeshNode.Proofs.Settlement

/-!
# What a plan holds

A plan is made path by path, each path putting an entry at its identifier and,
where it asks for a configuration, a peer at that configuration's key. Where the
identifiers are distinct the entries are therefore those of the paths, and where
the keys are distinct so are the peers. The desired peers stand under their own
keys in every case.

A plan that is carried out is a fixed point: planned again for the same paths, with
the desired peers now applied, it comes out the same. Only converging peers look at
what is applied, and a relay's configuration that already carries the relayed
prefixes gains nothing by carrying them again.
-/

namespace MeshNode.Reconciler

section Add

variable (applied : Table PublicKey TunnelPeer) (children : List Network)

/-- The plan for the paths so far. -/
def planThrough (paths : List (PeerRecord × PeerPath)) : Plan :=
  paths.foldl (Plan.add applied children) {}

theorem planThrough_append (paths : List (PeerRecord × PeerPath))
    (last : PeerRecord × PeerPath) :
    planThrough applied children (paths ++ [last]) =
      (planThrough applied children paths).add applied children last := by
  simp only [planThrough, List.foldl_append, List.foldl_cons, List.foldl_nil]

/-- What a path asks for is asked for under the key of its own peer. -/
def AsksOwnKey (paths : List (PeerRecord × PeerPath)) : Prop :=
  ∀ pair ∈ paths, ∀ config, desiredConfig? applied children pair.1 pair.2 = some config →
    config.publicKey = pair.1.publicKey

/-- Desired peers stand under their own keys. -/
theorem planThrough_keyed (paths : List (PeerRecord × PeerPath)) :
    Keyed (planThrough applied children paths).desired := by
  induction paths using List.reverseRecOn with
  | nil =>
    intro key peer found
    simp [planThrough] at found
  | append_singleton earlier last inductionHypothesis =>
    rw [planThrough_append]
    intro key peer found
    simp only [Plan.add] at found
    split at found
    · rename_i config asked
      rw [Table.get?_insert] at found
      split at found
      · rename_i same
        rw [← Option.some.inj found, same]
      · exact inductionHypothesis key peer found
    · exact inductionHypothesis key peer found

/-- Every desired peer is one that some path asks for. -/
theorem planThrough_asked (paths : List (PeerRecord × PeerPath)) (key : PublicKey)
    (config : TunnelPeer)
    (found : (planThrough applied children paths).desired.get? key = some config) :
    ∃ pair ∈ paths, desiredConfig? applied children pair.1 pair.2 = some config := by
  induction paths using List.reverseRecOn with
  | nil => simp [planThrough] at found
  | append_singleton earlier last inductionHypothesis =>
    have before : (planThrough applied children earlier).desired.get? key = some config →
        ∃ pair ∈ earlier ++ [last],
          desiredConfig? applied children pair.1 pair.2 = some config := by
      intro found
      obtain ⟨pair, member, asked⟩ := inductionHypothesis found
      exact ⟨pair, List.mem_append_left _ member, asked⟩
    rw [planThrough_append] at found
    simp only [Plan.add] at found
    split at found
    · rename_i wanted asked
      rw [Table.get?_insert] at found
      split at found
      · exact ⟨last, by simp, asked.trans found⟩
      · exact before found
    · exact before found

/-- Where identifiers are distinct, the entries are those of the paths. -/
theorem planThrough_entries (paths : List (PeerRecord × PeerPath))
    (apart : (paths.map fun pair => pair.1.id).Nodup) (id : Uuid) (entry : CacheEntry) :
    (planThrough applied children paths).entries.get? id = some entry ↔
      ∃ pair ∈ paths, pair.1.id = id ∧
        entry = entryOf pair.1 pair.2 (desiredConfig? applied children pair.1 pair.2) := by
  induction paths using List.reverseRecOn with
  | nil => simp [planThrough]
  | append_singleton earlier last inductionHypothesis =>
    rw [List.map_append, List.nodup_append] at apart
    obtain ⟨earlierApart, _, fresh⟩ := apart
    have lastFresh : ∀ pair ∈ earlier, pair.1.id ≠ last.1.id := fun pair member =>
      fresh pair.1.id (List.mem_map.mpr ⟨pair, member, rfl⟩) last.1.id (by simp)
    rw [planThrough_append]
    simp only [Plan.add, Table.get?_insert, List.mem_append, List.mem_singleton]
    by_cases same : id = last.1.id
    · rw [if_pos same]
      constructor
      · intro found
        exact ⟨last, Or.inr rfl, same.symm, (Option.some.inj found).symm⟩
      · rintro ⟨pair, member | rfl, own, rfl⟩
        · exact absurd (own.trans same) (lastFresh pair member)
        · rfl
    · rw [if_neg same, inductionHypothesis earlierApart]
      constructor
      · rintro ⟨pair, member, own, rfl⟩
        exact ⟨pair, Or.inl member, own, rfl⟩
      · rintro ⟨pair, member | rfl, own, rfl⟩
        · exact ⟨pair, member, own, rfl⟩
        · exact absurd own.symm same

/-- Where keys are distinct and each path asks for its own, the desired peers are those that
the paths ask for. -/
theorem planThrough_desired (paths : List (PeerRecord × PeerPath))
    (apart : (paths.map fun pair => pair.1.publicKey).Nodup)
    (own : AsksOwnKey applied children paths) (key : PublicKey) (config : TunnelPeer) :
    (planThrough applied children paths).desired.get? key = some config ↔
      ∃ pair ∈ paths, pair.1.publicKey = key ∧
        desiredConfig? applied children pair.1 pair.2 = some config := by
  induction paths using List.reverseRecOn with
  | nil => simp [planThrough]
  | append_singleton earlier last inductionHypothesis =>
    rw [List.map_append, List.nodup_append] at apart
    obtain ⟨earlierApart, _, fresh⟩ := apart
    have lastFresh : ∀ pair ∈ earlier, pair.1.publicKey ≠ last.1.publicKey :=
      fun pair member => fresh pair.1.publicKey (List.mem_map.mpr ⟨pair, member, rfl⟩)
        last.1.publicKey (by simp)
    have earlierOwn : AsksOwnKey applied children earlier := fun pair member =>
      own pair (List.mem_append_left _ member)
    have recalled := inductionHypothesis earlierApart earlierOwn
    have split : (planThrough applied children (earlier ++ [last])).desired.get? key =
        if key = last.1.publicKey ∧
          (desiredConfig? applied children last.1 last.2).isSome then
          desiredConfig? applied children last.1 last.2
        else (planThrough applied children earlier).desired.get? key := by
      rw [planThrough_append]
      simp only [Plan.add]
      cases asked : desiredConfig? applied children last.1 last.2 with
      | none => simp
      | some wanted =>
        have ownKey : wanted.publicKey = last.1.publicKey := own last (by simp) wanted asked
        simp [Table.get?_insert, ownKey]
    rw [split]
    simp only [List.mem_append, List.mem_singleton]
    by_cases mine : key = last.1.publicKey ∧
        (desiredConfig? applied children last.1 last.2).isSome
    · rw [if_pos mine]
      constructor
      · intro asked
        exact ⟨last, Or.inr rfl, mine.1.symm, asked⟩
      · rintro ⟨pair, member | rfl, same, asked⟩
        · exact absurd (same.trans mine.1) (lastFresh pair member)
        · exact asked
    · rw [if_neg mine, recalled]
      constructor
      · rintro ⟨pair, member, same, asked⟩
        exact ⟨pair, Or.inl member, same, asked⟩
      · rintro ⟨pair, member | rfl, same, asked⟩
        · exact ⟨pair, member, same, asked⟩
        · exact absurd ⟨same.symm, by simp [asked]⟩ mine

/-- A plan looks at what is applied only through what the paths ask for. -/
theorem planThrough_congr (other : Table PublicKey TunnelPeer)
    (paths : List (PeerRecord × PeerPath))
    (same : ∀ pair ∈ paths, desiredConfig? applied children pair.1 pair.2 =
      desiredConfig? other children pair.1 pair.2) :
    planThrough applied children paths = planThrough other children paths := by
  induction paths using List.reverseRecOn with
  | nil => rfl
  | append_singleton earlier last inductionHypothesis =>
    have earlierSame := inductionHypothesis fun pair member =>
      same pair (List.mem_append_left _ member)
    have lastSame := same last (by simp)
    rw [planThrough_append, planThrough_append, earlierSame]
    simp only [Plan.add, lastSame]

end Add

section Paths

variable (node : LocalNode) (relayHealthy : Bool)

/-- Every path dials by some method that needs no relay, or goes through the relay or nowhere. -/
theorem select_cases (record : PeerRecord) :
    (∃ method socket, method ≠ .viaRelay ∧
        PeerPath.select node record relayHealthy = PeerPath.dial node record method socket) ∨
      PeerPath.select node record relayHealthy = .viaRelay record.advertised ∨
      PeerPath.select node record relayHealthy = .unreachable := by
  have nearby : PeerPath.localMethod node record ≠ .viaRelay := by
    unfold PeerPath.localMethod
    split
    · nofun
    · split <;> nofun
  unfold PeerPath.select
  split
  · exact Or.inl ⟨_, _, nearby, rfl⟩
  · split
    · exact Or.inl ⟨.relayPeer, _, nofun, rfl⟩
    · split
      · exact Or.inl ⟨.relaySelf, _, nofun, rfl⟩
      · split
        · split
          · exact Or.inr (Or.inl rfl)
          · exact Or.inr (Or.inr rfl)
        · exact Or.inl ⟨.reflexive, _, nofun, rfl⟩

/-- The verdict on the relays decides between the relay and nowhere. Every other path is chosen
without it, and no relay is reached through a relay. -/
theorem select_verdict (record : PeerRecord) :
    (∃ method socket, ∀ relayHealthy,
        PeerPath.select node record relayHealthy = PeerPath.dial node record method socket) ∨
      record.relay = false ∧ ∀ relayHealthy, PeerPath.select node record relayHealthy =
        if relayHealthy then .viaRelay record.advertised else .unreachable := by
  unfold PeerPath.select
  split
  · exact Or.inl ⟨_, _, fun _ => rfl⟩
  · split
    · exact Or.inl ⟨_, _, fun _ => rfl⟩
    · rename_i ordinary
      split
      · exact Or.inl ⟨_, _, fun _ => rfl⟩
      · split
        · exact Or.inr ⟨Bool.eq_false_iff.mpr ordinary, fun _ => rfl⟩
        · exact Or.inl ⟨_, _, fun _ => rfl⟩

/-- A relay is dialled as a relay. -/
theorem select_of_relay (record : PeerRecord) (relay : record.relay = true) :
    ∃ method socket, (method = .relayPeer ∨ method = .relayPeerDirectLocal) ∧
      PeerPath.select node record relayHealthy = PeerPath.dial node record method socket := by
  unfold PeerPath.select
  split
  · exact ⟨_, _, Or.inr (by simp [PeerPath.localMethod, relay]), rfl⟩
  · exact ⟨_, _, Or.inl rfl, rfl⟩

/-- A path through the relay has the prefixes that its device advertises. It is chosen under a good
verdict only, and for no relay. -/
theorem of_select_viaRelay (record : PeerRecord) (child : List Network)
    (selected : PeerPath.select node record relayHealthy = .viaRelay child) :
    child = record.advertised ∧ relayHealthy = true ∧ record.relay = false := by
  rcases select_verdict node record with ⟨method, socket, dialled⟩ | ⟨ordinary, decided⟩
  · rw [dialled] at selected
    cases socket <;> cases selected
  · rw [decided] at selected
    cases relayHealthy with
    | false => cases selected
    | true => exact ⟨(PeerPath.viaRelay.inj selected).symm, rfl, ordinary⟩

/-- A direct path dials. -/
theorem dial_of_select_direct (record : PeerRecord) (config : TunnelPeer)
    (selected : PeerPath.select node record relayHealthy = .direct config) :
    ∃ method socket, PeerPath.dial node record method socket = .direct config := by
  rcases select_cases node relayHealthy record with
    ⟨method, socket, _, dialled⟩ | relayed | unreachable
  · exact ⟨method, socket, dialled.symm.trans selected⟩
  · rw [relayed] at selected
    cases selected
  · rw [unreachable] at selected
    cases selected

/-- A converging path waits for an endpoint, so it will not go through the relay. -/
theorem method_of_select_converging (record : PeerRecord) (method : PeeringMethod)
    (selected : PeerPath.select node record relayHealthy = .converging method) :
    method ≠ .viaRelay := by
  rcases select_cases node relayHealthy record with
    ⟨dialling, socket, direct, dialled⟩ | relayed | unreachable
  · rw [dialled] at selected
    cases socket with
    | none => exact PeerPath.converging.inj selected ▸ direct
    | some endpoint => cases selected
  · rw [relayed] at selected
    cases selected
  · rw [unreachable] at selected
    cases selected

/-- What is dialled has the key of its record and the prefixes that are allowed for it. -/
theorem of_dial_direct (record : PeerRecord) (method : PeeringMethod)
    (socket : Option SocketAddress) (config : TunnelPeer)
    (dialled : PeerPath.dial node record method socket = .direct config) :
    config.publicKey = record.publicKey ∧
      config.allowed = PeerPath.allowedFor node record method := by
  cases socket with
  | none => cases dialled
  | some endpoint =>
    obtain rfl := PeerPath.direct.inj dialled
    exact ⟨rfl, rfl⟩

/-- A dialled peer stands under the key of its record. -/
theorem publicKey_of_select_direct (record : PeerRecord) (config : TunnelPeer)
    (selected : PeerPath.select node record relayHealthy = .direct config) :
    config.publicKey = record.publicKey := by
  obtain ⟨method, socket, dialled⟩ := dial_of_select_direct node relayHealthy record config selected
  exact (of_dial_direct node record method socket config dialled).1

theorem publicKey_carryChildren (peer : PeerRecord) (children : List Network)
    (config : TunnelPeer) :
    (carryChildren peer children config).publicKey = config.publicKey := by
  unfold carryChildren
  split <;> rfl

/-- Every path asks for the key of its own peer: a dialled one by its record, a converging one
because what is applied stands under its own key. -/
theorem asksOwnKey_pathsOf (applied : Table PublicKey TunnelPeer) (keyed : Keyed applied)
    (children : List Network) (peers : List PeerRecord) :
    AsksOwnKey applied children (pathsOf node peers relayHealthy) := by
  intro pair member config asked
  obtain ⟨peer, _, rfl⟩ := List.mem_map.mp member
  obtain ⟨base, found, rfl⟩ := Option.map_eq_some_iff.mp asked
  rw [publicKey_carryChildren]
  cases selected : PeerPath.select node peer relayHealthy with
  | direct dialled =>
    simp only [selected, configOf?, Option.some.injEq] at found
    exact found ▸ publicKey_of_select_direct node relayHealthy peer dialled selected
  | converging method =>
    simp only [selected, configOf?] at found
    exact keyed peer.publicKey base found
  | viaRelay child => simp [selected, configOf?] at found
  | unreachable => simp [selected, configOf?] at found

theorem ids_pathsOf (peers : List PeerRecord) :
    (pathsOf node peers relayHealthy).map (fun pair => pair.1.id) = peers.map PeerRecord.id := by
  simp [pathsOf, Function.comp_def]

theorem publicKeys_pathsOf (peers : List PeerRecord) :
    (pathsOf node peers relayHealthy).map (fun pair => pair.1.publicKey) =
      peers.map PeerRecord.publicKey := by
  simp [pathsOf, Function.comp_def]

end Paths

/-- A relay that carries the relayed prefixes carries no more by carrying them again. -/
theorem carryChildren_twice (peer : PeerRecord) (children : List Network) (config : TunnelPeer) :
    carryChildren peer children (carryChildren peer children config) =
      carryChildren peer children config := by
  by_cases carries : (peer.relay && !children.isEmpty) = true
  · simp only [carryChildren, if_pos carries, Network.distinct_append_twice]
  · simp only [carryChildren, if_neg carries]

/-- Where keys are distinct, what is desired for the key of a peer is what its path asks for. -/
theorem desired_of_mem_paths (applied : Table PublicKey TunnelPeer) (children : List Network)
    (paths : List (PeerRecord × PeerPath))
    (apart : (paths.map fun pair => pair.1.publicKey).Nodup)
    (own : AsksOwnKey applied children paths) (pair : PeerRecord × PeerPath)
    (member : pair ∈ paths) :
    (planThrough applied children paths).desired.get? pair.1.publicKey =
      desiredConfig? applied children pair.1 pair.2 := by
  apply Option.ext
  intro config
  rw [planThrough_desired applied children paths apart own]
  constructor
  · rintro ⟨other, otherMember, sameKey, asked⟩
    have same : other = pair := List.inj_on_of_nodup_map apart otherMember member sameKey
    exact same ▸ asked
  · exact fun asked => ⟨pair, member, rfl, asked⟩

/-- A plan that is carried out is planned again as it was. -/
theorem plan_of_applied (node : LocalNode) (peers : List PeerRecord) (relayHealthy : Bool)
    (apart : (peers.map PeerRecord.publicKey).Nodup)
    (before after : Table PublicKey TunnelPeer) (keyed : Keyed before)
    (carriedOut : ∀ key, after.get? key =
      (plan before (pathsOf node peers relayHealthy)).desired.get? key) :
    plan after (pathsOf node peers relayHealthy) =
      plan before (pathsOf node peers relayHealthy) := by
  refine planThrough_congr after (relayedChildren (pathsOf node peers relayHealthy)) before
    (pathsOf node peers relayHealthy) ?_
  intro pair member
  have asked := desired_of_mem_paths before (relayedChildren (pathsOf node peers relayHealthy))
    (pathsOf node peers relayHealthy) (by rwa [publicKeys_pathsOf])
    (asksOwnKey_pathsOf node relayHealthy before keyed _ peers) pair member
  cases path : pair.2 with
  | converging method =>
    rw [path] at asked
    have held : after.get? pair.1.publicKey =
        (before.get? pair.1.publicKey).map
          (carryChildren pair.1 (relayedChildren (pathsOf node peers relayHealthy))) :=
      (carriedOut pair.1.publicKey).trans asked
    simp only [desiredConfig?, configOf?, held, Option.map_map, Function.comp_def,
      carryChildren_twice]
  | direct config => rfl
  | viaRelay child => rfl
  | unreachable => rfl

/-- The desired peers of a plan stand under their own keys. -/
theorem plan_keyed (applied : Table PublicKey TunnelPeer)
    (paths : List (PeerRecord × PeerPath)) : Keyed (plan applied paths).desired :=
  planThrough_keyed applied (relayedChildren paths) paths

end MeshNode.Reconciler
