import Mathlib.Logic.Function.Basic
import MeshNode.Proofs.CryptokeyTables
import MeshNode.Proofs.Histories
import MeshNode.Proofs.Ownership
import MeshNode.Tunnel.Userspace

/-!
# Passes over the userspace tunnel

The userspace tunnel grants every request, so that every change of a pass is done. Of a
pass its peers and its cryptokey table see the changes alone, in order: each assigns to
its key the prefixes that it gives, a removal none.

After any passes a prefix belongs to the peer that the last change listing it gave it to,
unless a later change was about that peer. What the table does not know is who else lists
the prefix. Its owner is whoever listed it last, and when the owner leaves or gives the
prefix up, the entry is gone even where another peer goes on listing it; the tracked route,
which the applier keeps for the other peer, stays.
-/

namespace MeshNode

/-! ## Drivers that never fail -/

section Grants

variable {World : Type} {driver : Driver World}

/-- Every request is granted. -/
def Driver.Grants (driver : Driver World) : Prop :=
  ∀ request world, (driver.answer request world).1.isOk = true

namespace Driver.Grants

variable (grants : driver.Grants)

include grants

theorem ensureRoute (network : Network) (world : World) :
    (driver.ensureRoute network world).1.isOk = true := by
  unfold Driver.ensureRoute
  split
  · rename_i asked
    have granted := grants (.routeExists network) world
    rw [asked] at granted
    exact granted
  · rfl
  · exact grants (.addRoute network) _

theorem ensureRoutes (networks : List Network) (walk : Applier.RouteWalk) (world : World) :
    (Applier.ensureRoutes driver walk networks world).1.failure = walk.failure := by
  induction networks generalizing walk world with
  | nil => rfl
  | cons network rest inductionHypothesis =>
    have ensured := grants.ensureRoute network world
    unfold Applier.ensureRoutes
    split
    · exact inductionHypothesis _ _
    · split
      · exact inductionHypothesis _ _
      · rename_i asked
        rw [asked] at ensured
        cases ensured

/-- Every change is done. -/
theorem carryOut (applier : Applier) (world : World) (change : Change) :
    Applier.carryOut driver applier world change =
      (none, applier.replaced change.key change.routes,
        driver.deleteRoutes (applier.stale change) (Applier.walkFor driver change world).2) := by
  rcases Applier.carryOut_cases driver applier world change with
    ⟨error, failed, _⟩ | ⟨error, _, failed, _⟩ | ⟨_, _, done⟩
  · rw [grants change.request world] at failed
    cases failed
  · rw [Applier.walkFor, grants.ensureRoutes] at failed
    cases failed
  · exact done

/-- A pass reports no failure. -/
theorem failures_foldl (changes : List Change) (pass : Applier.Pass World) :
    (changes.foldl (Applier.Pass.change driver) pass).report.failures = pass.report.failures := by
  induction changes generalizing pass with
  | nil => rfl
  | cons change rest inductionHypothesis =>
    rw [List.foldl_cons, inductionHypothesis, Applier.change_failures, grants.carryOut]
    exact List.append_nil _

end Driver.Grants

end Grants

/-! ## Views that follow the changes -/

namespace RouteBlind

variable {World α : Type} {driver : Driver World} {view : World → α}

/-- Where a view moves with the request of a change as a step says, it moves with a pass as the
steps of its changes say. -/
theorem foldl_change (blind : RouteBlind driver view) (step : α → Change → α)
    (moves : ∀ change world,
      view (driver.answer change.request world).2 = step (view world) change)
    (changes : List Change) (pass : Applier.Pass World) :
    view (changes.foldl (Applier.Pass.change driver) pass).world =
      changes.foldl step (view pass.world) := by
  induction changes generalizing pass with
  | nil => rfl
  | cons change rest inductionHypothesis =>
    rw [List.foldl_cons, List.foldl_cons, inductionHypothesis, Applier.change_world,
      blind.carryOut, moves]

/-- Any number of passes are their changes, one after another. -/
theorem applyAll (blind : RouteBlind driver view) (step : α → Change → α)
    (moves : ∀ change world,
      view (driver.answer change.request world).2 = step (view world) change)
    (batches : List (List TunnelPeer × List PublicKey)) (applier : Applier) (world : World) :
    view (Applier.applyAll driver batches applier world).2 =
      (batches.flatMap fun batch => Change.ofPass batch.1 batch.2).foldl step (view world) := by
  induction batches generalizing applier world with
  | nil => rfl
  | cons batch rest inductionHypothesis =>
    rw [Applier.applyAll_cons, inductionHypothesis, Applier.apply_eq_foldl,
      blind.foldl_change step moves, List.flatMap_cons, List.foldl_append]

end RouteBlind

/-! ## What changes leave -/

namespace Change

/-- The prefixes that a change gives to its key, as a cryptokey table keeps them. -/
def given (change : Change) : List Network := change.allowed.map Network.truncate

/-- What a change leaves for every key: its own as it was wanted, the others as they were. -/
def update (held : PublicKey → Option TunnelPeer) (change : Change) :
    PublicKey → Option TunnelPeer :=
  Function.update held change.key change.wanted

/-- What changes leave for every key, where there was nothing before. -/
def left (changes : List Change) : PublicKey → Option TunnelPeer :=
  changes.foldl update fun _ => none

/-- What is left at a key is moved by changes of that key alone. -/
theorem update_movesOwnKey : MovesOwnKey update fun held key => held key :=
  fun _ _ _ other => Function.update_of_ne other _ _

/-- Whether a change leaves something for each key. -/
def mark (present : PublicKey → Bool) (change : Change) : PublicKey → Bool :=
  Function.update present change.key change.wanted.isSome

theorem foldl_mark (changes : List Change) (held : PublicKey → Option TunnelPeer) :
    changes.foldl mark (Option.isSome ∘ held) = Option.isSome ∘ changes.foldl update held := by
  induction changes generalizing held with
  | nil => rfl
  | cons change rest inductionHypothesis =>
    rw [List.foldl_cons, List.foldl_cons, ← inductionHypothesis, mark, update,
      Function.comp_update]

/-- The last of changes listing a prefix gave it to a peer, and no later one was about that
peer. -/
def GivenLast (changes : List Change) (network : Network) (owner : PublicKey) : Prop :=
  ∃ earlier change later, changes = earlier ++ change :: later ∧ change.key = owner ∧
    network ∈ change.given ∧ ∀ other ∈ later, other.key ≠ owner ∧ network ∉ other.given

theorem givenLast_append_iff (changes : List Change) (last : Change) (network : Network)
    (owner : PublicKey) :
    GivenLast (changes ++ [last]) network owner ↔
      (owner = last.key ∧ network ∈ last.given) ∨
        (GivenLast changes network owner ∧ owner ≠ last.key ∧ network ∉ last.given) := by
  rw [GivenLast, exists_split_append_iff]
  simp only [List.forall_mem_append, List.forall_mem_singleton, List.not_mem_nil,
    false_imp_iff, implies_true, and_true, ← and_assoc, exists_and_right]
  rw [eq_comm, ne_comm]
  simp only [GivenLast, and_assoc]

/-- The last giver of a prefix left its peer with a configuration that lists the prefix. -/
theorem GivenLast.listed {changes : List Change} {network : Network} {owner : PublicKey}
    (last : GivenLast changes network owner) :
    ∃ peer, left changes owner = some peer ∧ network ∈ peer.allowed.map Network.truncate := by
  obtain ⟨earlier, change, later, rfl, rfl, given, silent⟩ := last
  have unchanged : change.key ∉ later.map Change.key := by
    intro changed
    obtain ⟨other, member, same⟩ := List.mem_map.mp changed
    exact (silent other member).1 same
  have held : left (earlier ++ change :: later) change.key = change.wanted := by
    rw [left, List.foldl_append, List.foldl_cons]
    exact (update_movesOwnKey.foldl_other later _ change.key unchanged).trans
      (Function.update_self _ _ _)
  cases change with
  | configure peer => exact ⟨peer, held, given⟩
  | remove key => cases given

/-- The last that was given a prefix is another peer, and was changed since. -/
def TakenAway (changes : List Change) (network : Network) (key : PublicKey) : Prop :=
  ∃ earlier giver later, changes = earlier ++ giver :: later ∧ giver.key ≠ key ∧
    network ∈ giver.given ∧ (∀ other ∈ later, network ∉ other.given) ∧
    ∃ other ∈ later, other.key = giver.key

/-- A prefix that some peer is left with belongs to whom it was last given, unless that is another
peer, which took the prefix away with it. -/
theorem givenLast_or_takenAway (changes : List Change) (network : Network) (key : PublicKey)
    (peer : TunnelPeer) (held : left changes key = some peer)
    (listed : network ∈ peer.allowed.map Network.truncate) :
    (∃ owner, GivenLast changes network owner) ∨ TakenAway changes network key := by
  -- The last change lists the prefix, or it is about the owner so far, or neither moves.
  induction changes using List.reverseRecOn with
  | nil => cases held
  | append_singleton earlier last inductionHypothesis =>
    simp only [givenLast_append_iff]
    by_cases given : network ∈ last.given
    · exact Or.inl ⟨last.key, Or.inl ⟨rfl, given⟩⟩
    · rw [left, List.foldl_append, List.foldl_cons, List.foldl_nil, update] at held
      have other : key ≠ last.key := by
        rintro rfl
        rw [Function.update_self] at held
        cases last with
        | configure configured =>
          obtain rfl := Option.some.inj held
          exact given listed
        | remove removed => cases held
      rw [Function.update_of_ne other] at held
      rcases inductionHypothesis held with ⟨owner, owned⟩ | ⟨before, giver, later, rfl, taken⟩
      · by_cases departs : owner = last.key
        · obtain ⟨before, giver, later, rfl, own, gave, silent⟩ := owned
          have departed : last.key = giver.key := (own.trans departs).symm
          exact Or.inr ⟨before, giver, later ++ [last], by simp, departed ▸ other.symm, gave,
            List.forall_mem_append.mpr ⟨fun change member => (silent change member).2,
              List.forall_mem_singleton.mpr given⟩, last, by simp, departed⟩
        · exact Or.inl ⟨owner, Or.inr ⟨owned, departs, given⟩⟩
      · obtain ⟨own, gave, silent, departed, member, same⟩ := taken
        exact Or.inr ⟨before, giver, later ++ [last], by simp, own, gave,
          List.forall_mem_append.mpr ⟨silent, List.forall_mem_singleton.mpr given⟩, departed,
          by simp [member], same⟩

end Change

namespace CryptokeyTable

/-- What a change makes of a table: its key owns exactly what the change gives. -/
def change (table : CryptokeyTable) (change : Change) : CryptokeyTable :=
  table.assign change.key change.allowed

/-- After changes a prefix belongs to whom it was last given, or to its owner of before, if no
change was about that one or listed the prefix. -/
theorem owner_foldl_change_iff (changes : List Change) (table : CryptokeyTable)
    (network : Network) (owner : PublicKey) :
    (changes.foldl change table).owners.get? network = some owner ↔
      Change.GivenLast changes network owner ∨
        (table.owners.get? network = some owner ∧
          ∀ change ∈ changes, change.key ≠ owner ∧ network ∉ change.given) := by
  induction changes using List.reverseRecOn with
  | nil => simp [Change.GivenLast]
  | append_singleton earlier last inductionHypothesis =>
    rw [List.foldl_append, List.foldl_cons, List.foldl_nil, change, owner_assign_iff,
      inductionHypothesis, Change.givenLast_append_iff]
    simp only [List.mem_append, List.mem_singleton, or_imp, forall_and, forall_eq]
    constructor
    · rintro (now | ⟨given | ⟨before, others, unlisted⟩, other, lastUnlisted⟩)
      · exact Or.inl (Or.inl now)
      · exact Or.inl (Or.inr ⟨given, other, lastUnlisted⟩)
      · exact Or.inr ⟨before, ⟨others, other.symm⟩, unlisted, lastUnlisted⟩
    · rintro ((now | ⟨given, other, lastUnlisted⟩) |
        ⟨before, ⟨others, other⟩, unlisted, lastUnlisted⟩)
      · exact Or.inl now
      · exact Or.inr ⟨Or.inl given, other, lastUnlisted⟩
      · exact Or.inr ⟨Or.inr ⟨before, others, unlisted⟩, other.symm, lastUnlisted⟩

end CryptokeyTable

/-! ## The userspace tunnel -/

namespace UserspaceTunnel

variable {Session : Type} (protocol : SessionProtocol Session)

theorem grants : (driver protocol).Grants := by
  intro request tunnel
  cases request <;> rfl

/-- Requests about routes touch the tracked routes alone. -/
theorem routeBlind {α : Type} (view : UserspaceTunnel Session → α)
    (blind : ∀ (tunnel : UserspaceTunnel Session) routes,
      view { tunnel with routes } = view tunnel) : RouteBlind (driver protocol) view where
  looked network tunnel := rfl
  added network tunnel := by
    simp only [driver, answer, addRoute]
    split
    · rfl
    · exact blind tunnel _
  deleted network tunnel := blind tunnel _

theorem cryptokeys_routeBlind : RouteBlind (driver protocol) UserspaceTunnel.cryptokeys :=
  routeBlind protocol _ fun _ _ => rfl

theorem contains_routeBlind :
    RouteBlind (driver protocol) fun tunnel => tunnel.peers.contains :=
  routeBlind protocol _ fun _ _ => rfl

theorem cryptokeys_answer (change : Change) (tunnel : UserspaceTunnel Session) :
    ((driver protocol).answer change.request tunnel).2.cryptokeys =
      tunnel.cryptokeys.change change := by
  cases change <;> rfl

theorem contains_answer (change : Change) (tunnel : UserspaceTunnel Session) :
    ((driver protocol).answer change.request tunnel).2.peers.contains =
      Change.mark tunnel.peers.contains change := by
  funext key
  rw [Change.mark]
  by_cases own : key = change.key
  · subst own
    rw [Function.update_self]
    cases change <;>
      simp [driver, answer, configure, remove, Table.contains, Change.request, Change.key,
        Change.wanted]
  · rw [Function.update_of_ne own]
    cases change <;> rw [Change.key] at own <;>
      simp [driver, answer, configure, remove, Table.contains, Change.request, Table.get?_insert,
        Table.get?_erase, own]

section Routes

variable (tunnel : UserspaceTunnel Session) (network : Network)

theorem mem_routes_ensureRoute (given : Network) :
    network ∈ ((driver protocol).ensureRoute given tunnel).2.routes ↔
      network ∈ tunnel.routes ∨ network = given.truncate := by
  by_cases tracked : given.truncate ∈ tunnel.routes
  · have kept : (driver protocol).ensureRoute given tunnel = (.ok (), tunnel) := by
      simp [Driver.ensureRoute, driver, answer, tracked]
    rw [kept]
    constructor
    · exact Or.inl
    · rintro (before | rfl)
      · exact before
      · exact tracked
  · have added : (driver protocol).ensureRoute given tunnel =
        (.ok (), { tunnel with routes := tunnel.routes ++ [given.truncate] }) := by
      simp [Driver.ensureRoute, driver, answer, addRoute, tracked]
    rw [added, List.mem_append, List.mem_singleton]

/-- A walk tracks the routes of its list besides those tracked before. -/
theorem mem_routes_ensureRoutes (networks : List Network) (walk : Applier.RouteWalk) :
    network ∈ (Applier.ensureRoutes (driver protocol) walk networks tunnel).2.routes ↔
      network ∈ tunnel.routes ∨
        network ∈ (networks.filter fun given => !given.isDefaultRoute).map Network.truncate := by
  induction networks generalizing walk tunnel with
  | nil => simp [Applier.ensureRoutes]
  | cons given rest inductionHypothesis =>
    by_cases offered : given.isDefaultRoute = true
    · simp only [Applier.ensureRoutes, if_pos offered]
      rw [inductionHypothesis]
      simp [offered]
    · simp only [Applier.ensureRoutes, if_neg offered]
      have ensured := mem_routes_ensureRoute protocol tunnel network given
      have granted := (grants protocol).ensureRoute given tunnel
      cases asked : (driver protocol).ensureRoute given tunnel with
      | mk answer next =>
        rw [asked] at ensured granted
        cases answer with
        | error error => cases granted
        | ok done =>
          dsimp only at ensured ⊢
          rw [inductionHypothesis, ensured]
          simp [offered, or_assoc]

theorem mem_routes_deleteRoutes (networks : List Network) :
    network ∈ ((driver protocol).deleteRoutes networks tunnel).routes ↔
      network ∈ tunnel.routes ∧ network ∉ networks.map Network.truncate := by
  unfold Driver.deleteRoutes
  induction networks generalizing tunnel with
  | nil => simp
  | cons given rest inductionHypothesis =>
    rw [List.foldl_cons, inductionHypothesis]
    simp [driver, answer, deleteRoute, and_assoc]

/-- A change tracks the routes that it wants and tracks its stale ones no longer. -/
theorem mem_routes_carryOut (applier : Applier) (change : Change) :
    network ∈ (Applier.carryOut (driver protocol) applier tunnel change).2.2.routes ↔
      (network ∈ tunnel.routes ∨ network ∈ change.routes.map Network.truncate) ∧
        network ∉ (applier.stale change).map Network.truncate := by
  have asked : ((driver protocol).answer change.request tunnel).2.routes = tunnel.routes := by
    cases change <;> rfl
  rw [(grants protocol).carryOut, mem_routes_deleteRoutes, Applier.walkFor,
    mem_routes_ensureRoutes, asked, Change.routes_eq]

end Routes

/-! ## Any number of passes -/

/-- A tunnel without peers, prefixes and routes. -/
def vacated (tunnel : UserspaceTunnel Session) : UserspaceTunnel Session :=
  { tunnel with peers := Table.empty, cryptokeys := {}, routes := [] }

/-- After any passes over a userspace tunnel that started without peers: a prefix belongs to a peer
exactly if the last change that lists the prefix gave it to the peer and no later one was about the
peer; so its owner is configured, and lists the prefix; and a prefix that some peer lists has an
owner, unless another peer was the last to be given it and was changed later. -/
theorem shared_prefix_owner (tunnel : UserspaceTunnel Session)
    (batches : List (List TunnelPeer × List PublicKey)) (network : Network) :
    let changes := batches.flatMap fun batch => Change.ofPass batch.1 batch.2
    let after := (Applier.applyAll (driver protocol) batches {} tunnel.vacated).2
    (∀ owner, after.cryptokeys.owners.get? network = some owner ↔
        Change.GivenLast changes network owner) ∧
      (∀ owner, after.cryptokeys.owners.get? network = some owner →
        after.peers.contains owner = true ∧
          ∃ peer, Change.left changes owner = some peer ∧
            network ∈ peer.allowed.map Network.truncate) ∧
      ∀ key peer, Change.left changes key = some peer →
        network ∈ peer.allowed.map Network.truncate →
        (∃ owner, after.cryptokeys.owners.get? network = some owner) ∨
          Change.TakenAway changes network key := by
  intro changes after
  have cryptokeys : after.cryptokeys = changes.foldl CryptokeyTable.change {} :=
    (cryptokeys_routeBlind protocol).applyAll CryptokeyTable.change (cryptokeys_answer protocol)
      batches {} tunnel.vacated
  have owned : ∀ owner, after.cryptokeys.owners.get? network = some owner ↔
      Change.GivenLast changes network owner := by
    intro owner
    rw [cryptokeys, CryptokeyTable.owner_foldl_change_iff]
    exact or_iff_left fun impossible => by cases impossible.1
  have present : after.peers.contains = Option.isSome ∘ Change.left changes :=
    ((contains_routeBlind protocol).applyAll Change.mark (contains_answer protocol) batches {}
      tunnel.vacated).trans (Change.foldl_mark changes fun _ => none)
  refine ⟨owned, ?listed, ?kept⟩
  case listed =>
    intro owner found
    obtain ⟨peer, held, listed⟩ := ((owned owner).mp found).listed
    refine ⟨?_, peer, held, listed⟩
    rw [present, Function.comp_apply, held]
    rfl
  case kept =>
    intro key peer held listed
    simp only [owned]
    exact Change.givenLast_or_takenAway changes network key peer held listed

/-- Sessions that keep every packet for a handshake and refuse every datagram. -/
def silent : SessionProtocol Unit where
  start _ _ := ()
  encapsulate _ session := (.queued, session)
  decapsulate _ _ session := (none, session)

/-- Two peers list one prefix, and the second one then leaves, by a removal or by a configuration
without the prefix. The first still lists it and its route is still tracked, but the prefix has no
owner, and no peer carries packets to its address. -/
theorem shared_prefix_lost :
    let peer (last : UInt8) (allowed : List Network) : TunnelPeer :=
      ⟨Sample.key last, Sample.home.reflexive, allowed, none, .reflexive⟩
    let both := ([peer 1 [Sample.network 7], peer 2 [Sample.network 7]], [])
    ∀ departure ∈ [([], [Sample.key 2]), ([peer 2 []], [])],
      let changes := [both, departure].flatMap fun batch => Change.ofPass batch.1 batch.2
      let after := Applier.applyAll (driver silent) [both, departure] {} (vacated {})
      Change.left changes (Sample.key 1) = some (peer 1 [Sample.network 7]) ∧
        after.1.routesOf (Sample.key 1) = [Sample.network 7] ∧
        after.2.routes = [Sample.network 7] ∧
        after.2.cryptokeys.owners.get? (Sample.network 7) = none ∧
        after.2.carrier? (Sample.network 7).address = none := by
  decide +kernel

end UserspaceTunnel

end MeshNode
