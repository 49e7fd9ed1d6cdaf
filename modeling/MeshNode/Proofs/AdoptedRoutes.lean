import MeshNode.Proofs.Histories
import MeshNode.Proofs.Ownership

/-!
# Routes that were there before

The applier looks for a route before it adds it, and relies on one that it found just as on
one that it added. So it takes over the routes that somebody else has put into the tunnel, and
deletes them when the last key that relies on them is gone.

The main statement says which deletions are of that kind. A prefix is deleted without an
addition of it before exactly if it was in the tunnel at the start and is deleted at all.
In a tunnel that was empty at first, or for a prefix that was not there, every deletion
undoes an addition of the applier's own.

Along the record of exchanges three facts are kept. A route that no exchange has added is one
of the start; a route of the start is there, and nothing has added it, as long as it was not
deleted; and what is relied on was looked for, and was added unless it is one of the start.
-/

namespace MeshNode

variable {World : Type}

/-- Some deletion of a prefix is requested without a granted addition of it before. -/
def DeletesUnadded (record : List Exchange) (network : Network) : Prop :=
  ∃ before granted after, record = before ++ ⟨.deleteRoute network, granted⟩ :: after ∧
    ⟨.addRoute network, true⟩ ∉ before

/-- A prefix was looked for, and was added unless it was there at the start. -/
def Sought (origin : Network → Prop) (record : List Exchange) (network : Network) : Prop :=
  ⟨.routeExists network, true⟩ ∈ record ∧
    (⟨.addRoute network, true⟩ ∈ record ∨ origin network)

/-- Nothing has added a prefix of the start that was not deleted. -/
def Unadded (origin : Network → Prop) (record : List Exchange) (network : Network) : Prop :=
  origin network → ⟨.deleteRoute network, true⟩ ∉ record → ⟨.addRoute network, true⟩ ∉ record

theorem Sought.append {origin : Network → Prop} {record : List Exchange} {network : Network}
    (sought : Sought origin record network) (more : List Exchange) :
    Sought origin (record ++ more) network :=
  ⟨List.mem_append_left _ sought.1, sought.2.imp_left (List.mem_append_left _)⟩

/-- The prefixes whose deletion was requested are those of the deletions on record. -/
theorem mem_deletions_iff (record : List Exchange) (network : Network) :
    network ∈ deletions record ↔ ∃ granted, ⟨.deleteRoute network, granted⟩ ∈ record := by
  constructor
  · intro member
    obtain ⟨⟨request, granted⟩, asked, deleted⟩ := List.mem_filterMap.mp member
    cases request <;> cases deleted
    exact ⟨granted, asked⟩
  · rintro ⟨granted, asked⟩
    exact mem_deletions record _ asked network rfl

/-- A deletion that is on record was requested at some point where none of its prefix had been
granted. -/
theorem exists_first_deletion (record : List Exchange) (network : Network)
    (deleted : network ∈ deletions record) :
    ∃ before granted after, record = before ++ ⟨.deleteRoute network, granted⟩ :: after ∧
      ⟨.deleteRoute network, true⟩ ∉ before := by
  obtain ⟨granted, asked⟩ := (mem_deletions_iff record network).mp deleted
  by_cases some : ⟨.deleteRoute network, true⟩ ∈ record
  · obtain ⟨before, after, split, first⟩ := List.eq_append_cons_of_mem some
    exact ⟨before, true, after, split, first⟩
  · obtain ⟨before, after, rfl⟩ := List.append_of_mem asked
    exact ⟨before, granted, after, rfl, fun member => some (List.mem_append_left _ member)⟩

/-- A granted request is on record as such. -/
theorem mem_of_granted (driver : Driver World) (request : Request)
    (state : List Exchange × World)
    (granted : (driver.logged.answer request state).1.isOk = true) :
    ⟨request, true⟩ ∈ (driver.logged.answer request state).2.1 := by
  refine List.mem_append_right _ (List.mem_singleton.mpr ?_)
  rw [← granted]
  rfl

/-- A tunnel and the record of its exchanges, in step with where the routes come from. -/
structure Sourced (routed : World → Network → Prop) (origin relied : Network → Prop)
    (state : List Exchange × World) : Prop where
  /-- A route was added, or it was there at the start. -/
  source : ∀ network, routed state.2 network →
    ⟨.addRoute network, true⟩ ∈ state.1 ∨ origin network
  /-- A route of the start that was not deleted is still there. -/
  remains : ∀ network, origin network → ⟨.deleteRoute network, true⟩ ∉ state.1 →
    routed state.2 network
  unadded : ∀ network, Unadded origin state.1 network
  sought : ∀ network, relied network → Sought origin state.1 network
  /-- What was deleted had been sought, and was not added if it was there at the start. -/
  deleted : ∀ before network granted after,
    state.1 = before ++ ⟨.deleteRoute network, granted⟩ :: after →
      Sought origin before network ∧ Unadded origin before network

namespace Sourced

variable {driver : Driver World} {routed : World → Network → Prop}
  {origin relied : Network → Prop} {state : List Exchange × World}

/-- Less may be relied on. -/
theorem of_imp (sourced : Sourced routed origin relied state) {other : Network → Prop}
    (fewer : ∀ network, other network → relied network) : Sourced routed origin other state :=
  { sourced with sought := fun network relies => sourced.sought network (fewer network relies) }

/-- What was sought may be relied on. -/
theorem rely (sourced : Sourced routed origin relied state) (network : Network)
    (sought : Sought origin state.1 network) :
    Sourced routed origin (fun other => relied other ∨ other = network) state :=
  { sourced with
    sought := by
      rintro other (before | rfl)
      · exact sourced.sought other before
      · exact sought }

/-- One more exchange keeps step if it leaves the routes of the start where they are, adds none of
them, and deletes only what was sought. -/
theorem step (sourced : Sourced routed origin relied state) (exchange : Exchange) (world : World)
    (source : ∀ network, routed world network →
      routed state.2 network ∨ exchange = ⟨.addRoute network, true⟩)
    (remains : ∀ network, routed state.2 network →
      routed world network ∨ exchange = ⟨.deleteRoute network, true⟩)
    (missing : ∀ network granted, exchange = ⟨.addRoute network, granted⟩ →
      ¬routed state.2 network)
    (sought : ∀ network granted, exchange = ⟨.deleteRoute network, granted⟩ →
      Sought origin state.1 network) :
    Sourced routed origin relied (state.1 ++ [exchange], world) where
  source network there := by
    rcases source network there with before | rfl
    · exact (sourced.source network before).imp_left (List.mem_append_left _)
    · exact Or.inl (List.mem_append_right _ (List.mem_singleton_self _))
  remains network first kept := by
    have before := sourced.remains network first fun gone => kept (List.mem_append_left _ gone)
    rcases remains network before with still | rfl
    · exact still
    · exact absurd (List.mem_append_right _ (List.mem_singleton_self _)) kept
  unadded network first kept added := by
    have undeleted : ⟨.deleteRoute network, true⟩ ∉ state.1 := fun gone =>
      kept (List.mem_append_left _ gone)
    rcases List.mem_append.mp added with earlier | now
    · exact sourced.unadded network first undeleted earlier
    · exact missing network true (List.mem_singleton.mp now).symm
        (sourced.remains network first undeleted)
  sought network relies := (sourced.sought network relies).append _
  deleted before network granted after split := by
    rcases (append_singleton_eq_split_iff _ _ _ _ _).mp split with
      ⟨rfl, now, _⟩ | ⟨between, _, earlier⟩
    · exact ⟨sought network granted now.symm, sourced.unadded network⟩
    · exact sourced.deleted before network granted between earlier

section Requests

variable (holds : HoldsRoutes driver routed)

include holds

/-- The request of a change keeps step. -/
theorem change (sourced : Sourced routed origin relied state) (change : Change) :
    Sourced routed origin relied (driver.logged.answer change.request state).2 := by
  refine sourced.step _ _ (fun network there => ?_) (fun network there => ?_) ?_ ?_
  · exact Or.inl ((holds.changed change state.2 network).mp there)
  · exact Or.inl ((holds.changed change state.2 network).mpr there)
  · intro network granted asked
    cases change <;> cases congrArg Exchange.request asked
  · intro network granted asked
    cases change <;> cases congrArg Exchange.request asked

/-- Looking for a route keeps step. -/
theorem look (sourced : Sourced routed origin relied state) (network : Network) :
    Sourced routed origin relied (driver.logged.answer (.routeExists network) state).2 := by
  refine sourced.step _ _ (fun other there => ?_) (fun other there => ?_) ?_ ?_
  · exact Or.inl ((holds.looked network state.2 other).mp there)
  · exact Or.inl ((holds.looked network state.2 other).mpr there)
  · intro other granted asked
    cases congrArg Exchange.request asked
  · intro other granted asked
    cases congrArg Exchange.request asked

/-- Adding a route that is missing keeps step. -/
theorem add (sourced : Sourced routed origin relied state) (network : Network)
    (missing : ¬routed state.2 network) :
    Sourced routed origin relied (driver.logged.answer (.addRoute network) state).2 := by
  refine sourced.step _ _ (fun other there => ?_) (fun other there => ?_) ?_ ?_
  · rcases (holds.added network state.2 other).mp there with before | ⟨granted, rfl⟩
    · exact Or.inl before
    · exact Or.inr (by rw [granted])
  · exact Or.inl ((holds.added network state.2 other).mpr (Or.inl there))
  · intro other granted asked
    cases congrArg Exchange.request asked
    exact missing
  · intro other granted asked
    cases congrArg Exchange.request asked

/-- Deleting a route that was sought keeps step. -/
theorem delete (sourced : Sourced routed origin relied state) (network : Network)
    (sought : Sought origin state.1 network) :
    Sourced routed origin relied (driver.logged.answer (.deleteRoute network) state).2 := by
  refine sourced.step _ _ (fun other there => ?_) (fun other there => ?_) ?_ ?_
  · exact Or.inl ((holds.deleted network state.2 other).mp there).1
  · by_cases gone :
        (driver.answer (.deleteRoute network) state.2).1.isOk = true ∧ other = network
    · exact Or.inr (by rw [gone.1, gone.2])
    · exact Or.inl ((holds.deleted network state.2 other).mpr ⟨there, gone⟩)
  · intro other granted asked
    cases congrArg Exchange.request asked
  · intro other granted asked
    cases congrArg Exchange.request asked
    exact sought

/-- A route that was made sure of may be relied on, whether it was found or added. -/
theorem ensureRoute (sourced : Sourced routed origin relied state) (network : Network) :
    Sourced routed origin
      (fun other => relied other ∨
        ((driver.logged.ensureRoute network state).1.isOk = true ∧ other = network))
      (driver.logged.ensureRoute network state).2 := by
  have looked := sourced.look holds network
  have recorded := mem_of_granted driver (.routeExists network) state
  have unmoved := holds.looked network state.2 network
  have answers := holds.found network state.2
  unfold Driver.ensureRoute
  split
  · rename_i error next asked
    rw [asked] at looked
    exact looked.of_imp fun other => by simp [Except.isOk, Except.toBool]
  · rename_i next asked
    have there := unmoved.mpr ((answers true (congrArg Prod.fst asked)).mp rfl)
    have moved : (driver.answer (.routeExists network) state.2).2 = next.2 :=
      congrArg (fun answer => answer.2.2) asked
    rw [moved] at there
    rw [asked] at looked recorded
    exact (looked.rely network ⟨recorded rfl, looked.source network there⟩).of_imp
      fun other => by simp [Except.isOk, Except.toBool]
  · rename_i next asked
    have moved : (driver.answer (.routeExists network) state.2).2 = next.2 :=
      congrArg (fun answer => answer.2.2) asked
    have missing : ¬routed next.2 network := by
      intro there
      rw [← moved] at there
      cases (answers false (congrArg Prod.fst asked)).mpr (unmoved.mp there)
    rw [asked] at looked recorded
    have added := looked.add holds network missing
    by_cases granted : (driver.logged.answer (.addRoute network) next).1.isOk = true
    · have sought : Sought origin (driver.logged.answer (.addRoute network) next).2.1 network :=
        ⟨List.mem_append_left _ (recorded rfl), Or.inl (mem_of_granted driver _ next granted)⟩
      exact (added.rely network sought).of_imp fun other => by simp [granted]
    · exact added.of_imp fun other => by simp [granted]

/-- The walk over a peer's routes may rely on every route that it owns in the end. -/
theorem ensureRoutes (networks : List Network) (walk : Applier.RouteWalk)
    (sourced : Sourced routed origin (fun network => relied network ∨ network ∈ walk.owned)
      state) :
    Sourced routed origin
      (fun network => relied network ∨
        network ∈ (Applier.ensureRoutes driver.logged walk networks state).1.owned)
      (Applier.ensureRoutes driver.logged walk networks state).2 := by
  refine @Applier.ensureRoutes_induction _ driver.logged
    (fun owned next => Sourced routed origin (fun network => relied network ∨ network ∈ owned) next)
    ?_ networks walk state sourced
  intro owned network next _ before
  refine (before.ensureRoute holds network).of_imp fun other => ?_
  split <;> simp_all [or_assoc]

/-- Deleting routes that were relied on keeps step, however often one of them is listed. -/
theorem deleteRoutes (sourced : Sourced routed origin relied state) (networks : List Network)
    (listed : ∀ network ∈ networks, relied network) :
    Sourced routed origin relied (driver.logged.deleteRoutes networks state) := by
  unfold Driver.deleteRoutes
  induction networks generalizing state with
  | nil => exact sourced
  | cons network rest inductionHypothesis =>
    obtain ⟨now, later⟩ := List.forall_mem_cons.mp listed
    exact inductionHypothesis (sourced.delete holds network (sourced.sought network now)) later

/-- Every change keeps step: of what it deletes, its key relied on all. -/
theorem carryOut {applier : Applier} (sourced : Sourced routed origin applier.Relies state)
    (change : Change) :
    Sourced routed origin (Applier.carryOut driver.logged applier state change).2.1.Relies
      (Applier.carryOut driver.logged applier state change).2.2 := by
  have requested := sourced.change holds change
  have began : Sourced routed origin
      (fun network => applier.Relies network ∨ network ∈ ({} : Applier.RouteWalk).owned)
      (driver.logged.answer change.request state).2 :=
    requested.of_imp fun network => by simp
  have walked := began.ensureRoutes holds change.allowed {}
  rcases Applier.carryOut_cases driver.logged applier state change with
    ⟨error, _, refused⟩ | ⟨error, _, _, stopped⟩ | ⟨_, complete, done⟩
  · rw [refused]
    exact requested
  · rw [stopped]
    exact walked.of_imp fun network => (Applier.relies_merged applier change.key _ network).mp
  · rw [done]
    have stale : ∀ network ∈ applier.stale change, applier.Relies network := fun network member =>
      ⟨change.key, (List.mem_filter.mp member).1⟩
    refine (walked.deleteRoutes holds _ fun network member => Or.inl (stale network member)).of_imp
      fun network => ?_
    rintro ⟨key, listed⟩
    rw [Applier.routesOf_replaced] at listed
    split at listed
    · refine Or.inr ?_
      rw [Applier.owned_ensureRoutes driver.logged change.allowed {} _ complete]
      rw [Change.routes_eq] at listed
      exact listed
    · exact Or.inl ⟨key, listed⟩

end Requests

end Sourced

namespace Applier

/-- After any number of passes that started with nothing on record: a prefix is deleted without an
addition of it before exactly if it was in the tunnel at the start and is deleted at all; and
nothing is deleted that was not looked for before. -/
theorem deletions_sourced {driver : Driver World} {routed : World → Network → Prop}
    (holds : HoldsRoutes driver routed) (world : World)
    (batches : List (List TunnelPeer × List PublicKey)) :
    let after := applyAll driver.logged batches {} ([], world)
    let record := after.2.1
    applyAll driver batches {} world = (after.1, after.2.2) ∧
      (∀ network, DeletesUnadded record network ↔
        routed world network ∧ network ∈ deletions record) ∧
      ∀ before network granted later,
        record = before ++ ⟨.deleteRoute network, granted⟩ :: later →
          ⟨.routeExists network, true⟩ ∈ before := by
  intro after record
  have sourced : Sourced routed (routed world) after.1.Relies after.2 := by
    refine @applyAll_induction _ driver.logged
      (fun applier state => Sourced routed (routed world) applier.Relies state)
      (fun _ _ change before => before.carryOut holds change) batches {} ([], world) ?_
    exact
      { source := fun network there => Or.inr there
        remains := fun network first _ => first
        unadded := fun network _ _ => List.not_mem_nil
        sought := by
          rintro network ⟨key, listed⟩
          cases listed
        deleted := fun before network granted later split => by simp at split }
  refine ⟨applyAll_logged driver batches {} ([], world), fun network => ⟨?_, ?_⟩, ?_⟩
  · rintro ⟨before, granted, later, split, unadded⟩
    obtain ⟨⟨_, source⟩, _⟩ := sourced.deleted before network granted later split
    refine ⟨source.resolve_left unadded, (mem_deletions_iff record network).mpr ⟨granted, ?_⟩⟩
    rw [split]
    exact List.mem_append_right _ List.mem_cons_self
  · rintro ⟨first, deleted⟩
    obtain ⟨before, granted, later, split, none⟩ := exists_first_deletion record network deleted
    exact ⟨before, granted, later, split,
      (sourced.deleted before network granted later split).2 first none⟩
  · intro before network granted later split
    exact (sourced.deleted before network granted later split).1.1

/-- One peer asks for a route that is there already and for one that is not, and is removed. Both
are deleted; the first was not added before, the second was. -/
theorem found_and_added_routes_deleted :
    let peer : TunnelPeer :=
      ⟨Sample.key 1, Sample.home.reflexive, [Sample.network 7, Sample.network 8], none, .reflexive⟩
    let batches := [([peer], []), ([], [Sample.key 1])]
    let tunnel : ScriptedTunnel := { routes := [Sample.network 7] }
    let record := (applyAll ScriptedTunnel.driver.logged batches {} ([], tunnel)).2.1
    deletions record = [Sample.network 7, Sample.network 8] ∧
      DeletesUnadded record (Sample.network 7) ∧ ¬DeletesUnadded record (Sample.network 8) := by
  intro peer batches tunnel record
  obtain ⟨_, exactly, _⟩ := deletions_sourced ScriptedTunnel.holdsRoutes tunnel batches
  have deleted : deletions record = [Sample.network 7, Sample.network 8] := by decide +kernel
  refine ⟨deleted, ?_, ?_⟩
  · exact (exactly (Sample.network 7)).mpr
      ⟨List.mem_singleton_self _, by rw [deleted]; exact List.mem_cons_self⟩
  · intro unadded
    have first : Sample.network 8 ∈ [Sample.network 7] :=
      ((exactly (Sample.network 8)).mp unadded).1
    revert first
    decide

/-- A route that was in the tunnel before the applier started is deleted with the peer that asked
for it, although the applier never added it. -/
theorem found_route_deleted :
    let peer : TunnelPeer :=
      ⟨Sample.key 1, Sample.home.reflexive, [Sample.network 7], none, .reflexive⟩
    let tunnel : ScriptedTunnel := { routes := [Sample.network 7] }
    let record :=
      (applyAll ScriptedTunnel.driver.logged [([peer], []), ([], [Sample.key 1])] {}
        ([], tunnel)).2.1
    ⟨.deleteRoute (Sample.network 7), true⟩ ∈ record ∧
      ∀ granted, ⟨.addRoute (Sample.network 7), granted⟩ ∉ record := by
  decide +kernel

end Applier

end MeshNode
