import Mathlib.Data.List.Induction
import MeshNode.Proofs.Changes
import MeshNode.Proofs.Tables
import MeshNode.Reconciler

/-!
# Settling a pass

A full pass compares what is desired with what is applied, carries out the
difference and takes the outcome into account. The law of this step is short:
afterwards the dirty keys are exactly those that failed, and every other key is
applied as it is desired. Nothing is assumed of the tunnel, and any request may
fail.

The difference is exact. A key that it leaves out is not dirty and already
applied as desired, and no key is in it twice.
-/

namespace MeshNode.Reconciler

/-- Every peer stands under its own key. -/
def Keyed (table : Table PublicKey TunnelPeer) : Prop :=
  ∀ key peer, table.get? key = some peer → peer.publicKey = key

/-- A list without its repetitions has none. -/
theorem eraseDups_nodup {α : Type} [DecidableEq α] (values : List α) :
    values.eraseDups.Nodup := by
  induction values using List.reverseRecOn with
  | nil => simp
  | append_singleton earlier last inductionHypothesis =>
    rw [List.eraseDups_append]
    by_cases seen : last ∈ earlier
    · simpa [List.removeAll, seen] using inductionHypothesis
    · have alone : ([last].removeAll earlier).eraseDups = [last] := by
        simp [List.removeAll, seen, List.eraseDups_cons]
      rw [alone, List.nodup_append]
      refine ⟨inductionHypothesis, by simp, ?_⟩
      intro kept member other single
      rw [List.mem_singleton.mp single]
      rintro rfl
      exact seen (List.mem_eraseDups.mp member)

section Difference

variable (reconciler : Reconciler) (desired : Table PublicKey TunnelPeer)

/-- What a pass changes to reach the desired peers. -/
def difference : List Change :=
  Change.ofPass (reconciler.toConfigure desired) (reconciler.toRemove desired)

/-- Configured are the desired peers that are dirty or not applied as they are desired. -/
theorem mem_toConfigure_iff (keyed : Keyed desired) (peer : TunnelPeer) :
    peer ∈ reconciler.toConfigure desired ↔
      desired.get? peer.publicKey = some peer ∧
        (peer.publicKey ∈ reconciler.dirty ∨
          reconciler.applied.get? peer.publicKey ≠ some peer) := by
  simp only [toConfigure, List.mem_mergeSort, List.mem_filter, Table.mem_values_iff,
    List.contains_iff_mem, Bool.or_eq_true, decide_eq_true_eq]
  constructor
  · rintro ⟨⟨key, found⟩, why⟩
    have own : peer.publicKey = key := keyed key peer found
    subst own
    exact ⟨found, why⟩
  · rintro ⟨found, why⟩
    exact ⟨⟨peer.publicKey, found⟩, why⟩

/-- Removed are the keys that are applied or dirty and not desired. -/
theorem mem_toRemove_iff (key : PublicKey) :
    key ∈ reconciler.toRemove desired ↔
      (reconciler.applied.contains key = true ∨ key ∈ reconciler.dirty) ∧
        desired.get? key = none := by
  simp only [toRemove, List.mem_mergeSort, List.mem_eraseDups, List.mem_filter, List.mem_append,
    Table.mem_keys_iff, Table.contains_iff, Bool.not_eq_true', Table.contains_eq_false_iff]

/-- No two configured peers share a key. -/
theorem toConfigure_nodup (keyed : Keyed desired) :
    ((reconciler.toConfigure desired).map TunnelPeer.publicKey).Nodup := by
  have own : desired.values.map TunnelPeer.publicKey = desired.keys := by
    simp only [Table.values, Table.keys, List.map_map]
    apply List.map_congr_left
    rintro ⟨key, peer⟩ member
    exact keyed key peer ((desired.get?_eq_some_iff key peer).mpr member)
  have apart : (desired.values.map TunnelPeer.publicKey).Nodup := own ▸ desired.nodup
  refine ((List.mergeSort_perm _ _).map TunnelPeer.publicKey).nodup_iff.mpr ?_
  exact apart.sublist (List.filter_sublist.map TunnelPeer.publicKey)

/-- No key is removed twice. -/
theorem toRemove_nodup : (reconciler.toRemove desired).Nodup :=
  (List.mergeSort_perm _ _).nodup_iff.mpr (eraseDups_nodup _)

/-- No key is changed twice: a configured key is desired, a removed one is not. -/
theorem difference_nodup (keyed : Keyed desired) :
    ((reconciler.difference desired).map Change.key).Nodup := by
  rw [difference, Change.keys_ofPass, List.nodup_append]
  refine ⟨reconciler.toConfigure_nodup desired keyed, reconciler.toRemove_nodup desired, ?_⟩
  rintro key configured other removed rfl
  obtain ⟨peer, member, rfl⟩ := List.mem_map.mp configured
  have wanted := ((reconciler.mem_toConfigure_iff desired keyed peer).mp member).1
  have unwanted := ((reconciler.mem_toRemove_iff desired peer.publicKey).mp removed).2
  rw [wanted] at unwanted
  cases unwanted

/-- A change of the difference leads to what is desired. -/
theorem wanted_of_mem_difference (keyed : Keyed desired) (change : Change)
    (member : change ∈ reconciler.difference desired) :
    change.wanted = desired.get? change.key := by
  simp only [difference, Change.ofPass, List.mem_append, List.mem_map] at member
  rcases member with ⟨peer, configured, rfl⟩ | ⟨key, removed, rfl⟩
  · exact ((reconciler.mem_toConfigure_iff desired keyed peer).mp configured).1.symm
  · exact ((reconciler.mem_toRemove_iff desired key).mp removed).2.symm

/-- A dirty key is changed: configured where it is desired, else removed. -/
theorem mem_difference_of_dirty (keyed : Keyed desired) (key : PublicKey)
    (dirty : key ∈ reconciler.dirty) :
    (match desired.get? key with
      | some peer => Change.configure peer
      | none => Change.remove key) ∈ reconciler.difference desired := by
  simp only [difference, Change.ofPass, List.mem_append, List.mem_map]
  cases found : desired.get? key with
  | some peer =>
    have own : peer.publicKey = key := keyed key peer found
    refine Or.inl ⟨peer, (reconciler.mem_toConfigure_iff desired keyed peer).mpr ?_, rfl⟩
    rw [own]
    exact ⟨found, Or.inl dirty⟩
  | none =>
    exact Or.inr ⟨key, (reconciler.mem_toRemove_iff desired key).mpr ⟨Or.inr dirty, found⟩, rfl⟩

/-- A key that the difference leaves out is clean and applied as it is desired. -/
theorem settled_of_not_mem_difference (keyed : Keyed desired) (key : PublicKey)
    (absent : key ∉ (reconciler.difference desired).map Change.key) :
    key ∉ reconciler.dirty ∧ reconciler.applied.get? key = desired.get? key := by
  rw [difference, Change.keys_ofPass, List.mem_append, not_or] at absent
  obtain ⟨notConfigured, notRemoved⟩ := absent
  rw [mem_toRemove_iff] at notRemoved
  cases found : desired.get? key with
  | some peer =>
    have own : peer.publicKey = key := keyed key peer found
    have notMember : peer ∉ reconciler.toConfigure desired := fun member =>
      notConfigured (List.mem_map.mpr ⟨peer, member, own⟩)
    rw [mem_toConfigure_iff reconciler desired keyed, own] at notMember
    constructor
    · exact fun dirty => notMember ⟨found, Or.inl dirty⟩
    · exact Classical.byContradiction fun differs => notMember ⟨found, Or.inr differs⟩
  | none =>
    constructor
    · exact fun dirty => notRemoved ⟨Or.inr dirty, found⟩
    · cases applied : reconciler.applied.get? key with
      | none => rfl
      | some peer =>
        have held : reconciler.applied.contains key = true :=
          (Table.contains_iff _ key).mpr ⟨peer, applied⟩
        exact absurd ⟨Or.inl held, found⟩ notRemoved

/-- Where nothing is dirty and everything is applied as it is desired, nothing is changed. -/
theorem difference_eq_nil (keyed : Keyed desired) (clean : reconciler.dirty = [])
    (applied : ∀ key, reconciler.applied.get? key = desired.get? key) :
    reconciler.toConfigure desired = [] ∧ reconciler.toRemove desired = [] := by
  constructor
  · rw [List.eq_nil_iff_forall_not_mem]
    intro peer member
    obtain ⟨wanted, dirty | unlike⟩ := (mem_toConfigure_iff reconciler desired keyed peer).mp member
    · rw [clean] at dirty
      cases dirty
    · exact unlike ((applied peer.publicKey).trans wanted)
  · rw [List.eq_nil_iff_forall_not_mem]
    intro key member
    obtain ⟨held | dirty, unwanted⟩ := (mem_toRemove_iff reconciler desired key).mp member
    · obtain ⟨peer, found⟩ := (Table.contains_iff _ key).mp held
      rw [applied key, unwanted] at found
      cases found
    · rw [clean] at dirty
      cases dirty

end Difference

section Outcome

variable (report : ApplyReport)

/-- Take the outcome of one change into account. -/
def settleChange (reconciler : Reconciler) : Change → Reconciler
  | .configure peer => settleConfigured report reconciler peer
  | .remove key => settleRemoved report reconciler key

/-- Settling a pass is settling its changes one after another. -/
theorem settle_eq_foldl (added : List TunnelPeer) (removed : List PublicKey)
    (reconciler : Reconciler) :
    settle report added removed reconciler =
      (Change.ofPass added removed).foldl (settleChange report) reconciler := by
  simp only [settle, Change.ofPass, List.foldl_append, List.foldl_map, settleChange]

theorem mem_markDirty_iff (dirty : List PublicKey) (key other : PublicKey) :
    other ∈ markDirty dirty key ↔ other ∈ dirty ∨ other = key := by
  by_cases already : key ∈ dirty
  · rw [markDirty, if_pos already]
    exact ⟨Or.inl, fun either => either.elim id fun same => same ▸ already⟩
  · simp [markDirty, already]

/-- Settling a change makes its key dirty exactly if it failed, and no other. -/
theorem mem_dirty_settleChange_iff (reconciler : Reconciler) (change : Change) (key : PublicKey) :
    key ∈ (settleChange report reconciler change).dirty ↔
      if key = change.key then report.failed change.key = true else key ∈ reconciler.dirty := by
  cases change with
  | configure peer =>
    by_cases failed : report.failed peer.publicKey = true <;>
      by_cases same : key = peer.publicKey <;>
        simp [settleChange, settleConfigured, Change.key, failed, same, mem_markDirty_iff]
  | remove removed =>
    by_cases failed : report.failed removed = true <;> by_cases same : key = removed <;>
      simp [settleChange, settleRemoved, Change.key, failed, same, mem_markDirty_iff]

/-- A change that did not fail leaves its key applied as it was wanted. -/
theorem applied_settleChange_self (reconciler : Reconciler) (change : Change)
    (success : report.failed change.key = false) :
    (settleChange report reconciler change).applied.get? change.key = change.wanted := by
  cases change with
  | configure peer =>
    rw [Change.key] at success
    simp [settleChange, settleConfigured, Change.key, Change.wanted, success]
  | remove key =>
    rw [Change.key] at success
    simp [settleChange, settleRemoved, Change.key, Change.wanted, success]

/-- Settling a change touches what is applied for its own key alone. -/
theorem applied_settleChange_other (reconciler : Reconciler) (change : Change) (key : PublicKey)
    (other : key ≠ change.key) :
    (settleChange report reconciler change).applied.get? key = reconciler.applied.get? key := by
  cases change with
  | configure peer =>
    rw [Change.key] at other
    by_cases failed : report.failed peer.publicKey = true <;>
      simp [settleChange, settleConfigured, failed, Table.get?_insert, Table.get?_erase, other]
  | remove removed =>
    rw [Change.key] at other
    by_cases failed : report.failed removed = true <;>
      simp [settleChange, settleRemoved, failed, Table.get?_erase, other]

/-- Settling a change leaves a key with what was applied for it or with what the change wants. -/
theorem applied_settleChange_cases (reconciler : Reconciler) (change : Change) (key : PublicKey)
    (peer : TunnelPeer)
    (found : (settleChange report reconciler change).applied.get? key = some peer) :
    reconciler.applied.get? key = some peer ∨ change.key = key ∧ change.wanted = some peer := by
  by_cases own : key = change.key
  · subst own
    cases failed : report.failed change.key with
    | false =>
      rw [applied_settleChange_self report reconciler change failed] at found
      exact Or.inr ⟨rfl, found⟩
    | true =>
      cases change with
      | configure wanted =>
        rw [Change.key] at failed
        simp [settleChange, settleConfigured, Change.key, failed] at found
      | remove removed =>
        rw [Change.key] at failed
        simp only [settleChange, settleRemoved, Change.key, failed, if_true] at found
        exact Or.inl found
  · rw [applied_settleChange_other report reconciler change key own] at found
    exact Or.inl found

/-- Settling a change keeps every applied peer under its own key. -/
theorem keyed_settleChange (reconciler : Reconciler) (change : Change)
    (keyed : Keyed reconciler.applied) :
    Keyed (settleChange report reconciler change).applied := by
  intro key peer found
  rcases applied_settleChange_cases report reconciler change key peer found with
    before | ⟨rfl, wanted⟩
  · exact keyed key peer before
  · cases change with
    | configure other => exact congrArg TunnelPeer.publicKey (Option.some.inj wanted).symm
    | remove removed => cases wanted

/-- Settling a pass keeps every applied peer under its own key. -/
theorem keyed_settle (added : List TunnelPeer) (removed : List PublicKey)
    (reconciler : Reconciler) (keyed : Keyed reconciler.applied) :
    Keyed (settle report added removed reconciler).applied := by
  rw [settle_eq_foldl]
  induction Change.ofPass added removed generalizing reconciler with
  | nil => exact keyed
  | cons change rest inductionHypothesis =>
    exact inductionHypothesis _ (keyed_settleChange report reconciler change keyed)

/-- Settling a pass reads and moves the applied peers and the dirty keys alone. -/
theorem settle_frame (added : List TunnelPeer) (removed : List PublicKey)
    (reconciler other : Reconciler) :
    settle report added removed
        { other with applied := reconciler.applied, dirty := reconciler.dirty } =
      { other with
        applied := (settle report added removed reconciler).applied
        dirty := (settle report added removed reconciler).dirty } := by
  rw [settle_eq_foldl, settle_eq_foldl]
  refine List.foldl_hom (fun settled : Reconciler =>
    { other with applied := settled.applied, dirty := settled.dirty }) ?_
  intro settled change
  cases change with
  | configure peer =>
    simp only [settleChange, settleConfigured]
    split <;> rfl
  | remove key =>
    simp only [settleChange, settleRemoved]
    split <;> rfl

/-- Settling a change moves its own key alone. -/
theorem settleChange_movesOwnKey :
    Change.MovesOwnKey (settleChange report) fun reconciler key =>
      (key ∈ reconciler.dirty, reconciler.applied.get? key) := by
  intro reconciler change key other
  have dirty : key ∈ (settleChange report reconciler change).dirty ↔ key ∈ reconciler.dirty := by
    rw [mem_dirty_settleChange_iff, if_neg other]
  exact Prod.ext (propext dirty) (applied_settleChange_other report reconciler change key other)

/-- After a pass over the difference that reports failures of its changes alone, the dirty keys
are those that failed and every other key is applied as it is desired. -/
theorem settle_difference (reconciler : Reconciler) (desired : Table PublicKey TunnelPeer)
    (keyed : Keyed desired)
    (own : ∀ key, key ∉ (reconciler.difference desired).map Change.key →
      report.failed key = false) (key : PublicKey) :
    let settled := settle report (reconciler.toConfigure desired) (reconciler.toRemove desired)
      reconciler
    (key ∈ settled.dirty ↔ report.failed key = true) ∧
      (report.failed key = false → settled.applied.get? key = desired.get? key) := by
  have folded : settle report (reconciler.toConfigure desired) (reconciler.toRemove desired)
      reconciler = (reconciler.difference desired).foldl (settleChange report) reconciler :=
    settle_eq_foldl report _ _ reconciler
  simp only [folded]
  by_cases changed : key ∈ (reconciler.difference desired).map Change.key
  · obtain ⟨change, member, rfl⟩ := List.mem_map.mp changed
    obtain ⟨before, same⟩ := (settleChange_movesOwnKey report).foldl_self
      (reconciler.difference desired) reconciler (reconciler.difference_nodup desired keyed) change
      member
    obtain ⟨dirty, applied⟩ := Prod.mk.inj same
    constructor
    · rw [dirty, mem_dirty_settleChange_iff, if_pos rfl]
    · intro success
      have wanted := applied_settleChange_self report before change success
      exact (applied.trans wanted).trans
        (reconciler.wanted_of_mem_difference desired keyed change member)
  · obtain ⟨dirty, applied⟩ := Prod.mk.inj ((settleChange_movesOwnKey report).foldl_other
      (reconciler.difference desired) reconciler key changed)
    obtain ⟨clean, asDesired⟩ :=
      reconciler.settled_of_not_mem_difference desired keyed key changed
    have success : report.failed key = false := own key changed
    constructor
    · constructor
      · exact fun stays => absurd ((iff_of_eq dirty).mp stays) clean
      · intro failed
        rw [success] at failed
        cases failed
    · exact fun _ => applied.trans asDesired

end Outcome

end MeshNode.Reconciler
