import MeshNode.Table

/-!
# Look-up in tables

A table holds each key once, so its entries, its keys and its values are all
decided by the look-up. The lemmas here trade one view for another; everything
that is said about a table elsewhere is said through `get?`.
-/

namespace MeshNode.Table

variable {κ α : Type} [DecidableEq κ]

/-- Among entries with distinct keys the look-up finds exactly the pairs that are there. -/
theorem find?_eq_some_iff (entries : List (κ × α)) (apart : (entries.map Prod.fst).Nodup)
    (key : κ) (value : α) : find? key entries = some value ↔ (key, value) ∈ entries := by
  induction entries with
  | nil => simp [find?]
  | cons entry rest inductionHypothesis =>
    obtain ⟨first, held⟩ := entry
    obtain ⟨fresh, restApart⟩ := List.nodup_cons.mp apart
    by_cases same : first = key
    · subst same
      have absent : (first, value) ∉ rest := fun member =>
        fresh (List.mem_map.mpr ⟨(first, value), member, rfl⟩)
      simp [find?, absent, eq_comm]
    · simp [find?, same, Ne.symm same, inductionHypothesis restApart]

/-- The look-up finds nothing at a key that is not there. -/
theorem find?_eq_none (entries : List (κ × α)) (key : κ) (absent : key ∉ entries.map Prod.fst) :
    find? key entries = none := by
  induction entries with
  | nil => rfl
  | cons entry rest inductionHypothesis =>
    obtain ⟨different, later⟩ := not_or.mp (mt List.mem_cons.mpr absent)
    rw [find?, if_neg (Ne.symm different), inductionHypothesis later]

/-- A key has a value exactly where the pair is an entry. -/
theorem get?_eq_some_iff (table : Table κ α) (key : κ) (value : α) :
    table.get? key = some value ↔ (key, value) ∈ table.entries :=
  find?_eq_some_iff table.entries table.nodup key value

/-- The keys are those that have a value. -/
theorem mem_keys_iff (table : Table κ α) (key : κ) :
    key ∈ table.keys ↔ ∃ value, table.get? key = some value := by
  constructor
  · intro member
    obtain ⟨⟨_, value⟩, entry, rfl⟩ := List.mem_map.mp member
    exact ⟨value, (table.get?_eq_some_iff _ value).mpr entry⟩
  · rintro ⟨value, found⟩
    exact List.mem_map.mpr ⟨(key, value), (table.get?_eq_some_iff key value).mp found, rfl⟩

/-- The values are those that some key has. -/
theorem mem_values_iff (table : Table κ α) (value : α) :
    value ∈ table.values ↔ ∃ key, table.get? key = some value := by
  constructor
  · intro member
    obtain ⟨⟨key, _⟩, entry, rfl⟩ := List.mem_map.mp member
    exact ⟨key, (table.get?_eq_some_iff key _).mpr entry⟩
  · rintro ⟨key, found⟩
    exact List.mem_map.mpr ⟨(key, value), (table.get?_eq_some_iff key value).mp found, rfl⟩

/-- A table contains the keys that have a value. -/
theorem contains_iff (table : Table κ α) (key : κ) :
    table.contains key = true ↔ ∃ value, table.get? key = some value := by
  simp [contains, Option.isSome_iff_exists]

/-- A table lacks the keys that have no value. -/
theorem contains_eq_false_iff (table : Table κ α) (key : κ) :
    table.contains key = false ↔ table.get? key = none := by
  simp [contains]

@[simp] theorem get?_empty (key : κ) : (empty : Table κ α).get? key = none := rfl

/-- Look-up after putting a value at a key. -/
theorem get?_insert (table : Table κ α) (key other : κ) (value : α) :
    (table.insert key value).get? other = if other = key then some value else table.get? other := by
  by_cases same : other = key
  · subst same
    simp
  · rw [if_neg same, get?_insert_other table key other value same]

/-- Look-up after removing a key. -/
theorem get?_erase (table : Table κ α) (key other : κ) :
    (table.erase key).get? other = if other = key then none else table.get? other := by
  by_cases same : other = key
  · subst same
    simp
  · rw [if_neg same, get?_erase_other table key other same]

/-- Look-up after keeping the entries that pass a test. -/
theorem get?_filter_eq_some_iff (table : Table κ α) (test : κ → α → Bool) (key : κ) (value : α) :
    (table.filter test).get? key = some value ↔
      table.get? key = some value ∧ test key value = true := by
  rw [get?_eq_some_iff, get?_eq_some_iff, filter, List.mem_filter]

/-- A filter that every entry passes changes nothing. -/
theorem filter_eq_self (table : Table κ α) (test : κ → α → Bool)
    (passes : ∀ key value, table.get? key = some value → test key value = true) :
    table.filter test = table := by
  obtain ⟨entries, apart⟩ := table
  simp only [filter, mk.injEq]
  rw [List.filter_eq_self]
  intro entry member
  exact passes entry.1 entry.2 ((find?_eq_some_iff entries apart entry.1 entry.2).mpr member)

end MeshNode.Table
