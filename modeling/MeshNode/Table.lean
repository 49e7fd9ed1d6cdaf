/-!
# Tables

A finite map as the list of its entries in the order of first insertion, each key
once. Replacing the value of a key keeps its place. What a table means is its
look-up; the order only decides how it is listed.
-/

namespace MeshNode

/-- A finite map that remembers the order of its keys. -/
structure Table (κ α : Type) where
  entries : List (κ × α) := []
  nodup : (entries.map Prod.fst).Nodup := by simp
  deriving DecidableEq, Repr

namespace Table

variable {κ α : Type}

/-- No entries. -/
def empty : Table κ α := ⟨[], by simp⟩

instance : Inhabited (Table κ α) := ⟨empty⟩
instance : EmptyCollection (Table κ α) := ⟨empty⟩

/-- The keys in their order. -/
def keys (table : Table κ α) : List κ := table.entries.map Prod.fst

/-- The values in the order of their keys. -/
def values (table : Table κ α) : List α := table.entries.map Prod.snd

/-- The number of keys. -/
def size (table : Table κ α) : Nat := table.entries.length

/-- Keep the entries that pass a test. -/
def filter (test : κ → α → Bool) (table : Table κ α) : Table κ α :=
  ⟨table.entries.filter fun entry => test entry.1 entry.2,
    (table.nodup.sublist (List.filter_sublist.map Prod.fst))⟩

variable [DecidableEq κ]

/-- The value at a key among entries. -/
def find? (key : κ) : List (κ × α) → Option α
  | [] => none
  | (other, value) :: rest => if other = key then some value else find? key rest

/-- The value at a key. -/
def get? (table : Table κ α) (key : κ) : Option α := find? key table.entries

/-- Whether a key has a value. -/
def contains (table : Table κ α) (key : κ) : Bool := (table.get? key).isSome

/-- Put a value at a key among entries. -/
def place (key : κ) (value : α) : List (κ × α) → List (κ × α)
  | [] => [(key, value)]
  | (other, old) :: rest =>
    if other = key then (key, value) :: rest else (other, old) :: place key value rest

/-- Placing a value adds its key and no other. -/
theorem mem_keys_place (key other : κ) (value : α) (entries : List (κ × α)) :
    other ∈ (place key value entries).map Prod.fst ↔
      other = key ∨ other ∈ entries.map Prod.fst := by
  induction entries with
  | nil => simp [place]
  | cons entry rest inductionHypothesis =>
    obtain ⟨first, old⟩ := entry
    by_cases same : first = key
    · simp [place, same]
    · simp only [place, if_neg same, List.map_cons, List.mem_cons, inductionHypothesis]
      constructor
      · rintro (first | second | third)
        · exact Or.inr (Or.inl first)
        · exact Or.inl second
        · exact Or.inr (Or.inr third)
      · rintro (first | second | third)
        · exact Or.inr (Or.inl first)
        · exact Or.inl second
        · exact Or.inr (Or.inr third)

/-- Placing a value keeps the keys apart. -/
theorem nodup_place (key : κ) (value : α) (entries : List (κ × α))
    (apart : (entries.map Prod.fst).Nodup) : ((place key value entries).map Prod.fst).Nodup := by
  induction entries with
  | nil => simp [place]
  | cons entry rest inductionHypothesis =>
    obtain ⟨first, old⟩ := entry
    simp only [List.map_cons, List.nodup_cons] at apart
    by_cases same : first = key
    · subst same
      simpa [place] using apart
    · simp only [place, if_neg same, List.map_cons, List.nodup_cons, mem_keys_place, not_or]
      exact ⟨⟨same, apart.1⟩, inductionHypothesis apart.2⟩

/-- Put a value at a key; a new key goes behind the others. -/
def insert (table : Table κ α) (key : κ) (value : α) : Table κ α :=
  ⟨place key value table.entries, nodup_place key value table.entries table.nodup⟩

/-- Remove a key. -/
def erase (table : Table κ α) (key : κ) : Table κ α := table.filter fun other _ => other ≠ key

/-- A table of pairs; of pairs with one key the last counts. -/
def ofList (pairs : List (κ × α)) : Table κ α :=
  pairs.foldl (fun table pair => table.insert pair.1 pair.2) empty

theorem find?_place_self (key : κ) (value : α) (entries : List (κ × α)) :
    find? key (place key value entries) = some value := by
  induction entries with
  | nil => simp [place, find?]
  | cons entry rest inductionHypothesis =>
    by_cases same : entry.1 = key <;> simp [place, find?, same, inductionHypothesis]

theorem find?_place_other (key other : κ) (value : α) (entries : List (κ × α))
    (different : other ≠ key) : find? other (place key value entries) = find? other entries := by
  induction entries with
  | nil => simp [place, find?, Ne.symm different]
  | cons entry rest inductionHypothesis =>
    by_cases same : entry.1 = key
    · simp [place, find?, same, Ne.symm different]
    · simp [place, find?, same, inductionHypothesis]

/-- What was put at a key is found there. -/
@[simp] theorem get?_insert_self (table : Table κ α) (key : κ) (value : α) :
    (table.insert key value).get? key = some value := find?_place_self key value table.entries

/-- Putting a value at a key changes no other key. -/
theorem get?_insert_other (table : Table κ α) (key other : κ) (value : α)
    (different : other ≠ key) :
    (table.insert key value).get? other = table.get? other :=
  find?_place_other key other value table.entries different

theorem find?_filter (test : κ → Bool) (key : κ) (entries : List (κ × α)) :
    find? key (entries.filter fun entry => test entry.1) =
      if test key then find? key entries else none := by
  induction entries with
  | nil => simp [find?]
  | cons entry rest inductionHypothesis =>
    by_cases same : entry.1 = key
    · by_cases kept : test key
      · simp [find?, same, kept]
      · simp [same, kept, inductionHypothesis]
    · by_cases kept : test entry.1 <;> simp [find?, same, kept, inductionHypothesis]

/-- A removed key has no value. -/
@[simp] theorem get?_erase_self (table : Table κ α) (key : κ) :
    (table.erase key).get? key = none := by
  have filtered := find?_filter (fun other => decide (other ≠ key)) key table.entries
  simpa [get?, erase, filter] using filtered

/-- Removing a key changes no other key. -/
theorem get?_erase_other (table : Table κ α) (key other : κ) (different : other ≠ key) :
    (table.erase key).get? other = table.get? other := by
  have filtered := find?_filter (fun other => decide (other ≠ key)) other table.entries
  simpa [get?, erase, filter, different] using filtered

end Table

end MeshNode
