import Mathlib.Data.List.Basic

/-!
# Histories

A history is a list of events, the oldest first, and what is said about one event of it
is said about a split: what came before, the event, and what came after. A history
grows at its end. A split of the longer history is at the new event, or it is a split
of the shorter one whose rest has grown.
-/

namespace MeshNode

variable {α : Type}

/-- The splits of a history that has grown by one event. -/
theorem append_singleton_eq_split_iff (history past rest : List α) (last event : α) :
    history ++ [last] = past ++ event :: rest ↔
      (past = history ∧ event = last ∧ rest = []) ∨
        ∃ between, rest = between ++ [last] ∧ history = past ++ event :: between := by
  constructor
  · intro split
    rcases List.eq_nil_or_concat rest with rfl | ⟨between, final, rfl⟩
    · obtain ⟨same, ends⟩ := List.append_inj' split rfl
      exact Or.inl ⟨same.symm, (List.head_eq_of_cons_eq ends).symm, rfl⟩
    · have regrouped : history ++ [last] = (past ++ event :: between) ++ [final] := by
        rw [split, List.append_assoc, List.cons_append, List.concat_eq_append]
      obtain ⟨same, ends⟩ := List.append_inj' regrouped rfl
      obtain rfl := List.head_eq_of_cons_eq ends
      exact Or.inr ⟨between, List.concat_eq_append, same⟩
  · rintro (⟨rfl, rfl, rfl⟩ | ⟨between, rfl, rfl⟩)
    · rfl
    · simp

/-- Something holds at a point of a history that has grown by one event: at that event, or at a
point of the shorter history with the event among what comes after. -/
theorem exists_split_append_iff (history : List α) (last : α)
    (holds : List α → α → List α → Prop) :
    (∃ past event rest, history ++ [last] = past ++ event :: rest ∧ holds past event rest) ↔
      holds history last [] ∨
        ∃ past event rest, history = past ++ event :: rest ∧
          holds past event (rest ++ [last]) := by
  simp only [append_singleton_eq_split_iff]
  constructor
  · rintro ⟨past, event, rest, ⟨rfl, rfl, rfl⟩ | ⟨between, rfl, split⟩, here⟩
    · exact Or.inl here
    · exact Or.inr ⟨past, event, between, split, here⟩
  · rintro (here | ⟨past, event, between, split, here⟩)
    · exact ⟨history, last, [], Or.inl ⟨rfl, rfl, rfl⟩, here⟩
    · exact ⟨past, event, _, Or.inr ⟨between, rfl, split⟩, here⟩

end MeshNode
