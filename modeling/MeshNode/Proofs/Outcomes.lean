/-!
# Steps that may fail

A value or the reason why there is none, and steps that go on with what the one before them gave.
Such a sequence gives a value exactly if each of its steps does.
-/

namespace MeshNode.Outcome

variable {ε α β : Type}

/-- Two steps give a value if the first does, and the second does with it. -/
theorem bind_eq_ok_iff (first : Except ε α) (next : α → Except ε β) (value : β) :
    first >>= next = .ok value ↔ ∃ middle, first = .ok middle ∧ next middle = .ok value := by
  cases first with
  | error reason => exact ⟨nofun, by rintro ⟨_, ⟨⟩, _⟩⟩
  | ok middle =>
    constructor
    · exact fun given => ⟨middle, rfl, given⟩
    · rintro ⟨_, ⟨⟩, given⟩
      exact given

/-- A value that is changed was given before. -/
theorem map_eq_ok_iff (first : Except ε α) (change : α → β) (value : β) :
    first.map change = .ok value ↔ ∃ middle, first = .ok middle ∧ change middle = value := by
  cases first <;> simp [Except.map]

/-- Changing the value changes no reason. -/
theorem map_eq_error_iff (first : Except ε α) (change : α → β) (reason : ε) :
    first.map change = .error reason ↔ first = .error reason := by
  cases first <;> simp [Except.map]

end MeshNode.Outcome
