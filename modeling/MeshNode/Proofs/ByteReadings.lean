import MeshNode.Proofs.ByteStrings

/-!
# Reading strings by position

A reader that looks at a string through positions can miss it: an access that does not lie in
the string ends the reading without a result. A `Reading` keeps every access that was made, so
that what a reader has looked at can be said of the reader itself and not only of its answer.

A slice is a piece of a string that knows where it stands. Accesses to it are checked against
the slice and recorded where they fall in the whole string.

A reading yields a value below a limit if no access misses and none reaches beyond the limit.
Readings that are put together yield what their parts do.
-/

namespace MeshNode.Bytes

/-- What is cut out of the front of a string does not depend on what follows. -/
theorem take_drop_append (front behind : Bytes) (start count : Nat)
    (inside : start + count ≤ front.length) :
    ((front ++ behind).drop start).take count = (front.drop start).take count := by
  rw [List.drop_append_of_le_length (by omega), List.take_append_of_le_length]
  rw [List.length_drop]
  omega

theorem eq_cons_of_four_le (bytes : Bytes) (long : 4 ≤ bytes.length) :
    ∃ first second third fourth rest,
      bytes = first :: second :: third :: fourth :: rest := by
  rcases bytes with _ | ⟨first, _ | ⟨second, _ | ⟨third, _ | ⟨fourth, rest⟩⟩⟩⟩
  case cons.cons.cons.cons => exact ⟨first, second, third, fourth, rest, rfl⟩
  all_goals
    simp only [List.length_cons, List.length_nil] at long
    omega

/-- An access to a string: the place of the first byte, and how many bytes from there on. -/
structure Access where
  start : Nat
  count : Nat
  deriving DecidableEq, Repr

/-- The place behind the last byte of an access. -/
def Access.stop (access : Access) : Nat := access.start + access.count

/-- The accesses of a reader in their order, and its result. An access that misses ends the
reading without one. -/
structure Reading (α : Type) where
  accesses : List Access
  result : Option α

instance : Monad Reading where
  pure value := ⟨[], some value⟩
  bind reading next :=
    match reading.result with
    | none => ⟨reading.accesses, none⟩
    | some value => ⟨reading.accesses ++ (next value).accesses, (next value).result⟩

namespace Reading

variable {α β : Type}

/-- No access misses, none reaches beyond the limit, and this is the result. -/
structure Yields (limit : Nat) (reading : Reading α) (value : α) : Prop where
  result : reading.result = some value
  below : ∀ access ∈ reading.accesses, access.stop ≤ limit

theorem yields_pure (limit : Nat) (value : α) : Yields limit (pure value) value :=
  ⟨rfl, nofun⟩

/-- One reading after another: the second goes on with what the first yields. -/
theorem Yields.bind {limit : Nat} {reading : Reading α} {value : α} {next : α → Reading β}
    {outcome : β} (first : Yields limit reading value)
    (second : Yields limit (next value) outcome) : Yields limit (reading >>= next) outcome := by
  have joined : reading >>= next =
      ⟨reading.accesses ++ (next value).accesses, (next value).result⟩ := by
    change (match reading.result with
      | none => (⟨reading.accesses, none⟩ : Reading β)
      | some value => ⟨reading.accesses ++ (next value).accesses, (next value).result⟩) = _
    rw [first.result]
  rw [joined]
  refine ⟨second.result, ?_⟩
  intro access member
  rcases List.mem_append.mp member with earlier | later
  · exact first.below access earlier
  · exact second.below access later

end Reading

/-- A piece of a string, and where it starts in the whole. -/
structure Slice where
  start : Nat
  bytes : Bytes
  deriving DecidableEq, Repr

namespace Slice

/-- A string as a slice of itself. -/
def whole (bytes : Bytes) : Slice := ⟨0, bytes⟩

/-- Cut out so many bytes from a place of the slice on; they must all lie in it. -/
def piece (slice : Slice) (place count : Nat) : Reading Slice where
  accesses := [⟨slice.start + place, count⟩]
  result :=
    if place + count ≤ slice.bytes.length then
      some ⟨slice.start + place, (slice.bytes.drop place).take count⟩
    else none

/-- A piece of a slice is cut out where the slice has all its bytes. -/
theorem yields_piece (slice : Slice) (place count limit : Nat)
    (inside : place + count ≤ slice.bytes.length)
    (bounded : slice.start + (place + count) ≤ limit) :
    Reading.Yields limit (slice.piece place count)
      ⟨slice.start + place, (slice.bytes.drop place).take count⟩ := by
  constructor
  · exact if_pos inside
  · intro access member
    obtain rfl := List.mem_singleton.mp member
    rwa [Access.stop, Nat.add_assoc]

theorem yields_piece_whole (bytes : Bytes) (start count limit : Nat)
    (inside : start + count ≤ bytes.length) (bounded : start + count ≤ limit) :
    Reading.Yields limit ((whole bytes).piece start count)
      ⟨start, (bytes.drop start).take count⟩ := by
  have piece := (whole bytes).yields_piece start count limit inside
    (by rwa [whole, Nat.zero_add])
  rwa [whole, Nat.zero_add] at piece

end Slice

end MeshNode.Bytes
