import Mathlib.Data.List.Induction
import MeshNode.Bytes

/-!
# Numbers and pieces of octet strings

Writing a number with a fixed count of bytes and reading bytes as a number undo each other:
bytes that were read are written back as they were, and a number that was written is read
back modulo the power of 256 that the bytes can tell apart. A piece of a string is cut out
where it was put in.
-/

namespace MeshNode.Bytes

@[simp] theorem length_ofNat (count n : Nat) : (ofNat count n).length = count := by
  induction count generalizing n with
  | zero => rfl
  | succ count inductionHypothesis => simp [ofNat, inductionHypothesis]

theorem toNat_append_singleton (bytes : Bytes) (last : UInt8) :
    toNat (bytes ++ [last]) = 256 * toNat bytes + last.toNat := by
  simp [toNat, List.foldl_append]

/-- A number that was written is read back modulo what its bytes can tell apart. -/
theorem toNat_ofNat (count n : Nat) : toNat (ofNat count n) = n % Nat.pow 256 count := by
  induction count generalizing n with
  | zero => simp [ofNat, toNat, Nat.mod_one]
  | succ count inductionHypothesis =>
    have low : (UInt8.ofNat n).toNat = n % 256 := UInt8.toNat_ofNat'
    have raised : Nat.pow 256 (count + 1) = 256 * Nat.pow 256 count := Nat.mul_comm _ _
    rw [ofNat, toNat_append_singleton, inductionHypothesis, low, raised, Nat.mod_mul]
    omega

/-- Bytes that were read are written back. -/
theorem ofNat_toNat (bytes : Bytes) : ofNat bytes.length (toNat bytes) = bytes := by
  induction bytes using List.reverseRecOn with
  | nil => rfl
  | append_singleton front last inductionHypothesis =>
    have bounded : last.toNat < 256 := last.toNat_lt
    have high : (256 * toNat front + last.toNat) / 256 = toNat front := by omega
    have low : UInt8.ofNat (256 * toNat front + last.toNat) = last := by
      rw [← UInt8.toNat_inj, UInt8.toNat_ofNat']
      omega
    rw [List.length_append, List.length_singleton, toNat_append_singleton, ofNat, high, low,
      inductionHypothesis]

/-- Byte strings of one length that write one number are one. -/
theorem toNat_inj {one other : Bytes} (length : one.length = other.length) :
    toNat one = toNat other ↔ one = other := by
  refine ⟨fun same => ?_, congrArg toNat⟩
  rw [← ofNat_toNat one, ← ofNat_toNat other, length, same]

/-- A byte of a number that was written. -/
theorem getElem?_ofNat (count n place : Nat) (inside : place < count) :
    (ofNat count n)[place]? = some (UInt8.ofNat (n >>> (8 * (count - 1 - place)))) := by
  induction count generalizing n with
  | zero => cases inside
  | succ count inductionHypothesis =>
    by_cases last : place = count
    · subst last
      have behind : (ofNat place (n / 256)).length = place := length_ofNat _ _
      rw [ofNat, List.getElem?_append_right (Nat.le_of_eq behind), behind]
      simp
    · have earlier : place < count := by omega
      have further : 8 * (count + 1 - 1 - place) = 8 + 8 * (count - 1 - place) := by omega
      have shifted : n / 256 = n >>> 8 := (Nat.shiftRight_eq_div_pow n 8).symm
      rw [ofNat, List.getElem?_append_left (by rwa [length_ofNat]),
        inductionHypothesis (n / 256) earlier, shifted, further, Nat.shiftRight_add]

theorem toNat_lt (bytes : Bytes) : toNat bytes < Nat.pow 256 bytes.length := by
  have same := toNat_ofNat bytes.length (toNat bytes)
  rw [ofNat_toNat] at same
  rw [same]
  exact Nat.mod_lt _ (Nat.pow_pos (by decide))

theorem ofWord_eq_ofNat (n : Nat) : ofWord n = ofNat 2 n := rfl

/-- A word is read back from its two bytes. -/
theorem toNat_ofWord (n : Nat) (bounded : n < 65536) : toNat (ofWord n) = n := by
  rw [ofWord_eq_ofNat, toNat_ofNat, Nat.mod_eq_of_lt bounded]

theorem word_ofWord (n : Nat) (bounded : n < 65536) :
    word (UInt8.ofNat (n / 256)) (UInt8.ofNat n) = n := by
  have read := toNat_ofWord n bounded
  simpa [ofWord, toNat, word] using read

theorem toList_loop (bytes : ByteArray) (place : Nat) (front : Bytes) :
    ByteArray.toList.loop bytes place front = front.reverse ++ bytes.data.toList.drop place := by
  fun_induction ByteArray.toList.loop bytes place front with
  | case1 place front inside inductionHypothesis =>
    have within : place < bytes.data.toList.length := inside
    have here : bytes.get! place = bytes.data.toList[place] := getElem!_pos bytes.data place inside
    rw [inductionHypothesis, List.drop_eq_getElem_cons within, here]
    simp
  | case2 place front outside =>
    have behind : bytes.data.toList.length ≤ place := by simpa using outside
    simp [List.drop_of_length_le behind]

theorem ofText_eq (s : String) : ofText s = s.toByteArray.data.toList := by
  simp [ofText, String.toUTF8, ByteArray.toList, toList_loop]

/-- A text is known by its encoding. -/
theorem ofText_inj (s t : String) : ofText s = ofText t ↔ s = t := by
  rw [ofText_eq, ofText_eq, Array.toList_inj, ← String.toByteArray_inj]
  exact ⟨ByteArray.ext, congrArg ByteArray.data⟩

/-- The first 128 characters are encoded by their codes. -/
theorem ofText_ofList (cs : List Char) (small : ∀ c ∈ cs, c.toNat < 128) :
    ofText (String.ofList cs) = cs.map fun c => UInt8.ofNat c.toNat := by
  have flat : cs.flatMap String.utf8EncodeChar = cs.map fun c => UInt8.ofNat c.toNat := by
    induction cs with
    | nil => rfl
    | cons c rest inductionHypothesis =>
      have single : String.utf8EncodeChar c = [UInt8.ofNat c.toNat] :=
        if_pos (Nat.le_of_lt_succ (small c List.mem_cons_self))
      rw [List.flatMap_cons, single, inductionHypothesis fun other member =>
        small other (List.mem_cons_of_mem c member)]
      rfl
  simp [ofText_eq, List.utf8Encode, flat]

/-- A piece of a string is found behind what comes before it. -/
theorem slice?_of_split (bytes before piece behind : Bytes) (start count : Nat)
    (split : bytes = before ++ (piece ++ behind)) (starts : before.length = start)
    (counts : piece.length = count) : slice? bytes start count = some piece := by
  subst split starts counts
  simp [slice?]

end MeshNode.Bytes
