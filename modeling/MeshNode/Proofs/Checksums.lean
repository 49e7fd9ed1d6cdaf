import Mathlib.Data.Nat.Init
import Mathlib.Logic.Function.Iterate
import MeshNode.Echo
import MeshNode.Proofs.ByteStrings

/-!
# Checksums

In one's complement a carry out of the sixteen bits goes back in at the low end, so a sum is
known by its remainder modulo 65535; zero alone has two forms, and a sum is the one without bits
only if every word of it is. The sum of a message is taken in 32 bits without looking at carries,
and all of them are folded in at the end.

The main statement says that this comes to the same: up to 131074 bytes no addition overflows,
two rounds end the folding, and the checksum is the complement of the one's-complement sum of the
words. The bound is exact, because 65537 words of all ones fill the 32 bits. A message that
carries its own checksum adds up to all ones, even if all else in it is zero, and its checksum is
therefore zero.
-/

namespace MeshNode.Echo

/-! ## One's-complement sums -/

/-- The sixteen-bit words of a byte string; an odd last byte is the high byte of a word. -/
def words : Bytes → List UInt16
  | high :: low :: rest => UInt16.ofNat (Bytes.word high low) :: words rest
  | [high] => [UInt16.ofNat (Bytes.word high 0)]
  | [] => []

/-- Addition in one's complement: a carry goes back in at the low end. -/
def addAround (a b : UInt16) : UInt16 :=
  if a.toNat + b.toNat < 65536 then a + b else a + b + 1

/-- The one's-complement sum of the words of a byte string. -/
def complementSum (bytes : Bytes) : UInt16 := (words bytes).foldl addAround 0

/-- The sum of the words of a byte string as a number. -/
def total (bytes : Bytes) : Nat := (words bytes).foldr (fun word sum => word.toNat + sum) 0

/-- The number of sixteen bits that a sum comes to: zero stays zero, and any other is taken to its
remainder modulo 65535, from one on. -/
def remainder (n : Nat) : Nat := if n = 0 then 0 else (n - 1) % 65535 + 1

theorem remainder_lt (n : Nat) : remainder n < 65536 := by
  unfold remainder
  split <;> omega

theorem remainder_of_lt (n : Nat) (small : n < 65536) : remainder n = n := by
  unfold remainder
  split <;> omega

/-- A carry may be taken in at once or later. -/
theorem remainder_add (n m : Nat) : remainder (remainder n + m) = remainder (n + m) := by
  unfold remainder
  split <;> split <;> split <;> omega

theorem toNat_addAround (a b : UInt16) : (addAround a b).toNat = remainder (a.toNat + b.toNat) := by
  have left : a.toNat < 65536 := a.toNat_lt
  have right : b.toNat < 65536 := b.toNat_lt
  unfold addAround
  split
  · rename_i small
    rw [remainder_of_lt _ small, UInt16.toNat_add, Nat.mod_eq_of_lt small]
  · rename_i large
    rw [UInt16.toNat_add, UInt16.toNat_add, remainder]
    simp only [UInt16.reduceToNat, Nat.reducePow]
    split <;> omega

theorem toNat_complementSum (bytes : Bytes) :
    (complementSum bytes).toNat = remainder (total bytes) := by
  have summed (list : List UInt16) (start : UInt16) : (list.foldl addAround start).toNat =
      remainder (start.toNat + list.foldr (fun word sum => word.toNat + sum) 0) := by
    induction list generalizing start with
    | nil => exact (remainder_of_lt _ start.toNat_lt).symm
    | cons word rest inductionHypothesis =>
      rw [List.foldl_cons, inductionHypothesis, toNat_addAround, remainder_add, List.foldr_cons,
        Nat.add_assoc]
  rw [complementSum, summed, total, UInt16.toNat_zero, Nat.zero_add]

/-! ## The accumulator -/

/-- No addition of a sum of words, from a given number on, leaves the 32 bits. -/
def NeverOverflows (sum : UInt32) : Bytes → Prop
  | high :: low :: rest =>
    sum.toNat + Bytes.word high low < 4294967296 ∧
      NeverOverflows (sum + UInt32.ofNat (Bytes.word high low)) rest
  | [high] => sum.toNat + Bytes.word high 0 < 4294967296
  | [] => True

theorem word_lt (high low : UInt8) : Bytes.word high low < 65536 := by
  have left : high.toNat < 256 := high.toNat_lt
  have right : low.toNat < 256 := low.toNat_lt
  unfold Bytes.word
  omega

theorem toNat_ofNat_word (high low : UInt8) :
    (UInt16.ofNat (Bytes.word high low)).toNat = Bytes.word high low := by
  rw [UInt16.toNat_ofNat', Nat.mod_eq_of_lt (word_lt high low)]

@[simp] theorem total_nil : total [] = 0 := rfl

@[simp] theorem total_single (high : UInt8) : total [high] = Bytes.word high 0 := by
  rw [total, words, List.foldr_cons, List.foldr_nil, toNat_ofNat_word, Nat.add_zero]

@[simp] theorem total_cons_cons (high low : UInt8) (rest : Bytes) :
    total (high :: low :: rest) = Bytes.word high low + total rest := by
  rw [total, words, List.foldr_cons, toNat_ofNat_word, total]

/-- Adding a word to a sum that stays within the 32 bits is exact. -/
theorem toNat_add_word (sum : UInt32) (high low : UInt8)
    (within : sum.toNat + Bytes.word high low < 4294967296) :
    (sum + UInt32.ofNat (Bytes.word high low)).toNat = sum.toNat + Bytes.word high low := by
  have small : Bytes.word high low < 4294967296 := by omega
  rw [UInt32.toNat_add, UInt32.toNat_ofNat', Nat.mod_eq_of_lt small, Nat.mod_eq_of_lt within]

/-- The additions stay within the 32 bits exactly if the whole sum does. -/
theorem neverOverflows_iff (sum : UInt32) (bytes : Bytes) :
    NeverOverflows sum bytes ↔ sum.toNat + total bytes < 4294967296 := by
  induction bytes using words.induct generalizing sum with
  | case1 high low rest inductionHypothesis =>
    rw [NeverOverflows, inductionHypothesis, total_cons_cons]
    constructor
    · rintro ⟨now, later⟩
      rw [toNat_add_word sum high low now] at later
      omega
    · intro all
      have now : sum.toNat + Bytes.word high low < 4294967296 := by omega
      rw [toNat_add_word sum high low now]
      exact ⟨now, by omega⟩
  | case2 high => rw [NeverOverflows, total_single]
  | case3 =>
    have inside : sum.toNat < 4294967296 := sum.toNat_lt
    simp [NeverOverflows, inside]

/-- A sum that stays within the 32 bits is exact. -/
theorem toNat_wordSum (sum : UInt32) (bytes : Bytes) (within : NeverOverflows sum bytes) :
    (wordSum sum bytes).toNat = sum.toNat + total bytes := by
  induction bytes using words.induct generalizing sum with
  | case1 high low rest inductionHypothesis =>
    obtain ⟨now, later⟩ := within
    rw [wordSum, inductionHypothesis _ later, toNat_add_word sum high low now, total_cons_cons,
      Nat.add_assoc]
  | case2 high =>
    rw [wordSum, toNat_add_word sum high 0 within, total_single]
  | case3 => rfl

/-- A string of `n` bytes has half as many words, rounded up, each below 65536. -/
theorem total_le (bytes : Bytes) : total bytes ≤ 65535 * ((bytes.length + 1) / 2) := by
  induction bytes using words.induct with
  | case1 high low rest inductionHypothesis =>
    have small := word_lt high low
    have halves : ((high :: low :: rest).length + 1) / 2 = (rest.length + 1) / 2 + 1 := by
      simp only [List.length_cons]
      omega
    rw [total_cons_cons, halves]
    omega
  | case2 high =>
    have small := word_lt high 0
    simp only [total_single, List.length_singleton]
    omega
  | case3 => exact Nat.zero_le _

theorem neverOverflows_of_length (bytes : Bytes) (short : bytes.length ≤ 131074) :
    NeverOverflows 0 bytes := by
  have bound := total_le bytes
  rw [neverOverflows_iff, UInt32.toNat_zero]
  omega

/-- The words of ones only. -/
theorem total_ones (count : Nat) :
    total (List.replicate count 0xff) = 65535 * (count / 2) + 65280 * (count % 2) := by
  induction count using Nat.twoStepInduction with
  | zero => rfl
  | one => rfl
  | more count inductionHypothesis _ =>
    rw [List.replicate_succ, List.replicate_succ, total_cons_cons, inductionHypothesis]
    have ones : Bytes.word 0xff 0xff = 65535 := rfl
    omega

/-- The bound on the length is exact: one more byte of ones leaves the 32 bits. -/
theorem neverOverflows_ones_iff (count : Nat) :
    NeverOverflows 0 (List.replicate count 0xff) ↔ count ≤ 131074 := by
  rw [neverOverflows_iff, total_ones, UInt32.toNat_zero]
  omega

/-! ## Folding the carries -/

/-- One round of folding: what is above the low sixteen bits is added to them. -/
def foldRound (sum : Nat) : Nat := sum % 65536 + sum / 65536

theorem remainder_foldRound (sum : Nat) : remainder (foldRound sum) = remainder sum := by
  unfold remainder foldRound
  split <;> split <;> omega

/-- What folding ends with. -/
theorem foldCarries_eq (sum : Nat) : foldCarries sum = remainder sum := by
  induction sum using foldCarries.induct with
  | case1 sum done => rw [foldCarries, if_pos done, remainder_of_lt sum done]
  | case2 sum carries inductionHypothesis =>
    rw [foldCarries, if_neg carries, inductionHypothesis]
    exact remainder_foldRound sum

/-- Folding a sum of 32 bits takes the rounds until no carry is left, and these are two at most. -/
theorem foldCarries_rounds (sum : Nat) (bounded : sum < 4294967296) :
    ∃ rounds ≤ 2, foldCarries sum = foldRound^[rounds] sum ∧ foldRound^[rounds] sum < 65536 ∧
      ∀ earlier < rounds, 65536 ≤ foldRound^[earlier] sum := by
  by_cases none : sum < 65536
  · refine ⟨0, by omega, ?_, none, by simp⟩
    rw [foldCarries, if_pos none]
    rfl
  · have once : foldCarries sum = foldCarries (foldRound sum) := by
      rw [foldCarries, if_neg none]
      rfl
    by_cases one : foldRound sum < 65536
    · refine ⟨1, by omega, ?_, one, ?_⟩
      · rw [once, foldCarries, if_pos one]
        rfl
      · intro earlier before
        obtain rfl : earlier = 0 := by omega
        exact Nat.le_of_not_lt none
    · have two : foldRound (foldRound sum) < 65536 := by
        unfold foldRound at one ⊢
        omega
      have twice : foldCarries (foldRound sum) = foldRound (foldRound sum) := by
        rw [foldCarries, if_neg one]
        exact (foldCarries.eq_1 _).trans (if_pos two)
      refine ⟨2, Nat.le_refl 2, once.trans twice, two, ?_⟩
      intro earlier before
      obtain rfl | rfl : earlier = 0 ∨ earlier = 1 := by omega
      · exact Nat.le_of_not_lt none
      · exact Nat.le_of_not_lt one

/-! ## The checksum -/

theorem toNat_not (n : UInt16) : (~~~n).toNat = 65535 - n.toNat := by
  have bound : n.toNat < 65536 := n.toNat_lt
  simp [UInt16.toNat_not]

theorem checksum_eq (bytes : Bytes) (within : NeverOverflows 0 bytes) :
    checksum bytes = ~~~complementSum bytes := by
  have folded : UInt16.ofNat (foldCarries (wordSum 0 bytes).toNat) = complementSum bytes := by
    rw [← UInt16.toNat_inj, UInt16.toNat_ofNat', toNat_wordSum 0 bytes within, foldCarries_eq,
      toNat_complementSum, UInt32.toNat_zero, Nat.zero_add]
    exact Nat.mod_eq_of_lt (remainder_lt _)
  rw [checksum, folded]

/-- The words of a string that is put behind one of even length. -/
theorem total_append (front behind : Bytes) (even : front.length % 2 = 0) :
    total (front ++ behind) = total front + total behind := by
  induction front using words.induct with
  | case1 high low rest inductionHypothesis =>
    have evenRest : rest.length % 2 = 0 := by
      simp only [List.length_cons] at even
      omega
    rw [List.cons_append, List.cons_append, total_cons_cons, total_cons_cons,
      inductionHypothesis evenRest, Nat.add_assoc]
  | case2 high => cases even
  | case3 => simp

@[simp] theorem length_checksumField (sum : UInt16) : (checksumField sum).length = 2 := rfl

@[simp] theorem total_checksumField (sum : UInt16) : total (checksumField sum) = sum.toNat := by
  rw [checksumField, Bytes.ofWord, total_cons_cons, total_nil,
    Bytes.word_ofWord sum.toNat sum.toNat_lt, Nat.add_zero]

/-- A string that holds its own checksum, taken while the field was zero, adds up to all ones. -/
theorem complementSum_of_filled (front behind : Bytes) (even : front.length % 2 = 0)
    (short : (front ++ checksumField 0 ++ behind).length ≤ 131074) :
    complementSum
      (front ++ checksumField (checksum (front ++ checksumField 0 ++ behind)) ++ behind) =
        0xFFFF := by
  have summed (sum : UInt16) : total (front ++ checksumField sum ++ behind) =
      total front + sum.toNat + total behind := by
    rw [List.append_assoc, total_append _ _ even, total_append _ _ (by simp), total_checksumField,
      Nat.add_assoc]
  have blank := checksum_eq _ (neverOverflows_of_length _ short)
  -- What the field adds takes the sum to a multiple of 65535 that is not zero.
  have allOnes (n : Nat) : remainder (n + (65535 - remainder n)) = 65535 := by
    unfold remainder
    split <;> split <;> omega
  have zeroField : (0 : UInt16).toNat = 0 := rfl
  rw [← UInt16.toNat_inj, toNat_complementSum, summed, blank, toNat_not, toNat_complementSum,
    summed, zeroField, Nat.add_zero, Nat.add_right_comm, allOnes]
  rfl

/-- So its checksum is zero. -/
theorem checksum_of_filled (front behind : Bytes) (even : front.length % 2 = 0)
    (short : (front ++ checksumField 0 ++ behind).length ≤ 131074) :
    checksum (front ++ checksumField (checksum (front ++ checksumField 0 ++ behind)) ++ behind) =
      0 := by
  rw [checksum_eq _ (neverOverflows_of_length _ (by simpa using short)),
    complementSum_of_filled front behind even short]
  rfl

/-- The bytes of a message that carries a checksum: what stands before the field, the field, and
what stands behind it. -/
theorem encode_of_hasChecksum (echo : Echo) (carries : hasChecksum echo.kind = true) :
    echo.encode = [echo.kind, 0] ++
      checksumField (checksum ([echo.kind, 0] ++ checksumField 0 ++ echo.afterChecksum)) ++
        echo.afterChecksum := by
  rw [encode, if_pos carries]
  rfl

@[simp] theorem length_afterChecksum (echo : Echo) :
    echo.afterChecksum.length = echo.payload.length + 4 := by
  simp [afterChecksum, Bytes.ofWord]

/-- For up to 131074 bytes the additions stay within the 32 bits, two rounds of folding are enough,
and the checksum is the complement of the one's-complement sum. A message of version four that
was built with its checksum has the checksum zero. -/
theorem checksum_complements :
    (∀ bytes : Bytes, bytes.length ≤ 131074 →
      NeverOverflows 0 bytes ∧
      (∃ rounds ≤ 2, let sum := (wordSum 0 bytes).toNat
        foldCarries sum = foldRound^[rounds] sum ∧ foldRound^[rounds] sum < 65536 ∧
          ∀ earlier < rounds, 65536 ≤ foldRound^[earlier] sum) ∧
      checksum bytes = ~~~complementSum bytes) ∧
    ∀ echo : Echo, echo.kind = replyV4 ∨ echo.kind = requestV4 →
      echo.payload.length ≤ 131066 → checksum echo.encode = 0 := by
  constructor
  · intro bytes short
    have within : NeverOverflows 0 bytes := neverOverflows_of_length bytes short
    exact ⟨within, foldCarries_rounds _ (UInt32.toNat_lt _), checksum_eq bytes within⟩
  · intro echo kind short
    have carries : hasChecksum echo.kind = true := by
      rcases kind with kind | kind <;> rw [kind] <;> rfl
    rw [encode_of_hasChecksum echo carries]
    apply checksum_of_filled _ _ (by simp)
    simp only [List.length_append, length_checksumField, length_afterChecksum, List.length_cons,
      List.length_nil]
    omega

/-- An odd string whose sum has a carry, and the reply that is zero but for its checksum. -/
theorem checksum_complements_samples :
    checksum [0xff, 0xff, 0x01] = ~~~complementSum [0xff, 0xff, 0x01] ∧
      complementSum [0xff, 0xff, 0x01] = 0x0100 ∧
      encode ⟨replyV4, 0, 0, []⟩ = [0, 0, 0xff, 0xff, 0, 0, 0, 0] ∧
      checksum (encode ⟨replyV4, 0, 0, []⟩) = 0 := by
  refine ⟨?_, by decide, by decide +kernel, ?_⟩
  · exact (checksum_complements.1 [0xff, 0xff, 0x01] (by decide)).2.2
  · exact checksum_complements.2 ⟨replyV4, 0, 0, []⟩ (Or.inl rfl) (by decide)

end MeshNode.Echo
