import Mathlib.Data.List.OfFn
import MeshNode.Key
import MeshNode.Proofs.Base64Texts
import MeshNode.Proofs.Numerals
import MeshNode.Uuid

/-!
# The texts of keys and identifiers

A key is read back because its text, of thirty-two bytes, ends in `=` and has no blanks that would
be trimmed. An identifier is read back from its hyphenated text.
-/

namespace MeshNode

namespace Text

theorem trimLeft_of_visible (cs : List Char) (visible : ∀ c ∈ cs, isBlank c = false) :
    trimLeft cs = cs := by
  cases cs with
  | nil => rfl
  | cons c rest => simp [trimLeft, visible c List.mem_cons_self]

/-- Where no blanks are, none are dropped. -/
theorem trim_of_visible (cs : List Char) (visible : ∀ c ∈ cs, isBlank c = false) :
    trim cs = cs := by
  have reversed : ∀ c ∈ cs.reverse, isBlank c = false :=
    fun c member => visible c (List.mem_reverse.mp member)
  rw [trim, trimRight, trimLeft_of_visible cs visible, trimLeft_of_visible _ reversed,
    List.reverse_reverse]

end Text

namespace KeyBytes

/-- The mode that a text asks for by its end reads whatever either of the modes reads. -/
theorem decode_paddingOf_iff (cs : List Char) (bytes : Bytes) :
    Base64.decode (paddingOf cs) (String.ofList cs) = .ok bytes ↔
      ∃ padding, cs = Base64.spelling padding bytes := by
  rw [Base64.decode_eq_ok_iff]
  constructor
  · exact fun spelled => ⟨_, spelled⟩
  · rintro ⟨padding, spelled⟩
    by_cases ends : cs.getLast? = some '='
    · rw [paddingOf, if_pos ends]
      cases padding with
      | required => exact spelled
      | forbidden =>
        rw [spelled] at ends
        exact absurd (List.mem_of_getLast? ends) (Base64.equals_not_mem bytes)
    · rw [paddingOf, if_neg ends]
      cases padding with
      | forbidden => exact spelled
      | required =>
        rw [Base64.spelling_required] at spelled
        have unpadded : (3 - bytes.length % 3) % 3 = 0 := by
          by_contra padded
          rw [spelled, List.getLast?_append, List.getLast?_replicate, if_neg padded] at ends
          exact ends rfl
        rw [spelled, unpadded, List.replicate_zero, List.append_nil]

/-- A text is read as key material exactly if it is a spelling of that, but for the blanks around
it. -/
theorem ofBase64_eq_ok_iff (s : String) (key : KeyBytes) :
    ofBase64 s = .ok key ↔
      ∃ padding, Text.trim s.toList = Base64.spelling padding key.bytes := by
  rw [← decode_paddingOf_iff, ofBase64]
  cases Base64.decode (paddingOf (Text.trim s.toList)) (String.ofList (Text.trim s.toList)) with
  | error flaw => simp
  | ok bytes =>
    obtain ⟨material, full⟩ := key
    dsimp only
    split
    · simp
    · rename_i misfit
      constructor
      · nofun
      · rintro ⟨⟩
        exact absurd full misfit

/-- Every key is read back from its text. -/
theorem ofBase64_toBase64 (key : KeyBytes) : ofBase64 key.toBase64 = .ok key := by
  refine (ofBase64_eq_ok_iff _ key).mpr ⟨.required, ?_⟩
  rw [toBase64, Base64.encode, String.toList_ofList]
  exact Text.trim_of_visible _ fun c member => (Base64.stands_encodeChars _ c member).2

end KeyBytes

theorem PublicKey.ofBase64_toBase64 (key : PublicKey) : ofBase64 key.toBase64 = .ok key := by
  simp [ofBase64, toBase64, KeyBytes.ofBase64_toBase64, Except.map]

namespace Bytes

/-- Two digits for each byte, which write the same number. -/
theorem digits_toHex (bytes : Bytes) : ∃ ds, Text.Digits 16 (toHex bytes).toList ds ∧
    Text.ofDigits 16 ds = toNat bytes := by
  have digit : ∀ value < 16, Text.digit? 16 (hexDigit value) = some value := by decide
  simp only [toHex, String.toList_ofList]
  induction bytes using List.reverseRecOn with
  | nil => exact ⟨[], .nil, rfl⟩
  | append_singleton front last inductionHypothesis =>
    obtain ⟨ds, read, value⟩ := inductionHypothesis
    have := last.toNat_lt
    refine ⟨ds ++ [last.toNat / 16, last.toNat % 16], ?_, ?_⟩
    · rw [List.flatMap_append]
      exact List.rel_append read
        (.cons (digit _ (by omega)) (.cons (digit _ (by omega)) .nil))
    · rw [toNat_append_singleton, ← value]
      simp only [Text.ofDigits, List.foldl_append, List.foldl_cons, List.foldl_nil]
      omega

theorem length_toHex (bytes : Bytes) : (toHex bytes).toList.length = 2 * bytes.length := by
  simp only [toHex, String.toList_ofList]
  induction bytes with
  | nil => rfl
  | cons byte rest inductionHypothesis =>
    simp [inductionHypothesis]
    omega

end Bytes

namespace Uuid

/-- Thirty-two digits with hyphens at their places. -/
def hyphenated (digits : List Char) : List Char :=
  let piece := fun start count => (digits.drop start).take count
  List.intercalate ['-'] [piece 0 8, piece 8 4, piece 12 4, piece 16 4, piece 20 12]

theorem toList_print (id : Uuid) :
    id.print.toList = hyphenated (Bytes.toHex (Bytes.ofNat 16 id.bits.toNat)).toList := by
  simp [print, hyphenated, Text.joined]

section Hyphenated

variable (digits : List Char) (full : digits.length = 32)

include full

theorem eq_ofFn : ∃ digit : Fin 32 → Char, digits = List.ofFn digit := by
  rw [← full]
  exact ⟨digits.get, (List.ofFn_get digits).symm⟩

theorem length_hyphenated : (hyphenated digits).length = 36 := by
  obtain ⟨digit, rfl⟩ := eq_ofFn digits full
  rfl

/-- What remains without the hyphens are the digits. -/
theorem ofHyphenated?_hyphenated : ofHyphenated? (hyphenated digits) = ofDigits? digits := by
  obtain ⟨digit, rfl⟩ := eq_ofFn digits full
  rfl

end Hyphenated

/-- Every identifier is read back from its text. -/
theorem parse?_print (id : Uuid) : parse? id.print = some id := by
  have full : (Bytes.toHex (Bytes.ofNat 16 id.bits.toNat)).toList.length = 32 := by
    rw [Bytes.length_toHex, Bytes.length_ofNat]
  obtain ⟨ds, read, value⟩ := Bytes.digits_toHex (Bytes.ofNat 16 id.bits.toNat)
  have bits : BitVec.ofNat 128 (Bytes.toNat (Bytes.ofNat 16 id.bits.toNat)) = id.bits := by
    have room : Nat.pow 256 16 = 2 ^ 128 := rfl
    rw [Bytes.toNat_ofNat, room, Nat.mod_eq_of_lt id.bits.isLt, BitVec.ofNat_toNat,
      BitVec.setWidth_eq]
  have digits := (mapM_eq_some_iff _ _ _).mpr read
  simp only [parse?, toList_print, length_hyphenated _ full, ofHyphenated?_hyphenated _ full]
  simp [ofDigits?, full, digits, value, bits]

end Uuid

end MeshNode
