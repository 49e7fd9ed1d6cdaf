import MeshNode.Proofs.IdentityTexts

/-!
# Which texts are keys

A key has two spellings, the padded one in which it is printed and the same without its last
character, and blanks around them do not count. Every other text is refused, and the refusal says
which of two things is wrong: the text spells some bytes, but not thirty-two of them, or it spells
no bytes at all. So no key is known by a third spelling, and a length is only complained about
where there is one.

The law is the same for the two kinds of keys; it speaks about how a kind is read and written.
-/

namespace MeshNode

/-- A text spells bytes, with the padding or without it. -/
def Base64.Spells (text : String) (bytes : Bytes) : Prop :=
  ∃ padding, text.toList = spelling padding bytes

/-- Keys are read from their two spellings and from nothing else, and what is no key is refused by
what its text spells. -/
structure ReadsSpellings {Key : Type} (read : String → Except KeyError Key)
    (write : Key → String) : Prop where
  accepts : ∀ s key, read s = .ok key ↔
    Text.trimmed s = write key ∨ Text.trimmed s ++ "=" = write key
  wrongLength : ∀ s length, read s = .error (.invalidLength length) ↔
    length ≠ 32 ∧ ∃ bytes : Bytes, bytes.length = length ∧ Base64.Spells (Text.trimmed s) bytes
  nothingSpelled : ∀ s, (∃ flaw, read s = .error (.invalidBase64 flaw)) ↔
    ∀ bytes, ¬ Base64.Spells (Text.trimmed s) bytes

namespace KeyBytes

/-- Thirty-two bytes need one character of padding. -/
theorem spells_iff (text : String) (key : KeyBytes) :
    Base64.Spells text key.bytes ↔ text = key.toBase64 ∨ text ++ "=" = key.toBase64 := by
  have padded : Base64.spelling .required key.bytes =
      Base64.spelling .forbidden key.bytes ++ ['='] := by
    rw [Base64.spelling_required, key.length_eq]
    rfl
  have written : key.toBase64.toList = Base64.spelling .required key.bytes := by
    rw [toBase64, Base64.encode, String.toList_ofList, Base64.spelling]
  have asPrinted : text.toList = Base64.spelling .required key.bytes ↔ text = key.toBase64 := by
    rw [← written, String.toList_inj]
  have withoutLast : text.toList = Base64.spelling .forbidden key.bytes ↔
      text ++ "=" = key.toBase64 := by
    rw [← String.toList_inj, String.toList_append, written, padded]
    exact (List.append_left_inj ['=']).symm
  constructor
  · rintro ⟨_ | _, spelled⟩
    · exact Or.inl (asPrinted.mp spelled)
    · exact Or.inr (withoutLast.mp spelled)
  · rintro (printed | shortened)
    · exact ⟨.required, asPrinted.mpr printed⟩
    · exact ⟨.forbidden, withoutLast.mpr shortened⟩

/-- A text spells bytes exactly if it is read as them in the mode that its end asks for. -/
theorem spells_iff_decode (text : String) (bytes : Bytes) :
    Base64.Spells text bytes ↔ Base64.decode (paddingOf text.toList) text = .ok bytes := by
  have read := decode_paddingOf_iff text.toList bytes
  rw [String.ofList_toList] at read
  exact read.symm

/-- The reader looks at the text without the blanks around it. -/
theorem ofBase64_eq (s : String) :
    ofBase64 s =
      match Base64.decode (paddingOf (Text.trimmed s).toList) (Text.trimmed s) with
      | .error flaw => .error (.invalidBase64 flaw)
      | .ok bytes =>
        if fits : bytes.length = 32 then .ok ⟨bytes, fits⟩
        else .error (.invalidLength bytes.length) := by
  have shown : (Text.trimmed s).toList = Text.trim s.toList := String.toList_ofList
  rw [shown]
  rfl

/-- Key material is read from its two spellings and from nothing else. -/
theorem readsSpellings : ReadsSpellings ofBase64 toBase64 where
  accepts s key := by
    rw [← spells_iff, ofBase64_eq_ok_iff, Base64.Spells, Text.trimmed, String.toList_ofList]
  wrongLength s length := by
    simp only [spells_iff_decode, ofBase64_eq]
    cases Base64.decode (paddingOf (Text.trimmed s).toList) (Text.trimmed s) with
    | error flaw => simp
    | ok bytes =>
      dsimp only
      split
      · rename_i full
        constructor
        · intro refused
          cases refused
        · rintro ⟨misfit, _, rfl, ⟨⟩⟩
          exact absurd full misfit
      · rename_i misfit
        constructor
        · rintro ⟨⟩
          exact ⟨misfit, bytes, rfl, rfl⟩
        · rintro ⟨-, _, rfl, ⟨⟩⟩
          rfl
  nothingSpelled s := by
    simp only [spells_iff_decode, ofBase64_eq]
    cases Base64.decode (paddingOf (Text.trimmed s).toList) (Text.trimmed s) with
    | error flaw => simp
    | ok bytes =>
      dsimp only
      split <;> simp

/-- A kind of keys that is made of key material is read like it. -/
theorem readsSpellings_of {Key : Type} (wrap : KeyBytes → Key) (material : Key → KeyBytes)
    (wrapped : ∀ bytes key, wrap bytes = key ↔ bytes = material key) :
    ReadsSpellings (fun s => (ofBase64 s).map wrap) (fun key => (material key).toBase64) where
  accepts s key := by
    simp only [Outcome.map_eq_ok_iff, wrapped, exists_eq_right, readsSpellings.accepts]
  wrongLength s length := by
    rw [Outcome.map_eq_error_iff, readsSpellings.wrongLength]
  nothingSpelled s := by
    simp only [Outcome.map_eq_error_iff, readsSpellings.nothingSpelled]

end KeyBytes

/-- Public and private keys are read from their two spellings and from nothing else. Another text is
refused for its length if it spells bytes, and for what stands in it if it spells none. -/
theorem keys_read_spellings :
    ReadsSpellings PublicKey.ofBase64 PublicKey.toBase64 ∧
      ReadsSpellings PrivateKey.ofBase64 PrivateKey.toBase64 := by
  constructor
  · refine KeyBytes.readsSpellings_of PublicKey.mk PublicKey.material fun bytes key => ?_
    exact ⟨fun same => congrArg PublicKey.material same, fun same => congrArg PublicKey.mk same⟩
  · refine KeyBytes.readsSpellings_of PrivateKey.mk PrivateKey.material fun bytes key => ?_
    exact ⟨fun same => congrArg PrivateKey.material same, fun same => congrArg PrivateKey.mk same⟩

/-- A last symbol with a bit that carries nothing is no second spelling. -/
example : PublicKey.ofBase64 (String.ofList (List.replicate 42 'A' ++ ['B', '='])) =
    .error (.invalidBase64 (.invalidLastSymbol 66 42)) := by
  decide +kernel

end MeshNode
