import MeshNode.Bytes

/-!
# Texts with broken bytes

What a peer sends as text may hold bytes that are not UTF-8. For a message to a person such bytes
are replaced and the rest is kept: every longest run of bytes that begins a character and does not
complete it becomes one replacement character, and so does every byte that begins none.

An encoded text comes out as it is, because its characters are all complete.
-/

namespace MeshNode.Bytes

/-- What the first byte of a character outside ASCII asks for: how many bytes follow, and between
which bounds the first of them lies. Overlong forms, surrogates and numbers above the last
character are ruled out by the bounds. -/
structure Opening where
  following : Nat
  low : UInt8
  high : UInt8
  deriving DecidableEq, Repr

/-- The opening that a byte makes, if it may begin a character outside ASCII. -/
def opening? (byte : UInt8) : Option Opening :=
  if 0xC2 ≤ byte && byte ≤ 0xDF then some ⟨1, 0x80, 0xBF⟩
  else if byte = 0xE0 then some ⟨2, 0xA0, 0xBF⟩
  else if byte = 0xED then some ⟨2, 0x80, 0x9F⟩
  else if 0xE1 ≤ byte && byte ≤ 0xEF then some ⟨2, 0x80, 0xBF⟩
  else if byte = 0xF0 then some ⟨3, 0x90, 0xBF⟩
  else if 0xF1 ≤ byte && byte ≤ 0xF3 then some ⟨3, 0x80, 0xBF⟩
  else if byte = 0xF4 then some ⟨3, 0x80, 0x8F⟩
  else none

/-- The bytes in front that continue an opening, at most as many as it asks for. -/
def continuation (low high : UInt8) : (wanted : Nat) → Bytes → Bytes
  | 0, _ => []
  | _, [] => []
  | wanted + 1, byte :: rest =>
    if low ≤ byte && byte ≤ high then byte :: continuation 0x80 0xBF wanted rest else []

/-- The character of a first byte and all its following ones. -/
def assemble (first : UInt8) (following : Bytes) : Char :=
  let lead := first.toNat % (0x40 >>> following.length)
  Char.ofNat (following.foldl (fun n byte => 0x40 * n + byte.toNat % 0x40) lead)

/-- The character that stands for broken bytes. -/
def replacement : Char := '\uFFFD'

/-- The characters of bytes, broken ones replaced. -/
def repairedCharacters : Bytes → List Char
  | [] => []
  | byte :: rest =>
    if byte < 0x80 then Char.ofNat byte.toNat :: repairedCharacters rest
    else
      match opening? byte with
      | none => replacement :: repairedCharacters rest
      | some opening =>
        let following := continuation opening.low opening.high opening.following rest
        let character :=
          if following.length = opening.following then assemble byte following else replacement
        character :: repairedCharacters (rest.drop following.length)
termination_by bytes => bytes.length
decreasing_by all_goals simp only [List.length_drop, List.length_cons]; omega

/-- The text of bytes, broken ones replaced. -/
def repaired (bytes : Bytes) : String := String.ofList (repairedCharacters bytes)

end MeshNode.Bytes
