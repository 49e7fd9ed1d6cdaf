import MeshNode.Base64
import MeshNode.Curve25519

/-!
# Keys

A node is known by its public key of 32 bytes; the private key is a secret of
the same size and the public key is computed from it. Keys are exchanged as
Base64 text. Blanks around the text are ignored. A text that ends in `=` is read
as padded, any other as unpadded, so a key has exactly two spellings and both are
strict.

The texts made for reading a private key never show it.
-/

namespace MeshNode

/-- Why a text is not a key. -/
inductive KeyError where
  | invalidLength (actual : Nat)
  | invalidBase64 (flaw : Base64.Flaw)
  deriving DecidableEq, Repr

/-- The wording of a key's refusal. -/
def KeyError.message : KeyError → String
  | .invalidLength actual => s!"invalid key length: expected 32 bytes, got {actual}"
  | .invalidBase64 flaw => s!"invalid base64 encoding: {flaw.message}"

/-- Thirty-two bytes of key material. -/
structure KeyBytes where
  bytes : Bytes
  length_eq : bytes.length = 32
  deriving DecidableEq, Repr

namespace KeyBytes

/-- The padding mode that a trimmed key text asks for. -/
def paddingOf (cs : List Char) : Base64.Padding :=
  if cs.getLast? = some '=' then .required else .forbidden

/-- Read key material from its text. -/
def ofBase64 (s : String) : Except KeyError KeyBytes :=
  let cs := Text.trim s.toList
  match Base64.decode (paddingOf cs) (String.ofList cs) with
  | .error flaw => .error (.invalidBase64 flaw)
  | .ok bytes =>
    if fits : bytes.length = 32 then .ok ⟨bytes, fits⟩ else .error (.invalidLength bytes.length)

/-- The padded text of key material. -/
def toBase64 (key : KeyBytes) : String := Base64.encode key.bytes

end KeyBytes

/-- The key a node is known by. -/
structure PublicKey where
  material : KeyBytes
  deriving DecidableEq, Repr

namespace PublicKey

/-- Read a public key. -/
def ofBase64 (s : String) : Except KeyError PublicKey := (KeyBytes.ofBase64 s).map .mk

/-- The padded text, by which a key is shown everywhere. -/
def toBase64 (key : PublicKey) : String := key.material.toBase64

/-- The bytes of the key. -/
def bytes (key : PublicKey) : Bytes := key.material.bytes

/-- The number that orders keys by their bytes. -/
def rank (key : PublicKey) : Nat := Bytes.toNat key.bytes

/-- The first eight characters of the text, enough to tell keys apart in prose. -/
def short (key : PublicKey) : String := String.ofList (key.toBase64.toList.take 8)

/-- The text for diagnostics. -/
def debugText (key : PublicKey) : String := s!"WgPublicKey({key.short}...)"

end PublicKey

/-- The secret behind a public key. -/
structure PrivateKey where
  material : KeyBytes
  deriving DecidableEq

namespace PrivateKey

/-- Read a private key. -/
def ofBase64 (s : String) : Except KeyError PrivateKey := (KeyBytes.ofBase64 s).map .mk

/-- The padded text, for the key file and the tunnel only. -/
def toBase64 (key : PrivateKey) : String := key.material.toBase64

/-- What stands for a secret wherever it could be read. -/
def display : String := "[REDACTED]"

/-- The text for diagnostics. -/
def debugText : String := s!"WgPrivateKey({display})"

/-- The public key of a secret. -/
def publicKey (key : PrivateKey) : PublicKey :=
  ⟨⟨Curve25519.publicBytes key.material.bytes, Curve25519.publicBytes_length _⟩⟩

/-- The text for diagnostics of a private key together with its public key. -/
def pairDebugText (key : PrivateKey) : String :=
  s!"WgKeyPair \x7b private: {debugText}, public: {key.publicKey.debugText} \x7d"

end PrivateKey

end MeshNode
