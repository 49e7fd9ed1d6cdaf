import MeshNode.Peer

/-!
# Fields of a request

How a request's fields are looked up and decoded. A field that is missing and one that is
`null` are the same where the field is optional. Nothing is guessed: a field of the wrong
type makes the whole request undecodable.
-/

namespace MeshNode.Json

/-- The value of a field; of repeated ones the last. -/
def field? (value : Json) (name : String) : Option Json :=
  match value with
  | .object members => (valuesNamed name members).getLast?
  | _ => none

/-- A required field. -/
def required {α : Type} (decode : Json → Option α) (value : Json) (name : String) : Option α :=
  (value.field? name).bind decode

/-- A field that may be missing or `null`. -/
def optional {α : Type} (decode : Json → Option α) (value : Json) (name : String) :
    Option (Option α) :=
  orAbsent decode (value.field? name)

/-- A field with a default. -/
def defaulting {α : Type} (default : α) (decode : Json → Option α) (value : Json) (name : String) :
    Option α :=
  (value.optional decode name).map (·.getD default)

/-- A required text. -/
def textOf (value : Json) (name : String) : Option String := required text? value name

/-- A required number. -/
def natOf (value : Json) (name : String) : Option Nat := required nat? value name

/-- A number below a bound. -/
def natBelow? (bound : Nat) (value : Json) : Option Nat := value.nat?.filter (· < bound)

/-- A required list. -/
def listIn {α : Type} (decode : Json → Option α) (value : Json) (name : String) : Option (List α) :=
  required (listOf? decode) value name

/-- A list that is empty where it is missing. -/
def listOrEmpty {α : Type} (decode : Json → Option α) (value : Json) (name : String) :
    Option (List α) :=
  value.defaulting [] (listOf? decode) name

/-- A truth value that is false where it is missing. -/
def flag (value : Json) (name : String) : Option Bool := value.defaulting false bool? name

/-- An integer with an optional minus sign. -/
def int? : Json → Option Int
  | .number literal =>
    match literal.toList with
    | '-' :: _ => (Json.number (String.ofList (literal.toList.drop 1))).nat?.map fun n => -(n : Int)
    | _ => (Json.number literal).nat?.map Int.ofNat
  | _ => none

/-- Bytes as a hexadecimal text, or as such a text and how often it is repeated. -/
def bytes? (value : Json) : Option Bytes :=
  match value with
  | .string text => Bytes.ofHex? text
  | .object _ => do
    let piece ← value.required (Json.parsed? Bytes.ofHex?) "hex"
    let count ← value.natOf "repeat"
    return (List.replicate count piece).flatten
  | _ => none

/-- A prefix. -/
def network? : Json → Option Network := parsed? Network.parse?

/-- An address. -/
def address? : Json → Option Address := parsed? Address.parse?

/-- A socket address. -/
def socket? : Json → Option SocketAddress := parsed? SocketAddress.parse?

/-- A public key. -/
def publicKey? : Json → Option PublicKey := parsed? fun s => (PublicKey.ofBase64 s).toOption

/-- A private key. -/
def privateKey? : Json → Option PrivateKey := parsed? fun s => (PrivateKey.ofBase64 s).toOption

/-- An identifier. -/
def uuid? : Json → Option Uuid := parsed? Uuid.parse?

/-- An address family. -/
def family? : Json → Option Family := parsed? fun s => (Family.ofName s).toOption

/-- A public key as text. -/
def ofKey (key : PublicKey) : Json := .string key.toBase64

/-- Public keys as texts. -/
def ofKeys (keys : List PublicKey) : Json := .array (keys.map ofKey)

/-- A failure by its kind alone. -/
def failure (kind : String) : Json := .object [("error", .string kind)]

/-- A failure by its kind and wording. -/
def failureText (kind message : String) : Json :=
  .object [("error", .string kind), ("message", .string message)]

/-- A success. -/
def ok (value : Json) : Json := .object [("ok", value)]

end MeshNode.Json
