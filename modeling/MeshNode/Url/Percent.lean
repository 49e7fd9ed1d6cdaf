import MeshNode.Bytes

/-!
# Percent encoding

A byte that may not stand in some part of a URL is written as a percent sign and two
hexadecimal digits. Every part has its own set of ASCII characters that have to be encoded;
control characters and everything outside ASCII are encoded in all of them. A percent sign is
never encoded, so an encoded text stays as it is.
-/

namespace MeshNode.Url

/-- The characters that are encoded in every part of a URL. -/
def isControl (c : Char) : Bool := c.toNat < 0x20 || c.toNat ≥ 0x7F

/-- The ASCII characters that are encoded in a fragment. -/
def fragmentSet : List Char := [' ', '"', '<', '>', '`']

/-- The ASCII characters that are encoded in a path. -/
def pathSet : List Char := fragmentSet ++ ['#', '?', '\x7b', '\x7d']

/-- The ASCII characters that are encoded in a user name or a password. -/
def userSet : List Char := pathSet ++ ['/', ':', ';', '=', '@', '[', '\\', ']', '^', '|']

/-- The ASCII characters that are encoded in a query. -/
def querySet : List Char := [' ', '"', '#', '<', '>', '\'']

/-- A percent sign and the two hexadecimal digits of a byte. -/
def encodeByte (b : UInt8) : List Char :=
  '%' :: [Bytes.hexDigit (b.toNat / 16), Bytes.hexDigit (b.toNat % 16)].map Char.toUpper

/-- A character as it stands in a part of a URL. -/
def encodeChar (set : List Char) (c : Char) : List Char :=
  if isControl c || set.contains c then (Bytes.ofText (String.singleton c)).flatMap encodeByte
  else [c]

/-- A text as it stands in a part of a URL. -/
def encode (set : List Char) (cs : List Char) : String :=
  String.ofList (cs.flatMap (encodeChar set))

/-- The bytes that a text stands for. A percent sign without two hexadecimal digits stands for
itself. -/
def decode : List Char → Bytes
  | '%' :: high :: low :: rest =>
    match Text.digit? 16 high, Text.digit? 16 low with
    | some h, some l => UInt8.ofNat (16 * h + l) :: decode rest
    | _, _ => 37 :: decode (high :: low :: rest)
  | c :: rest => Bytes.ofText (String.singleton c) ++ decode rest
  | [] => []
termination_by cs => cs.length

end MeshNode.Url
