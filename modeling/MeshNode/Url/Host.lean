import MeshNode.Address.Parts
import MeshNode.DomainName
import MeshNode.Url.Percent

/-!
# Hosts

The host of a URL is a domain name, an IPv4 address in any of its historic spellings, or an
IPv6 address in brackets. A name whose last label is a number has to be an IPv4 address: one to
four parts, decimal, octal or hexadecimal, of which the last fills what the others leave.
-/

namespace MeshNode.Url

/-- Why a text is not a URL that can be used. -/
inductive Flaw where
  | relative
  | emptyHost
  | invalidPort
  | invalidV4
  | invalidV6
  | invalidName
  | invalidCharacter
  deriving DecidableEq, Repr

/-- The wording of a flaw. -/
def Flaw.message : Flaw → String
  | .relative => "relative URL without a base"
  | .emptyHost => "empty host"
  | .invalidPort => "invalid port number"
  | .invalidV4 => "invalid IPv4 address"
  | .invalidV6 => "invalid IPv6 address"
  | .invalidName => "invalid international domain name"
  | .invalidCharacter => "invalid domain character"

/-- A host. -/
inductive Host where
  | domain (name : String)
  | v4 (bits : BitVec 32)
  | v6 (bits : BitVec 128)
  deriving DecidableEq, Repr

namespace Host

/-- The text of a host. -/
def print : Host → String
  | .domain name => name
  | .v4 bits => Address.dotted bits.toNat
  | .v6 bits => s!"[{Address.compressed bits.toNat}]"

/-- The labels of a name without the empty one behind a final dot. -/
def partsOf (cs : List Char) : List (List Char) :=
  let pieces := Text.splitAt '.' cs
  if 1 < pieces.length ∧ pieces.getLast? = some [] then pieces.dropLast else pieces

/-- Whether the last label of a name is a number, which makes the name an IPv4 address. -/
def endsInNumber (cs : List Char) : Bool :=
  let last := (partsOf cs).getLastD []
  (!last.isEmpty && last.all Char.isDigit) || (Address.part? last).isSome

/-- Read the host of an address that is known to have one. -/
def parse (cs : List Char) : Except Flaw Host :=
  match cs with
  | '[' :: inner =>
    if inner.getLast? ≠ some ']' then .error .invalidV6
    else
      match Address.parseV6? (String.ofList inner.dropLast) with
      | some bits => .ok (.v6 bits)
      | none => .error .invalidV6
  | _ =>
    match DomainName.ofBytes? (decode cs) with
    | none => .error .invalidName
    | some name =>
      if name.isEmpty then .error .emptyHost
      else if endsInNumber name.toList then
        match ((partsOf name.toList).mapM Address.part?).bind Address.ofParts? with
        | some bits => .ok (.v4 bits)
        | none => .error .invalidV4
      else .ok (.domain name)

/-- The characters that the host of a foreign scheme may not contain. -/
def foreignForbidden : List Char :=
  ['\x00', '\t', '\n', '\r', ' ', '#', '/', ':', '<', '>', '?', '@', '[', '\\', ']', '^', '|']

/-- Check the host of a foreign scheme, which is not interpreted. -/
def checkForeign (cs : List Char) : Except Flaw Unit :=
  match cs with
  | '[' :: _ => (parse cs).map fun _ => ()
  | _ => if cs.any foreignForbidden.contains then .error .invalidCharacter else .ok ()

end Host

end MeshNode.Url
