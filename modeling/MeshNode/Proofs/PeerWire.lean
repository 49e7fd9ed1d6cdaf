import MeshNode.Peer
import MeshNode.Proofs.AddressTexts
import MeshNode.Proofs.IdentityTexts

/-!
# Peer records on the wire

A record is encoded with every field, and each field is read back from its text or list, so that
every record is decoded from its encoding.

An object decodes exactly if each of its fields is given as the field may be: the required ones
once, the others at most once, and only a tunnel address as null. What the other members are does
not matter. So the record that an object decodes to is empty where the object has no field, and is
the same record after any number of encodings and decodings.
-/

namespace MeshNode

namespace Json

/-! ## Fields of an object -/

/-- A field is given once and is read. -/
inductive Given {α : Type} (decode : Json → Option α) : List Json → α → Prop where
  | given {value : Json} {a : α} (read : decode value = some a) : Given decode [value] a

/-- A field is given once and is read, or it is omitted for its default. -/
inductive GivenOr {α : Type} (default : α) (decode : Json → Option α) : List Json → α → Prop where
  | omitted : GivenOr default decode [] default
  | given {value : Json} {a : α} (read : decode value = some a) : GivenOr default decode [value] a

/-- A field is given once, as null or as a value that is read, or it is omitted. -/
inductive Optional {α : Type} (decode : Json → Option α) : List Json → Option α → Prop where
  | omitted : Optional decode [] none
  | null : Optional decode [.null] none
  | given {value : Json} {a : α} (present : value ≠ .null) (read : decode value = some a) :
      Optional decode [value] (some a)

variable {α : Type} (decode : Json → Option α)

theorem given_iff (values : List Json) (a : α) :
    Given decode values a ↔ ∃ value, values = [value] ∧ decode value = some a :=
  ⟨fun ⟨read⟩ => ⟨_, rfl, read⟩, by rintro ⟨_, rfl, read⟩; exact .given read⟩

theorem givenOr_iff (default a : α) (values : List Json) : GivenOr default decode values a ↔
    ∃ value : Option Json, values = value.toList ∧ orDefault default decode value = some a := by
  constructor
  · rintro (_ | ⟨read⟩)
    · exact ⟨none, rfl, rfl⟩
    · exact ⟨some _, rfl, read⟩
  · rintro ⟨_ | value, rfl, read⟩
    · cases read
      exact .omitted
    · exact .given read

theorem optional_iff (a : Option α) (values : List Json) : Optional decode values a ↔
    ∃ value : Option Json, values = value.toList ∧ orAbsent decode value = some a := by
  have present (value : Json) (other : value ≠ .null) :
      orAbsent decode (some value) = (decode value).map some := by
    cases value <;> first | rfl | exact absurd rfl other
  constructor
  · rintro (_ | _ | ⟨other, read⟩)
    · exact ⟨none, rfl, rfl⟩
    · exact ⟨some .null, rfl, rfl⟩
    · exact ⟨some _, rfl, by rw [present _ other, read]; rfl⟩
  · rintro ⟨_ | value, rfl, read⟩
    · cases read
      exact .omitted
    · by_cases null : value = .null
      · subst null
        cases read
        exact .null
      · rw [present value null, Option.map_eq_some_iff] at read
        obtain ⟨a, read, rfl⟩ := read
        exact .given null read

/-- A required field is neither omitted nor null, unless null is read. -/
theorem Given.present {decode : Json → Option α} {values : List Json} {a : α}
    (given : Given decode values a) (refuses : decode .null = none) :
    values ≠ [] ∧ .null ∉ values := by
  obtain ⟨read⟩ := given
  refine ⟨nofun, fun null => ?_⟩
  rw [← List.mem_singleton.mp null, refuses] at read
  cases read

/-- A field with a default has it where it is omitted, and is not null unless null is read. -/
theorem GivenOr.present {decode : Json → Option α} {default a : α} {values : List Json}
    (given : GivenOr default decode values a) (refuses : decode .null = none) :
    (values = [] → a = default) ∧ .null ∉ values := by
  cases given with
  | omitted => exact ⟨fun _ => rfl, nofun⟩
  | given read => exact ⟨nofun, (Given.given read |>.present refuses).2⟩

/-- An optional field is absent where it is omitted or null. -/
theorem Optional.absent {decode : Json → Option α} {a : Option α} {values : List Json}
    (given : Optional decode values a) :
    (values = [] → a = none) ∧ (.null ∈ values → a = none) := by
  cases given with
  | omitted => exact ⟨fun _ => rfl, nofun⟩
  | null => exact ⟨nofun, fun _ => rfl⟩
  | given other read => exact ⟨nofun, fun null => absurd (List.mem_singleton.mp null).symm other⟩

/-- The value of a field that an object gives at most once. -/
def onlyValue? (members : List (String × Json)) (name : String) : Option (Option Json) :=
  match valuesNamed name members with
  | [] => some none
  | [value] => some (some value)
  | _ => none

theorem onlyValue?_eq_some_iff (members : List (String × Json)) (name : String)
    (value : Option Json) :
    onlyValue? members name = some value ↔ valuesNamed name members = value.toList := by
  unfold onlyValue?
  cases value <;> split <;> simp_all

/-- The fields of an object are those that its members of these names give. -/
theorem fields?_object_iff (names : List String) (members : List (String × Json))
    (values : List (Option Json)) : fields? names (.object members) = some values ↔
      List.Forall₂ (fun name value => valuesNamed name members = value.toList) names values := by
  simp only [← onlyValue?_eq_some_iff]
  exact mapM_eq_some_iff (onlyValue? members) names values

/-- A list is read back if each of its elements is. -/
theorem listOf?_map (encode : α → Json) (as : List α)
    (back : ∀ a ∈ as, decode (encode a) = some a) :
    listOf? decode (.array (as.map encode)) = some as := by
  rw [listOf?, mapM_eq_some_iff, List.forall₂_map_left_iff]
  exact List.forall₂_same.mpr back

end Json

/-! ## Encoding and decoding -/

/-- What stands behind a beginning is found. -/
theorem Text.after?_append (front rest : String) : after? front (front ++ rest) = some rest := by
  have strips : ∀ front rest : List Char, stripFront? front (front ++ rest) = some rest := by
    intro front rest
    induction front with
    | nil => rfl
    | cons c front inductionHypothesis => simp [stripFront?, inductionHypothesis]
  simp [after?, strips]

namespace EndpointSource

/-- Every source is read back, also one without a reflector. -/
theorem ofText?_print (source : EndpointSource) : ofText? source.print = some source := by
  cases source with
  | localNetwork => rfl
  | reflector server =>
    have other : s!"stun:{server}" ≠ "local" := by
      intro same
      have first := congrArg (List.head? ∘ String.toList) same
      simp [toString] at first
    have rest : Text.after? "stun:" s!"stun:{server}" = some server := Text.after?_append _ server
    simp [ofText?, print, other, rest]

end EndpointSource

theorem Endpoint.ofJson?_toJson (endpoint : Endpoint) :
    ofJson? endpoint.toJson = some endpoint := by
  simp [ofJson?, toJson, Json.fields?, Json.valuesNamed, Json.parsed?, Json.text?,
    EndpointSource.ofText?_print]

namespace PeerRecord

open Json

theorem networks?_networksJson (networks : List Network) :
    networks? (networksJson networks) = some networks := by
  rw [networksJson, ofTexts, List.map_map]
  exact listOf?_map _ _ networks fun network _ => Network.parse?_print network

/-- The members of an object spell a record: each of its fields is given as it may be. -/
structure Spelled (members : List (String × Json)) (record : PeerRecord) : Prop where
  id : Given (parsed? Uuid.parse?) (valuesNamed "id" members) record.id
  publicKey : Given (parsed? fun s => (PublicKey.ofBase64 s).toOption)
    (valuesNamed "public_key" members) record.publicKey
  endpoints : GivenOr [] (listOf? Endpoint.ofJson?) (valuesNamed "endpoints" members)
    record.endpoints
  allowed : GivenOr [] networks? (valuesNamed "allowed_ips" members) record.allowed
  advertised : GivenOr [] networks? (valuesNamed "advertise_cidrs" members) record.advertised
  tunnelV4 : Optional (parsed? Address.parseV4?) (valuesNamed "tunnel_ipv4" members)
    record.tunnelV4
  tunnelV6 : Optional (parsed? Address.parseV6?) (valuesNamed "tunnel_ipv6" members)
    record.tunnelV6
  hostname : GivenOr "" text? (valuesNamed "hostname" members) record.hostname
  relay : GivenOr false bool? (valuesNamed "relay" members) record.relay
  symmetricNat : GivenOr false bool? (valuesNamed "symmetric_nat" members) record.symmetricNat
  organization : Given (parsed? Uuid.parse?) (valuesNamed "organization_id" members)
    record.organization

/-- What an object decodes to is spelled by its members. -/
theorem spelled_of_ofJson? (members : List (String × Json)) (record : PeerRecord)
    (decoded : ofJson? (.object members) = some record) : Spelled members record := by
  rw [ofJson?, Option.bind_eq_bind, Option.bind_eq_some_iff] at decoded
  obtain ⟨values, named, decoded⟩ := decoded
  rw [fields?_object_iff] at named
  simp only [fieldNames, List.forall₂_cons_left_iff, List.forall₂_nil_left_iff] at named
  obtain ⟨id, _, namedId, ⟨key, _, namedKey, ⟨endpoints, _, namedEndpoints,
    ⟨allowed, _, namedAllowed, ⟨advertised, _, namedAdvertised, ⟨v4, _, namedV4,
      ⟨v6, _, namedV6, ⟨hostname, _, namedHostname, ⟨relay, _, namedRelay,
        ⟨nat, _, namedNat, ⟨organization, _, namedOrganization, rfl, rfl⟩, rfl⟩, rfl⟩, rfl⟩,
          rfl⟩, rfl⟩, rfl⟩, rfl⟩, rfl⟩, rfl⟩, rfl⟩ := named
  cases id with
  | none => cases decoded
  | some id =>
  cases key with
  | none => cases decoded
  | some key =>
  cases organization with
  | none => cases decoded
  | some organization =>
  simp only [Option.bind_eq_bind, Option.bind_eq_some_iff, Option.pure_def, Option.some.injEq]
    at decoded
  obtain ⟨_, readId, _, readKey, _, readEndpoints, _, readAllowed, _, readAdvertised, _, readV4,
    _, readV6, _, readHostname, _, readRelay, _, readNat, _, readOrganization, rfl⟩ := decoded
  exact
    { id := (given_iff _ _ _).mpr ⟨_, namedId, readId⟩
      publicKey := (given_iff _ _ _).mpr ⟨_, namedKey, readKey⟩
      endpoints := (givenOr_iff _ _ _ _).mpr ⟨_, namedEndpoints, readEndpoints⟩
      allowed := (givenOr_iff _ _ _ _).mpr ⟨_, namedAllowed, readAllowed⟩
      advertised := (givenOr_iff _ _ _ _).mpr ⟨_, namedAdvertised, readAdvertised⟩
      tunnelV4 := (optional_iff _ _ _).mpr ⟨_, namedV4, readV4⟩
      tunnelV6 := (optional_iff _ _ _).mpr ⟨_, namedV6, readV6⟩
      hostname := (givenOr_iff _ _ _ _).mpr ⟨_, namedHostname, readHostname⟩
      relay := (givenOr_iff _ _ _ _).mpr ⟨_, namedRelay, readRelay⟩
      symmetricNat := (givenOr_iff _ _ _ _).mpr ⟨_, namedNat, readNat⟩
      organization := (given_iff _ _ _).mpr ⟨_, namedOrganization, readOrganization⟩ }

/-- A record that members spell is decoded from their object. -/
theorem ofJson?_of_spelled (members : List (String × Json)) (record : PeerRecord)
    (spelled : Spelled members record) : ofJson? (.object members) = some record := by
  obtain ⟨id, namedId, readId⟩ := (given_iff _ _ _).mp spelled.id
  obtain ⟨key, namedKey, readKey⟩ := (given_iff _ _ _).mp spelled.publicKey
  obtain ⟨endpoints, namedEndpoints, readEndpoints⟩ := (givenOr_iff _ _ _ _).mp spelled.endpoints
  obtain ⟨allowed, namedAllowed, readAllowed⟩ := (givenOr_iff _ _ _ _).mp spelled.allowed
  obtain ⟨advertised, namedAdvertised, readAdvertised⟩ :=
    (givenOr_iff _ _ _ _).mp spelled.advertised
  obtain ⟨v4, namedV4, readV4⟩ := (optional_iff _ _ _).mp spelled.tunnelV4
  obtain ⟨v6, namedV6, readV6⟩ := (optional_iff _ _ _).mp spelled.tunnelV6
  obtain ⟨hostname, namedHostname, readHostname⟩ := (givenOr_iff _ _ _ _).mp spelled.hostname
  obtain ⟨relay, namedRelay, readRelay⟩ := (givenOr_iff _ _ _ _).mp spelled.relay
  obtain ⟨nat, namedNat, readNat⟩ := (givenOr_iff _ _ _ _).mp spelled.symmetricNat
  obtain ⟨organization, namedOrganization, readOrganization⟩ :=
    (given_iff _ _ _).mp spelled.organization
  have named : fields? fieldNames (.object members) = some [some id, some key, endpoints,
      allowed, advertised, v4, v6, hostname, relay, nat, some organization] :=
    (fields?_object_iff _ _ _).mpr (.cons namedId (.cons namedKey (.cons namedEndpoints
      (.cons namedAllowed (.cons namedAdvertised (.cons namedV4 (.cons namedV6
        (.cons namedHostname (.cons namedRelay (.cons namedNat
          (.cons namedOrganization .nil)))))))))))
  rw [ofJson?, named]
  simp only [Option.bind_eq_bind, Option.bind_some, Option.pure_def, readId, readKey, readEndpoints,
    readAllowed, readAdvertised, readV4, readV6, readHostname, readRelay, readNat,
    readOrganization]

/-- An object decodes to a record exactly if its members spell the record. -/
theorem ofJson?_object_iff (members : List (String × Json)) (record : PeerRecord) :
    ofJson? (.object members) = some record ↔ Spelled members record :=
  ⟨spelled_of_ofJson? members record, ofJson?_of_spelled members record⟩

/-- A tunnel address is given as null or as its text. -/
theorem optional_nullable {α : Type} (parse : String → Option α) (print : α → String)
    (back : ∀ a, parse (print a) = some a) (a : Option α) :
    Optional (parsed? parse) [nullable (fun a => .string (print a)) a] a := by
  cases a with
  | none => exact .null
  | some a => exact .given nofun (back a)

theorem given_text {α : Type} {parse : String → Option α} {text : String} {a : α}
    (read : parse text = some a) : Given (parsed? parse) [.string text] a := .given read

/-- Every record is decoded from its encoding. -/
theorem ofJson?_toJson (record : PeerRecord) : ofJson? record.toJson = some record := by
  have key : (PublicKey.ofBase64 record.publicKey.toBase64).toOption = some record.publicKey := by
    simp [PublicKey.ofBase64_toBase64, Except.toOption]
  refine (ofJson?_object_iff _ record).mpr ?_
  exact
    { id := given_text (Uuid.parse?_print record.id)
      publicKey := given_text key
      endpoints := .given (listOf?_map _ _ _ fun endpoint _ => endpoint.ofJson?_toJson)
      allowed := .given (networks?_networksJson record.allowed)
      advertised := .given (networks?_networksJson record.advertised)
      tunnelV4 := optional_nullable _ _ Address.parseV4?_print record.tunnelV4
      tunnelV6 := optional_nullable _ _ Address.parseV6?_print record.tunnelV6
      hostname := .given rfl
      relay := .given rfl
      symmetricNat := .given rfl
      organization := given_text (Uuid.parse?_print record.organization) }

/-- The field of a name is empty; the three fields that every record has never are. -/
def EmptyAt (record : PeerRecord) : String → Prop
  | "endpoints" => record.endpoints = []
  | "allowed_ips" => record.allowed = []
  | "advertise_cidrs" => record.advertised = []
  | "tunnel_ipv4" => record.tunnelV4 = none
  | "tunnel_ipv6" => record.tunnelV6 = none
  | "hostname" => record.hostname = ""
  | "relay" => record.relay = false
  | "symmetric_nat" => record.symmetricNat = false
  | _ => False

/-- The field of a name is empty if an object omits it or gives it as null, and only a tunnel
address is given as null. -/
def EmptyIfAbsent (members : List (String × Json)) (record : PeerRecord) (name : String) : Prop :=
  (valuesNamed name members = [] → record.EmptyAt name) ∧
    (.null ∈ valuesNamed name members →
      name ∈ ["tunnel_ipv4", "tunnel_ipv6"] ∧ record.EmptyAt name)

theorem Spelled.emptyIfAbsent {members : List (String × Json)} {record : PeerRecord}
    (spelled : Spelled members record) :
    ∀ name ∈ fieldNames, EmptyIfAbsent members record name := by
  have required {α : Type} {decode : Json → Option α} {a : α} {name : String}
      (given : Given decode (valuesNamed name members) a) (refuses : decode .null = none) :
      EmptyIfAbsent members record name :=
    ⟨fun omitted => absurd omitted (given.present refuses).1,
      fun null => absurd null (given.present refuses).2⟩
  have defaulted {α : Type} {decode : Json → Option α} {default a : α} {name : String}
      (given : GivenOr default decode (valuesNamed name members) a)
      (refuses : decode .null = none) (empty : a = default → record.EmptyAt name) :
      EmptyIfAbsent members record name :=
    ⟨fun omitted => empty ((given.present refuses).1 omitted),
      fun null => absurd null (given.present refuses).2⟩
  have optional {α : Type} {decode : Json → Option α} {a : Option α} {name : String}
      (given : Optional decode (valuesNamed name members) a)
      (among : name ∈ ["tunnel_ipv4", "tunnel_ipv6"]) (empty : a = none → record.EmptyAt name) :
      EmptyIfAbsent members record name :=
    ⟨fun omitted => empty (given.absent.1 omitted),
      fun null => ⟨among, empty (given.absent.2 null)⟩⟩
  simp only [fieldNames, List.forall_mem_cons]
  exact ⟨required spelled.id rfl, required spelled.publicKey rfl,
    defaulted spelled.endpoints rfl fun empty => empty,
    defaulted spelled.allowed rfl fun empty => empty,
    defaulted spelled.advertised rfl fun empty => empty,
    optional spelled.tunnelV4 (by simp) fun absent => absent,
    optional spelled.tunnelV6 (by simp) fun absent => absent,
    defaulted spelled.hostname rfl fun empty => empty,
    defaulted spelled.relay rfl fun off => off,
    defaulted spelled.symmetricNat rfl fun off => off, required spelled.organization rfl, nofun⟩

/-- Every record is decoded from its encoding. Every object that decodes is encoded and decoded to
the same record again, and every field of this record is empty that the object omits or gives as
null; as null it may only give the two tunnel addresses. An object without an identifier, a key or
an organization does not decode. -/
theorem survives_wire :
    (∀ record : PeerRecord, ofJson? record.toJson = some record) ∧
    (∀ members record, ofJson? (.object members) = some record →
      ofJson? record.toJson = some record ∧
        ∀ name ∈ fieldNames, EmptyIfAbsent members record name) ∧
    ∀ members, ∀ name ∈ ["id", "public_key", "organization_id"],
      valuesNamed name members = [] → ofJson? (.object members) = none := by
  refine ⟨ofJson?_toJson, fun members record decoded => ⟨ofJson?_toJson record, ?_⟩, ?_⟩
  · exact ((ofJson?_object_iff members record).mp decoded).emptyIfAbsent
  · intro members name required omitted
    rw [Option.eq_none_iff_forall_ne_some]
    intro record decoded
    have spelled := (ofJson?_object_iff members record).mp decoded
    simp only [List.mem_cons, List.not_mem_nil, or_false] at required
    rcases required with rfl | rfl | rfl
    · exact (spelled.id.present rfl).1 omitted
    · exact (spelled.publicKey.present rfl).1 omitted
    · exact (spelled.organization.present rfl).1 omitted

/-- An object with the required fields, a key without its padding, a null address and a null that
nothing reads decodes to a record that is empty but for the required fields, and survives. -/
theorem sparse_object_survives :
    let identifier := "00000000-0000-4000-8000-000000000001"
    let members := [("id", .string identifier), ("tunnel_ipv4", .null), ("comment", .null),
      ("public_key", .string "AQEBAQEBAQEBAQEBAQEBAQEBAQEBAQEBAQEBAQEBAQE"),
      ("organization_id", .string identifier)]
    ∃ record, ofJson? (.object members) = some record ∧ ofJson? record.toJson = some record ∧
      record.publicKey.toBase64 = "AQEBAQEBAQEBAQEBAQEBAQEBAQEBAQEBAQEBAQEBAQE=" ∧
      record.endpoints = [] ∧ record.tunnelV4 = none ∧ record.tunnelV6 = none ∧
      record.relay = false := by
  intro identifier members
  let id : Uuid := ⟨0x00000000000040008000000000000001⟩
  let record : PeerRecord :=
    { id, publicKey := ⟨⟨List.replicate 32 1, rfl⟩⟩, organization := id }
  have decoded : ofJson? (.object members) = some record := by decide +kernel
  obtain ⟨survives, empty⟩ := survives_wire.2.1 members record decoded
  exact ⟨record, decoded, survives, by decide +kernel, (empty "endpoints" (by decide)).1 rfl,
    ((empty "tunnel_ipv4" (by decide)).2 List.mem_cons_self).2,
    (empty "tunnel_ipv6" (by decide)).1 rfl, (empty "relay" (by decide)).1 rfl⟩

end PeerRecord

end MeshNode
