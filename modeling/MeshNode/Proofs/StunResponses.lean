import MeshNode.Proofs.ByteStrings
import MeshNode.Stun

/-!
# What a response reports

A well-formed response is read as the list of attributes it was made of, whatever types and
values these have, whatever fills them up and whatever bytes lie behind the message. Of the
obfuscated addresses the first counts whose value is long enough for its family; if there is
none, the first plain one of that kind; and if there is none either, the response is invalid.

What a value reports is said byte by byte. Port and address are numbers with their highest byte
first, and each byte of an obfuscated value is the exclusive or of that byte and a byte of the
cookie and the identifier, which are walked through from the front for either number. A plain
value is combined with zeros, and so holds the numbers as they are. A mask that is applied twice
changes nothing; so what was encoded for an address reports it.
-/

namespace MeshNode

namespace Stun

/-! ## Masks and addresses -/

theorem length_masked (mask value : Bytes) (long : value.length ≤ mask.length) :
    (masked mask value).length = value.length := by
  rw [masked, List.length_zipWith, Nat.min_eq_left long]

/-- A mask that is applied twice changes nothing. -/
theorem masked_masked (mask value : Bytes) (long : value.length ≤ mask.length) :
    masked mask (masked mask value) = value := by
  induction value generalizing mask with
  | nil => rfl
  | cons byte rest inductionHypothesis =>
    cases mask with
    | nil => cases long
    | cons key keys =>
      have shorter : rest.length ≤ keys.length := Nat.le_of_succ_le_succ long
      rw [masked, masked, List.zipWith_cons_cons, List.zipWith_cons_cons, ← masked, ← masked,
        inductionHypothesis keys shorter, UInt8.xor_assoc, UInt8.xor_self, UInt8.xor_zero]

/-- From a place on a value spells the bytes of a number, the highest first: each of them is the
exclusive or of a byte of the value and the byte that a key has at its place. -/
def Spells (key value : Bytes) (start count n : Nat) : Prop :=
  ∀ place < count, ∃ byte ∈ value[start + place]?, ∃ mask ∈ key[place]?,
    byte ^^^ mask = UInt8.ofNat (n >>> (8 * (count - 1 - place)))

/-- The value of an address attribute reports a socket address under a key: its second byte is the
family, and then it spells the port and the address, each from the first byte of the key on. What
lies behind says nothing. -/
structure Reports (key value : Bytes) (socket : SocketAddress) : Prop where
  unscoped : socket.scope = 0
  port : Spells key value 2 2 socket.port.toNat
  address :
    match socket.address with
    | .v4 bits => value[1]? = some 1 ∧ Spells key value 4 4 bits.toNat
    | .v6 bits => value[1]? = some 2 ∧ Spells key value 4 16 bits.toNat

/-- The value of an attribute is long enough for the family that it names. -/
def Decodable (value : Bytes) : Prop :=
  (value[1]? = some 1 ∧ 8 ≤ value.length) ∨ (value[1]? = some 2 ∧ 20 ≤ value.length)

instance (value : Bytes) : Decidable (Decodable value) :=
  inferInstanceAs (Decidable (_ ∨ _))

/-- A value that spells a number is a number under a mask. -/
theorem spells_iff (mask value : Bytes) (start count n : Nat) (long : count ≤ mask.length) :
    Spells mask value start count n ↔
      masked mask ((value.drop start).take count) = Bytes.ofNat count n := by
  have piece (place : Nat) (inside : place < count) :
      ((value.drop start).take count)[place]? = value[start + place]? := by
    rw [List.getElem?_take_of_lt inside, List.getElem?_drop]
  constructor
  · intro spells
    refine List.ext_getElem? fun place => ?_
    by_cases inside : place < count
    · obtain ⟨byte, here, key, keyHere, combined⟩ := spells place inside
      rw [Bytes.getElem?_ofNat count n place inside, ← combined]
      exact List.getElem?_zipWith_eq_some.mpr
        ⟨byte, key, (piece place inside).trans here, keyHere, rfl⟩
    · have short : ((value.drop start).take count).length ≤ count := List.length_take_le _ _
      rw [List.getElem?_eq_none (by rw [length_masked _ _ (by omega)]; omega),
        List.getElem?_eq_none (by rw [Bytes.length_ofNat]; omega)]
  · intro written place inside
    have byte := Bytes.getElem?_ofNat count n place inside
    rw [← written] at byte
    obtain ⟨byte, key, here, keyHere, combined⟩ := List.getElem?_zipWith_eq_some.mp byte
    exact ⟨byte, (piece place inside).symm.trans here, key, keyHere, combined⟩

/-- Where its bytes stand, a value spells the number that they are without the mask. -/
theorem spells_iff_toNat (mask value piece : Bytes) (start count n : Nat)
    (cut : (value.drop start).take count = piece) (exact : piece.length = count)
    (long : count ≤ mask.length) (bounded : n < Nat.pow 256 count) :
    Spells mask value start count n ↔ Bytes.toNat (masked mask piece) = n := by
  have length : (masked mask piece).length = (Bytes.ofNat count n).length := by
    rw [length_masked _ _ (by omega), Bytes.length_ofNat, exact]
  rw [spells_iff mask value start count n long, cut, ← Bytes.toNat_inj length, Bytes.toNat_ofNat,
    Nat.mod_eq_of_lt bounded]

/-- Its bytes without the mask are a number that as many bytes can write, and a value spells it. -/
theorem spells_remainder (mask value piece : Bytes) (start count : Nat)
    (cut : (value.drop start).take count = piece) (exact : piece.length = count)
    (long : count ≤ mask.length) :
    Spells mask value start count (Bytes.toNat (masked mask piece) % Nat.pow 256 count) := by
  have below : Bytes.toNat (masked mask piece) < Nat.pow 256 count := by
    have bounded := Bytes.toNat_lt (masked mask piece)
    rwa [length_masked mask piece (by omega), exact] at bounded
  have whole := Nat.mod_eq_of_lt below
  rw [whole]
  exact (spells_iff_toNat mask value piece start count _ cut exact long below).mpr rfl

/-- A value that spells a number reaches to its last byte. -/
theorem Spells.le_length {key value : Bytes} {start count n : Nat}
    (spells : Spells key value start (count + 1) n) : start + (count + 1) ≤ value.length := by
  obtain ⟨byte, here, _⟩ := spells count (Nat.lt_succ_self count)
  have inside : start + count < value.length := (List.getElem?_eq_some_iff.mp here).1
  omega

theorem length_masked_ofNat (mask : Bytes) (count n : Nat) (long : count ≤ mask.length) :
    (masked mask (Bytes.ofNat count n)).length = count := by
  rw [length_masked mask _ (by rwa [Bytes.length_ofNat]), Bytes.length_ofNat]

theorem encodeAddress_v4 (mask : Bytes) (bits : BitVec 32) (port : UInt16) (scope : UInt32) :
    encodeAddress mask ⟨.v4 bits, port, scope⟩ =
      0 :: 1 :: (masked mask (Bytes.ofNat 2 port.toNat) ++
        masked mask (Bytes.ofNat 4 bits.toNat)) := by
  simp [encodeAddress, Bytes.ofWord_eq_ofNat]

theorem encodeAddress_v6 (mask : Bytes) (bits : BitVec 128) (port : UInt16) (scope : UInt32) :
    encodeAddress mask ⟨.v6 bits, port, scope⟩ =
      0 :: 2 :: (masked mask (Bytes.ofNat 2 port.toNat) ++
        masked mask (Bytes.ofNat 16 bits.toNat)) := by
  simp [encodeAddress, Bytes.ofWord_eq_ofNat]

/-- What a value reports is decoded. -/
theorem decodeAddress?_of_reports (mask value : Bytes) (socket : SocketAddress)
    (long : 16 ≤ mask.length) (reports : Reports mask value socket) :
    decodeAddress? mask value = some socket := by
  obtain ⟨address, port, scope⟩ := socket
  obtain ⟨rfl, portSpelled, addressSpelled⟩ := reports
  have reaches := portSpelled.le_length
  match value with
  | [] | [_] | [_, _] | [_, _, _] => simp at reaches
  | first :: family :: high :: low :: rest =>
    have portRead := (spells_iff_toNat mask _ [high, low] 2 2 _ rfl rfl (by omega)
      port.toNat_lt).mp portSpelled
    cases address with
    | v4 bits =>
      obtain ⟨named, spelled⟩ := addressSpelled
      obtain rfl : family = 1 := Option.some.inj named
      have enough : 4 ≤ rest.length := by simpa using spelled.le_length
      have bitsRead := (spells_iff_toNat mask _ (rest.take 4) 4 4 _ rfl
        (List.length_take_of_le enough) (by omega) bits.isLt).mp spelled
      simp [decodeAddress?, enough, portRead, bitsRead]
    | v6 bits =>
      obtain ⟨named, spelled⟩ := addressSpelled
      obtain rfl : family = 2 := Option.some.inj named
      have enough : 16 ≤ rest.length := by simpa using spelled.le_length
      have bitsRead := (spells_iff_toNat mask _ (rest.take 16) 4 16 _ rfl
        (List.length_take_of_le enough) (by omega) bits.isLt).mp spelled
      simp [decodeAddress?, enough, portRead, bitsRead]

/-- What is decoded is what the value reports. -/
theorem reports_of_decodeAddress? (mask value : Bytes) (socket : SocketAddress)
    (long : 16 ≤ mask.length) (decoded : decodeAddress? mask value = some socket) :
    Reports mask value socket := by
  match value with
  | [] | [_] | [_, _] | [_, _, _] => cases decoded
  | first :: family :: high :: low :: rest =>
    have port : Spells mask (first :: family :: high :: low :: rest) 2 2
        (UInt16.ofNat (Bytes.toNat (masked mask [high, low]))).toNat := by
      rw [UInt16.toNat_ofNat']
      exact spells_remainder mask _ [high, low] 2 2 rfl rfl (by omega)
    simp only [decodeAddress?] at decoded
    split at decoded
    · rename_i v4
      obtain ⟨rfl, enough⟩ := v4
      cases decoded
      refine ⟨rfl, port, rfl, ?_⟩
      rw [BitVec.toNat_ofNat]
      exact spells_remainder mask _ (rest.take 4) 4 4 rfl (List.length_take_of_le enough)
        (by omega)
    · split at decoded
      · rename_i v6
        obtain ⟨rfl, enough⟩ := v6
        cases decoded
        refine ⟨rfl, port, rfl, ?_⟩
        rw [BitVec.toNat_ofNat]
        exact spells_remainder mask _ (rest.take 16) 4 16 rfl (List.length_take_of_le enough) long
      · cases decoded

/-- Decoding gives the socket address that the value reports. -/
theorem decodeAddress?_eq_some_iff (mask value : Bytes) (socket : SocketAddress)
    (long : 16 ≤ mask.length) :
    decodeAddress? mask value = some socket ↔ Reports mask value socket :=
  ⟨reports_of_decodeAddress? mask value socket long,
    decodeAddress?_of_reports mask value socket long⟩

/-- A value is decoded if it is long enough for its family. -/
theorem isSome_decodeAddress?_iff (mask value : Bytes) :
    (decodeAddress? mask value).isSome = true ↔ Decodable value := by
  match value with
  | [] | [_] | [_, _] | [_, _, _] => simp [decodeAddress?, Decodable]
  | first :: family :: high :: low :: rest =>
    simp only [decodeAddress?, Decodable]
    split
    · simp_all
    · split <;> simp_all

/-! ## Attributes -/

/-- The type of an attribute has sixteen bits, and its value is filled up to a multiple of four. -/
structure Attribute.WellFormed (entry : Attribute) : Prop where
  type_lt : entry.type < 65536
  filled : entry.value.length + entry.padding.length = padded entry.value.length

instance (entry : Attribute) : Decidable entry.WellFormed :=
  decidable_of_iff (entry.type < 65536 ∧
      entry.value.length + entry.padding.length = padded entry.value.length)
    ⟨fun ⟨type_lt, filled⟩ => ⟨type_lt, filled⟩, fun ⟨type_lt, filled⟩ => ⟨type_lt, filled⟩⟩

/-- An attribute at the front of a body is read as it is, and the reading goes on behind it. -/
theorem attributes_encode_append (entry : Attribute) (wellFormed : entry.WellFormed)
    (short : entry.value.length < 65536) (rest : Bytes) :
    attributes (entry.encode ++ rest) =
      (entry :: (attributes rest).1, (attributes rest).2) := by
  obtain ⟨type, value, padding⟩ := entry
  obtain ⟨typed, filled⟩ := wellFormed
  dsimp only at typed filled short
  have front : Attribute.encode ⟨type, value, padding⟩ ++ rest =
      UInt8.ofNat (type / 256) :: UInt8.ofNat type :: UInt8.ofNat (value.length / 256) ::
        UInt8.ofNat value.length :: ((value ++ padding) ++ rest) := by
    simp [Attribute.encode, Bytes.ofWord]
  have taken : ((value ++ padding) ++ rest).take value.length = value := by simp
  have filling : (((value ++ padding) ++ rest).take (padded value.length)).drop value.length =
      padding := by
    rw [← filled, ← List.length_append, List.take_left, List.drop_left]
  have behind : ((value ++ padding) ++ rest).drop (padded value.length) = rest := by
    rw [← filled, ← List.length_append, List.drop_left]
  have enough : ¬((value ++ padding) ++ rest).length < value.length := by
    simp only [List.length_append]
    omega
  rw [front, attributes]
  simp only [Bytes.word_ofWord _ typed, Bytes.word_ofWord _ short, if_neg enough, taken, filling,
    behind]

/-- A body is read as the attributes that it was made of. -/
theorem attributes_flatMap_encode (entries : List Attribute)
    (wellFormed : ∀ entry ∈ entries, entry.WellFormed)
    (short : ∀ entry ∈ entries, entry.value.length < 65536) :
    attributes (entries.flatMap Attribute.encode) = (entries, true) := by
  induction entries with
  | nil => simp [attributes]
  | cons entry rest inductionHypothesis =>
    obtain ⟨first, others⟩ := List.forall_mem_cons.mp wellFormed
    obtain ⟨firstShort, othersShort⟩ := List.forall_mem_cons.mp short
    rw [List.flatMap_cons, attributes_encode_append entry first firstShort,
      inductionHypothesis others othersShort]

/-- No attribute of a type can be decoded. -/
def NoneDecodable (type : Nat) (entries : List Attribute) : Prop :=
  ∀ entry ∈ entries, entry.type = type → ¬Decodable entry.value

instance (type : Nat) (entries : List Attribute) : Decidable (NoneDecodable type entries) :=
  inferInstanceAs (Decidable (∀ entry ∈ entries, entry.type = type → ¬Decodable entry.value))

/-- The value of the first attribute of a type that can be decoded. -/
def FirstDecodable (type : Nat) (entries : List Attribute) (value : Bytes) : Prop :=
  ∃ before entry behind, entries = before ++ entry :: behind ∧ entry.type = type ∧
    entry.value = value ∧ Decodable value ∧ NoneDecodable type before

theorem firstAddress?_eq_none (type : Nat) (mask : Bytes) (entries : List Attribute)
    (undecodable : NoneDecodable type entries) : firstAddress? type mask entries = none := by
  refine List.findSome?_eq_none_iff.mpr fun entry member => ?_
  obtain ⟨listed, typed⟩ := List.mem_filter.mp member
  have failed := undecodable entry listed (of_decide_eq_true typed)
  rwa [← isSome_decodeAddress?_iff mask, Option.not_isSome_iff_eq_none] at failed

/-- The address of a type is what the first attribute of the type reports that can be decoded. -/
theorem firstAddress?_of_firstDecodable (type : Nat) (mask value : Bytes)
    (entries : List Attribute) (long : 16 ≤ mask.length)
    (first : FirstDecodable type entries value) :
    ∃ socket, Reports mask value socket ∧ firstAddress? type mask entries = some socket := by
  obtain ⟨before, entry, behind, rfl, typed, rfl, decodable, skipped⟩ := first
  obtain ⟨socket, decoded⟩ :=
    Option.isSome_iff_exists.mp ((isSome_decodeAddress?_iff mask entry.value).mpr decodable)
  have earlier := firstAddress?_eq_none type mask before skipped
  unfold firstAddress? at earlier ⊢
  refine ⟨socket, (decodeAddress?_eq_some_iff mask entry.value socket long).mp decoded, ?_⟩
  rw [List.filter_append, List.findSome?_append, earlier, Option.none_or,
    List.filter_cons, if_pos (decide_eq_true typed), List.findSome?_cons, decoded]

/-! ## Messages -/

theorem length_cookie : cookie.length = 4 := rfl

theorem length_obfuscation (id : TransactionId) : (obfuscation id).length = 16 := by
  rw [obfuscation, List.length_append, length_cookie, id.length_eq]

/-- The body of a response is cut out by the length in its header. -/
theorem responseBody?_header (id : TransactionId) (body trailing : Bytes)
    (short : body.length < 65536) :
    responseBody? id (header successType body.length id ++ body ++ trailing) = some body := by
  generalize framed : header successType body.length id ++ body ++ trailing = message
  have shape : message = Bytes.ofWord successType ++ (Bytes.ofWord body.length ++
      (cookie ++ (id.bytes ++ (body ++ trailing)))) := by
    rw [← framed]
    simp only [header, List.append_assoc]
  have cut := Bytes.slice?_of_split message
  have type := cut [] (Bytes.ofWord successType) _ 0 2 shape rfl rfl
  have length := cut (Bytes.ofWord successType) (Bytes.ofWord body.length) _ 2 2 shape rfl rfl
  rw [← List.append_assoc] at shape
  have mark := cut _ cookie _ 4 4 shape rfl rfl
  rw [← List.append_assoc] at shape
  have transaction := cut _ id.bytes _ 8 12 shape rfl id.length_eq
  rw [← List.append_assoc] at shape
  have content := cut _ body trailing 20 body.length shape
    (by simp [Bytes.ofWord, length_cookie, id.length_eq]) rfl
  simp [responseBody?, type, length, mark, transaction, content, guard,
    Bytes.toNat_ofWord _ short]

/-- A response to a request is read by what its attributes report, whatever lies behind it. -/
theorem readResponse_responseOf (id : TransactionId) (entries : List Attribute) (trailing : Bytes)
    (wellFormed : ∀ entry ∈ entries, entry.WellFormed)
    (fits : (entries.flatMap Attribute.encode).length < 65536) :
    readResponse id (responseOf id entries ++ trailing) =
      (reportedAddress? id (entries, true)).elim (.error .invalidResponse) .ok := by
  have short : ∀ entry ∈ entries, entry.value.length < 65536 := by
    intro entry member
    obtain ⟨before, behind, rfl⟩ := List.append_of_mem member
    simp only [List.flatMap_append, List.flatMap_cons, List.length_append, Attribute.encode] at fits
    omega
  rw [readResponse, responseOf, responseBody?_header id _ trailing fits, Option.bind_some,
    attributes_flatMap_encode entries wellFormed short]
  cases reportedAddress? id (entries, true) <;> rfl

/-- The value that encodes an address reports it: a mask that is applied twice changes nothing. -/
theorem reports_encodeAddress (mask : Bytes) (address : Address) (port : UInt16)
    (long : 16 ≤ mask.length) :
    Reports mask (encodeAddress mask ⟨address, port, 0⟩) ⟨address, port, 0⟩ := by
  have length (count n : Nat) (fits : count ≤ 16) :=
    length_masked_ofNat mask count n (Nat.le_trans fits long)
  have unmasked (count n : Nat) (fits : count ≤ 16) :
      masked mask (masked mask (Bytes.ofNat count n)) = Bytes.ofNat count n :=
    masked_masked mask _ (by rw [Bytes.length_ofNat]; omega)
  have whole (count n : Nat) (fits : count ≤ 16) :
      (masked mask (Bytes.ofNat count n)).take count = masked mask (Bytes.ofNat count n) :=
    List.take_of_length_le (Nat.le_of_eq (length count n fits))
  cases address with
  | v4 bits =>
    rw [encodeAddress_v4]
    refine ⟨rfl, (spells_iff mask _ 2 2 _ (by omega)).mpr ?_, rfl,
      (spells_iff mask _ 4 4 _ (by omega)).mpr ?_⟩
    · simp [length, unmasked]
    · simp [length, whole, unmasked]
  | v6 bits =>
    rw [encodeAddress_v6]
    refine ⟨rfl, (spells_iff mask _ 2 2 _ (by omega)).mpr ?_, rfl,
      (spells_iff mask _ 4 16 _ (by omega)).mpr ?_⟩
    · simp [length, unmasked]
    · simp [length, whole, unmasked]

theorem length_encodeAddress (mask : Bytes) (socket : SocketAddress) (long : 16 ≤ mask.length) :
    (encodeAddress mask socket).length = 8 ∨ (encodeAddress mask socket).length = 20 := by
  have length (count n : Nat) (fits : count ≤ 16) :=
    length_masked_ofNat mask count n (Nat.le_trans fits long)
  obtain ⟨_ | _, port, scope⟩ := socket
  · left
    simp [encodeAddress_v4, length]
  · right
    simp [encodeAddress_v6, length]

/-- A response to a request reports the address that it was made for. -/
theorem readResponse_response (id : TransactionId) (address : Address) (port : UInt16) :
    readResponse id (response id ⟨address, port, 0⟩) = .ok ⟨address, port, 0⟩ := by
  have long : 16 ≤ (obfuscation id).length := Nat.le_of_eq (length_obfuscation id).symm
  have length := length_encodeAddress (obfuscation id) ⟨address, port, 0⟩ long
  have decoded := decodeAddress?_of_reports _ _ _ long
    (reports_encodeAddress (obfuscation id) address port long)
  rw [response]
  generalize encodeAddress (obfuscation id) ⟨address, port, 0⟩ = value at length decoded
  let entry : Attribute := ⟨obfuscatedType, value, []⟩
  have wellFormed : ∀ other ∈ [entry], other.WellFormed := by
    refine List.forall_mem_singleton.mpr ⟨(by decide : obfuscatedType < 65536), ?_⟩
    rcases length with length | length <;> simp [entry, length, padded]
  have fits : ([entry].flatMap Attribute.encode).length < 65536 := by
    rcases length with length | length <;>
      simp [entry, Attribute.encode, Bytes.ofWord, length]
  have read := readResponse_responseOf id [entry] [] wellFormed fits
  rw [List.append_nil] at read
  rw [read]
  simp [reportedAddress?, firstAddress?, entry, decoded]

end Stun

namespace Sample

/-- An identifier of a transaction. -/
def transaction : Stun.TransactionId := ⟨List.replicate 12 7, rfl⟩

/-- An attribute that says nothing about addresses, filled up with three bytes. -/
def software : Stun.Attribute := ⟨0x8022, [1, 2, 3, 4, 5], [6, 7, 8]⟩

/-- A plain address. -/
def plain : Stun.Attribute :=
  ⟨Stun.plainType, Stun.encodeAddress Stun.noMask ⟨.v4 0x0A000001, 51820, 0⟩, []⟩

/-- An obfuscated address that ends within its port. -/
def cutOff : Stun.Attribute := ⟨Stun.obfuscatedType, [0, 1, 2], [3]⟩

/-- An obfuscated address. -/
def obfuscated : Stun.Attribute :=
  ⟨Stun.obfuscatedType,
    Stun.encodeAddress (Stun.obfuscation transaction) ⟨.v6 0x20010DB8, 51820, 0⟩, []⟩

end Sample

namespace Stun

/-- Every response to a request whose attributes are well formed and fit into one message is read,
whatever lies behind the message. The address is the one that the first obfuscated attribute that
can be decoded reports, byte by byte under the cookie and the identifier, wherever it stands; if
there is none, the one that the first plain attribute reports as it stands; and if there is none
either, the response is invalid. A response that was made for an address gives it back. -/
theorem readResponse_wellFormed (id : TransactionId) :
    (∀ entries trailing, (∀ entry ∈ entries, entry.WellFormed) →
      (entries.flatMap Attribute.encode).length < 65536 →
      let answer := readResponse id (responseOf id entries ++ trailing)
      (∀ value, FirstDecodable obfuscatedType entries value →
        ∃ socket, Reports ([0x21, 0x12, 0xA4, 0x42] ++ id.bytes) value socket ∧
          answer = .ok socket) ∧
      (NoneDecodable obfuscatedType entries → ∀ value, FirstDecodable plainType entries value →
        ∃ socket, Reports (List.replicate 16 0) value socket ∧ answer = .ok socket) ∧
      (NoneDecodable obfuscatedType entries → NoneDecodable plainType entries →
        answer = .error .invalidResponse)) ∧
    ∀ address port, readResponse id (response id ⟨address, port, 0⟩) = .ok ⟨address, port, 0⟩ := by
  refine ⟨fun entries trailing wellFormed fits => ?_, readResponse_response id⟩
  rw [readResponse_responseOf id entries trailing wellFormed fits]
  unfold reportedAddress?
  refine ⟨fun value first => ?_, fun none value first => ?_, fun none noPlain => ?_⟩
  · obtain ⟨socket, reports, found⟩ := firstAddress?_of_firstDecodable obfuscatedType
      (obfuscation id) value entries (Nat.le_of_eq (length_obfuscation id).symm) first
    exact ⟨socket, reports, by simp [found]⟩
  · obtain ⟨socket, reports, found⟩ := firstAddress?_of_firstDecodable plainType
      noMask value entries (by simp [noMask]) first
    exact ⟨socket, reports, by simp [found, firstAddress?_eq_none _ _ entries none]⟩
  · simp [firstAddress?_eq_none _ _ entries none, firstAddress?_eq_none _ _ entries noPlain]

/-- An unknown attribute with padding, a plain address and an obfuscated one that is cut off stand
before the obfuscated address that counts; without it the plain one counts, and without that
nothing does. -/
theorem readResponse_samples :
    (∃ socket, Reports ([0x21, 0x12, 0xA4, 0x42] ++ Sample.transaction.bytes)
        Sample.obfuscated.value socket ∧
      readResponse Sample.transaction (responseOf Sample.transaction
        [Sample.software, Sample.plain, Sample.cutOff, Sample.obfuscated] ++ [1, 2, 3]) =
        .ok socket) ∧
    (∃ socket, Reports (List.replicate 16 0) Sample.plain.value socket ∧
      readResponse Sample.transaction (responseOf Sample.transaction
        [Sample.cutOff, Sample.plain] ++ []) = .ok socket) ∧
    readResponse Sample.transaction (responseOf Sample.transaction
      [Sample.software, Sample.cutOff] ++ [4]) = .error .invalidResponse := by
  obtain ⟨reads, _⟩ := readResponse_wellFormed Sample.transaction
  refine ⟨?_, ?_, ?_⟩
  · exact (reads _ _ (by decide) (by decide)).1 _
      ⟨[Sample.software, Sample.plain, Sample.cutOff], Sample.obfuscated, [], rfl, rfl, rfl,
        by decide, by decide⟩
  · exact (reads _ _ (by decide) (by decide)).2.1 (by decide) _
      ⟨[Sample.cutOff], Sample.plain, [], rfl, rfl, rfl, by decide, by decide⟩
  · exact (reads _ _ (by decide) (by decide)).2.2 (by decide) (by decide)

end Stun

end MeshNode
