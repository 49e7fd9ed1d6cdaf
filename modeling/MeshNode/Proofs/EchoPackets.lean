import MeshNode.Proofs.Checksums

/-!
# Echo messages in packets

A message is told from a packet by its first byte alone: the kinds of the four echo messages have
a high half of zero or eight, and a packet of version four begins with a four. So a header is
stripped from what has one, and a bare message is left as it is, whatever its payload.

The main statement says that a packet is read back as what was written, for a payload of any
length. Only the stated length gives way: it is kept in sixteen bits, and no reader asks for it.
-/

namespace MeshNode.Echo

/-! ## Messages -/

theorem ofNat_word_ofWord (n : UInt16) :
    UInt16.ofNat (Bytes.word (UInt8.ofNat (n.toNat / 256)) (UInt8.ofNat n.toNat)) = n := by
  rw [Bytes.word_ofWord n.toNat n.toNat_lt, UInt16.ofNat_toNat]

/-- A message of one of the four kinds is read back. -/
theorem decode?_encode (echo : Echo) (kind : echo.kind ∈ kinds) :
    decode? echo.encode = some echo := by
  simp only [encode, checksumField, afterChecksum, Bytes.ofWord, List.cons_append, List.nil_append,
    decode?, if_pos kind, ofNat_word_ofWord]

theorem encode_eq_cons (echo : Echo) : ∃ rest, echo.encode = echo.kind :: rest := ⟨_, rfl⟩

/-- None of the four kinds looks like the first byte of a packet. -/
theorem isVersionFour_of_mem_kinds (kind : UInt8) (echoes : kind ∈ kinds) :
    isVersionFour kind = false := by
  simp only [kinds, List.mem_cons, List.not_mem_nil, or_false] at echoes
  rcases echoes with rfl | rfl | rfl | rfl <;> rfl

/-- A bare message has no header to strip. -/
theorem stripHeader_encode (echo : Echo) (kind : echo.kind ∈ kinds) :
    stripHeader echo.encode = echo.encode := by
  obtain ⟨rest, starts⟩ := encode_eq_cons echo
  rw [starts, stripHeader, if_neg]
  rintro ⟨_, versionFour, _⟩
  rw [isVersionFour_of_mem_kinds echo.kind kind] at versionFour
  cases versionFour

/-! ## Packets -/

section Header

variable (identification : UInt16) (source destination : BitVec 32) (length : Nat) (sum : UInt16)

/-- What stands in a header before its checksum. -/
def beforeHeaderSum : Bytes :=
  [0x45, 0] ++ Bytes.ofWord (headerLength + length) ++ Bytes.ofWord identification.toNat ++
    [0x40, 0, timeToLive, protocol]

/-- What stands in a header behind its checksum. -/
def behindHeaderSum : Bytes := Bytes.ofNat 4 source.toNat ++ Bytes.ofNat 4 destination.toNat

theorem ipHeader_eq : ipHeader identification source destination length sum =
    beforeHeaderSum identification length ++ checksumField sum ++
      behindHeaderSum source destination := by
  simp only [ipHeader, beforeHeaderSum, behindHeaderSum, List.append_assoc]

@[simp] theorem length_beforeHeaderSum : (beforeHeaderSum identification length).length = 10 := rfl

@[simp] theorem length_behindHeaderSum : (behindHeaderSum source destination).length = 8 := rfl

@[simp] theorem length_ipHeader :
    (ipHeader identification source destination length sum).length = headerLength := rfl

/-- A header with its own checksum adds up to all ones. -/
theorem complementSum_ipHeader :
    complementSum (ipHeader identification source destination length
      (checksum (ipHeader identification source destination length 0))) = 0xFFFF := by
  rw [ipHeader_eq, ipHeader_eq]
  exact complementSum_of_filled _ _ (by simp) (by simp)

end Header

section Packet

variable (identification : UInt16) (source destination : BitVec 32) (echo : Echo)

/-- A packet is a header and the message. -/
theorem exists_packet_eq : ∃ sum,
    packet identification source destination echo =
      ipHeader identification source destination echo.encode.length sum ++ echo.encode ∧
    complementSum (ipHeader identification source destination echo.encode.length sum) = 0xFFFF :=
  ⟨_, rfl, complementSum_ipHeader identification source destination echo.encode.length⟩

theorem length_packet :
    (packet identification source destination echo).length =
      headerLength + echo.encode.length := by
  simp [packet]

/-- The first twenty bytes of a packet add up to all ones. -/
theorem complementSum_take_packet :
    complementSum ((packet identification source destination echo).take headerLength) =
      0xFFFF := by
  obtain ⟨sum, written, verified⟩ := exists_packet_eq identification source destination echo
  rw [written, List.take_left' (length_ipHeader ..)]
  exact verified

/-- So they have the checksum zero. -/
theorem checksum_take_packet :
    checksum ((packet identification source destination echo).take headerLength) = 0 := by
  have short : ((packet identification source destination echo).take headerLength).length ≤
      131074 := Nat.le_trans (List.length_take_le _ _) (by decide)
  rw [checksum_eq _ (neverOverflows_of_length _ short), complementSum_take_packet]
  rfl

/-- The stated length is that of the packet modulo 65536. -/
theorem slice?_packet_length :
    let bytes := packet identification source destination echo
    (bytes.slice? 2 2).map Bytes.toNat = some (bytes.length % 65536) := by
  have field : Bytes.slice? (packet identification source destination echo) 2 2 =
      some (Bytes.ofWord (headerLength + echo.encode.length)) :=
    Bytes.slice?_of_split _ [0x45, 0] _ _ 2 2 rfl rfl rfl
  simp only [field, Option.map_some, Bytes.ofWord_eq_ofNat, Bytes.toNat_ofNat, length_packet]

/-- Stripping the header of a packet leaves the message. -/
theorem stripHeader_packet :
    stripHeader (packet identification source destination echo) = echo.encode := by
  obtain ⟨sum, written, _⟩ := exists_packet_eq identification source destination echo
  have long : headerLength ≤ (packet identification source destination echo).length := by
    rw [length_packet]
    exact Nat.le_add_right _ _
  have dropped : (packet identification source destination echo).drop headerLength =
      echo.encode := by
    rw [written, List.drop_left' (length_ipHeader ..)]
  have starts : ∃ rest, packet identification source destination echo = 0x45 :: rest := ⟨_, rfl⟩
  obtain ⟨rest, starts⟩ := starts
  rw [starts] at long dropped ⊢
  rw [stripHeader, if_pos ⟨long, rfl, long⟩]
  exact dropped

/-- An address is read where it was written. -/
theorem addressAt?_of_split (bytes before behind : Bytes) (address : BitVec 32)
    (split : bytes = before ++ (Bytes.ofNat 4 address.toNat ++ behind)) :
    addressAt? bytes before.length = some address := by
  rw [addressAt?, Bytes.slice?_of_split bytes before _ behind _ 4 split rfl (by simp),
    Option.map_some, Bytes.toNat_ofNat, Nat.mod_eq_of_lt address.isLt, BitVec.ofNat_toNat,
    BitVec.setWidth_eq]

/-- A packet with a message of one of the four kinds is read back. -/
theorem ofPacket?_packet (kind : echo.kind ∈ kinds) :
    ofPacket? (packet identification source destination echo) =
      some (source, destination, echo) := by
  obtain ⟨sum, written, _⟩ := exists_packet_eq identification source destination echo
  have front : packet identification source destination echo =
      (beforeHeaderSum identification echo.encode.length ++ checksumField sum) ++
        (Bytes.ofNat 4 source.toNat ++ (Bytes.ofNat 4 destination.toNat ++ echo.encode)) := by
    rw [written, ipHeader_eq, behindHeaderSum]
    simp only [List.append_assoc]
  have sent : addressAt? (packet identification source destination echo) 12 = some source :=
    addressAt?_of_split _ _ _ source front
  have received :
      addressAt? (packet identification source destination echo) 16 = some destination := by
    rw [← List.append_assoc] at front
    exact addressAt?_of_split _ _ _ destination front
  have first : (packet identification source destination echo)[0]? = some 0x45 := rfl
  have stated : (packet identification source destination echo)[9]? = some protocol := rfl
  rw [ofPacket?, first, stated, sent, received, stripHeader_packet, decode?_encode echo kind]
  rfl

end Packet

/-- For each of the four kinds, any addresses and identification and a payload of any length, a
packet is read back as its addresses and its message. The words of its header add up to all ones,
so that its checksum is zero, and it states the length of the packet modulo 65536. Stripping takes
the header of the packet and nothing of the bare message. -/
theorem packet_survives (identification : UInt16) (source destination : BitVec 32) (echo : Echo)
    (kind : echo.kind ∈ kinds) :
    let bytes := packet identification source destination echo
    ofPacket? bytes = some (source, destination, echo) ∧
      complementSum (bytes.take 20) = 0xFFFF ∧ checksum (bytes.take 20) = 0 ∧
      (bytes.slice? 2 2).map Bytes.toNat = some (bytes.length % 65536) ∧
      stripHeader bytes = echo.encode ∧
      stripHeader echo.encode = echo.encode := by
  refine ⟨ofPacket?_packet identification source destination echo kind,
    complementSum_take_packet identification source destination echo,
    checksum_take_packet identification source destination echo,
    slice?_packet_length identification source destination echo,
    stripHeader_packet identification source destination echo, stripHeader_encode echo kind⟩

/-- A request whose odd payload begins like a packet. -/
theorem packet_survives_sample :
    let echo : Echo := ⟨requestV4, 9, 3, [0x45, 0, 0, 20, 0]⟩
    let bytes := packet 7 0x64400001 0x64400002 echo
    echo.kind ∈ kinds ∧ bytes.length = 33 ∧
      ofPacket? bytes = some (0x64400001, 0x64400002, echo) ∧
      complementSum (bytes.take 20) = 0xFFFF ∧ checksum (bytes.take 20) = 0 ∧
      (bytes.slice? 2 2).map Bytes.toNat = some (33 % 65536) ∧
      stripHeader bytes = echo.encode ∧ stripHeader echo.encode = echo.encode := by
  exact ⟨by decide, rfl, packet_survives 7 0x64400001 0x64400002
    ⟨requestV4, 9, 3, [0x45, 0, 0, 20, 0]⟩ (by decide)⟩

end MeshNode.Echo
