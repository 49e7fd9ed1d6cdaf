import Mathlib.Data.Option.Basic
import MeshNode.Proofs.ByteReadings
import MeshNode.Proofs.EchoPackets

/-!
# What is read as an echo packet

A packet is read by the length that its first byte states for the header: a front of that length,
and the message behind it. The version, the protocol number and the two addresses stand at fixed
places. A string that is shorter than its stated header, or that states no header at all, is no
packet: what would be its message begins with the first byte, and none of the four kinds looks
like version four.

The main statement says exactly which strings are read, and as what. A header that states at least
twenty bytes is left behind whole: the addresses are read from it alone and the message from what
follows. A header that states less is not refused. The message then begins in the middle of the
twenty bytes that every header has, and bytes of the header are read as an echo.
-/

namespace MeshNode.Echo

/-- What is read as a message has the eight bytes that stand before the payload, and begins with
its kind, which is one of the four. -/
theorem starts_of_decode? (message : Bytes) (echo : Echo) (read : decode? message = some echo) :
    8 ≤ message.length ∧ message[0]? = some echo.kind ∧ echo.kind ∈ kinds := by
  unfold decode? at read
  split at read
  · split at read
    · rename_i kind
      obtain rfl := Option.some.inj read
      exact ⟨by simp, rfl, kind⟩
    · cases read
  · cases read

/-- What looks like a packet is no message. -/
theorem decode?_of_isVersionFour (bytes : Bytes) (first : UInt8) (starts : bytes[0]? = some first)
    (versionFour : isVersionFour first = true) : decode? bytes = none := by
  rw [Option.eq_none_iff_forall_ne_some]
  intro echo read
  obtain ⟨-, kind, echoes⟩ := starts_of_decode? bytes echo read
  obtain rfl : first = echo.kind := Option.some.inj (starts.symm.trans kind)
  rw [isVersionFour_of_mem_kinds echo.kind echoes] at versionFour
  cases versionFour

/-! ## Layout -/

/-- A byte string laid out as a packet of version four: a front as long as the first byte states
and a message behind it, with the protocol number of echo messages and two addresses at their
places. -/
structure Layout (bytes front message : Bytes) (source destination : BitVec 32) : Prop where
  split : bytes = front ++ message
  stated : ∃ first, bytes[0]? = some first ∧ isVersionFour first = true ∧
    front.length = statedLength first
  carries : bytes[9]? = some protocol
  source : addressAt? bytes 12 = some source
  destination : addressAt? bytes 16 = some destination

section Layout

variable {bytes front message : Bytes} {source destination : BitVec 32} {echo : Echo}

/-- An address has all its four bytes. -/
theorem le_length_of_addressAt? {place : Nat} {address : BitVec 32}
    (read : addressAt? bytes place = some address) : place + 4 ≤ bytes.length := by
  obtain ⟨octets, sliced, -⟩ := Option.map_eq_some_iff.mp read
  have whole : ((bytes.drop place).take 4).length = 4 := by
    by_contra short
    rw [Bytes.slice?, if_neg short] at sliced
    cases sliced
  rw [List.length_take, List.length_drop] at whole
  omega

/-- An address that lies in the front is read from the front alone. -/
theorem addressAt?_append (front message : Bytes) (place : Nat)
    (inside : place + 4 ≤ front.length) :
    addressAt? (front ++ message) place = addressAt? front place := by
  rw [addressAt?, addressAt?, Bytes.slice?, Bytes.slice?,
    Bytes.take_drop_append front message place 4 inside]

/-- What is read of a packet is what stands at its fixed places, and the message that is left when
its header is stripped. -/
theorem ofPacket?_eq_some_iff : ofPacket? bytes = some (source, destination, echo) ↔
    ∃ first, bytes[0]? = some first ∧ isVersionFour first = true ∧ bytes[9]? = some protocol ∧
      addressAt? bytes 12 = some source ∧ addressAt? bytes 16 = some destination ∧
      decode? (stripHeader bytes) = some echo := by
  simp only [ofPacket?, Option.bind_eq_bind, Option.bind_eq_some_iff, Option.pure_def,
    Option.some.injEq, Prod.mk.injEq, Option.guard_eq_some']
  constructor
  · rintro ⟨first, starts, number, there, sender, sent, receiver, received, -, ⟨versionFour, rfl⟩,
      read, decoded, rfl, rfl, rfl⟩
    exact ⟨first, starts, versionFour, there, sent, received, decoded⟩
  · rintro ⟨first, starts, versionFour, there, sent, received, decoded⟩
    exact ⟨first, starts, _, there, _, sent, _, received, (), ⟨versionFour, rfl⟩, _, decoded, rfl,
      rfl, rfl⟩

/-- The header of a packet is stripped where the packet has as many bytes as it states. -/
theorem stripHeader_of_stated (first : UInt8) (starts : bytes[0]? = some first)
    (versionFour : isVersionFour first = true) (long : headerLength ≤ bytes.length) :
    stripHeader bytes =
      if statedLength first ≤ bytes.length then bytes.drop (statedLength first) else bytes := by
  rcases bytes with _ | ⟨head, rest⟩
  · cases starts
  · obtain rfl : head = first := Option.some.inj starts
    simp only [stripHeader, long, versionFour, true_and]

/-- A layout states no more bytes than the string has. -/
theorem Layout.drop_stated (layout : Layout bytes front message source destination)
    (first : UInt8) (starts : bytes[0]? = some first) :
    front.length = statedLength first ∧ statedLength first ≤ bytes.length ∧
      bytes.drop (statedLength first) = message := by
  obtain ⟨same, here, -, counts⟩ := layout.stated
  obtain rfl : first = same := Option.some.inj (starts.symm.trans here)
  rw [layout.split, ← counts, List.length_append, List.drop_left]
  exact ⟨rfl, Nat.le_add_right _ _, rfl⟩

/-- A string is read as a packet exactly if it is laid out as one and its message is read. -/
theorem ofPacket?_iff_layout : ofPacket? bytes = some (source, destination, echo) ↔
    ∃ front message, Layout bytes front message source destination ∧
      decode? message = some echo := by
  rw [ofPacket?_eq_some_iff]
  constructor
  · rintro ⟨first, starts, versionFour, carries, sent, received, decoded⟩
    have long : headerLength ≤ bytes.length := le_length_of_addressAt? received
    rw [stripHeader_of_stated first starts versionFour long] at decoded
    split at decoded
    · rename_i enough
      refine ⟨bytes.take (statedLength first), bytes.drop (statedLength first), ?_, decoded⟩
      exact {
        split := (List.take_append_drop _ _).symm
        stated := ⟨first, starts, versionFour, List.length_take_of_le enough⟩
        carries
        source := sent
        destination := received }
    · rw [decode?_of_isVersionFour bytes first starts versionFour] at decoded
      cases decoded
  · rintro ⟨front, message, layout, decoded⟩
    obtain ⟨first, starts, versionFour, -⟩ := layout.stated
    obtain ⟨-, enough, behind⟩ := layout.drop_stated first starts
    have long : headerLength ≤ bytes.length := le_length_of_addressAt? layout.destination
    refine ⟨first, starts, versionFour, layout.carries, layout.source, layout.destination, ?_⟩
    rw [stripHeader_of_stated first starts versionFour long, if_pos enough, behind]
    exact decoded

/-- Where a message is read, the front is a whole header, or it is one to four words long. -/
theorem Layout.whole_or_cut (layout : Layout bytes front message source destination)
    (decoded : decode? message = some echo) :
    headerLength ≤ front.length ∨ front.length ∈ [4, 8, 12, 16] := by
  obtain ⟨first, starts, versionFour, counts⟩ := layout.stated
  have stated : front ≠ [] := by
    rintro rfl
    have whole : bytes = message := layout.split
    rw [← whole, decode?_of_isVersionFour bytes first starts versionFour] at decoded
    cases decoded
  have positive : 0 < front.length := List.length_pos_iff.mpr stated
  simp only [statedLength] at counts
  simp only [headerLength, List.mem_cons, List.not_mem_nil, or_false]
  omega

end Layout

/-- A byte string is read as an echo packet exactly if it is laid out as one: version four in the
first byte, as many bytes as that states for the header, protocol one, and a message of one of the
four kinds behind. The message has at least eight bytes. If the header states its twenty bytes, the
addresses are read from it alone and the message from what follows it. If not, it states one to
four words, and what is read as the message begins inside the twenty bytes. -/
theorem packet_read_iff (bytes : Bytes) (source destination : BitVec 32) (echo : Echo) :
    (ofPacket? bytes = some (source, destination, echo) ↔
      ∃ front message, Layout bytes front message source destination ∧
        decode? message = some echo) ∧
    ∀ front message, Layout bytes front message source destination →
      decode? message = some echo →
      8 ≤ message.length ∧
        ((headerLength ≤ front.length ∧ addressAt? front 12 = some source ∧
            addressAt? front 16 = some destination) ∨
          front.length ∈ [4, 8, 12, 16]) := by
  refine ⟨ofPacket?_iff_layout, ?_⟩
  intro front message layout decoded
  refine ⟨(starts_of_decode? message echo decoded).1, ?_⟩
  refine (layout.whole_or_cut decoded).imp_left fun whole => ⟨whole, ?_, ?_⟩
  · rw [← addressAt?_append front message 12 (Nat.le_trans (by decide) whole),
      ← layout.split]
    exact layout.source
  · rw [← addressAt?_append front message 16 whole, ← layout.split]
    exact layout.destination

/-- A header that states one word. -/
def cutHeader : Bytes :=
  [0x41, 0, 0, 28, 8, 0, 64, 0, 64, 1, 0, 0, 100, 64, 0, 1, 100, 64, 0, 2,
    8, 0, 247, 252, 0, 1, 0, 2]

/-- Bytes of a header are read as an echo: its time to live and its protocol number become the
identifier, its checksum the sequence number, and its addresses part of the payload. The message
behind the twenty bytes is another one. -/
theorem cut_header_read :
    ofPacket? cutHeader = some (0x64400001, 0x64400002,
        ⟨requestV4, 0x4001, 0, [100, 64, 0, 1, 100, 64, 0, 2, 8, 0, 247, 252, 0, 1, 0, 2]⟩) ∧
      statedLength 0x41 = 4 ∧
      decode? (cutHeader.drop headerLength) = some ⟨requestV4, 1, 2, []⟩ := by
  decide +kernel

end MeshNode.Echo
