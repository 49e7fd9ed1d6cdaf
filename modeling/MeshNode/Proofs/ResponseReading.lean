import MeshNode.Proofs.ByteReadings
import MeshNode.Proofs.StunResponses

/-!
# Reading a hostile response

Whatever a datagram holds, it is read without looking beyond it. The reader here goes by
position, as one does that checks every length before it trusts it: the length that the header
declares, the size of each attribute, and the size that an address of its family needs. No access
misses, none reaches beyond the declared length, and the result is what the response reports. A
size that points past the declared length ends the reading, so does an obfuscated address, and
what fills up the last attribute may be missing.

An address is only accepted from a message that has the type of a successful answer, the cookie,
the transaction of the request and all the bytes that it declares. It is then given by an attribute
whose type, size and value lie in the declared body behind other attributes that lie there in full.
-/

namespace MeshNode.Stun

open Bytes (Reading Slice)

/-! ## The reader by position -/

/-- The address in the value of an attribute: a value names its family in its second byte, and
nothing behind the address of the family is looked at. -/
def scanAddress (mask : Bytes) (value : Slice) : Reading (Option SocketAddress) :=
  if value.bytes.length < 4 then return none
  else do
    let family ← value.piece 1 1
    let port ← value.piece 2 2
    let port := UInt16.ofNat (Bytes.toNat (masked mask port.bytes))
    if family.bytes = [1] ∧ 8 ≤ value.bytes.length then
      let bits ← value.piece 4 4
      return some ⟨.v4 (BitVec.ofNat 32 (Bytes.toNat (masked mask bits.bytes))), port, 0⟩
    else if family.bytes = [2] ∧ 20 ≤ value.bytes.length then
      let bits ← value.piece 4 16
      return some ⟨.v6 (BitVec.ofNat 128 (Bytes.toNat (masked mask bits.bytes))), port, 0⟩
    else return none

/-- The verdict where no more attributes are read. -/
def verdict : Option SocketAddress → Except Failure SocketAddress
  | some socket => .ok socket
  | none => .error .invalidResponse

/-- The attributes of a message from a place on, up to where they stop. An obfuscated address ends
the reading; the first plain one is kept in case there is none. -/
def scanAttributes (id : TransactionId) (message : Bytes) (stop place : Nat)
    (kept : Option SocketAddress) : Reading (Except Failure SocketAddress) :=
  if place + 4 ≤ stop then do
    let type ← (Slice.whole message).piece place 2
    let size ← (Slice.whole message).piece (place + 2) 2
    let type := Bytes.toNat type.bytes
    let size := Bytes.toNat size.bytes
    let next := place + 4 + padded size
    if stop < place + 4 + size then return .error .invalidResponse
    else
      let value ← (Slice.whole message).piece (place + 4) size
      if type = obfuscatedType then
        match ← scanAddress (obfuscation id) value with
        | some socket => return .ok socket
        | none => scanAttributes id message stop next kept
      else if type = plainType ∧ kept = none then
        let found ← scanAddress noMask value
        scanAttributes id message stop next found
      else scanAttributes id message stop next kept
  else return verdict kept
termination_by stop - place

/-- The response to a request, read by position. -/
def scanResponse (id : TransactionId) (message : Bytes) :
    Reading (Except Failure SocketAddress) :=
  if message.length < 20 then return .error .invalidResponse
  else do
    let type ← (Slice.whole message).piece 0 2
    if type.bytes ≠ Bytes.ofWord successType then return .error .invalidResponse
    else
      let size ← (Slice.whole message).piece 2 2
      let mark ← (Slice.whole message).piece 4 4
      if mark.bytes ≠ cookie then return .error .invalidResponse
      else
        let transaction ← (Slice.whole message).piece 8 12
        if transaction.bytes ≠ id.bytes then return .error .invalidResponse
        else
          let stop := 20 + Bytes.toNat size.bytes
          if message.length < stop then return .error .invalidResponse
          else scanAttributes id message stop 20 none

theorem decodeAddress?_of_short (mask value : Bytes) (short : value.length < 4) :
    decodeAddress? mask value = none := by
  rw [decodeAddress?]
  intro first family high low rest split
  rw [split] at short
  simp only [List.length_cons] at short
  omega

theorem yields_scanAddress (mask : Bytes) (value : Slice) (limit : Nat)
    (bounded : value.start + value.bytes.length ≤ limit) :
    (scanAddress mask value).Yields limit (decodeAddress? mask value.bytes) := by
  unfold scanAddress
  by_cases short : value.bytes.length < 4
  · rw [if_pos short, decodeAddress?_of_short mask value.bytes short]
    exact Bytes.Reading.yields_pure limit none
  · rw [if_neg short]
    obtain ⟨start, bytes⟩ := value
    obtain ⟨first, family, high, low, rest, rfl⟩ :=
      Bytes.eq_cons_of_four_le bytes (Nat.le_of_not_lt short)
    have cut := fun place count inside =>
      Slice.yields_piece ⟨start, first :: family :: high :: low :: rest⟩ place count limit inside
    have four : 8 ≤ (first :: family :: high :: low :: rest).length ↔ 4 ≤ rest.length := by
      simp only [List.length_cons]
      omega
    have sixteen : 20 ≤ (first :: family :: high :: low :: rest).length ↔ 16 ≤ rest.length := by
      simp only [List.length_cons]
      omega
    simp only [four, sixteen]
    simp only [List.length_cons] at bounded cut
    refine (cut 1 1 (by omega) (by omega)).bind ?_
    refine (cut 2 2 (by omega) (by omega)).bind ?_
    simp only [List.drop_succ_cons, List.drop_zero, List.take_succ_cons, List.take_zero,
      List.cons.injEq, and_true, decodeAddress?]
    split
    case isTrue v4 =>
      refine (cut 4 4 (by omega) (by omega)).bind ?_
      exact Bytes.Reading.yields_pure limit _
    case isFalse notV4 =>
      split
      case isTrue v6 =>
        refine (cut 4 16 (by omega) (by omega)).bind ?_
        exact Bytes.Reading.yields_pure limit _
      case isFalse notV6 => exact Bytes.Reading.yields_pure limit none

/-! ## The attributes by position -/

theorem attributes_of_short (body : Bytes) (short : body.length < 4) :
    attributes body = ([], true) := by
  rw [attributes]
  intro typeHigh typeLow sizeHigh sizeLow rest split
  rw [split] at short
  simp only [List.length_cons] at short
  omega

/-- The first attribute of a body is cut out by its type and size, and the others stand behind what
fills it up. -/
theorem attributes_of_long (body : Bytes) (long : 4 ≤ body.length) :
    attributes body =
      let size := Bytes.toNat ((body.drop 2).take 2)
      let others := attributes (body.drop (padded size + 4))
      if body.length < size + 4 then ([], false)
      else
        (⟨Bytes.toNat (body.take 2), (body.drop 4).take size,
            ((body.drop 4).take (padded size)).drop size⟩ :: others.1, others.2) := by
  obtain ⟨typeHigh, typeLow, sizeHigh, sizeLow, rest, rfl⟩ := Bytes.eq_cons_of_four_le body long
  have word (high low : UInt8) : Bytes.toNat [high, low] = Bytes.word high low := by
    simp [Bytes.toNat, Bytes.word]
  have short (size : Nat) :
      (typeHigh :: typeLow :: sizeHigh :: sizeLow :: rest).length < size + 4 ↔
        rest.length < size := by
    simp only [List.length_cons]
    omega
  rw [attributes]
  simp only [short, word, List.drop_succ_cons, List.drop_zero, List.take_succ_cons, List.take_zero]

theorem firstAddress?_cons (type : Nat) (mask : Bytes) (entry : Attribute)
    (rest : List Attribute) :
    firstAddress? type mask (entry :: rest) =
      if entry.type = type then
        (decodeAddress? mask entry.value).or (firstAddress? type mask rest)
      else firstAddress? type mask rest := by
  unfold firstAddress?
  rw [List.filter_cons]
  simp only [decide_eq_true_eq]
  split
  · rw [List.findSome?_cons]
    cases decodeAddress? mask entry.value <;> rfl
  · rfl

/-- What attributes report where a plain address was kept from earlier ones. -/
def reportedAfter? (id : TransactionId) (kept : Option SocketAddress)
    (found : List Attribute × Bool) : Option SocketAddress :=
  (firstAddress? obfuscatedType (obfuscation id) found.1).or
    (if found.2 then kept.or (firstAddress? plainType noMask found.1) else none)

section Reported

variable (id : TransactionId) (kept : Option SocketAddress) (entry : Attribute)
  (others : List Attribute × Bool)

theorem reportedAfter?_none (found : List Attribute × Bool) :
    reportedAfter? id none found = reportedAddress? id found := by
  unfold reportedAfter? reportedAddress?
  cases firstAddress? obfuscatedType (obfuscation id) found.1 <;> rfl

/-- An obfuscated address decides, and where it cannot be decoded the attribute is skipped. -/
theorem reportedAfter?_obfuscated (typed : entry.type = obfuscatedType) :
    reportedAfter? id kept (entry :: others.1, others.2) =
      (decodeAddress? (obfuscation id) entry.value).or (reportedAfter? id kept others) := by
  have notPlain : ¬obfuscatedType = plainType := by decide
  simp only [reportedAfter?, firstAddress?_cons, typed, if_true, if_neg notPlain, Option.or_assoc]

/-- The first plain address is kept. -/
theorem reportedAfter?_plain (typed : entry.type = plainType) :
    reportedAfter? id none (entry :: others.1, others.2) =
      reportedAfter? id (decodeAddress? noMask entry.value) others := by
  have notObfuscated : ¬plainType = obfuscatedType := by decide
  simp only [reportedAfter?, firstAddress?_cons, typed, if_true, if_neg notObfuscated,
    Option.none_or]

/-- Other attributes are skipped, and so are plain addresses behind one that was kept. -/
theorem reportedAfter?_other (notObfuscated : entry.type ≠ obfuscatedType)
    (notFirst : ¬(entry.type = plainType ∧ kept = none)) :
    reportedAfter? id kept (entry :: others.1, others.2) = reportedAfter? id kept others := by
  simp only [reportedAfter?, firstAddress?_cons, if_neg notObfuscated]
  by_cases plain : entry.type = plainType
  · cases kept with
    | none => exact absurd ⟨plain, rfl⟩ notFirst
    | some socket => rfl
  · rw [if_neg plain]

end Reported

/-- The attributes between a place and the end of the body are read as they are listed there, and
nothing behind the end is looked at. -/
theorem yields_scanAttributes (id : TransactionId) (message : Bytes) (stop limit : Nat)
    (within : stop ≤ message.length) (bounded : stop ≤ limit) (place : Nat)
    (kept : Option SocketAddress) :
    (scanAttributes id message stop place kept).Yields limit
      (verdict (reportedAfter? id kept (attributes ((message.take stop).drop place)))) := by
  -- every attribute moves the place on, and the rest of the body gets shorter
  induction counted : stop - place using Nat.strongRecOn generalizing place kept with
  | ind remaining inductionHypothesis =>
    have length : ((message.take stop).drop place).length = stop - place := by
      rw [List.length_drop, List.length_take, Nat.min_eq_left within]
    rw [scanAttributes]
    split
    case isFalse done =>
      rw [attributes_of_short _ (by omega)]
      have nothing : reportedAfter? id kept ([], true) = kept := by
        simp [reportedAfter?, firstAddress?]
      rw [nothing]
      exact Bytes.Reading.yields_pure limit _
    case isTrue more =>
      have cut (start count : Nat) (inside : start + count ≤ stop) :
          ((Slice.whole message).piece start count).Yields limit
            ⟨start, ((message.take stop).drop start).take count⟩ := by
        have same : ((message.take stop).drop start).take count =
            (message.drop start).take count := by
          rw [List.drop_take, List.take_take, Nat.min_eq_left (by omega)]
        rw [same]
        exact Slice.yields_piece_whole message start count limit
          (Nat.le_trans inside within) (Nat.le_trans inside bounded)
      rw [attributes_of_long _ (by omega)]
      simp only [List.drop_drop, length]
      refine (cut place 2 (by omega)).bind ?_
      refine (cut (place + 2) 2 (by omega)).bind ?_
      dsimp only
      generalize Bytes.toNat (((message.take stop).drop (place + 2)).take 2) = size
      generalize Bytes.toNat (((message.take stop).drop place).take 2) = type
      by_cases overruns : stop < place + 4 + size
      · rw [if_pos overruns, if_pos (by omega)]
        have nothing : reportedAfter? id kept ([], false) = none := by
          simp [reportedAfter?, firstAddress?]
        rw [nothing]
        exact Bytes.Reading.yields_pure limit _
      · rw [if_neg overruns, if_neg (by omega)]
        have behind : place + (padded size + 4) = place + 4 + padded size := by omega
        have shorter : stop - (place + 4 + padded size) < remaining := by omega
        have others := fun kept => inductionHypothesis _ shorter (place + 4 + padded size) kept rfl
        rw [behind]
        refine (cut (place + 4) size (by omega)).bind ?_
        have read := fun mask => yields_scanAddress mask
          ⟨place + 4, ((message.take stop).drop (place + 4)).take size⟩ limit
          (by simp only [List.length_take]; omega)
        split
        case isTrue obfuscated =>
          rw [reportedAfter?_obfuscated id kept _ _ obfuscated]
          refine (read (obfuscation id)).bind ?_
          cases decodeAddress? (obfuscation id) _ with
          | some socket => exact Bytes.Reading.yields_pure limit _
          | none => exact others kept
        case isFalse notObfuscated =>
          split
          case isTrue plain =>
            obtain ⟨typed, rfl⟩ := plain
            rw [reportedAfter?_plain id _ _ typed]
            exact (read noMask).bind (others _)
          case isFalse notFirst =>
            rw [reportedAfter?_other id kept _ _ notObfuscated notFirst]
            exact others kept

/-! ## The header by position -/

/-- The length of the body that a message declares in its header. -/
def declaredLength (message : Bytes) : Nat := Bytes.toNat ((message.drop 2).take 2)

/-- A message has the header of a successful answer to a request, but for its length. -/
def Heads (id : TransactionId) (message : Bytes) : Prop :=
  message.take 2 = Bytes.ofWord successType ∧ (message.drop 4).take 4 = cookie ∧
    (message.drop 8).take 12 = id.bytes

instance (id : TransactionId) (message : Bytes) : Decidable (Heads id message) :=
  inferInstanceAs (Decidable (_ ∧ _ ∧ _))

theorem readResponse_eq_verdict (id : TransactionId) (message : Bytes) :
    readResponse id message =
      verdict
        ((responseBody? id message).bind fun body => reportedAddress? id (attributes body)) := by
  unfold readResponse verdict
  rfl

theorem responseBody?_of_short (id : TransactionId) (message : Bytes)
    (short : message.length < 20) : responseBody? id message = none := by
  have missing : message.slice? 8 12 = none :=
    if_neg (by rw [List.length_take, List.length_drop]; omega)
  unfold responseBody?
  rw [missing]
  cases message.slice? 0 2 <;> cases message.slice? 2 2 <;> cases message.slice? 4 4 <;> rfl

/-- The body of a response stands between its header and the declared end. -/
theorem responseBody?_of_long (id : TransactionId) (message : Bytes)
    (long : 20 ≤ message.length) :
    responseBody? id message =
      if Heads id message ∧ 20 + declaredLength message ≤ message.length then
        some ((message.take (20 + declaredLength message)).drop 20)
      else none := by
  have cut (start count : Nat) (inside : start + count ≤ message.length) :
      message.slice? start count = some ((message.drop start).take count) :=
    if_pos (by rw [List.length_take, List.length_drop]; omega)
  unfold responseBody?
  rw [cut 0 2 (by omega), cut 2 2 (by omega), cut 4 4 (by omega), cut 8 12 (by omega)]
  change ((guard (Heads id message) : Option Unit).bind fun _ =>
    message.slice? 20 (declaredLength message)) = _
  unfold guard
  by_cases heads : Heads id message
  · rw [if_pos heads]
    by_cases fits : 20 + declaredLength message ≤ message.length
    · rw [if_pos ⟨heads, fits⟩, List.drop_take, Nat.add_sub_cancel_left]
      exact cut 20 (declaredLength message) fits
    · rw [if_neg fun both => fits both.2]
      exact if_neg (by rw [List.length_take, List.length_drop]; omega)
  · rw [if_neg heads, if_neg fun both => heads both.1]
    rfl

/-- A response that is read by position gives what it reports. No access misses, and none reaches
beyond the message or the length that it declares. -/
theorem yields_scanResponse (id : TransactionId) (message : Bytes) :
    (scanResponse id message).Yields (min message.length (20 + declaredLength message))
      (readResponse id message) := by
  rw [readResponse_eq_verdict]
  unfold scanResponse
  split
  case isTrue short =>
    rw [responseBody?_of_short id message short]
    exact Bytes.Reading.yields_pure _ _
  case isFalse notShort =>
    have long : 20 ≤ message.length := Nat.le_of_not_lt notShort
    have cut (start count : Nat) (inside : start + count ≤ 20) :=
      Slice.yields_piece_whole message start count
        (min message.length (20 + declaredLength message)) (Nat.le_trans inside long) (by omega)
    rw [responseBody?_of_long id message long]
    refine (cut 0 2 (by omega)).bind ?_
    split
    case isTrue otherType =>
      rw [if_neg fun both => otherType both.1.1]
      exact Bytes.Reading.yields_pure _ _
    case isFalse typed =>
      refine (cut 2 2 (by omega)).bind ((cut 4 4 (by omega)).bind ?_)
      split
      case isTrue unmarked =>
        rw [if_neg fun both => unmarked both.1.2.1]
        exact Bytes.Reading.yields_pure _ _
      case isFalse marked =>
        refine (cut 8 12 (by omega)).bind ?_
        split
        case isTrue foreign =>
          rw [if_neg fun both => foreign both.1.2.2]
          exact Bytes.Reading.yields_pure _ _
        case isFalse own =>
          have heads : Heads id message :=
            ⟨not_not.mp typed, not_not.mp marked, not_not.mp own⟩
          change Bytes.Reading.Yields _
            (if message.length < 20 + declaredLength message then _
              else scanAttributes id message (20 + declaredLength message) 20 none) _
          split
          case isTrue cutShort =>
            rw [if_neg fun both => Nat.not_lt.mpr both.2 cutShort]
            exact Bytes.Reading.yields_pure _ _
          case isFalse complete =>
            have fits : 20 + declaredLength message ≤ message.length :=
              Nat.le_of_not_lt complete
            rw [if_pos ⟨heads, fits⟩, Option.bind_some, ← reportedAfter?_none]
            exact yields_scanAttributes id message _ _ fits (by omega) 20 none

/-! ## What an accepted response holds -/

/-- The bytes of an attribute without what fills it up. -/
def Attribute.content (entry : Attribute) : Bytes :=
  Bytes.ofWord entry.type ++ Bytes.ofWord entry.value.length ++ entry.value

/-- Two bytes are the word that they write. -/
theorem ofWord_toNat (bytes : Bytes) (two : bytes.length = 2) :
    Bytes.ofWord (Bytes.toNat bytes) = bytes := by
  rw [Bytes.ofWord_eq_ofNat, ← two, Bytes.ofNat_toNat]

/-- The first attribute that is listed for a body stands at its front, and the others are those of
what is behind it. -/
theorem front_of_attributes (body : Bytes) (first : Attribute) (others : List Attribute)
    (listed : (attributes body).1 = first :: others) :
    first.type < 65536 ∧
      body = first.content ++ body.drop (first.value.length + 4) ∧
      first.padding = (body.drop (first.value.length + 4)).take
        (padded first.value.length - first.value.length) ∧
      (attributes (body.drop (padded first.value.length + 4))).1 = others := by
  by_cases short : body.length < 4
  · rw [attributes_of_short body short] at listed
    cases listed
  · have long : 4 ≤ body.length := Nat.le_of_not_lt short
    rw [attributes_of_long body long] at listed
    dsimp only at listed
    have sized := ofWord_toNat ((body.drop 2).take 2) (by simp; omega)
    generalize Bytes.toNat ((body.drop 2).take 2) = size at listed sized
    split at listed
    · cases listed
    · obtain ⟨rfl, rfl⟩ := List.cons.inj listed
      have length : ((body.drop 4).take size).length = size := by
        rw [List.length_take, List.length_drop]
        omega
      have typed := ofWord_toNat (body.take 2) (by simp; omega)
      have bounded := Bytes.toNat_lt (body.take 2)
      rw [show (body.take 2).length = 2 by simp; omega] at bounded
      refine ⟨bounded, ?_, ?_, ?_⟩
      · have joined : body.take 2 ++ ((body.drop 2).take 2 ++ ((body.drop 4).take size ++
            body.drop (size + 4))) = body := by
          rw [Nat.add_comm size 4, ← List.drop_drop, List.take_append_drop,
            show body.drop 4 = (body.drop 2).drop 2 by rw [List.drop_drop],
            List.take_append_drop, List.take_append_drop]
        simp only [Attribute.content, length, typed, sized, List.append_assoc]
        exact joined.symm
      · simp only [length, List.drop_take, List.drop_drop, Nat.add_comm size 4]
      · rw [length]

/-- An attribute that is listed for a body lies in it, behind the attributes that are listed before
it, which are filled up there. -/
theorem split_of_attributes (before behind : List Attribute) (entry : Attribute) (body : Bytes)
    (listed : (attributes body).1 = before ++ entry :: behind) :
    (∀ earlier ∈ before, earlier.WellFormed) ∧
      ∃ rest, body = before.flatMap Attribute.encode ++ entry.content ++ rest := by
  induction before generalizing body with
  | nil =>
    obtain ⟨_, split, _⟩ := front_of_attributes body entry behind listed
    exact ⟨nofun, _, split⟩
  | cons first before inductionHypothesis =>
    obtain ⟨typed, split, padding, listedBehind⟩ := front_of_attributes body first _ listed
    obtain ⟨wellFormed, rest, splitBehind⟩ := inductionHypothesis _ listedBehind
    have atLeast : first.value.length ≤ padded first.value.length := by
      unfold padded
      omega
    -- another attribute is listed behind the first one, so what fills it up is there
    have filling : body.drop (first.value.length + 4) =
        first.padding ++ body.drop (padded first.value.length + 4) := by
      have behindIt : body.drop (padded first.value.length + 4) =
          (body.drop (first.value.length + 4)).drop
            (padded first.value.length - first.value.length) := by
        rw [List.drop_drop]
        congr 1
        omega
      rw [padding, behindIt, List.take_append_drop]
    have filled : first.value.length + first.padding.length = padded first.value.length := by
      have more : 4 ≤ (body.drop (padded first.value.length + 4)).length := by
        rw [splitBehind]
        simp [Attribute.content, Bytes.ofWord]
        omega
      rw [List.length_drop] at more
      rw [padding, List.length_take, List.length_drop]
      omega
    constructor
    · intro earlier member
      rcases List.mem_cons.mp member with rfl | member
      · exact ⟨typed, filled⟩
      · exact wellFormed earlier member
    · refine ⟨rest, ?_⟩
      rw [split, filling, splitBehind]
      simp [Attribute.content, Attribute.encode]

theorem exists_of_firstAddress? (type : Nat) (mask : Bytes) (entries : List Attribute)
    (socket : SocketAddress) (found : firstAddress? type mask entries = some socket) :
    ∃ entry ∈ entries, entry.type = type ∧ decodeAddress? mask entry.value = some socket := by
  obtain ⟨entry, listed, decoded⟩ := List.exists_of_findSome?_eq_some found
  obtain ⟨member, typed⟩ := List.mem_filter.mp listed
  exact ⟨entry, member, of_decide_eq_true typed, decoded⟩

/-- An attribute gives an address: it is of one of the two types for addresses, and its value
reports the address, under the cookie and the identifier or as it stands. -/
def Attribute.Gives (id : TransactionId) (entry : Attribute) (socket : SocketAddress) : Prop :=
  entry.type = obfuscatedType ∧
      Reports ([0x21, 0x12, 0xA4, 0x42] ++ id.bytes) entry.value socket ∨
    entry.type = plainType ∧ Reports (List.replicate 16 0) entry.value socket

/-- An address that attributes report is given by one of them. -/
theorem gives_of_reportedAddress? (id : TransactionId) (found : List Attribute × Bool)
    (socket : SocketAddress) (reported : reportedAddress? id found = some socket) :
    ∃ entry ∈ found.1, entry.Gives id socket := by
  unfold reportedAddress? at reported
  split at reported
  · rename_i obfuscated first
    obtain rfl := Option.some.inj reported
    obtain ⟨entry, member, typed, decoded⟩ := exists_of_firstAddress? _ _ _ _ first
    have long : 16 ≤ (obfuscation id).length := Nat.le_of_eq (length_obfuscation id).symm
    have reports := reports_of_decodeAddress? _ _ _ long decoded
    exact ⟨entry, member, Or.inl ⟨typed, reports⟩⟩
  · split at reported
    · obtain ⟨entry, member, typed, decoded⟩ := exists_of_firstAddress? _ _ _ _ reported
      have reports := reports_of_decodeAddress? noMask _ _ (by simp [noMask]) decoded
      exact ⟨entry, member, Or.inr ⟨typed, reports⟩⟩
    · cases reported

/-- A message answers a request with an address: it has the header of a successful answer to this
request and all the bytes that the header declares, and in the declared body stands an attribute
that gives the address. The attributes before it stand there in full; of this one its type, its
length and its value do. -/
structure Answers (id : TransactionId) (message : Bytes) (socket : SocketAddress) : Prop where
  heads : Heads id message
  complete : 20 + declaredLength message ≤ message.length
  given : ∃ (before : List Attribute) (entry : Attribute) (rest : Bytes),
    (message.take (20 + declaredLength message)).drop 20 =
        before.flatMap Attribute.encode ++ entry.content ++ rest ∧
      (∀ earlier ∈ before, earlier.WellFormed) ∧ entry.Gives id socket

theorem answers_of_readResponse (id : TransactionId) (message : Bytes) (socket : SocketAddress)
    (read : readResponse id message = .ok socket) : Answers id message socket := by
  rw [readResponse_eq_verdict] at read
  by_cases short : message.length < 20
  · rw [responseBody?_of_short id message short] at read
    cases read
  · rw [responseBody?_of_long id message (Nat.le_of_not_lt short)] at read
    split at read
    · rename_i accepted
      obtain ⟨heads, complete⟩ := accepted
      refine ⟨heads, complete, ?_⟩
      rw [Option.bind_some] at read
      cases reported : reportedAddress? id
          (attributes ((message.take (20 + declaredLength message)).drop 20)) with
      | none =>
        rw [reported] at read
        cases read
      | some found =>
        rw [reported] at read
        obtain rfl : found = socket := Except.ok.inj read
        obtain ⟨entry, member, gives⟩ := gives_of_reportedAddress? id _ _ reported
        obtain ⟨before, behind, listed⟩ := List.append_of_mem member
        obtain ⟨wellFormed, rest, split⟩ := split_of_attributes before behind entry _ listed
        exact ⟨before, entry, rest, split, wellFormed, gives⟩
    · cases read

theorem declaredLength_append (front behind : Bytes) (long : 4 ≤ front.length) :
    declaredLength (front ++ behind) = declaredLength front :=
  congrArg Bytes.toNat (Bytes.take_drop_append front behind 2 2 long)

/-- What lies behind the declared body changes nothing. -/
theorem readResponse_append (id : TransactionId) (message behind : Bytes)
    (complete : 20 + declaredLength message ≤ message.length) :
    readResponse id (message ++ behind) = readResponse id message := by
  have long : 20 ≤ message.length := by omega
  have longer : message.length ≤ (message ++ behind).length := by simp
  have cut := Bytes.take_drop_append message behind
  have heads : Heads id (message ++ behind) ↔ Heads id message := by
    have type := cut 0 2 (by omega)
    rw [List.drop_zero, List.drop_zero] at type
    rw [Heads, type, cut 4 4 (by omega), cut 8 12 (by omega), Heads]
  have fits : 20 + declaredLength message ≤ (message ++ behind).length := by omega
  rw [readResponse_eq_verdict, readResponse_eq_verdict, responseBody?_of_long id message long,
    responseBody?_of_long id (message ++ behind) (by omega),
    declaredLength_append message behind (by omega), List.take_append_of_le_length complete]
  simp only [heads, complete, fits, and_true]

/-- For every string and every request. The reader by position gives what the response reports: no
access misses, and none reaches beyond the string or the length that it declares; what stands
behind that length may as well be anything else. An address is only accepted from an answer to
this request. -/
theorem response_read_within (id : TransactionId) (message : Bytes) :
    (scanResponse id message).result = some (readResponse id message) ∧
    (∀ access ∈ (scanResponse id message).accesses,
      access.stop ≤ message.length ∧ access.stop ≤ 20 + declaredLength message) ∧
    (∀ front behind other, message = front ++ behind →
      front.length = 20 + declaredLength message →
      readResponse id (front ++ other) = readResponse id message) ∧
    ∀ socket, readResponse id message = .ok socket → Answers id message socket := by
  obtain ⟨result, below⟩ := yields_scanResponse id message
  refine ⟨result, ?_, ?_, answers_of_readResponse id message⟩
  · intro access member
    have bounded := below access member
    omega
  · rintro front behind other rfl length
    rw [declaredLength_append front behind (by omega)] at length
    rw [readResponse_append id front other (by omega),
      readResponse_append id front behind (by omega)]

/-- A response with other bytes behind it is read as the answer that it is. -/
theorem response_read_within_sample :
    let mapped : SocketAddress := ⟨.v4 0xCB007109, 40000, 0⟩
    let message := response Sample.transaction mapped
    message.length = 20 + declaredLength message ∧
      (∀ access ∈ (scanResponse Sample.transaction message).accesses, access.stop ≤ 32) ∧
      readResponse Sample.transaction (message ++ [1, 2, 3]) = .ok mapped ∧
      Answers Sample.transaction message mapped := by
  intro mapped message
  have length : message.length = 20 + declaredLength message := by decide
  have size : message.length = 32 := by decide
  have read : readResponse Sample.transaction message = .ok mapped :=
    readResponse_response Sample.transaction _ _
  obtain ⟨_, below, behind, accepted⟩ := response_read_within Sample.transaction message
  refine ⟨length, ?_, ?_, accepted mapped read⟩
  · intro access member
    exact size ▸ (below access member).1
  · exact (behind message [] [1, 2, 3] (List.append_nil message).symm length).trans read

end MeshNode.Stun
