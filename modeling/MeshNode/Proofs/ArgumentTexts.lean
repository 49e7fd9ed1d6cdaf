import MeshNode.Proofs.AddressTexts
import MeshNode.Proofs.Numerals

/-!
# Texts that travel in commands

What a command is told in its arguments can be read back from them: socket addresses, numbers, and
lists of prefixes with commas between them, because no prefix has a comma. Of what a command
answers two things are asked: whether words occur in it, and whether it has a line that is not
blank.
-/

namespace MeshNode

namespace Text

/-! ## Words in a text -/

theorem isSome_stripFront?_iff (front cs : List Char) :
    (stripFront? front cs).isSome = true ↔ front <+: cs := by
  induction front generalizing cs with
  | nil => simp [stripFront?]
  | cons c front inductionHypothesis =>
    cases cs with
    | nil => simp [stripFront?]
    | cons d rest =>
      rw [stripFront?, List.cons_prefix_cons]
      split
      · rename_i same
        simp [same, inductionHypothesis]
      · rename_i other
        simp [other]

/-- Words occur in a text if the text has them as a piece. -/
theorem occursIn_iff (words s : String) :
    occursIn words s = true ↔ words.toList <:+: s.toList := by
  unfold occursIn
  induction s.toList with
  | nil => simp [beginsWithin]
  | cons c rest inductionHypothesis =>
    rw [beginsWithin, Bool.or_eq_true, isSome_stripFront?_iff, inductionHypothesis,
      List.infix_cons_iff]

/-! ## Pieces of a text -/

section Pieces

variable (separator : Char)

theorem splitAt_of_not_mem (cs : List Char) (absent : separator ∉ cs) :
    splitAt separator cs = [cs] := by
  induction cs with
  | nil => rfl
  | cons c rest inductionHypothesis =>
    obtain ⟨other, behind⟩ : separator ≠ c ∧ separator ∉ rest := by simpa using absent
    rw [splitAt, if_neg (Ne.symm other), inductionHypothesis behind]

theorem splitAt_append_cons (piece rest : List Char) (absent : separator ∉ piece) :
    splitAt separator (piece ++ separator :: rest) = piece :: splitAt separator rest := by
  induction piece with
  | nil => simp [splitAt]
  | cons c piece inductionHypothesis =>
    obtain ⟨other, behind⟩ : separator ≠ c ∧ separator ∉ piece := by simpa using absent
    rw [List.cons_append, splitAt, if_neg (Ne.symm other), inductionHypothesis behind]

/-- Parts without the separator are the pieces of what they are joined to. -/
theorem splitAt_joined (first : String) (others : List String)
    (absent : ∀ part ∈ first :: others, separator ∉ part.toList) :
    splitAt separator (joined (String.singleton separator) (first :: others)).toList =
      (first :: others).map String.toList := by
  induction others generalizing first with
  | nil =>
    have alone := splitAt_of_not_mem separator first.toList (absent first List.mem_cons_self)
    simpa [joined] using alone
  | cons second others inductionHypothesis =>
    have joins : joined (String.singleton separator) (first :: second :: others) =
        first ++ String.singleton separator ++
          joined (String.singleton separator) (second :: others) :=
      String.intercalate_cons_cons
    have behind := inductionHypothesis second fun part member =>
      absent part (List.mem_cons_of_mem first member)
    rw [joins, String.toList_append, String.toList_append, String.toList_singleton,
      List.append_assoc, List.singleton_append,
      splitAt_append_cons separator _ _ (absent first List.mem_cons_self), behind]
    rfl

/-- A text has the characters of its pieces, and the separator. -/
theorem exists_mem_splitAt_iff (cs : List Char) (c : Char) (other : c ≠ separator) :
    (∃ piece ∈ splitAt separator cs, c ∈ piece) ↔ c ∈ cs := by
  induction cs with
  | nil => simp [splitAt]
  | cons d rest inductionHypothesis =>
    rw [splitAt]
    split
    · rename_i same
      simp [inductionHypothesis, same, other]
    · cases pieces : splitAt separator rest with
      | nil => simp_all
      | cons piece pieces' => simp_all [or_assoc]

end Pieces

/-! ## Numbers -/

/-- A number is read back from its decimal digits. -/
theorem number?_repr (n : Nat) : number? 10 n.repr.toList = some n := by
  obtain ⟨ds, read, value, -⟩ := exists_digits_toDigits 10 n (by decide) (by decide)
  have digits : (Nat.toDigits 10 n).mapM (digit? 10) = some ds := (mapM_eq_some_iff _ _ _).mpr read
  simp [number?, digits, value]

/-- No numeral has a comma. -/
theorem comma_not_mem_toDigits (base n : Nat) (proper : 1 < base) (small : base ≤ 16) :
    ',' ∉ Nat.toDigits base n := by
  intro member
  refine isDigit_of_mem_toDigits base n proper small ',' member ?_
  simp [digit?]

end Text

namespace Address

open Text

/-! ## No prefix has a comma -/

theorem comma_not_mem_dotted (n : Nat) : ',' ∉ (dotted n).toList := by
  simp [toList_dotted, comma_not_mem_toDigits 10]

theorem comma_not_mem_colons (groups : List Nat) : ',' ∉ (colons groups).toList := by
  cases groups with
  | nil => simp [colons, joined]
  | cons group others => simp [toList_colons, separated, comma_not_mem_toDigits 16]

theorem comma_not_mem_print (address : Address) : ',' ∉ address.print.toList := by
  cases address with
  | v4 bits => exact comma_not_mem_dotted bits.toNat
  | v6 bits =>
    rw [print, printV6]
    split
    · rw [toList_mapped]
      simp [comma_not_mem_toDigits 16, comma_not_mem_dotted]
    · unfold compressed
      simp only
      split
      · exact comma_not_mem_colons _
      · rw [toList_gap]
        simp [comma_not_mem_colons]

end Address

theorem Network.comma_not_mem_print (network : Network) : ',' ∉ network.print.toList := by
  simp [Network.toList_print, network.address.comma_not_mem_print,
    Text.comma_not_mem_toDigits 10]

/-! ## Socket addresses -/

namespace SocketAddress

open Address Text

/-- Only addresses of version six have a scope. -/
def Proper (socket : SocketAddress) : Prop := socket.address.family = .v4 → socket.scope = 0

theorem toList_print_v4 (bits : BitVec 32) (port : UInt16) (scope : UInt32) :
    (print ⟨.v4 bits, port, scope⟩).toList =
      (dotted bits.toNat).toList ++ ':' :: Nat.toDigits 10 port.toNat := by
  have colon : (toString ":").toList = [':'] := rfl
  have same : (toString (dotted bits.toNat)).toList = (dotted bits.toNat).toList := rfl
  simp [print, Address.print, colon, same]

/-- What stands between the address and the bracket that closes it. -/
def scopeText (scope : UInt32) : List Char :=
  if scope = 0 then [] else '%' :: Nat.toDigits 10 scope.toNat

theorem toList_print_v6 (bits : BitVec 128) (port : UInt16) (scope : UInt32) :
    (print ⟨.v6 bits, port, scope⟩).toList =
      '[' :: ((printV6 bits.toNat).toList ++
        (scopeText scope ++ ']' :: ':' :: Nat.toDigits 10 port.toNat)) := by
  have opening : (toString "[").toList = ['['] := rfl
  have closing : (toString "]:").toList = [']', ':'] := rfl
  have behind : (toString (if scope = 0 then "" else s!"%{scope.toNat}")).toList =
      scopeText scope := by
    have percent : (toString "%").toList = ['%'] := rfl
    unfold scopeText
    split
    · rfl
    · change (toString "%" ++ toString scope.toNat).toList = _
      simp [percent]
  have same : (toString (printV6 bits.toNat)).toList = (printV6 bits.toNat).toList := rfl
  unfold print
  simpa [Address.print, opening, closing, same] using behind

theorem numeral_port (port : UInt16) :
    numeral portNumber (Nat.toDigits 10 port.toNat) = some (port.toNat, []) := by
  have read := numeral_toDigits portNumber port.toNat [] (by decide) (by decide)
    port.toNat_lt nofun (stops_nil 10)
  rwa [List.append_nil] at read

/-- A scope is read back, and where none is printed it is zero. -/
theorem readScope_scopeText (scope : UInt32) (rest : List Char) :
    readScope (scopeText scope ++ ']' :: rest) = (scope.toNat, ']' :: rest) := by
  have stops : Stops 10 (']' :: rest) := stops_cons rest (by decide)
  have read : numeral scopeNumber (Nat.toDigits 10 scope.toNat ++ ']' :: rest) =
      some (scope.toNat, ']' :: rest) :=
    numeral_toDigits scopeNumber _ _ (by decide) (by decide) scope.toNat_lt nofun stops
  unfold scopeText
  split
  · rename_i zero
    simp [readScope, character, zero]
  · simp [readScope, character, read]

theorem closes_scopeText (scope : UInt32) (rest : List Char) :
    Closes (scopeText scope ++ ']' :: rest) := by
  unfold scopeText
  split
  · rintro _ ⟨⟩
    decide
  · rintro _ ⟨⟩
    decide

/-- Every socket address is read back from its text. -/
theorem parse?_print (socket : SocketAddress) (proper : socket.Proper) :
    parse? socket.print = some socket := by
  obtain ⟨address, port, scope⟩ := socket
  cases address with
  | v4 bits =>
    obtain rfl : scope = 0 := proper rfl
    have read := readV4_dotted (.inl rfl) bits.toNat (':' :: Nat.toDigits 10 port.toNat)
      (stops_cons _ (by decide))
    have text := toList_print_v4 bits port 0
    simp [parse?, whole, text, readV4Socket, read, character, numeral_port]
  | v6 bits =>
    have text := toList_print_v6 bits port scope
    have other : readV4 .plain (print ⟨.v6 bits, port, scope⟩).toList = none := by
      rw [text]
      exact readV4_of_stops (.inl rfl) _ (stops_cons _ (by decide))
    have read := readV6_printV6 (.inl rfl) bits.toNat _
      (closes_scopeText scope (':' :: Nat.toDigits 10 port.toNat))
    have refused : whole readV4Socket (print ⟨.v6 bits, port, scope⟩) = none := by
      simp [whole, readV4Socket, other]
    have whole : whole readV6Socket (print ⟨.v6 bits, port, scope⟩) =
        some ⟨.v6 bits, port, scope⟩ := by
      simp [whole, text, readV6Socket, read, character, readScope_scopeText, numeral_port]
    simp [parse?, refused, whole]

end SocketAddress

end MeshNode
