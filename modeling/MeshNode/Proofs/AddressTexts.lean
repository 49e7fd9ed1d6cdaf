import MeshNode.Network
import MeshNode.Proofs.Numerals

/-!
# The texts of addresses and prefixes

Every address and every prefix is read back from its text, host bits included, and none is taken
for one of the other family.

An octet or a group is read back because what separates it from the next is no digit. That the run
of zeros which is left out is the longest does not matter for the reader: any run of at least two
would do. The attempt to read an embedded address of version four comes before every group, and it
fails because no dot follows a group.
-/

namespace MeshNode

namespace Address

open Text

variable {spelling : Spelling} (usual : spelling = .plain ∨ spelling = .loose)

/-! ## Version four -/

theorem toList_dotted (n : Nat) : (dotted n).toList =
    Nat.toDigits 10 (n / 16777216 % 256) ++ '.' :: (Nat.toDigits 10 (n / 65536 % 256) ++
      '.' :: (Nat.toDigits 10 (n / 256 % 256) ++ '.' :: Nat.toDigits 10 (n % 256))) := by
  have dot : (toString ".").toList = ['.'] := rfl
  simp [dotted, dot]

include usual in
theorem numeral_octet (n : Nat) (rest : List Char) (bounded : n < 256)
    (stops : Stops 10 rest) :
    numeral spelling.octet (Nat.toDigits 10 n ++ rest) = some (n, rest) := by
  have room : 0 < 3 ∧ n < 10 ^ 3 := by omega
  rcases usual with rfl | rfl <;>
    exact numeral_toDigits _ n rest (by decide) (by decide) bounded
      (by rintro _ ⟨⟩; exact room) stops

include usual in
/-- Four octets with dots between them are read back. -/
theorem readV4_dotted (n : Nat) (rest : List Char) (stops : Stops 10 rest) :
    readV4 spelling ((dotted n).toList ++ rest) = some (BitVec.ofNat 32 n, rest) := by
  have dot : ∀ rest, Stops 10 ('.' :: rest) := fun rest => stops_cons rest (by decide)
  have octet : ∀ m rest, Stops 10 rest →
      numeral spelling.octet (Nat.toDigits 10 (m % 256) ++ rest) = some (m % 256, rest) :=
    fun m rest stops => numeral_octet usual _ rest (Nat.mod_lt _ (by decide)) stops
  have number : BitVec.ofNat 32 (((n / 16777216 % 256 * 256 + n / 65536 % 256) * 256 +
      n / 256 % 256) * 256 + n % 256) = BitVec.ofNat 32 n := by
    apply BitVec.eq_of_toNat_eq
    simp only [BitVec.toNat_ofNat]
    omega
  simp [toList_dotted, readV4, character, octet, dot, stops, number]

/-! ## Groups of version six -/

/-- Nothing that stands in front continues an address. -/
def Closes (rest : List Char) : Prop := ∀ c ∈ rest.head?, digit? 16 c = none ∧ c ≠ ':' ∧ c ≠ '.'

/-- Nothing that stands in front continues a group. -/
def EndsGroup (rest : List Char) : Prop := ∀ c ∈ rest.head?, digit? 16 c = none ∧ c ≠ '.'

/-- Groups with a colon before each. -/
def separated (groups : List Nat) : List Char :=
  groups.flatMap fun group => ':' :: Nat.toDigits 16 group

theorem closes_nil : Closes [] := nofun

theorem Closes.endsGroup {rest : List Char} (closes : Closes rest) : EndsGroup rest :=
  fun c front => ⟨(closes c front).1, (closes c front).2.2⟩

theorem endsGroup_colon (rest : List Char) : EndsGroup (':' :: rest) := by
  rintro _ ⟨⟩
  decide

theorem EndsGroup.stops {rest : List Char} (ends : EndsGroup rest) : Stops 16 rest :=
  fun c front => (ends c front).1

/-- What is no digit in base sixteen is none in base ten. -/
theorem EndsGroup.stops_ten {rest : List Char} (ends : EndsGroup rest) : Stops 10 rest := by
  intro c front
  have other := (ends c front).1
  simp only [digit?, Option.filter_eq_none_iff, decide_eq_true_eq] at other ⊢
  intro value read small
  exact other value read (by omega)

theorem endsGroup_separated (groups : List Nat) (rest : List Char) (ends : EndsGroup rest) :
    EndsGroup (separated groups ++ rest) := by
  cases groups with
  | nil => exact ends
  | cons group others => exact endsGroup_colon _

theorem numeral_group (n : Nat) (rest : List Char) (bounded : n < 65536) (ends : EndsGroup rest) :
    numeral hexGroup (Nat.toDigits 16 n ++ rest) = some (n, rest) :=
  numeral_toDigits hexGroup n rest (by decide) (by decide) bounded
    (by rintro _ ⟨⟩; exact ⟨by decide, bounded⟩) ends.stops

include usual in
/-- Where no digit stands, there is no address of version four. -/
theorem readV4_of_stops (cs : List Char) (stops : Stops 10 cs) : readV4 spelling cs = none := by
  have none : numeral spelling.octet cs = none := by
    rcases usual with rfl | rfl <;> exact numeral_of_stops _ cs stops
  simp [readV4, none]

include usual in
/-- A group is not the beginning of an address of version four. -/
theorem readV4_group (group : Nat) (rest : List Char) (ends : EndsGroup rest) :
    readV4 spelling (Nat.toDigits 16 group ++ rest) = none := by
  have inside : ∀ c ∈ Nat.toDigits 16 group, c ≠ '.' := by
    rintro c member rfl
    exact absurd (by decide) (isDigit_of_mem_toDigits 16 group (by decide) (by decide) '.' member)
  have undotted := digits_head_ne 10 '.' _ rest inside (fun c front => (ends c front).2)
    ends.stops_ten
  cases first : numeral spelling.octet (Nat.toDigits 16 group ++ rest) with
  | none => simp [readV4, first]
  | some octet =>
    have behind := numeral_behind spelling.octet _ octet first
    have base : spelling.octet.base = 10 := by rcases usual with rfl | rfl <;> rfl
    rw [base] at behind
    rw [← behind] at undotted
    simp [readV4, first, character_none '.' octet.2 undotted]

/-- No group stands where an address is closed or a gap begins. -/
inductive EndsGroups : List Char → Prop where
  | closed {rest : List Char} (closes : Closes rest) : EndsGroups rest
  | gap (rest : List Char) : EndsGroups (':' :: ':' :: rest)

theorem EndsGroups.endsGroup {rest : List Char} (ends : EndsGroups rest) : EndsGroup rest := by
  cases ends with
  | closed closes => exact closes.endsGroup
  | gap rest => exact endsGroup_colon _

include usual in
theorem readGroups_of_ends (rest : List Char) (ends : EndsGroups rest) (limit : Nat)
    (first : Bool) : readGroups spelling limit first rest = ([], false, rest) := by
  -- Behind the separator, if there is one, no digit stands.
  have undigited : ∀ behind, groupSeparator first rest = some behind → EndsGroup behind := by
    intro behind separates
    cases first with
    | true =>
      obtain rfl := Option.some.inj separates
      exact ends.endsGroup
    | false =>
      cases ends with
      | closed closes =>
        have none := character_none ':' rest fun c front => (closes c front).2.1
        simp [groupSeparator, none] at separates
      | gap rest =>
        obtain rfl : ':' :: rest = behind := by simpa [groupSeparator, character] using separates
        exact endsGroup_colon rest
  cases limit with
  | zero => rfl
  | succ limit =>
    have unembedded : (groupSeparator first rest).bind (readV4 spelling) = none := by
      rw [Option.bind_eq_none_iff]
      exact fun behind separates =>
        readV4_of_stops usual behind (undigited behind separates).stops_ten
    have ungrouped : (groupSeparator first rest).bind (numeral hexGroup) = none := by
      rw [Option.bind_eq_none_iff]
      exact fun behind separates =>
        numeral_of_stops hexGroup behind (undigited behind separates).stops
    simp [readGroups, unembedded, ungrouped]

include usual in
/-- One group is read, and the others behind it. -/
theorem readGroups_group (limit group : Nat) (first : Bool) (cs rest : List Char)
    (bounded : group < 65536) (ends : EndsGroup rest)
    (separates : groupSeparator first cs = some (Nat.toDigits 16 group ++ rest)) :
    readGroups spelling (limit + 1) first cs =
      (group :: (readGroups spelling limit false rest).1,
        (readGroups spelling limit false rest).2) := by
  have unembedded : readV4 spelling (Nat.toDigits 16 group ++ rest) = none :=
    readV4_group usual group rest ends
  have grouped := numeral_group group rest bounded ends
  simp [readGroups, separates, unembedded, grouped]

include usual in
/-- Groups with a colon before each are read back. -/
theorem readGroups_separated (groups : List Nat) (bounded : ∀ group ∈ groups, group < 65536)
    (limit : Nat) (fits : groups.length ≤ limit) (rest : List Char) (ends : EndsGroups rest) :
    readGroups spelling limit false (separated groups ++ rest) = (groups, false, rest) := by
  induction groups generalizing limit with
  | nil => exact readGroups_of_ends usual rest ends limit false
  | cons group others inductionHypothesis =>
    obtain ⟨limit, rfl⟩ : ∃ less, limit = less + 1 := ⟨limit - 1, by simp at fits; omega⟩
    have behind : EndsGroup (separated others ++ rest) :=
      endsGroup_separated others rest ends.endsGroup
    have separates : groupSeparator false (separated (group :: others) ++ rest) =
        some (Nat.toDigits 16 group ++ (separated others ++ rest)) := by
      simp [groupSeparator, separated, character]
    rw [readGroups_group usual limit group false _ _ (bounded group List.mem_cons_self) behind
      separates, inductionHypothesis (fun other member =>
        bounded other (List.mem_cons_of_mem _ member)) limit (by simpa using fits)]

theorem toList_colons (group : Nat) (others : List Nat) :
    (colons (group :: others)).toList = Nat.toDigits 16 group ++ separated others := by
  induction others generalizing group with
  | nil => simp [colons, joined, hexadecimal, separated]
  | cons other rest inductionHypothesis =>
    have joins : colons (group :: other :: rest) =
        hexadecimal group ++ ":" ++ colons (other :: rest) := String.intercalate_cons_cons
    rw [joins, String.toList_append, inductionHypothesis]
    simp [hexadecimal, separated]

include usual in
/-- Groups with colons between them are read back. -/
theorem readGroups_colons (groups : List Nat) (bounded : ∀ group ∈ groups, group < 65536)
    (limit : Nat) (fits : groups.length ≤ limit) (rest : List Char) (ends : EndsGroups rest) :
    readGroups spelling limit true ((colons groups).toList ++ rest) = (groups, false, rest) := by
  cases groups with
  | nil => exact readGroups_of_ends usual rest ends limit true
  | cons group others =>
    obtain ⟨limit, rfl⟩ : ∃ less, limit = less + 1 := ⟨limit - 1, by simp at fits; omega⟩
    have behind : EndsGroup (separated others ++ rest) :=
      endsGroup_separated others rest ends.endsGroup
    rw [toList_colons, List.append_assoc, readGroups_group usual limit group true _ _
      (bounded group List.mem_cons_self) behind rfl, readGroups_separated usual others
        (fun other member => bounded other (List.mem_cons_of_mem _ member)) limit
        (by simpa using fits) rest ends]

/-! ## The run of zeros -/

/-- Where a run of zeros is found, there is one. -/
theorem zeros_of_zeroRuns (groups : List Nat) (place run : Nat)
    (found : (zeroRuns groups)[place]? = some run) :
    ∃ behind, groups.drop place = List.replicate run 0 ++ behind := by
  induction groups generalizing place run with
  | nil => simp [zeroRuns] at found
  | cons group rest inductionHypothesis =>
    cases place with
    | succ place => exact inductionHypothesis place run (by simpa [zeroRuns] using found)
    | zero =>
      simp only [zeroRuns, List.getElem?_cons_zero, Option.some.injEq] at found
      split at found
      · rename_i zero
        subst zero found
        cases runs : zeroRuns rest with
        | nil => exact ⟨rest, rfl⟩
        | cons first others =>
          obtain ⟨behind, zeros⟩ := inductionHypothesis 0 first (by simp [runs])
          exact ⟨behind, by simpa [List.replicate_succ] using zeros⟩
      · subst found
        exact ⟨group :: rest, rfl⟩

/-- The longest run is one of the runs, and it is not shorter than two. -/
theorem longestRun_found (runs : List Nat) (place run : Nat)
    (longest : longestRun runs = some (place, run)) : 2 ≤ run ∧ runs[place]? = some run := by
  -- The best pair is the first one, of length zero, or it was met.
  have met : ∀ (pairs : List (Nat × Nat)) (best : Nat × Nat),
      let last := pairs.foldl (fun best pair =>
        if best.2 < pair.1 then (pair.2, pair.1) else best) best
      last = best ∨ (last.2, last.1) ∈ pairs := by
    intro pairs
    induction pairs with
    | nil => exact fun best => Or.inl rfl
    | cons pair rest inductionHypothesis =>
      intro best
      by_cases better : best.2 < pair.1
      · rcases inductionHypothesis (pair.2, pair.1) with same | later
        · simp [better, same]
        · simp [better, later]
      · rcases inductionHypothesis best with same | later
        · simp [better, same]
        · simp [better, later]
  simp only [longestRun, Option.ite_none_right_eq_some, Option.some.injEq] at longest
  obtain ⟨long, best⟩ := longest
  rw [best] at long
  refine ⟨long, ?_⟩
  rcases met runs.zipIdx (0, 0) with none | found
  · obtain ⟨_, rfl⟩ := Prod.mk.inj (best.symm.trans none)
    omega
  · rw [best] at found
    exact List.mem_zipIdx_iff_getElem?.mp found

/-- The run that is left out stands in the middle, and it is not shorter than two. -/
theorem split_of_longestRun (groups : List Nat) (place run : Nat)
    (longest : longestRun (zeroRuns groups) = some (place, run)) : 2 ≤ run ∧
      groups = groups.take place ++ List.replicate run 0 ++ groups.drop (place + run) := by
  obtain ⟨long, found⟩ := longestRun_found _ place run longest
  obtain ⟨behind, zeros⟩ := zeros_of_zeroRuns groups place run found
  have rest : groups.drop (place + run) = behind := by
    rw [← List.drop_drop, zeros, List.drop_left' (List.length_replicate)]
  refine ⟨long, ?_⟩
  rw [rest, List.append_assoc, ← zeros, List.take_append_drop]

/-! ## Version six -/

theorem groups_bounded (n : Nat) : ∀ group ∈ groupsOf n, group < 65536 := by
  intro group member
  obtain ⟨place, _, rfl⟩ := List.mem_map.mp member
  exact Nat.mod_lt _ (by decide)

theorem length_groupsOf (n : Nat) : (groupsOf n).length = 8 := by simp [groupsOf]

/-- A number is written by its groups. -/
theorem ofGroups_groupsOf (n : Nat) : ofGroups (groupsOf n) = BitVec.ofNat 128 n := by
  apply BitVec.eq_of_toNat_eq
  simp only [ofGroups, groupsOf, List.range_succ, List.range_zero, List.nil_append,
    List.cons_append, List.map_cons, List.map_nil, List.foldl_cons, List.foldl_nil,
    BitVec.toNat_ofNat, Nat.shiftRight_eq_div_pow]
  omega

theorem toList_mapped (n : Nat) : (s!"::ffff:{dotted n}").toList =
    ':' :: ':' :: (Nat.toDigits 16 65535 ++ ':' :: (dotted n).toList) := by
  have front : (toString "::ffff:").toList =
    ':' :: ':' :: (Nat.toDigits 16 65535 ++ [':']) := by decide
  have same : (toString (dotted n)).toList = (dotted n).toList := rfl
  simp [front, same]

theorem toList_gap (front back : List Nat) : (s!"{colons front}::{colons back}").toList =
    (colons front).toList ++ ':' :: ':' :: (colons back).toList := by
  have gap : (toString "::").toList = [':', ':'] := rfl
  have same (groups : List Nat) : (toString (colons groups)).toList = (colons groups).toList := rfl
  simp [gap, same]

include usual in
/-- Groups before a gap and what is read behind it make an address. -/
theorem readV6_of_gap (front back : List Nat) (ended : Bool) (cs rest : List Char)
    (bounded : ∀ group ∈ front, group < 65536) (short : front.length < 8)
    (read : readGroups spelling (8 - spelling.leastGap - front.length) true cs =
      (back, ended, rest)) :
    readV6 spelling ((colons front).toList ++ ':' :: ':' :: cs) =
      some (ofGroups (front ++ List.replicate (8 - front.length - back.length) 0 ++ back),
        rest) := by
  have before := readGroups_colons usual front bounded 8 short.le _ (.gap cs)
  simp [readV6, before, short.ne, character, read]

include usual in
/-- An address that embeds one of version four is read back. -/
theorem readV6_mapped (n : Nat) (mapped : n / 2 ^ 32 = 0xFFFF) (rest : List Char)
    (closes : Closes rest) :
    readV6 spelling ((s!"::ffff:{dotted n}").toList ++ rest) =
      some (BitVec.ofNat 128 n, rest) := by
  have embedded := readV4_dotted usual n rest closes.endsGroup.stops_ten
  have read : readGroups spelling (8 - spelling.leastGap - 0) true
      (Nat.toDigits 16 65535 ++ (':' :: ((dotted n).toList ++ rest))) =
        ([65535, n % 2 ^ 32 / 65536, n % 2 ^ 32 % 65536], true, rest) := by
    obtain ⟨limit, enough⟩ : ∃ limit, 8 - spelling.leastGap - 0 = limit + 1 + 1 + 1 := by
      rcases usual with rfl | rfl <;> exact ⟨_, rfl⟩
    rw [enough, readGroups_group usual _ 65535 true _ _ (by decide) (endsGroup_colon _) rfl]
    simp [readGroups, groupSeparator, character, embedded]
  have number : ofGroups ([] ++ List.replicate (8 - 0 - 3) 0 ++
      [65535, n % 2 ^ 32 / 65536, n % 2 ^ 32 % 65536]) = BitVec.ofNat 128 n := by
    apply BitVec.eq_of_toNat_eq
    simp [ofGroups]
    omega
  rw [toList_mapped, List.cons_append, List.cons_append, List.append_assoc, List.cons_append]
  exact (readV6_of_gap usual [] _ true _ rest nofun (by decide) read).trans
    (congrArg (fun bits => some (bits, rest)) number)

include usual in
/-- Groups are read back, whether a run of zeros is left out or not. -/
theorem readV6_compressed (n : Nat) (rest : List Char) (closes : Closes rest) :
    readV6 spelling ((compressed n).toList ++ rest) = some (BitVec.ofNat 128 n, rest) := by
  have least : spelling.leastGap ≤ 1 := by rcases usual with rfl | rfl <;> decide
  unfold compressed
  simp only
  split
  · have read := readGroups_colons usual (groupsOf n) (groups_bounded n) 8
      (length_groupsOf n).le rest (.closed closes)
    simp [readV6, read, length_groupsOf, ofGroups_groupsOf]
  · rename_i place run longest
    obtain ⟨long, all⟩ := split_of_longestRun _ place run longest
    have bounded := groups_bounded n
    have eight := length_groupsOf n
    generalize (groupsOf n).take place = front, (groupsOf n).drop (place + run) = back at all ⊢
    rw [all] at bounded eight
    simp only [List.length_append, List.length_replicate] at eight
    have read := readGroups_colons usual back (fun group member => bounded group (by simp [member]))
      (8 - spelling.leastGap - front.length) (by omega) rest (.closed closes)
    have gap : 8 - front.length - back.length = run := by omega
    rw [toList_gap, List.append_assoc, List.cons_append, List.cons_append,
      readV6_of_gap usual front back false _ rest (fun group member =>
        bounded group (by simp [member])) (by omega) read, gap, ← all, ofGroups_groupsOf]

include usual in
/-- An address of version six is read back. -/
theorem readV6_printV6 (n : Nat) (rest : List Char) (closes : Closes rest) :
    readV6 spelling ((printV6 n).toList ++ rest) = some (BitVec.ofNat 128 n, rest) := by
  unfold printV6
  split
  · rename_i mapped
    rw [Nat.shiftRight_eq_div_pow] at mapped
    exact readV6_mapped usual n mapped rest closes
  · exact readV6_compressed usual n rest closes

theorem printV6_front (n : Nat) : (∃ behind, (printV6 n).toList = ':' :: behind) ∨
    ∃ group behind, (printV6 n).toList = Nat.toDigits 16 group ++ ':' :: behind := by
  unfold printV6
  split
  · exact Or.inl ⟨_, toList_mapped n⟩
  · unfold compressed
    simp only
    split
    · exact Or.inr ⟨_, _, toList_colons _ _⟩
    · rename_i place run longest
      rw [toList_gap]
      cases (groupsOf n).take place with
      | nil => exact Or.inl ⟨_, rfl⟩
      | cons group others =>
        rw [toList_colons, List.append_assoc]
        cases others with
        | nil => exact Or.inr ⟨group, _, rfl⟩
        | cons other others => exact Or.inr ⟨group, _, rfl⟩

include usual in
/-- An address of version six is not taken for one of version four. -/
theorem readV4_printV6 (n : Nat) (rest : List Char) :
    readV4 spelling ((printV6 n).toList ++ rest) = none := by
  rcases printV6_front n with ⟨behind, front⟩ | ⟨group, behind, front⟩
  · rw [front]
    exact readV4_of_stops usual _ (endsGroup_colon _).stops_ten
  · rw [front, List.append_assoc]
    exact readV4_group usual group _ (endsGroup_colon _)

/-! ## Whole addresses -/

theorem parseV4?_print (bits : BitVec 32) : parseV4? (Address.v4 bits).print = some bits := by
  have read := readV4_dotted (.inl rfl) bits.toNat [] (stops_nil 10)
  rw [List.append_nil] at read
  simp [parseV4?, whole, print, read]

theorem parseV6?_print (bits : BitVec 128) : parseV6? (Address.v6 bits).print = some bits := by
  have read := readV6_printV6 (.inl rfl) bits.toNat [] closes_nil
  rw [List.append_nil] at read
  simp [parseV6?, whole, print, read]

/-- Every address is read back from its text. -/
theorem parse?_print (address : Address) : parse? address.print = some address := by
  cases address with
  | v4 bits => simp [parse?, parseV4?_print]
  | v6 bits =>
    have other := readV4_printV6 (.inl rfl) bits.toNat []
    rw [List.append_nil] at other
    have refused : parseV4? (Address.v6 bits).print = none := by
      simp [parseV4?, whole, print, other]
    simp [parse?, refused, parseV6?_print]

end Address

namespace Network

open Address Text

theorem toList_print (network : Network) : network.print.toList =
    network.address.print.toList ++ '/' :: Nat.toDigits 10 network.length := by
  have slash : (toString "/").toList = ['/'] := rfl
  have same : (toString network.address.print).toList = network.address.print.toList := rfl
  simp [Network.print, slash, same]

theorem closes_slash (rest : List Char) : Closes ('/' :: rest) := by
  rintro _ ⟨⟩
  decide

/-- Every prefix is read back from its text. -/
theorem parse?_print (network : Network) : parse? network.print = some network := by
  obtain ⟨address, length, fits⟩ := network
  have text := toList_print ⟨address, length, fits⟩
  have closes := closes_slash (Nat.toDigits 10 length)
  cases address with
  | v4 bits =>
    have most : length ≤ 32 := fits
    have read := readV4_dotted (.inr rfl) bits.toNat _ closes.endsGroup.stops_ten
    have counted : numeral lengthV4 (Nat.toDigits 10 length ++ []) = some (length, []) :=
      numeral_toDigits lengthV4 length [] (by decide) (by decide) (by simp [lengthV4]; omega)
        (by simp [lengthV4]; omega) (stops_nil 10)
    rw [List.append_nil] at counted
    have whole : whole readV4Network (print ⟨.v4 bits, length, fits⟩) = some (bits, length) := by
      simp [whole, text, readV4Network, Address.print, read, character, counted]
    simp [parse?, whole, ofParts?, fits]
  | v6 bits =>
    have most : length ≤ 128 := fits
    have read := readV6_printV6 (.inr rfl) bits.toNat _ closes
    have other := readV4_printV6 (.inr rfl) bits.toNat ('/' :: Nat.toDigits 10 length)
    have counted : numeral lengthV6 (Nat.toDigits 10 length ++ []) = some (length, []) :=
      numeral_toDigits lengthV6 length [] (by decide) (by decide) (by simp [lengthV6]; omega)
        (by simp [lengthV6]; omega) (stops_nil 10)
    rw [List.append_nil] at counted
    have refused : whole readV4Network (print ⟨.v6 bits, length, fits⟩) = none := by
      simp [whole, text, readV4Network, Address.print, other]
    have whole : whole readV6Network (print ⟨.v6 bits, length, fits⟩) = some (bits, length) := by
      simp [whole, text, readV6Network, Address.print, read, character, counted]
    simp [parse?, refused, whole, ofParts?, fits]

end Network

end MeshNode
