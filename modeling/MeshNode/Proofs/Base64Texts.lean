import MeshNode.Base64
import MeshNode.Proofs.ByteStrings
import MeshNode.Proofs.Outcomes

/-!
# Texts in Base64

Bytes have one spelling in each of the two modes: with the padding, and the same without it. They
are read back from it, and nothing else is read: a reader that gives bytes was given their
spelling. Three bytes and four symbols determine each other; in the last group the bits that carry
no byte have to be zero, and the padding is as long as the mode wants it.

The unpadded spelling has no `=`, and the padded one is the same with the fill behind it.
-/

namespace MeshNode.Base64

/-! ## Symbols -/

/-- The code of a character of the alphabet. -/
def code (c : Char) : UInt8 := UInt8.ofNat c.toNat

theorem value?_symbol : ∀ value < 64, value? (code (symbol value)) = some value := by
  decide +kernel

theorem code_equals : code '=' = pad := by decide

theorem code_symbol_ne_pad : ∀ value < 64, code (symbol value) ≠ pad := by decide +kernel

theorem value?_lt (c : UInt8) (value : Nat) (read : value? c = some value) : value < 64 := by
  unfold value? at read
  grind

/-- No two codes have one value. -/
theorem value?_inj (c d : UInt8) (value : Nat) (first : value? c = some value)
    (second : value? d = some value) : c = d := by
  rw [← UInt8.toNat_inj]
  unfold value? at first second
  grind

/-- A code with a value is that of the symbol. -/
theorem symbol_of_value? (c : UInt8) (value : Nat) (read : value? c = some value) :
    value < 64 ∧ code (symbol value) = c := by
  have small := value?_lt c value read
  exact ⟨small, value?_inj _ _ value (value?_symbol value small) read⟩

theorem symbol_ne_equals (value : Nat) : symbol value ≠ '=' := by
  intro same
  by_cases small : value < 64
  · exact code_symbol_ne_pad value small (by rw [same, code_equals])
  · have count : alphabet.length = 64 := by decide +kernel
    rw [symbol, List.getD_eq_getElem?_getD, List.getElem?_eq_none (by omega)] at same
    exact absurd same (by decide)

/-! ## Spellings -/

/-- What fills so many places at the end of a text. -/
def Padding.fill : Padding → (places : Nat) → List Char
  | .required, places => List.replicate places '='
  | .forbidden, _ => []

/-- The spelling of bytes: with the padding, or the same without it. -/
def spelling : Padding → Bytes → List Char
  | .required, bytes => encodeChars bytes
  | .forbidden, bytes => (encodeChars bytes).filter (· ≠ '=')

section Spelling

variable (padding : Padding)

@[simp] theorem spelling_nil : spelling padding [] = [] := by cases padding <;> rfl

theorem spelling_one (a : UInt8) :
    spelling padding [a] =
      symbol (a.toNat / 4) :: symbol (a.toNat % 4 * 16) :: padding.fill 2 := by
  cases padding
  · rfl
  · simp [spelling, encodeChars, Padding.fill, symbol_ne_equals]

theorem spelling_two (a b : UInt8) :
    spelling padding [a, b] =
      symbol (a.toNat / 4) :: symbol (a.toNat % 4 * 16 + b.toNat / 16) ::
        symbol (b.toNat % 16 * 4) :: padding.fill 1 := by
  cases padding
  · rfl
  · simp [spelling, encodeChars, Padding.fill, symbol_ne_equals]

theorem spelling_group (a b c : UInt8) (rest : Bytes) :
    spelling padding (a :: b :: c :: rest) =
      symbol (a.toNat / 4) :: symbol (a.toNat % 4 * 16 + b.toNat / 16) ::
        symbol (b.toNat % 16 * 4 + c.toNat / 64) :: symbol (c.toNat % 64) ::
          spelling padding rest := by
  cases padding
  · rfl
  · simp [spelling, encodeChars, symbol_ne_equals]

/-- Every byte string but the empty one has symbols. -/
theorem spelling_cons (first : UInt8) (rest : Bytes) :
    ∃ c cs, spelling padding (first :: rest) = c :: cs := by
  match rest with
  | [] => exact ⟨_, _, spelling_one padding first⟩
  | [second] => exact ⟨_, _, spelling_two padding first second⟩
  | second :: third :: rest => exact ⟨_, _, spelling_group padding first second third rest⟩

/-- No spelling has a single place behind whole groups. -/
theorem length_spelling (bytes : Bytes) : (spelling padding bytes).length % 4 ≠ 1 := by
  induction bytes using encodeChars.induct with
  | case1 => simp
  | case2 a => rw [spelling_one]; cases padding <;> simp [Padding.fill]
  | case3 a b => rw [spelling_two]; cases padding <;> simp [Padding.fill]
  | case4 a b c rest inductionHypothesis =>
    rw [spelling_group]
    simp only [List.length_cons]
    omega

/-- What carries only a part of the last group ends with the padding. -/
theorem spelling_required (bytes : Bytes) :
    spelling .required bytes =
      spelling .forbidden bytes ++ List.replicate ((3 - bytes.length % 3) % 3) '=' := by
  induction bytes using encodeChars.induct with
  | case1 => rfl
  | case2 a => simp [spelling_one, Padding.fill]
  | case3 a b => simp [spelling_two, Padding.fill]
  | case4 a b c rest inductionHypothesis =>
    have same : (a :: b :: c :: rest).length % 3 = rest.length % 3 := by
      simp only [List.length_cons]
      omega
    rw [spelling_group, spelling_group, inductionHypothesis, same]
    simp only [List.cons_append]

theorem equals_not_mem (bytes : Bytes) : '=' ∉ spelling .forbidden bytes := by
  simp [spelling]

end Spelling

/-- A character that may stand in a text in Base64. -/
def Stands (c : Char) : Prop := c.toNat < 128 ∧ Text.isBlank c = false

theorem stands_symbol (value : Nat) : Stands (symbol value) := by
  have all : (alphabet.all fun c => decide (c.toNat < 128) && !Text.isBlank c) = true := by
    decide +kernel
  unfold symbol
  rw [List.getD_eq_getElem?_getD]
  cases found : alphabet[value]? with
  | none => exact ⟨by decide, by decide⟩
  | some c =>
    have stands := List.all_eq_true.mp all c (List.mem_of_getElem? found)
    simpa [Stands] using stands

theorem stands_encodeChars (bytes : Bytes) : ∀ c ∈ encodeChars bytes, Stands c := by
  have equals : Stands '=' := ⟨by decide, by decide⟩
  induction bytes using encodeChars.induct with
  | case4 a b c rest inductionHypothesis =>
    simpa [encodeChars, stands_symbol] using inductionHypothesis
  | _ => simp [encodeChars, stands_symbol, equals]

theorem stands_spelling (padding : Padding) (bytes : Bytes) :
    ∀ c ∈ spelling padding bytes, Stands c := by
  intro c member
  cases padding with
  | required => exact stands_encodeChars bytes c member
  | forbidden => exact stands_encodeChars bytes c (List.mem_filter.mp member).1

/-- The bytes of a spelling are the codes of its characters. -/
theorem ofText_spelling (padding : Padding) (bytes : Bytes) :
    Bytes.ofText (String.ofList (spelling padding bytes)) = (spelling padding bytes).map code :=
  Bytes.ofText_ofList _ fun c member => (stands_spelling padding bytes c member).1

/-! ## Spellings are read -/

/-- A symbol of the last group is read. -/
theorem lastSymbols_symbol (start index value : Nat) (values : List Nat) (last : UInt8)
    (pads : Nat) (rest : Bytes) (bounded : value < 64) :
    lastSymbols start index values last none pads (code (symbol value) :: rest) =
      lastSymbols start (index + 1) (value :: values) (code (symbol value)) none pads rest := by
  rw [lastSymbols, if_neg (code_symbol_ne_pad value bounded)]
  simp only [value?_symbol value bounded]

/-- The four values of three bytes are read back as these bytes. -/
theorem groupBytes_values (a b c : UInt8) :
    groupBytes (a.toNat / 4) (a.toNat % 4 * 16 + b.toNat / 16) (b.toNat % 16 * 4 + c.toNat / 64)
      (c.toNat % 64) = [a, b, c] := by
  have := a.toNat_lt
  have := b.toNat_lt
  have := c.toNat_lt
  simp only [groupBytes, List.cons.injEq, and_true, ← UInt8.toNat_inj, UInt8.toNat_ofNat']
  omega

theorem lastBytes_two (start : Nat) (last : UInt8) (a : UInt8) :
    lastBytes start last [a.toNat / 4, a.toNat % 4 * 16] = .ok [a] := by
  have := a.toNat_lt
  have filled : ¬ a.toNat % 4 * 16 % 16 ≠ 0 := by omega
  rw [lastBytes, if_neg filled]
  simp only [Except.ok.injEq, List.cons.injEq, and_true, ← UInt8.toNat_inj, UInt8.toNat_ofNat']
  omega

theorem lastBytes_three (start : Nat) (last : UInt8) (a b : UInt8) :
    lastBytes start last [a.toNat / 4, a.toNat % 4 * 16 + b.toNat / 16, b.toNat % 16 * 4] =
      .ok [a, b] := by
  have := a.toNat_lt
  have := b.toNat_lt
  have filled : ¬ b.toNat % 16 * 4 % 4 ≠ 0 := by omega
  rw [lastBytes, if_neg filled]
  simp only [Except.ok.injEq, List.cons.injEq, and_true, ← UInt8.toNat_inj, UInt8.toNat_ofNat']
  omega

/-- Bytes are read back from the codes of their spelling. -/
theorem decodeGroups_spelling (padding : Padding) (bytes : Bytes) (start : Nat) :
    decodeGroups padding start ((spelling padding bytes).map code) = .ok bytes := by
  induction bytes using encodeChars.induct generalizing start with
  | case1 => cases padding <;> rfl
  | case2 a =>
    have := a.toNat_lt
    rw [spelling_one]
    cases padding <;>
      simp only [List.map_cons, List.map_nil, Padding.fill, code_equals,
        List.replicate_succ, List.replicate_zero, decodeGroups, decodeLast] <;>
      rw [lastSymbols_symbol _ _ _ _ _ _ _ (by omega),
        lastSymbols_symbol _ _ _ _ _ _ _ (by omega)] <;>
      simp [lastSymbols, Padding.fits, lastBytes_two]
  | case3 a b =>
    have := a.toNat_lt
    have := b.toNat_lt
    rw [spelling_two]
    cases padding <;>
      simp only [List.map_cons, List.map_nil, Padding.fill, code_equals,
        List.replicate_succ, List.replicate_zero, decodeGroups, decodeLast] <;>
      rw [lastSymbols_symbol _ _ _ _ _ _ _ (by omega),
        lastSymbols_symbol _ _ _ _ _ _ _ (by omega),
        lastSymbols_symbol _ _ _ _ _ _ _ (by omega)] <;>
      simp [lastSymbols, Padding.fits, lastBytes_three]
  | case4 a b c rest inductionHypothesis =>
    have := a.toNat_lt
    have := b.toNat_lt
    have := c.toNat_lt
    have group := groupBytes_values a b c
    rw [spelling_group]
    cases rest with
    | nil =>
      simp only [spelling_nil, List.map_cons, List.map_nil, decodeGroups, decodeLast]
      rw [lastSymbols_symbol _ _ _ _ _ _ _ (by omega), lastSymbols_symbol _ _ _ _ _ _ _ (by omega),
        lastSymbols_symbol _ _ _ _ _ _ _ (by omega), lastSymbols_symbol _ _ _ _ _ _ _ (by omega)]
      cases padding <;> simp [lastSymbols, Padding.fits, lastBytes, group]
    | cons d rest =>
      have others := inductionHypothesis (start + 4)
      obtain ⟨e, symbols, more⟩ := spelling_cons padding d rest
      rw [more, List.map_cons] at others
      have read (offset value : Nat) (bounded : value < 64) :
          valueAt offset (code (symbol value)) = .ok value := by
        simp [valueAt, value?_symbol value bounded]
      simp only [more, List.map_cons, decodeGroups]
      rw [read _ _ (by omega), read _ _ (by omega), read _ _ (by omega), read _ _ (by omega),
        others]
      exact congrArg (fun front => Except.ok (front ++ d :: rest)) group

/-! ## Nothing else is read -/

/-- Four values are the values of the three bytes that they come to. -/
theorem spelling_groupBytes (padding : Padding) (a b c d : Nat) (rest : Bytes)
    (boundedA : a < 64) (boundedB : b < 64) (boundedC : c < 64) (boundedD : d < 64) :
    spelling padding (groupBytes a b c d ++ rest) =
      symbol a :: symbol b :: symbol c :: symbol d :: spelling padding rest := by
  have first : (a * 4 + b / 16) % 2 ^ 8 / 4 = a := by omega
  have second :
      (a * 4 + b / 16) % 2 ^ 8 % 4 * 16 + (b % 16 * 16 + c / 4) % 2 ^ 8 / 16 = b := by omega
  have third :
      (b % 16 * 16 + c / 4) % 2 ^ 8 % 16 * 4 + (c % 4 * 64 + d) % 2 ^ 8 / 64 = c := by omega
  have fourth : (c % 4 * 64 + d) % 2 ^ 8 % 64 = d := by omega
  simp only [groupBytes, List.cons_append, List.nil_append, spelling_group, UInt8.toNat_ofNat',
    first, second, third, fourth]

/-- Two values that leave no bit over are the values of one byte. -/
theorem spelling_of_two (padding : Padding) (a b : Nat) (boundedA : a < 64) (boundedB : b < 64)
    (filled : b % 16 = 0) :
    spelling padding [UInt8.ofNat (a * 4 + b / 16)] = symbol a :: symbol b :: padding.fill 2 := by
  have first : (a * 4 + b / 16) % 2 ^ 8 / 4 = a := by omega
  have second : (a * 4 + b / 16) % 2 ^ 8 % 4 * 16 = b := by omega
  simp only [spelling_one, UInt8.toNat_ofNat', first, second]

/-- Three values that leave no bit over are the values of two bytes. -/
theorem spelling_of_three (padding : Padding) (a b c : Nat) (boundedA : a < 64)
    (boundedB : b < 64) (boundedC : c < 64) (filled : c % 4 = 0) :
    spelling padding [UInt8.ofNat (a * 4 + b / 16), UInt8.ofNat (b % 16 * 16 + c / 4)] =
      symbol a :: symbol b :: symbol c :: padding.fill 1 := by
  have first : (a * 4 + b / 16) % 2 ^ 8 / 4 = a := by omega
  have second :
      (a * 4 + b / 16) % 2 ^ 8 % 4 * 16 + (b % 16 * 16 + c / 4) % 2 ^ 8 / 16 = b := by omega
  have third : (b % 16 * 16 + c / 4) % 2 ^ 8 % 16 * 4 = c := by omega
  simp only [spelling_two, UInt8.toNat_ofNat', first, second, third]

/-- What is read of a last group: some symbols and behind them some padding, which begins in the
third place at the earliest. Behind padding there is only padding. -/
theorem split_of_lastSymbols (start index : Nat) (values : List Nat) (last : UInt8)
    (firstPad : Option Nat) (pads : Nat) (codes : Bytes) (outcome : List Nat × UInt8 × Nat)
    (read : lastSymbols start index values last firstPad pads codes = .ok outcome) :
    ∃ more count, codes = more.map (fun value => code (symbol value)) ++ List.replicate count pad ∧
      (∀ value ∈ more, value < 64) ∧ outcome.1 = values.reverse ++ more ∧
      outcome.2.2 = pads + count ∧ (firstPad.isSome → more = []) ∧
      (0 < count → 2 ≤ index + more.length) := by
  induction codes generalizing index values last firstPad pads with
  | nil =>
    obtain rfl := Except.ok.inj read
    exact ⟨[], 0, rfl, nofun, by simp, rfl, fun _ => rfl, nofun⟩
  | cons c rest inductionHypothesis =>
    rw [lastSymbols.eq_def] at read
    dsimp only at read
    split at read
    · rename_i padded
      split at read
      · cases read
      · rename_i late
        obtain ⟨more, count, rfl, bounded, outcomeValues, outcomePads, silent, -⟩ :=
          inductionHypothesis _ _ _ _ _ read
        obtain rfl := silent rfl
        refine ⟨[], count + 1, ?_, nofun, outcomeValues, ?_, fun _ => rfl, fun _ => by omega⟩
        · rw [padded, List.replicate_succ]
          rfl
        · omega
    · split at read
      · cases read
      · split at read
        · cases read
        · rename_i value known
          obtain ⟨small, rfl⟩ := symbol_of_value? c value known
          obtain ⟨more, count, rfl, bounded, outcomeValues, outcomePads, -, places⟩ :=
            inductionHypothesis _ _ _ _ _ read
          refine ⟨value :: more, count, rfl, ?_, ?_, outcomePads, nofun, fun filled => ?_⟩
          · exact List.forall_mem_cons.mpr ⟨small, bounded⟩
          · rw [outcomeValues, List.reverse_cons, List.append_assoc]
            rfl
          · have := places filled
            rw [List.length_cons]
            omega

/-- The padding that a mode wants behind some symbols is what fills the group. -/
theorem fill_of_fits (padding : Padding) (symbols pads : Nat) (two : 2 ≤ symbols)
    (short : symbols + pads ≤ 4) (fits : padding.fits symbols pads = true) :
    List.replicate pads pad = (padding.fill (4 - symbols)).map code := by
  cases padding with
  | required =>
    have whole : (symbols + pads) % 4 = 0 := by simpa [Padding.fits] using fits
    have rest : pads = 4 - symbols := by omega
    rw [Padding.fill, List.map_replicate, code_equals, rest]
  | forbidden =>
    obtain rfl : pads = 0 := by simpa [Padding.fits] using fits
    rfl

/-- What the values of a last group come to has their symbols as its spelling, filled up to four
places. -/
theorem spelling_of_lastBytes (padding : Padding) (start : Nat) (last : UInt8) (values : List Nat)
    (bytes : Bytes) (bounded : ∀ value ∈ values, value < 64) (given : values ≠ [])
    (few : values.length ≤ 4) (read : lastBytes start last values = .ok bytes) :
    2 ≤ values.length ∧
      spelling padding bytes = values.map symbol ++ padding.fill (4 - values.length) := by
  match values with
  | [] => exact absurd rfl given
  | [a] => cases read
  | [a, b] =>
    simp only [List.forall_mem_cons] at bounded
    rw [lastBytes] at read
    split at read
    · cases read
    · rename_i filled
      obtain rfl := Except.ok.inj read
      exact ⟨by simp, spelling_of_two padding a b bounded.1 bounded.2.1 (by omega)⟩
  | [a, b, c] =>
    simp only [List.forall_mem_cons] at bounded
    rw [lastBytes] at read
    split at read
    · cases read
    · rename_i filled
      obtain rfl := Except.ok.inj read
      exact ⟨by simp,
        spelling_of_three padding a b c bounded.1 bounded.2.1 bounded.2.2.1 (by omega)⟩
  | a :: b :: c :: d :: rest =>
    simp only [List.forall_mem_cons] at bounded
    simp only [List.length_cons] at few
    obtain rfl : rest = [] := List.length_eq_zero_iff.mp (by omega)
    obtain rfl := Except.ok.inj read
    have group := spelling_groupBytes padding a b c d [] bounded.1 bounded.2.1 bounded.2.2.1
      bounded.2.2.2.1
    rw [List.append_nil, spelling_nil] at group
    refine ⟨by simp, ?_⟩
    rw [group]
    cases padding <;> rfl

/-- A last group of at most four places that is read was a spelling. -/
theorem eq_spelling_of_decodeLast (padding : Padding) (start : Nat) (codes bytes : Bytes)
    (short : codes.length ≤ 4) (read : decodeLast padding start codes = .ok bytes) :
    codes = (spelling padding bytes).map code := by
  rw [decodeLast] at read
  split at read
  · cases read
  rename_i values last pads symbols
  obtain ⟨more, count, rfl, bounded, sameValues, samePads, -, places⟩ :=
    split_of_lastSymbols _ _ _ _ _ _ _ _ symbols
  simp only [List.reverse_nil, List.nil_append, Nat.zero_add] at sameValues samePads places
  subst sameValues samePads
  rw [List.length_append, List.length_map, List.length_replicate] at short
  split at read
  · cases read
  rename_i fitting
  have fits : values.length ≠ 1 → padding.fits values.length pads = true := by
    simpa using fitting
  by_cases given : values = []
  · subst given
    obtain rfl : pads = 0 := by
      by_contra filled
      have := places (by omega)
      simp at this
    obtain rfl := Except.ok.inj read
    simp
  · obtain ⟨two, spelled⟩ := spelling_of_lastBytes padding start last values bytes bounded given
      (by omega) read
    rw [fill_of_fits padding values.length pads two short (fits (by omega)), spelled,
      List.map_append, List.map_map]
    rfl

/-- A symbol of a whole group is read by its value. -/
theorem symbol_of_valueAt (offset : Nat) (c : UInt8) (value : Nat)
    (read : valueAt offset c = .ok value) : value < 64 ∧ code (symbol value) = c := by
  unfold valueAt at read
  split at read
  · rename_i known
    obtain rfl := Except.ok.inj read
    exact symbol_of_value? c _ known
  · cases read

/-- What is read as bytes is their spelling. -/
theorem eq_spelling_of_decodeGroups (padding : Padding) (start : Nat) (codes bytes : Bytes)
    (read : decodeGroups padding start codes = .ok bytes) :
    codes = (spelling padding bytes).map code := by
  fun_induction decodeGroups padding start codes generalizing bytes with
  | case1 start a b c d e rest inductionHypothesis =>
    simp only [Outcome.bind_eq_ok_iff] at read
    obtain ⟨first, readFirst, second, readSecond, third, readThird, fourth, readFourth, tail,
      readTail, same⟩ := read
    obtain rfl := Except.ok.inj same
    obtain ⟨boundedFirst, rfl⟩ := symbol_of_valueAt _ _ _ readFirst
    obtain ⟨boundedSecond, rfl⟩ := symbol_of_valueAt _ _ _ readSecond
    obtain ⟨boundedThird, rfl⟩ := symbol_of_valueAt _ _ _ readThird
    obtain ⟨boundedFourth, rfl⟩ := symbol_of_valueAt _ _ _ readFourth
    have others : e :: rest = (spelling padding tail).map code := inductionHypothesis tail readTail
    rw [spelling_groupBytes padding first second third fourth tail boundedFirst boundedSecond
      boundedThird boundedFourth, others]
    rfl
  | case2 start codes short =>
    refine eq_spelling_of_decodeLast padding start codes bytes ?_ read
    match codes with
    | [] | [_] | [_, _] | [_, _, _] | [_, _, _, _] => simp
    | a :: b :: c :: d :: e :: rest => exact (short a b c d e rest rfl).elim

/-! ## Whole texts -/

/-- Codes are read as bytes exactly if they are those of the spelling. -/
theorem decodeCodes_eq_ok_iff (padding : Padding) (codes bytes : Bytes) :
    decodeCodes padding codes = .ok bytes ↔ codes = (spelling padding bytes).map code := by
  unfold decodeCodes
  split
  · rename_i last ends
    constructor
    · intro read
      split at read
      · cases read
      · exact eq_spelling_of_decodeGroups padding 0 codes bytes read
    · rintro rfl
      rw [if_neg, decodeGroups_spelling]
      rintro ⟨lone, -⟩
      rw [List.length_map] at lone
      exact length_spelling padding bytes lone
  · rename_i empty
    obtain rfl := List.getLast?_eq_none_iff.mp empty
    constructor
    · intro read
      obtain rfl := Except.ok.inj read
      simp
    · intro spelled
      match bytes with
      | [] => rfl
      | first :: rest =>
        obtain ⟨c, cs, symbols⟩ := spelling_cons padding first rest
        rw [symbols] at spelled
        cases spelled

/-- A text is read as bytes exactly if it is their spelling. -/
theorem decode_eq_ok_iff (padding : Padding) (cs : List Char) (bytes : Bytes) :
    decode padding (String.ofList cs) = .ok bytes ↔ cs = spelling padding bytes := by
  rw [decode, decodeCodes_eq_ok_iff, ← ofText_spelling, Bytes.ofText_inj, String.ofList_inj]

end MeshNode.Base64
