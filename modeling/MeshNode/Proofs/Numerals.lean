import Mathlib.Data.List.Forall2
import Mathlib.Data.Nat.Digits.Defs
import MeshNode.Address

/-!
# Numerals

A number is written without leading zeros, and a reader takes the longest run of digits that stands
in front. So a number is read back, under every rule of spelling that has room for it, if what
stands behind it is not a digit.
-/

namespace MeshNode

/-- A list is read exactly if each of its elements is. -/
theorem mapM_eq_some_iff {α β : Type} (read : α → Option β) (as : List α) (bs : List β) :
    as.mapM read = some bs ↔ List.Forall₂ (fun a b => read a = some b) as bs := by
  induction as generalizing bs with
  | nil => simp [eq_comm]
  | cons a rest inductionHypothesis =>
    simp [List.forall₂_cons_left_iff, ← inductionHypothesis, Option.bind_eq_some_iff,
      eq_comm (b := bs)]

namespace Text

/-- What stands in front is not a digit. -/
def Stops (base : Nat) (cs : List Char) : Prop := ∀ c ∈ cs.head?, digit? base c = none

/-- Each character is the digit of a number. -/
def Digits (base : Nat) (cs : List Char) (ds : List Nat) : Prop :=
  List.Forall₂ (fun c d => digit? base c = some d) cs ds

theorem stops_nil (base : Nat) : Stops base [] := nofun

theorem stops_cons {base : Nat} {c : Char} (rest : List Char) (other : digit? base c = none) :
    Stops base (c :: rest) := by
  rintro _ ⟨⟩
  exact other

theorem digit?_digitChar (base digit : Nat) (small : base ≤ 16) (fits : digit < base) :
    digit? base digit.digitChar = some digit := by
  have hexadecimal : ∀ digit < 16, digit? 16 digit.digitChar = some digit := by decide
  have value := hexadecimal digit (by omega)
  simp only [digit?, Option.filter_eq_some_iff, decide_eq_true_eq] at value ⊢
  exact ⟨value.1, fits⟩

theorem ofDigits_append_singleton (base : Nat) (front : List Nat) (last : Nat) :
    ofDigits base (front ++ [last]) = ofDigits base front * base + last := by
  simp [ofDigits]

/-- The longest run of digits ends where what is no digit begins. -/
theorem digits_append {base : Nat} {cs rest : List Char} {ds : List Nat}
    (read : Digits base cs ds) (stops : Stops base rest) :
    digits base (cs ++ rest) = (ds, rest) := by
  induction read with
  | nil =>
    cases rest with
    | nil => rfl
    | cons c rest => simp [digits, stops c rfl]
  | cons first _ inductionHypothesis => simp [digits, first, inductionHypothesis]

/-- A number's numeral has no leading zero. -/
theorem exists_digits_toDigits (base n : Nat) (proper : 1 < base) (small : base ≤ 16) :
    ∃ ds, Digits base (Nat.toDigits base n) ds ∧ ofDigits base ds = n ∧
      (ds.head? = some 0 → ds.length ≤ 1) := by
  induction n using Nat.strong_induction_on with
  | _ n inductionHypothesis =>
    rcases Nat.lt_or_ge n base with fits | long
    · refine ⟨[n], ?_, by simp [ofDigits], by simp⟩
      rw [Nat.toDigits_of_lt_base fits]
      exact .cons (digit?_digitChar base n small fits) .nil
    · obtain ⟨front, read, value, canonical⟩ :=
        inductionHypothesis (n / base) (Nat.div_lt_self (by omega) proper)
      have positive : 0 < n / base := Nat.div_pos long (by omega)
      refine ⟨front ++ [n % base], ?_, ?_, fun zero => absurd value ?_⟩
      · rw [Nat.toDigits_of_base_le proper long]
        exact List.rel_append read
          (.cons (digit?_digitChar base (n % base) small (Nat.mod_lt n (by omega))) .nil)
      · rw [ofDigits_append_singleton, value]
        exact Nat.div_add_mod' n base
      · -- A zero in front would be all of the front, which is not zero.
        match front with
        | [] => exact positive.ne
        | [digit] =>
          obtain rfl : digit = 0 := by simpa using zero
          simpa [ofDigits] using positive.ne
        | _ :: _ :: _ =>
          have alone := canonical (by simpa using zero)
          simp at alone

theorem isDigit_of_mem_toDigits (base n : Nat) (proper : 1 < base) (small : base ≤ 16) (c : Char)
    (member : c ∈ Nat.toDigits base n) : digit? base c ≠ none := by
  obtain ⟨ds, read, -⟩ := exists_digits_toDigits base n proper small
  generalize Nat.toDigits base n = cs at member read
  induction read with
  | nil => cases member
  | cons first _ inductionHypothesis =>
    rcases List.mem_cons.mp member with rfl | later
    · simp [first]
    · exact inductionHypothesis later

/-- A run of digits does not stop at a character that occurs nowhere in front of its end. -/
theorem digits_head_ne (base : Nat) (mark : Char) (cs rest : List Char)
    (inside : ∀ c ∈ cs, c ≠ mark) (behind : ∀ c ∈ rest.head?, c ≠ mark)
    (stops : Stops base rest) : ∀ c ∈ (digits base (cs ++ rest)).2.head?, c ≠ mark := by
  induction cs with
  | nil =>
    have none : digits base ([] ++ rest) = ([], rest) := digits_append .nil stops
    rw [none]
    exact behind
  | cons c cs inductionHypothesis =>
    rw [List.cons_append, digits]
    split
    · rintro _ ⟨⟩
      exact inside c List.mem_cons_self
    · exact inductionHypothesis fun other member => inside other (List.mem_cons_of_mem _ member)

end Text

namespace Address

open Text

/-- Where no digit stands, there is no numeral. -/
theorem numeral_of_stops (rule : Numeral) (cs : List Char) (stops : Stops rule.base cs) :
    numeral rule cs = none := by
  have empty : digits rule.base ([] ++ cs) = ([], cs) := digits_append .nil stops
  rw [List.nil_append] at empty
  simp [numeral, empty]

/-- A number that a rule of spelling has room for is read back. -/
theorem numeral_toDigits (rule : Numeral) (n : Nat) (rest : List Char) (proper : 1 < rule.base)
    (small : rule.base ≤ 16) (bounded : n < rule.bound)
    (room : ∀ limit ∈ rule.maxDigits, 0 < limit ∧ n < rule.base ^ limit)
    (stops : Stops rule.base rest) :
    numeral rule (Nat.toDigits rule.base n ++ rest) = some (n, rest) := by
  obtain ⟨ds, read, value, canonical⟩ := exists_digits_toDigits rule.base n proper small
  have length : (Nat.toDigits rule.base n).length = ds.length := read.length_eq
  have positive : ds ≠ [] := by
    rw [← List.length_pos_iff, ← length]
    exact Nat.length_toDigits_pos
  have short : ∀ limit ∈ rule.maxDigits, ¬ limit < ds.length := by
    intro limit most
    obtain ⟨nonzero, fits⟩ := room limit most
    have few := (Nat.length_toDigits_le_iff proper nonzero).mpr fits
    omega
  have leading : (ds.head? == some 0 && decide (1 < ds.length)) = false := by
    simpa using canonical
  have inside : ¬ rule.bound ≤ n := by omega
  simp only [numeral, digits_append read stops, value]
  cases most : rule.maxDigits with
  | none => simp [positive, inside, leading, Bool.and_assoc]
  | some limit => simp [positive, inside, leading, Bool.and_assoc, short limit most]

/-- A numeral takes all the digits in front. -/
theorem numeral_behind (rule : Numeral) (cs : List Char) (read : Nat × List Char)
    (numeral : numeral rule cs = some read) : read.2 = (digits rule.base cs).2 := by
  simp only [Address.numeral, Option.ite_none_left_eq_some, Option.some.injEq] at numeral
  obtain ⟨_, _, rfl⟩ := numeral
  rfl

theorem character_none (mark : Char) (cs : List Char) (other : ∀ c ∈ cs.head?, c ≠ mark) :
    character mark cs = none := by
  cases cs with
  | nil => rfl
  | cons c rest => exact if_neg (Ne.symm (other c rfl))

end Address

end MeshNode
