import PluginNaming.Number.Printed
import PluginNaming.Proofs.Number.Rounding
import PluginNaming.Proofs.Selector.Number

set_option autoImplicit false

namespace PluginNaming

open Number

namespace Digits

theorem digits_of_digit (n : Nat) : (digitsOf n).all Char.isDigit = true :=
  List.all_eq_true.mpr fun _ member => Nat.isDigit_of_mem_toDigits (by decide) (by decide) member

theorem digits_of_some (n : Nat) : digitsOf n ≠ [] :=
  Nat.toDigits_ne_nil

theorem of_digits (n : Nat) : ofDigits (digitsOf n) = n :=
  Nat.ofDigitChars_ten_toDigits

def zeros (count : Nat) : List Char := List.replicate count '0'

theorem zeros_digit (count : Nat) : (zeros count).all Char.isDigit = true := by
  rw [List.all_eq_true]
  intro c member
  rw [List.eq_of_mem_replicate member]
  decide

theorem of_digits_zeros (front : List Char) (count : Nat) :
    ofDigits (front ++ zeros count) = tenTo count * ofDigits front :=
  (Nat.ofDigitChars_append 0).trans Nat.ofDigitChars_replicate_zero

theorem zeros_of_digits (count : Nat) (back : List Char) :
    ofDigits (zeros count ++ back) = ofDigits back := by
  have front : Nat.ofDigitChars 10 (zeros count) 0 = 0 := by
    rw [zeros, Nat.ofDigitChars_replicate_zero, Nat.mul_zero]
  have whole : ofDigits (zeros count ++ back) =
      Nat.ofDigitChars 10 back (Nat.ofDigitChars 10 (zeros count) 0) := Nat.ofDigitChars_append 0
  rw [whole, front]
  rfl

end Digits

namespace NumberWord

def positional (negative : Bool) (whole : Digits) (fraction : Option Digits) : NumberWord where
  sign := if negative then .minus else .none
  whole
  fraction
  exponent := none

theorem positional_print (negative : Bool) (whole : Digits) (fraction : Option Digits) :
    (positional negative whole fraction).print =
      (if negative then ['-'] else []) ++ (whole.list ++ printFraction fraction) := by
  cases negative <;> simp [positional, print, Sign.print, printExponent]

theorem positional_value (negative : Bool) (whole : Digits) (fraction : Option Digits) (rank : Nat)
    (finite : rank < magnitudes)
    (ranked : Decimal.rank (positional negative whole fraction).numeral.decimal = rank) :
    (positional negative whole fraction).value = .finite negative ⟨rank, finite⟩ := by
  have sign : (positional negative whole fraction).sign.negative = negative := by
    cases negative <;> rfl
  unfold value Numeral.value Binary64.ofDecimal Binary64.ofRank
  simp only [numeral, sign] at ranked ⊢
  simp [ranked, finite]

def Writes (value : Decimal) (text : List Char) : Prop :=
  ∃ (whole : Digits) (fraction : Option Digits), whole.list ++ printFraction fraction = text ∧
    ∀ negative, Decimal.rank (positional negative whole fraction).numeral.decimal = value.rank

theorem positional_decimal (negative : Bool) (whole : Digits) (fraction : Option Digits) :
    (positional negative whole fraction).numeral.decimal =
      { digits := ofDigits (whole.list ++ fraction.elim [] Digits.list)
        exponent := 0 - (fraction.elim [] Digits.list).length } :=
  rfl

theorem point_behind (value : Decimal) (some : value.digits ≠ 0) (large : 0 ≤ value.exponent) :
    Writes value (digitsOf value.digits ++ List.replicate value.exponent.toNat '0') := by
  have digits : (digitsOf value.digits ++ Digits.zeros value.exponent.toNat).all Char.isDigit = true := by
    rw [List.all_append, Digits.digits_of_digit, Digits.zeros_digit]
    rfl
  have filled : digitsOf value.digits ++ Digits.zeros value.exponent.toNat ≠ [] :=
    List.append_ne_nil_of_left_ne_nil (Digits.digits_of_some _) _
  refine ⟨⟨_, digits, filled⟩, none, List.append_nil _, fun negative => ?_⟩
  have exponent : (0 : Int) - (0 : Nat) + value.exponent.toNat = value.exponent := by omega
  rw [positional_decimal]
  simp only [Option.elim, List.append_nil, List.length_nil, Digits.of_digits_zeros, Digits.of_digits]
  rw [rank_zeros _ _ _ some, exponent]

theorem point_among (value : Decimal) (small : value.exponent < 0)
    (places : 0 < (digitsOf value.digits).length + value.exponent) :
    Writes value ((digitsOf value.digits).take ((digitsOf value.digits).length + value.exponent).toNat ++
      '.' :: (digitsOf value.digits).drop ((digitsOf value.digits).length + value.exponent).toNat) := by
  have digits := Digits.digits_of_digit value.digits
  have reads := Digits.of_digits value.digits
  have whole := List.take_append_drop
    ((digitsOf value.digits).length + value.exponent).toNat (digitsOf value.digits)
  generalize digitsOf value.digits = list at *
  generalize cut : (list.length + value.exponent).toNat = count at *
  have both : (list.take count).all Char.isDigit = true ∧ (list.drop count).all Char.isDigit = true := by
    rw [← Bool.and_eq_true, ← List.all_append, whole, digits]
  have first : list.take count ≠ [] := by
    rw [← List.length_pos_iff, List.length_take]
    omega
  have second : list.drop count ≠ [] := by
    rw [← List.length_pos_iff, List.length_drop]
    omega
  refine ⟨⟨_, both.1, first⟩, some ⟨_, both.2, second⟩, rfl, fun negative => ?_⟩
  have exponent : (0 : Int) - (list.drop count).length = value.exponent := by
    rw [List.length_drop]
    omega
  rw [positional_decimal]
  simp only [Option.elim, whole, reads, exponent]

theorem point_before (value : Decimal)
    (places : ¬ 0 < (digitsOf value.digits).length + value.exponent) :
    Writes value ('0' :: '.' ::
      List.replicate (-((digitsOf value.digits).length + value.exponent)).toNat '0' ++
        digitsOf value.digits) := by
  have digits := Digits.digits_of_digit value.digits
  have reads := Digits.of_digits value.digits
  have filled := Digits.digits_of_some value.digits
  generalize digitsOf value.digits = list at *
  generalize fill : (-(list.length + value.exponent)).toNat = count
  have all : (Digits.zeros count ++ list).all Char.isDigit = true := by
    rw [List.all_append, digits, Digits.zeros_digit]
    rfl
  have some' : Digits.zeros count ++ list ≠ [] := List.append_ne_nil_of_right_ne_nil _ filled
  refine ⟨⟨['0'], by decide, by decide⟩, some ⟨_, all, some'⟩, rfl, fun negative => ?_⟩
  have value' : ofDigits (['0'] ++ (Digits.zeros count ++ list)) = value.digits := by
    rw [← reads, ← Digits.zeros_of_digits (count + 1) list]
    rfl
  have exponent : (0 : Int) - (Digits.zeros count ++ list).length = value.exponent := by
    rw [List.length_append, Digits.zeros, List.length_replicate]
    omega
  rw [positional_decimal]
  simp only [Option.elim, value', exponent]

theorem decimal_written (value : Decimal) (some : value.digits ≠ 0) :
    Writes value (value.positional []) := by
  unfold Decimal.positional
  dsimp only
  by_cases large : 0 ≤ value.exponent
  · rw [if_pos large, List.append_nil]
    exact point_behind value some large
  · rw [if_neg large]
    by_cases places : 0 < (digitsOf value.digits).length + value.exponent
    · rw [if_pos places]
      exact point_among value (Int.not_le.mp large) places
    · rw [if_neg places]
      exact point_before value places

theorem digits_of_rank (value : Decimal) (some : value.rank ≠ 0) : value.digits ≠ 0 := by
  intro none
  exact some (by rw [Decimal.rank, if_pos none])

theorem magnitude_written (rank : Nat) (finite : rank < magnitudes) :
    ∃ (whole : Digits) (fraction : Option Digits),
      whole.list ++ printFraction fraction = Style.plain.magnitude rank ∧
        ∀ negative, Decimal.rank (positional negative whole fraction).numeral.decimal = rank := by
  unfold Style.magnitude
  by_cases zero : rank = 0
  · rw [if_pos zero, zero]
    exact ⟨⟨['0'], by decide, by decide⟩, none, rfl, fun negative => rfl⟩
  · have ranked := shortest_rank .up rank zero finite
    rw [if_neg zero]
    obtain ⟨whole, fraction, printed, same⟩ :=
      decimal_written (shortest .up rank) (digits_of_rank _ (ranked.symm ▸ zero))
    exact ⟨whole, fraction, printed, fun negative => (same negative).trans ranked⟩

theorem written (value : Binary64) (finite : value.isFinite = true) :
    ∃ number : NumberWord, number.print = Style.plain.print value ∧ number.value = value := by
  cases value with
  | undefined => cases finite
  | infinite negative => cases finite
  | finite negative rank =>
      obtain ⟨whole, fraction, printed, ranked⟩ := magnitude_written rank.1 rank.2
      refine ⟨positional negative whole fraction, ?_, ?_⟩
      · rw [positional_print, printed]
        rfl
      · exact positional_value negative whole fraction rank.1 rank.2 (ranked negative)

end NumberWord

end PluginNaming
