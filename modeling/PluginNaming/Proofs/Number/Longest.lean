import PluginNaming.Proofs.Selector.Number

set_option autoImplicit false

namespace PluginNaming

open Number

namespace Digits

theorem begun (digits : Digits) (rest : List Char) : takeDigits (digits.list ++ rest) ≠ [] := by
  obtain ⟨c, more, shape, digit, _⟩ := digits.head
  rw [shape, List.cons_append, takeDigits, List.takeWhile_cons_of_pos digit]
  exact List.cons_ne_nil _ _

theorem drop_beyond (digits : Digits) (rest : List Char) :
    (dropDigits (digits.list ++ rest)).length ≤ rest.length := by
  rw [dropDigits, List.dropWhile_append_of_pos (List.all_eq_true.mp digits.digit)]
  exact drop_digits_length rest

theorem lower_digit (c : Char) (digit : c.isDigit = true) : c.toLower = c := by
  obtain ⟨_, most⟩ := digit_bounds c digit
  have small : ¬ (c.val ≥ 'A'.val ∧ c.val ≤ 'Z'.val) := by
    rintro ⟨least, _⟩
    have letter : 65 ≤ c.toNat := least
    omega
  exact dif_neg small

theorem no_word (digits : Digits) (rest word : List Char) (letters : word.all Char.isAlpha = true) :
    isWord word (digits.list ++ rest) = false := by
  obtain ⟨c, more, shape, digit, _⟩ := digits.head
  rw [shape, List.cons_append, isWord, List.map_cons, lower_digit c digit, beq_eq_false_iff_ne]
  rintro rfl
  rw [List.all_cons, Bool.and_eq_true] at letters
  obtain ⟨least, most⟩ := digit_bounds c digit
  rcases Bool.or_eq_true_iff.mp letters.1 with upper | lower
  · have low : 65 ≤ c.toNat := (of_decide_eq_true upper).1
    omega
  · have low : 97 ≤ c.toNat := of_decide_eq_true (Bool.and_eq_true_iff.mp lower).1
    omega

end Digits

namespace NumberWord

theorem fraction_beyond (fraction : Option Digits) (rest : List Char) :
    (takeFraction (printFraction fraction ++ rest)).2.length ≤ rest.length := by
  cases fraction with
  | none => exact take_fraction_length rest
  | some digits =>
      have shape : takeFraction ('.' :: (digits.list ++ rest)) =
          (takeDigits (digits.list ++ rest), dropDigits (digits.list ++ rest)) :=
        if_pos ⟨rfl, digits.begun rest⟩
      rw [printFraction, List.cons_append, shape]
      exact digits.drop_beyond rest

theorem exponent_beyond (exponent : Option Exponent) (rest : List Char) :
    (takeExponent (printExponent exponent ++ rest)).2.length ≤ rest.length := by
  cases exponent with
  | none => exact take_exponent_length rest
  | some exponent =>
      have signed := take_sign exponent.sign exponent.digits rest
      have letter : (if exponent.capital then 'E' else 'e') = 'e' ∨
          (if exponent.capital then 'E' else 'e') = 'E' := by
        cases exponent.capital <;> simp
      have some := exponent.digits.begun rest
      simp only [printExponent, Exponent.print, List.cons_append, List.append_assoc, takeExponent, signed,
        letter, true_and, if_pos some]
      exact exponent.digits.drop_beyond rest

-- A part that is followed by another ends where that one begins; only the last part may go on.
theorem parts_beyond (whole : Digits) (fraction : Option Digits) (exponent : Option Exponent)
    (rest : List Char) :
    (takeExponent (takeFraction (dropDigits
      (whole.list ++ (printFraction fraction ++ (printExponent exponent ++ rest))))).2).2.length ≤
        rest.length := by
  cases exponent with
  | some exponent =>
      obtain ⟨stops, point⟩ := exponent_begins exponent rest
      have after := fraction_stops fraction _ stops
      rw [printExponent, (whole.take _ after).2, take_fraction fraction _ stops point]
      exact exponent_beyond (some exponent) rest
  | none =>
      rw [printExponent, List.nil_append]
      refine Nat.le_trans (take_exponent_length _) ?_
      cases fraction with
      | some digits =>
          have point : Stops Char.isDigit (printFraction (some digits) ++ rest) :=
            stops_cons _ _ _ (by decide)
          rw [(whole.take _ point).2]
          exact fraction_beyond (some digits) rest
      | none => exact Nat.le_trans (take_fraction_length _) (whole.drop_beyond rest)

theorem taken_beyond (number : NumberWord) (rest : List Char) : ∃ numeral left,
    Numeral.take? (number.print ++ rest) = some (numeral, left) ∧ left.length ≤ rest.length := by
  obtain ⟨sign, whole, fraction, exponent⟩ := number
  have signed := take_sign sign whole (printFraction fraction ++ (printExponent exponent ++ rest))
  have begun := whole.begun (printFraction fraction ++ (printExponent exponent ++ rest))
  have bound := parts_beyond whole fraction exponent rest
  simp only [print, List.append_assoc, Numeral.take?, signed, if_neg begun]
  exact ⟨_, _, rfl, bound⟩

theorem print_injective (number other : NumberWord) (same : number.print = other.print) :
    number = other :=
  (number.unique other [] [] (breaks_blank [] rfl) (breaks_blank [] rfl) (by rw [same])).1

def Longest (number : NumberWord) (text : List Char) : Prop :=
  ∀ other : NumberWord, other.print <+: text → other.print.length ≤ number.print.length

theorem take_iff (text rest : List Char) (value : Binary64) : takeNumber text = .token value rest ↔
    ∃ number : NumberWord, number.value = value ∧ number.Longest text ∧ text = number.print ++ rest := by
  constructor
  · intro found
    simp only [takeNumber] at found
    split at found
    · rename_i numeral left taken
      cases found
      obtain ⟨number, rfl, shape⟩ := NumberWord.taken text rest numeral taken
      refine ⟨number, rfl, ?_, shape⟩
      rintro other ⟨behind, begun⟩
      obtain ⟨_, left, again, bound⟩ := other.taken_beyond behind
      rw [begun] at again
      cases taken.symm.trans again
      have lengths := congrArg List.length (begun.trans shape)
      rw [List.length_append, List.length_append] at lengths
      omega
    · cases found
  · rintro ⟨number, rfl, longest, rfl⟩
    obtain ⟨numeral, left, taken, bound⟩ := number.taken_beyond rest
    obtain ⟨other, rfl, shape⟩ := NumberWord.taken _ left numeral taken
    have least := longest other ⟨left, shape.symm⟩
    have lengths := congrArg List.length shape
    rw [List.length_append, List.length_append] at lengths
    obtain ⟨same, rfl⟩ := List.append_inj shape (by omega)
    rw [number.print_injective other same, takeNumber, ← same, taken]
    rfl

theorem present_iff (text : List Char) : (∃ value rest, takeNumber text = .token value rest) ↔
    ∃ (sign : Sign) (c : Char) (more : List Char), text = sign.print ++ c :: more ∧ c.isDigit = true := by
  constructor
  · rintro ⟨value, rest, found⟩
    obtain ⟨number, _, _, shape⟩ := (take_iff text rest value).mp found
    obtain ⟨c, more, whole, digit, _⟩ := number.whole.head
    rw [shape, print, whole, List.append_assoc, List.cons_append, List.cons_append]
    exact ⟨number.sign, c, _, rfl, digit⟩
  · rintro ⟨sign, c, more, rfl, digit⟩
    let first : NumberWord := ⟨sign, ⟨[c], by simp [digit], by simp⟩, none, none⟩
    obtain ⟨numeral, left, taken, _⟩ := first.taken_beyond more
    have shape : first.print ++ more = sign.print ++ c :: more := by
      simp [first, print, printFraction, printExponent]
    exact ⟨numeral.value, left, by rw [takeNumber, ← shape, taken]⟩

theorem read_print (number : NumberWord) : Binary64.read? number.print = some number.value := by
  obtain ⟨sign, whole, fraction, exponent⟩ := number
  have breaks := breaks_blank [] rfl
  have signed := take_sign sign whole (printFraction fraction ++ printExponent exponent)
  have words := fun word => whole.no_word (printFraction fraction ++ printExponent exponent) word
  obtain ⟨stops, point⟩ := exponent_stops exponent [] breaks
  rw [List.append_nil] at stops point
  obtain ⟨digits, left⟩ := whole.take _ (fraction_stops fraction _ stops)
  have power := take_exponent exponent [] breaks
  rw [List.append_nil] at power
  have inf := words "inf".toList rfl
  have infinity := words "infinity".toList rfl
  have nan := words "nan".toList rfl
  simp only [Binary64.read?, print, signed, inf, infinity, nan, digits, left]
  cases fraction with
  | none =>
      have pointless : (printExponent exponent).head? ≠ some '.' := by
        intro dot
        simpa using point '.' dot
      simp [printFraction, pointless, power, whole.some, NumberWord.value, numeral]
  | some behind =>
      obtain ⟨taken, ended⟩ := behind.take _ stops
      simp [printFraction, taken, ended, power, whole.some, NumberWord.value, numeral]

end NumberWord

end PluginNaming
