import PluginNaming.Proofs.Selector.Run

set_option autoImplicit false

namespace PluginNaming

open Text Number

def isMark (c : Char) : Bool :=
  isBlank c || c == ',' || c == '(' || c == ')' || c == '"'

def Breaks (rest : List Char) : Prop :=
  ∀ c ∈ rest.head?, isMark c = true

theorem breaks_blank (text : List Char) (blank : text.all isBlank = true) : Breaks text := by
  intro c found
  have blank := List.all_eq_true.mp blank c (List.mem_of_mem_head? found)
  simp [isMark, blank]

theorem breaks_stops (test : Char → Bool) (rest : List Char)
    (fails : ∀ c, isMark c = true → test c = false) (breaks : Breaks rest) : Stops test rest :=
  fun c first => fails c (breaks c first)

theorem visible_not_mark (c : Char) (low : 0x2D ≤ c.toNat) (high : c.toNat ≤ 0x7E) :
    isMark c = false := by
  have blank : isBlank c = false := by
    simp only [isBlank, Bool.or_eq_false_iff, Bool.and_eq_false_iff, decide_eq_false_iff_not,
      beq_eq_false_iff_ne]
    omega
  have others : c ≠ ',' ∧ c ≠ '(' ∧ c ≠ ')' ∧ c ≠ '"' := by
    refine ⟨?_, ?_, ?_, ?_⟩ <;> rintro rfl <;> exact absurd low (by decide)
  simp [isMark, blank, others]

theorem digit_bounds (c : Char) (digit : c.isDigit = true) : 48 ≤ c.toNat ∧ c.toNat ≤ 57 := by
  obtain ⟨least, most⟩ := Bool.and_eq_true_iff.mp digit
  exact ⟨of_decide_eq_true least, of_decide_eq_true most⟩

theorem digit_not_mark (c : Char) (digit : c.isDigit = true) : isMark c = false := by
  obtain ⟨least, most⟩ := digit_bounds c digit
  exact visible_not_mark c (by omega) (by omega)

theorem mark_not_digit (c : Char) (mark : isMark c = true) : c.isDigit = false := by
  rw [← Bool.not_eq_true]
  intro digit
  rw [digit_not_mark c digit] at mark
  exact Bool.false_ne_true mark

theorem breaks_no_digit (rest : List Char) (breaks : Breaks rest) : Stops Char.isDigit rest :=
  breaks_stops _ rest mark_not_digit breaks

inductive Sign where
  | none
  | plus
  | minus

namespace Sign

def print : Sign → List Char
  | .none => []
  | .plus => ['+']
  | .minus => ['-']

def negative : Sign → Bool
  | .minus => true
  | _ => false

end Sign

@[ext]
structure Digits where
  list : List Char
  digit : list.all Char.isDigit = true
  some : list ≠ []

structure Exponent where
  capital : Bool
  sign : Sign
  digits : Digits

structure NumberWord where
  sign : Sign
  whole : Digits
  fraction : Option Digits
  exponent : Option Exponent

namespace Digits

theorem head (digits : Digits) :
    ∃ c more, digits.list = c :: more ∧ c.isDigit = true ∧ more.all Char.isDigit = true := by
  cases shape : digits.list with
  | nil => exact absurd shape digits.some
  | cons c more =>
      have all := digits.digit
      rw [shape, List.all_cons, Bool.and_eq_true] at all
      exact ⟨c, more, rfl, all⟩

theorem take (digits : Digits) (rest : List Char) (stops : Stops Char.isDigit rest) :
    takeDigits (digits.list ++ rest) = digits.list ∧ dropDigits (digits.list ++ rest) = rest :=
  ⟨take_run _ _ _ digits.digit stops, drop_run _ _ _ digits.digit stops⟩

theorem unique (digits other : Digits) (rest others : List Char) (stops : Stops Char.isDigit rest)
    (ends : Stops Char.isDigit others) (same : digits.list ++ rest = other.list ++ others) :
    digits = other ∧ rest = others := by
  obtain ⟨equal, left⟩ := run_unique _ _ _ _ _ digits.digit stops other.digit ends same
  exact ⟨Digits.ext equal, left⟩

def before (text : List Char) (some : takeDigits text ≠ []) : Digits :=
  ⟨takeDigits text, take_all _ text, some⟩

end Digits

theorem take_sign (sign : Sign) (digits : Digits) (rest : List Char) :
    takeSign (sign.print ++ (digits.list ++ rest)) = (sign.negative, digits.list ++ rest) := by
  obtain ⟨c, more, shape, digit, _⟩ := digits.head
  rw [shape]
  cases sign with
  | plus => rfl
  | minus => rfl
  | none =>
      simp only [Sign.print, List.nil_append, List.cons_append, Sign.negative]
      unfold takeSign
      split
      · rename_i found
        cases found
        exact absurd digit (by decide)
      · rename_i found
        cases found
        exact absurd digit (by decide)
      · rfl

theorem sign_taken (text : List Char) :
    ∃ sign : Sign, sign.negative = (takeSign text).1 ∧ sign.print ++ (takeSign text).2 = text := by
  unfold takeSign
  split
  · exact ⟨.minus, rfl, rfl⟩
  · exact ⟨.plus, rfl, rfl⟩
  · exact ⟨.none, rfl, rfl⟩

theorem sign_unique (sign other : Sign) (digits others : Digits) (rest left : List Char)
    (same : sign.print ++ (digits.list ++ rest) = other.print ++ (others.list ++ left)) :
    sign = other ∧ digits.list ++ rest = others.list ++ left := by
  obtain ⟨c, more, shape, digit, _⟩ := digits.head
  obtain ⟨d, further, form, also, _⟩ := others.head
  rw [shape, form] at same ⊢
  have signs : c ≠ '+' ∧ c ≠ '-' ∧ d ≠ '+' ∧ d ≠ '-' := by
    refine ⟨?_, ?_, ?_, ?_⟩ <;> rintro rfl
    · exact absurd digit (by decide)
    · exact absurd digit (by decide)
    · exact absurd also (by decide)
    · exact absurd also (by decide)
  cases sign <;> cases other <;> simp_all [Sign.print]
  all_goals exact absurd same.1.symm (by simp [signs])

namespace Exponent

def print (exponent : Exponent) : List Char :=
  (if exponent.capital then 'E' else 'e') :: (exponent.sign.print ++ exponent.digits.list)

def value (exponent : Exponent) : Int :=
  if exponent.sign.negative then -(ofDigits exponent.digits.list : Int)
  else ofDigits exponent.digits.list

end Exponent

namespace NumberWord

def printFraction : Option Digits → List Char
  | none => []
  | some digits => '.' :: digits.list

def printExponent : Option Exponent → List Char
  | none => []
  | some exponent => exponent.print

def print (number : NumberWord) : List Char :=
  number.sign.print ++ (number.whole.list ++
    (printFraction number.fraction ++ printExponent number.exponent))

def numeral (number : NumberWord) : Numeral where
  negative := number.sign.negative
  whole := number.whole.list
  fraction := number.fraction.elim [] Digits.list
  exponent := number.exponent.elim 0 Exponent.value

def value (number : NumberWord) : Binary64 := number.numeral.value

theorem exponent_begins (exponent : Exponent) (rest : List Char) :
    Stops Char.isDigit (exponent.print ++ rest) ∧ Stops (· == '.') (exponent.print ++ rest) := by
  cases capital : exponent.capital with
  | false => simp [Exponent.print, capital, Stops]
  | true => simp [Exponent.print, capital, Stops]

theorem exponent_stops (exponent : Option Exponent) (rest : List Char) (breaks : Breaks rest) :
    Stops Char.isDigit (printExponent exponent ++ rest) ∧
      Stops (· == '.') (printExponent exponent ++ rest) := by
  cases exponent with
  | none =>
      refine ⟨breaks_no_digit rest breaks, breaks_stops _ rest ?_ breaks⟩
      intro c mark
      rw [beq_eq_false_iff_ne]
      rintro rfl
      exact absurd mark (by decide)
  | some exponent => exact exponent_begins exponent rest

theorem fraction_stops (fraction : Option Digits) (rest : List Char)
    (stops : Stops Char.isDigit rest) : Stops Char.isDigit (printFraction fraction ++ rest) := by
  cases fraction with
  | none => exact stops
  | some digits => exact stops_cons _ _ _ (by decide)

theorem take_fraction (fraction : Option Digits) (rest : List Char)
    (stops : Stops Char.isDigit rest) (point : Stops (· == '.') rest) :
    takeFraction (printFraction fraction ++ rest) = (fraction.elim [] Digits.list, rest) := by
  cases fraction with
  | none =>
      cases rest with
      | nil => rfl
      | cons c more =>
          have other : c ≠ '.' := by simpa using point c rfl
          simp [printFraction, takeFraction, other]
  | some digits =>
      obtain ⟨taken, left⟩ := digits.take rest stops
      simp [printFraction, takeFraction, taken, left, digits.some]

theorem take_exponent (exponent : Option Exponent) (rest : List Char) (breaks : Breaks rest) :
    takeExponent (printExponent exponent ++ rest) = (exponent.elim 0 Exponent.value, rest) := by
  cases exponent with
  | none =>
      cases rest with
      | nil => rfl
      | cons c more =>
          have mark := breaks c rfl
          have other : ¬(c = 'e' ∨ c = 'E') := by
            rintro (rfl | rfl)
            · exact absurd mark (by decide)
            · exact absurd mark (by decide)
          simp [printExponent, takeExponent, other]
  | some exponent =>
      obtain ⟨taken, left⟩ := exponent.digits.take rest (breaks_no_digit rest breaks)
      have sign := take_sign exponent.sign exponent.digits rest
      simp [printExponent, Exponent.print, takeExponent, sign, taken, left, exponent.digits.some,
        Exponent.value]

theorem take (number : NumberWord) (rest : List Char) (breaks : Breaks rest) :
    Numeral.take? (number.print ++ rest) = some (number.numeral, rest) := by
  obtain ⟨stops, point⟩ := exponent_stops number.exponent rest breaks
  have after := fraction_stops number.fraction _ stops
  obtain ⟨whole, left⟩ := number.whole.take _ after
  have sign := take_sign number.sign number.whole
    (printFraction number.fraction ++ (printExponent number.exponent ++ rest))
  have fraction := take_fraction number.fraction _ stops point
  have exponent := take_exponent number.exponent rest breaks
  simp [Numeral.take?, print, sign, whole, left, fraction, exponent, number.whole.some, numeral]

theorem fraction_taken (text : List Char) :
    ∃ fraction : Option Digits, fraction.elim [] Digits.list = (takeFraction text).1 ∧
      printFraction fraction ++ (takeFraction text).2 = text := by
  cases text with
  | nil => exact ⟨none, rfl, rfl⟩
  | cons c rest =>
      simp only [takeFraction]
      by_cases point : c = '.' ∧ takeDigits rest ≠ []
      · rw [if_pos point]
        obtain ⟨rfl, digits⟩ := point
        refine ⟨some (.before rest digits), rfl, ?_⟩
        exact congrArg ('.' :: ·) List.takeWhile_append_dropWhile
      · rw [if_neg point]
        exact ⟨none, rfl, rfl⟩

theorem exponent_taken (text : List Char) :
    ∃ exponent : Option Exponent, exponent.elim 0 Exponent.value = (takeExponent text).1 ∧
      printExponent exponent ++ (takeExponent text).2 = text := by
  cases text with
  | nil => exact ⟨none, rfl, rfl⟩
  | cons c rest =>
      simp only [takeExponent]
      by_cases mark : (c = 'e' ∨ c = 'E') ∧ takeDigits (takeSign rest).2 ≠ []
      · rw [if_pos mark]
        obtain ⟨sign, negative, printed⟩ := sign_taken rest
        refine ⟨some ⟨c == 'E', sign, .before _ mark.2⟩, ?_, ?_⟩
        · simp [Exponent.value, negative, Digits.before]
        · have letter : (if c == 'E' then 'E' else 'e') = c := by
            rcases mark.1 with rfl | rfl <;> rfl
          simp only [printExponent, Exponent.print, letter, Digits.before, List.cons_append,
            List.append_assoc]
          exact congrArg (c :: ·) ((congrArg _ List.takeWhile_append_dropWhile).trans printed)
      · rw [if_neg mark]
        exact ⟨none, rfl, rfl⟩

theorem taken (text rest : List Char) (numeral : Numeral)
    (found : Numeral.take? text = some (numeral, rest)) :
    ∃ number : NumberWord, number.numeral = numeral ∧ text = number.print ++ rest := by
  simp only [Numeral.take?] at found
  split at found
  · simp at found
  · rename_i digits
    obtain ⟨sign, negative, signed⟩ := sign_taken text
    obtain ⟨fraction, digitsAfter, pointed⟩ := fraction_taken (dropDigits (takeSign text).2)
    obtain ⟨exponent, power, raised⟩ :=
      exponent_taken (takeFraction (dropDigits (takeSign text).2)).2
    simp only [Option.some.injEq, Prod.mk.injEq] at found
    obtain ⟨rfl, rfl⟩ := found
    refine ⟨⟨sign, .before _ digits, fraction, exponent⟩, ?_, ?_⟩
    · simp [NumberWord.numeral, negative, digitsAfter, power, Digits.before]
    · have whole : takeDigits (takeSign text).2 ++ dropDigits (takeSign text).2 = (takeSign text).2 :=
        List.takeWhile_append_dropWhile
      simp only [print, Digits.before, List.append_assoc, raised, pointed, whole, signed]

theorem fraction_unique (fraction other : Option Digits) (rest others : List Char)
    (stops : Stops Char.isDigit rest) (point : Stops (· == '.') rest)
    (ends : Stops Char.isDigit others) (dot : Stops (· == '.') others)
    (same : printFraction fraction ++ rest = printFraction other ++ others) :
    fraction = other ∧ rest = others := by
  have taken := take_fraction fraction rest stops point
  rw [same, take_fraction other others ends dot, Prod.mk.injEq] at taken
  refine ⟨?_, taken.2.symm⟩
  cases fraction with
  | none =>
      cases other with
      | none => rfl
      | some digits => exact absurd taken.1 digits.some
  | some digits =>
      cases other with
      | none => exact absurd taken.1.symm digits.some
      | some others => exact congrArg some (Digits.ext taken.1.symm)

theorem mark_not_letter (capital : Bool) (text rest : List Char) (breaks : Breaks rest) :
    rest ≠ (if capital then 'E' else 'e') :: text := by
  rintro rfl
  have mark := breaks _ rfl
  cases capital with
  | false => exact absurd mark (by decide)
  | true => exact absurd mark (by decide)

theorem exponent_unique (exponent other : Option Exponent) (rest others : List Char)
    (breaks : Breaks rest) (ends : Breaks others)
    (same : printExponent exponent ++ rest = printExponent other ++ others) :
    exponent = other ∧ rest = others := by
  cases exponent with
  | none =>
      cases other with
      | none => exact ⟨rfl, same⟩
      | some other => exact absurd same (mark_not_letter other.capital _ rest breaks)
  | some exponent =>
      cases other with
      | none => exact absurd same.symm (mark_not_letter exponent.capital _ others ends)
      | some other =>
          obtain ⟨capital, sign, digits⟩ := exponent
          obtain ⟨capital', sign', digits'⟩ := other
          simp only [printExponent, Exponent.print, List.cons_append, List.append_assoc,
            List.cons.injEq] at same
          have letter : capital = capital' := by
            cases capital <;> cases capital' <;> simp_all
          obtain ⟨signs, left⟩ := sign_unique sign sign' digits digits' rest others same.2
          obtain ⟨equal, behind⟩ := digits.unique digits' rest others (breaks_no_digit rest breaks)
            (breaks_no_digit others ends) left
          exact ⟨by rw [letter, signs, equal], behind⟩

theorem unique (number other : NumberWord) (rest others : List Char) (breaks : Breaks rest)
    (ends : Breaks others) (same : number.print ++ rest = other.print ++ others) :
    number = other ∧ rest = others := by
  obtain ⟨sign, whole, fraction, exponent⟩ := number
  obtain ⟨sign', whole', fraction', exponent'⟩ := other
  obtain ⟨stops, point⟩ := exponent_stops exponent rest breaks
  obtain ⟨stops', point'⟩ := exponent_stops exponent' others ends
  simp only [print, List.append_assoc] at same
  obtain ⟨rfl, digits⟩ := sign_unique sign sign' whole whole' _ _ same
  obtain ⟨rfl, afterWhole⟩ := whole.unique whole' _ _ (fraction_stops fraction _ stops)
    (fraction_stops fraction' _ stops') digits
  obtain ⟨rfl, afterFraction⟩ :=
    fraction_unique fraction fraction' _ _ stops point stops' point' afterWhole
  obtain ⟨rfl, left⟩ := exponent_unique exponent exponent' rest others breaks ends afterFraction
  exact ⟨rfl, left⟩

end NumberWord

end PluginNaming
