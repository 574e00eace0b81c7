import PluginNaming.Number.Binary64

set_option autoImplicit false

namespace PluginNaming.Number

structure Numeral where
  negative : Bool
  whole : List Char
  fraction : List Char
  exponent : Int
deriving DecidableEq

def ofDigits (digits : List Char) : Nat :=
  digits.foldl (fun total c => 10 * total + (c.toNat - '0'.toNat)) 0

def takeSign : List Char → Bool × List Char
  | '-' :: rest => (true, rest)
  | '+' :: rest => (false, rest)
  | text => (false, text)

def takeDigits (text : List Char) : List Char :=
  text.takeWhile Char.isDigit

def dropDigits (text : List Char) : List Char :=
  text.dropWhile Char.isDigit

def takeFraction : List Char → List Char × List Char
  | [] => ([], [])
  | c :: rest =>
      if c = '.' ∧ takeDigits rest ≠ [] then (takeDigits rest, dropDigits rest)
      else ([], c :: rest)

def takeExponent : List Char → Int × List Char
  | [] => (0, [])
  | c :: rest =>
      let signed := takeSign rest
      if (c = 'e' ∨ c = 'E') ∧ takeDigits signed.2 ≠ [] then
        let size : Int := ofDigits (takeDigits signed.2)
        (if signed.1 then -size else size, dropDigits signed.2)
      else (0, c :: rest)

def Numeral.take? (text : List Char) : Option (Numeral × List Char) :=
  let signed := takeSign text
  if takeDigits signed.2 = [] then none
  else
    let fraction := takeFraction (dropDigits signed.2)
    let exponent := takeExponent fraction.2
    let numeral : Numeral :=
      { negative := signed.1
        whole := takeDigits signed.2
        fraction := fraction.1
        exponent := exponent.1 }
    some (numeral, exponent.2)

theorem take_sign_length (text : List Char) : (takeSign text).2.length ≤ text.length := by
  unfold takeSign
  split <;> simp

theorem drop_digits_length (text : List Char) : (dropDigits text).length ≤ text.length :=
  (List.dropWhile_suffix Char.isDigit).length_le

theorem drop_digits_shorter (text : List Char) (some : takeDigits text ≠ []) :
    (dropDigits text).length < text.length := by
  have whole := @List.takeWhile_append_dropWhile _ Char.isDigit text
  have sum := congrArg List.length whole
  have positive := List.length_pos_iff.mpr some
  simp only [List.length_append, takeDigits, dropDigits] at sum positive ⊢
  omega

theorem take_fraction_length (text : List Char) : (takeFraction text).2.length ≤ text.length := by
  cases text with
  | nil => simp [takeFraction]
  | cons c rest =>
      have bound := drop_digits_length rest
      simp only [takeFraction]
      split
      · simp only [List.length_cons]
        omega
      · exact Nat.le_refl _

theorem take_exponent_length (text : List Char) : (takeExponent text).2.length ≤ text.length := by
  cases text with
  | nil => simp [takeExponent]
  | cons c rest =>
      have sign := take_sign_length rest
      have bound := drop_digits_length (takeSign rest).2
      simp only [takeExponent]
      split
      · simp only [List.length_cons]
        omega
      · exact Nat.le_refl _

theorem Numeral.take_shorter {text rest : List Char} {numeral : Numeral}
    (found : Numeral.take? text = some (numeral, rest)) : rest.length < text.length := by
  simp only [Numeral.take?] at found
  split at found
  · simp at found
  · rename_i digits
    have sign := take_sign_length text
    have whole := drop_digits_shorter (takeSign text).2 digits
    have fraction := take_fraction_length (dropDigits (takeSign text).2)
    have exponent := take_exponent_length (takeFraction (dropDigits (takeSign text).2)).2
    simp only [Option.some.injEq, Prod.mk.injEq] at found
    rw [← found.2]
    omega

def Numeral.decimal (numeral : Numeral) : Decimal where
  digits := ofDigits (numeral.whole ++ numeral.fraction)
  exponent := numeral.exponent - numeral.fraction.length

def Numeral.value (numeral : Numeral) : Binary64 :=
  .ofDecimal numeral.negative numeral.decimal

def isWord (word text : List Char) : Bool :=
  text.map Char.toLower == word

def Binary64.read? (text : List Char) : Option Binary64 :=
  let signed := takeSign text
  if isWord "inf".toList signed.2 || isWord "infinity".toList signed.2 then
    some (.infinite signed.1)
  else if isWord "nan".toList signed.2 then some .undefined
  else
    let whole := takeDigits signed.2
    let afterWhole := dropDigits signed.2
    let pointed := afterWhole.head? = some '.'
    let fraction := if pointed then takeDigits (afterWhole.drop 1) else []
    let afterFraction := if pointed then dropDigits (afterWhole.drop 1) else afterWhole
    let exponent := takeExponent afterFraction
    if exponent.2 = [] ∧ ¬(whole = [] ∧ fraction = []) then
      let numeral : Numeral := { negative := signed.1, whole, fraction, exponent := exponent.1 }
      some numeral.value
    else none

end PluginNaming.Number
