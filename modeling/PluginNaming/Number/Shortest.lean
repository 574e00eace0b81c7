import PluginNaming.Number.Binary64

set_option autoImplicit false

namespace PluginNaming.Number

inductive Tie where
  | up
  | even
deriving DecidableEq

def leadingExponent (num den : Nat) : Int :=
  if den ≤ num then decimalLength (num / den) - 1
  else -(decimalLength ((den + num - 1) / num - 1) : Int)

def onGrid? (tie : Tie) (rank : Nat) (grid : Int) : Option Decimal :=
  let num := (magnitude rank).1 * tenTo (-grid).toNat
  let den := (magnitude rank).2 * tenTo grid.toNat
  let below : Decimal := { digits := num / den, exponent := grid }
  let above : Decimal := { digits := num / den + 1, exponent := grid }
  let twice := 2 * (num % den)
  match decide (below.rank = rank), decide (above.rank = rank) with
  | false, false => none
  | true, false => some below
  | false, true => some above
  | true, true =>
      if twice < den then some below
      else if den < twice then some above
      else if tie = .even ∧ below.digits % 2 = 0 then some below
      else some above

def exactDecimal (rank : Nat) : Decimal :=
  { digits := significand rank * twoTo (scale rank) * Nat.pow 5 1074, exponent := -1074 }

def Decimal.trim (value : Decimal) : Decimal :=
  if value.digits = 0 ∨ value.digits % 10 ≠ 0 then value
  else Decimal.trim { digits := value.digits / 10, exponent := value.exponent + 1 }
termination_by value.digits
decreasing_by
  omega

def shortest (tie : Tie) (rank : Nat) : Decimal :=
  let (num, den) := magnitude rank
  let lead := leadingExponent num den
  let found := (List.range 17).findSome? fun more : Nat => onGrid? tie rank (lead - more)
  (found.getD (exactDecimal rank)).trim

end PluginNaming.Number
