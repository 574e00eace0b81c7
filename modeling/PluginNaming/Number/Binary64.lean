set_option autoImplicit false

namespace PluginNaming.Number

def twoTo (n : Nat) : Nat := Nat.pow 2 n

def tenTo (n : Nat) : Nat := Nat.pow 10 n

def magnitudes : Nat := 2047 * twoTo 52

inductive Binary64 where
  | undefined
  | infinite (negative : Bool)
  | finite (negative : Bool) (rank : Fin magnitudes)
deriving DecidableEq

def significand (rank : Nat) : Nat :=
  if rank < twoTo 52 then rank else twoTo 52 + rank % twoTo 52

-- The magnitude of a rank is its significand times `2 ^ (scale rank) / 2 ^ 1074`.
def scale (rank : Nat) : Nat :=
  rank / twoTo 52 - 1

def magnitude (rank : Nat) : Nat × Nat :=
  (significand rank * twoTo (scale rank), twoTo 1074)

def roundHalfEven (num den : Nat) : Nat :=
  let below := num / den
  let twice := 2 * (num % den)
  if twice < den then below
  else if den < twice then below + 1
  else below + below % 2

-- The rank nearest to a quotient, counted on past the largest magnitude as if the exponents had no
-- end. In units of `2 ^ -1074` the quotient is first brought below `2 ^ 53` by a power of two.
def nearestRank (num den : Nat) : Nat :=
  let units := num * twoTo 1074
  let shift := (units / den).log2 - 52
  shift * twoTo 52 + roundHalfEven units (den * twoTo shift)

structure Decimal where
  digits : Nat
  exponent : Int
deriving DecidableEq

def decimalLength (n : Nat) : Nat :=
  (Nat.toDigits 10 n).length

def Decimal.ratio (value : Decimal) : Nat × Nat :=
  (value.digits * tenTo value.exponent.toNat, tenTo (-value.exponent).toNat)

-- The rank nearest to a decimal, `magnitudes` where there is none. Decimals beyond `10 ^ 310` or
-- below `10 ^ -330` are decided by their length alone.
def Decimal.rank (value : Decimal) : Nat :=
  if value.digits = 0 then 0
  else
    let places := decimalLength value.digits + value.exponent
    if 310 < places then magnitudes
    else if places < -330 then 0
    else min (nearestRank value.ratio.1 value.ratio.2) magnitudes

def Binary64.ofRank (negative : Bool) (rank : Nat) : Binary64 :=
  if finite : rank < magnitudes then .finite negative ⟨rank, finite⟩ else .infinite negative

def Binary64.ofDecimal (negative : Bool) (value : Decimal) : Binary64 :=
  .ofRank negative value.rank

def Binary64.isFinite : Binary64 → Bool
  | .finite _ _ => true
  | _ => false

end PluginNaming.Number
