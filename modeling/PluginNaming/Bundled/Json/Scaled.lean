import PluginNaming.Number.Binary64

set_option autoImplicit false

namespace PluginNaming.Bundled

open PluginNaming.Number

def powerRank (exponent : Nat) : Nat :=
  Decimal.rank { digits := 1, exponent }

def productRank (rank other : Nat) : Nat :=
  nearestRank ((magnitude rank).1 * (magnitude other).1) ((magnitude rank).2 * (magnitude other).2)

def quotientRank (rank other : Nat) : Nat :=
  nearestRank ((magnitude rank).1 * (magnitude other).2) ((magnitude rank).2 * (magnitude other).1)

def largestPower : Nat := 308

def scaled? (rank : Nat) (exponent : Int) : Option Nat :=
  if exponent.natAbs ≤ largestPower then
    if 0 ≤ exponent then
      let product := productRank rank (powerRank exponent.natAbs)
      if product < magnitudes then some product else none
    else some (quotientRank rank (powerRank exponent.natAbs))
  else if rank = 0 then some 0
  else if 0 ≤ exponent then none
  else scaled? (quotientRank rank (powerRank largestPower)) (exponent + largestPower)
termination_by exponent.natAbs
decreasing_by
  unfold largestPower at *
  omega

end PluginNaming.Bundled
