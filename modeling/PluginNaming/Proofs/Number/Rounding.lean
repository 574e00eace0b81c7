import PluginNaming.Number.Shortest

set_option autoImplicit false

namespace PluginNaming.Number

theorem two_to_positive (n : Nat) : 0 < twoTo n :=
  Nat.two_pow_pos n

theorem two_to_mono (m n : Nat) (le : m ≤ n) : twoTo m ≤ twoTo n :=
  Nat.pow_le_pow_right (by decide) le

theorem ten_to_succ (n : Nat) : tenTo (n + 1) = 10 * tenTo n :=
  (Nat.pow_succ ..).trans (Nat.mul_comm ..)

theorem round_scaled (factor num den : Nat) (positive : 0 < factor) :
    roundHalfEven (factor * num) (factor * den) = roundHalfEven num den := by
  have below : factor * num / (factor * den) = num / den := Nat.mul_div_mul_left _ _ positive
  have left : factor * num % (factor * den) = factor * (num % den) := Nat.mul_mod_mul_left ..
  have twice : 2 * (factor * (num % den)) = factor * (2 * (num % den)) := Nat.mul_left_comm ..
  unfold roundHalfEven
  simp only [below, left, twice, Nat.mul_lt_mul_left positive]

theorem round_exact (quotient den : Nat) (positive : 0 < den) :
    roundHalfEven (quotient * den) den = quotient := by
  have below : quotient * den / den = quotient := Nat.mul_div_cancel _ positive
  have left : quotient * den % den = 0 := Nat.mul_mod_left ..
  unfold roundHalfEven
  rw [below, left, if_pos positive]

theorem nearest_scaled (factor num den : Nat) (positive : 0 < factor) :
    nearestRank (factor * num) (factor * den) = nearestRank num den := by
  have units : factor * num * twoTo 1074 = factor * (num * twoTo 1074) := Nat.mul_assoc ..
  have whole : factor * (num * twoTo 1074) / (factor * den) = num * twoTo 1074 / den :=
    Nat.mul_div_mul_left _ _ positive
  unfold nearestRank
  dsimp only
  rw [units, whole, Nat.mul_assoc factor den, round_scaled _ _ _ positive]

structure Normal (rank : Nat) : Prop where
  least : twoTo 52 ≤ significand rank
  most : significand rank < 2 * twoTo 52
  ranked : scale rank * twoTo 52 + significand rank = rank

theorem subnormal (rank : Nat) (small : rank < twoTo 52) : significand rank = rank ∧ scale rank = 0 := by
  have none : rank / twoTo 52 = 0 := Nat.div_eq_of_lt small
  unfold significand scale
  rw [if_pos small, none]
  exact ⟨rfl, rfl⟩

theorem normal (rank : Nat) (large : twoTo 52 ≤ rank) : Normal rank := by
  have positive := two_to_positive 52
  have left := Nat.mod_lt rank positive
  have some : 0 < rank / twoTo 52 := Nat.div_pos large positive
  have whole := Nat.div_add_mod rank (twoTo 52)
  have significands : significand rank = twoTo 52 + rank % twoTo 52 :=
    if_neg (Nat.not_lt.mpr large)
  have scaled : scale rank + 1 = rank / twoTo 52 := Nat.succ_pred_eq_of_pos some
  refine ⟨by omega, by omega, ?_⟩
  calc scale rank * twoTo 52 + significand rank
      = (scale rank + 1) * twoTo 52 + rank % twoTo 52 := by rw [significands, Nat.add_mul]; omega
    _ = rank := by rw [scaled, Nat.mul_comm, whole]

theorem significand_positive (rank : Nat) (some : rank ≠ 0) : 0 < significand rank := by
  have positive := two_to_positive 52
  by_cases small : rank < twoTo 52
  · rw [(subnormal rank small).1]
    omega
  · have least := (normal rank (Nat.not_lt.mp small)).least
    omega

theorem excess (rank : Nat) :
    (significand rank * twoTo (scale rank)).log2 - 52 = scale rank := by
  by_cases small : rank < twoTo 52
  · obtain ⟨significands, none⟩ := subnormal rank small
    rw [significands, none]
    by_cases zero : rank = 0
    · rw [zero]
      rfl
    · have bits : rank.log2 < 52 := (Nat.log2_lt zero).mpr small
      have one : rank * twoTo 0 = rank := Nat.mul_one rank
      rw [one]
      omega
  · obtain ⟨least, most, _⟩ := normal rank (Nat.not_lt.mp small)
    have positive := two_to_positive (scale rank)
    have some : significand rank * twoTo (scale rank) ≠ 0 :=
      Nat.mul_ne_zero (by have := two_to_positive 52; omega) (by omega)
    have bits : (significand rank * twoTo (scale rank)).log2 = 52 + scale rank := by
      refine (Nat.log2_eq_iff some).mpr ⟨?_, ?_⟩
      · rw [Nat.pow_add]
        exact Nat.mul_le_mul_right _ least
      · rw [show 52 + scale rank + 1 = 1 + 52 + scale rank by omega, Nat.pow_add, Nat.pow_add]
        exact Nat.mul_lt_mul_of_pos_right most positive
    omega

theorem nearest_exact (rank factor : Nat) (positive : 0 < factor) :
    nearestRank (factor * (significand rank * twoTo (scale rank))) (factor * twoTo 1074) = rank := by
  rw [nearest_scaled _ _ _ positive]
  have unit := two_to_positive 1074
  have scaled := two_to_positive (scale rank)
  unfold nearestRank
  generalize twoTo 1074 = unitary at unit ⊢
  have whole : significand rank * twoTo (scale rank) * unitary / unitary =
      significand rank * twoTo (scale rank) := Nat.mul_div_cancel _ unit
  have split : significand rank * twoTo (scale rank) * unitary =
      significand rank * (unitary * twoTo (scale rank)) := by
    rw [Nat.mul_assoc, Nat.mul_comm (twoTo _)]
  dsimp only
  rw [whole, excess, split, round_exact _ _ (Nat.mul_pos unit scaled)]
  by_cases small : rank < twoTo 52
  · obtain ⟨significands, none⟩ := subnormal rank small
    rw [significands, none, Nat.zero_mul, Nat.zero_add]
  · exact (normal rank (Nat.not_lt.mp small)).ranked

theorem scale_bound (rank : Nat) (finite : rank < magnitudes) : scale rank ≤ 2045 := by
  have bound : rank / twoTo 52 < 2047 :=
    (Nat.div_lt_iff_lt_mul (two_to_positive 52)).mpr finite
  unfold scale
  omega

theorem significand_bound (rank : Nat) : significand rank < twoTo 53 := by
  have double : twoTo 53 = 2 * twoTo 52 := rfl
  by_cases small : rank < twoTo 52
  · rw [(subnormal rank small).1]
    omega
  · rw [double]
    exact (normal rank (Nat.not_lt.mp small)).most

theorem decimal_length_le (n places : Nat) (some : 0 < places) :
    decimalLength n ≤ places ↔ n < tenTo places :=
  Nat.length_toDigits_le_iff (by decide) some

theorem exact_length (rank : Nat) (some : rank ≠ 0) (finite : rank < magnitudes) :
    744 ≤ decimalLength (exactDecimal rank).digits ∧
      decimalLength (exactDecimal rank).digits ≤ 1384 := by
  have positive := significand_positive rank some
  have units := Nat.mul_pos positive (two_to_positive (scale rank))
  constructor
  · have least : Nat.pow 5 1074 ≤ (exactDecimal rank).digits := Nat.le_mul_of_pos_left _ units
    have enough : tenTo 743 ≤ Nat.pow 5 1074 := by decide +kernel
    have long := mt (decimal_length_le (exactDecimal rank).digits 743 (by decide)).mp
      (Nat.not_lt.mpr (Nat.le_trans enough least))
    omega
  · refine (decimal_length_le _ 1384 (by decide)).mpr ?_
    have scaled : twoTo (scale rank) ≤ twoTo 2045 :=
      two_to_mono _ _ (scale_bound rank finite)
    have product : significand rank * twoTo (scale rank) ≤ twoTo 53 * twoTo 2045 :=
      Nat.mul_le_mul (Nat.le_of_lt (significand_bound rank)) scaled
    have whole : (exactDecimal rank).digits ≤ twoTo 53 * twoTo 2045 * Nat.pow 5 1074 :=
      Nat.mul_le_mul_right _ product
    exact Nat.lt_of_le_of_lt whole (by decide +kernel)

theorem exact_ratio (rank : Nat) : ∃ factor, 0 < factor ∧
    (exactDecimal rank).digits = significand rank * twoTo (scale rank) * factor ∧
    (exactDecimal rank).ratio =
      (factor * (significand rank * twoTo (scale rank)), factor * twoTo 1074) := by
  have positive : 0 < Nat.pow 5 1074 := by decide +kernel
  have tens : tenTo 1074 = Nat.pow 5 1074 * twoTo 1074 := by decide +kernel
  have none : tenTo 0 = 1 := rfl
  have places : (-1074 : Int).toNat = 0 ∧ (-(-1074 : Int)).toNat = 1074 := by decide
  unfold Decimal.ratio exactDecimal
  dsimp only
  -- As a number the power would be computed at every step.
  generalize Nat.pow 5 1074 = factor at positive tens ⊢
  refine ⟨factor, positive, rfl, ?_⟩
  rw [places.1, places.2, none, tens, Nat.mul_one, Nat.mul_comm factor (_ * _)]

theorem exact_rank (rank : Nat) (some : rank ≠ 0) (finite : rank < magnitudes) :
    (exactDecimal rank).rank = rank := by
  obtain ⟨long, short⟩ := exact_length rank some finite
  obtain ⟨factor, positive, digits, ratio⟩ := exact_ratio rank
  have units := Nat.mul_pos (significand_positive rank some) (two_to_positive (scale rank))
  have nonzero : (exactDecimal rank).digits ≠ 0 :=
    digits ▸ Nat.ne_of_gt (Nat.mul_pos units positive)
  have exponent : (exactDecimal rank).exponent = -1074 := rfl
  unfold Decimal.rank
  rw [if_neg nonzero, exponent]
  dsimp only
  rw [if_neg (by omega), if_neg (by omega), ratio, nearest_exact _ _ positive]
  exact Nat.min_eq_left (Nat.le_of_lt finite)

theorem decimal_length_ten (n : Nat) (some : n ≠ 0) : decimalLength (10 * n) = decimalLength n + 1 := by
  have quotient : 10 * n / 10 = n := Nat.mul_div_cancel_left n (by decide)
  unfold decimalLength
  rw [Nat.toDigits_of_base_le (by decide) (by omega), quotient, List.length_append]
  rfl

theorem rank_shifted (n : Nat) (exponent : Int) (some : n ≠ 0) :
    Decimal.rank { digits := 10 * n, exponent } = Decimal.rank { digits := n, exponent := exponent + 1 } := by
  have places : ((decimalLength (10 * n) : Nat) : Int) + exponent =
      decimalLength n + (exponent + 1) := by
    rw [decimal_length_ten n some]
    omega
  have nearest : nearestRank (Decimal.ratio { digits := 10 * n, exponent }).1
      (Decimal.ratio { digits := 10 * n, exponent }).2 =
        nearestRank (Decimal.ratio { digits := n, exponent := exponent + 1 }).1
          (Decimal.ratio { digits := n, exponent := exponent + 1 }).2 := by
    unfold Decimal.ratio
    dsimp only
    by_cases whole : 0 ≤ exponent
    · have up : (exponent + 1).toNat = exponent.toNat + 1 := by omega
      have down : (-exponent).toNat = 0 ∧ (-(exponent + 1)).toNat = 0 := by omega
      rw [up, down.1, down.2, ten_to_succ, Nat.mul_left_comm, Nat.mul_assoc]
    · have up : (-exponent).toNat = (-(exponent + 1)).toNat + 1 := by omega
      have down : exponent.toNat = 0 ∧ (exponent + 1).toNat = 0 := by omega
      rw [up, down.1, down.2, ten_to_succ, Nat.mul_assoc, nearest_scaled _ _ _ (by decide)]
  unfold Decimal.rank
  rw [if_neg (by omega : 10 * n ≠ 0), if_neg some]
  dsimp only
  rw [places, nearest]

theorem rank_zeros (n places : Nat) (exponent : Int) (some : n ≠ 0) :
    Decimal.rank { digits := tenTo places * n, exponent } =
      Decimal.rank { digits := n, exponent := exponent + places } := by
  induction places generalizing exponent with
  | zero => simp [tenTo]
  | succ places hypothesis =>
      have shifted : tenTo (places + 1) * n = 10 * (tenTo places * n) := by
        rw [ten_to_succ, Nat.mul_assoc]
      have positive : 0 < tenTo places := Nat.pow_pos (by decide)
      have nonzero : tenTo places * n ≠ 0 := Nat.mul_ne_zero (Nat.ne_of_gt positive) some
      have total : exponent + 1 + places = exponent + (places + 1 : Nat) := by omega
      rw [shifted, rank_shifted _ _ nonzero, hypothesis, total]

theorem trim_rank (value : Decimal) : value.trim.rank = value.rank := by
  fun_induction Decimal.trim value with
  | case1 => rfl
  | case2 value shortens hypothesis =>
      have whole : 10 * (value.digits / 10) = value.digits := by omega
      rw [hypothesis, ← rank_shifted _ _ (by omega), whole]

theorem grid_rank (tie : Tie) (rank : Nat) (grid : Int) (value : Decimal)
    (found : onGrid? tie rank grid = some value) : value.rank = rank := by
  unfold onGrid? at found
  dsimp only at found
  split at found
  · cases found
  · rename_i below _
    cases found
    exact of_decide_eq_true below
  · rename_i _ above
    cases found
    exact of_decide_eq_true above
  · rename_i below above
    split at found
    · cases found
      exact of_decide_eq_true below
    · split at found
      · cases found
        exact of_decide_eq_true above
      · split at found
        · cases found
          exact of_decide_eq_true below
        · cases found
          exact of_decide_eq_true above

theorem shortest_rank (tie : Tie) (rank : Nat) (some : rank ≠ 0) (finite : rank < magnitudes) :
    (shortest tie rank).rank = rank := by
  unfold shortest
  dsimp only
  rw [trim_rank]
  cases found : (List.range 17).findSome? fun more : Nat => onGrid? tie rank
      (leadingExponent (magnitude rank).1 (magnitude rank).2 - more) with
  | none => exact exact_rank rank some finite
  | some value =>
      obtain ⟨more, _, hit⟩ := List.exists_of_findSome?_eq_some found
      exact grid_rank tie rank _ value hit

end PluginNaming.Number
