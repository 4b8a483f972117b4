import EndpointCatalog.Decimal.Double
import Mathlib

namespace EndpointCatalog.Decimal.Double

theorem make_infinite {exponent fraction : Nat} (small : exponent < 2048)
    (below : fraction < hiddenBit) :
    (make negative exponent fraction).isInfinite = true ↔ exponent = 2047 ∧ fraction = 0 := by
  have hidden : hiddenBit = 4503599627370496 := rfl
  have sign : signBit = 9223372036854775808 := rfl
  rw [hidden] at below
  have bits : (make negative exponent fraction).bits.toNat =
      (if negative then 9223372036854775808 else 0) + exponent * 4503599627370496 + fraction := by
    rw [make, UInt64.toNat_ofNat', sign, hidden]
    split <;> omega
  unfold isInfinite exponentField fractionField
  rw [bits, hidden]
  simp only [Bool.and_eq_true, decide_eq_true_eq]
  split <;> omega

theorem finished_infinite {exponent fraction : Nat} (below : fraction < hiddenBit) :
    (if exponent ≥ 2047 then infinity negative
      else make negative exponent fraction).isInfinite = true ↔ 2047 ≤ exponent := by
  by_cases large : 2047 ≤ exponent
  · rw [if_pos large]
    exact iff_of_true ((make_infinite (by decide) (by decide)).mpr ⟨rfl, rfl⟩) large
  · rw [if_neg large, make_infinite (by omega) below]
    omega

theorem roundHalfEven_near (num den : Nat) :
    num / den ≤ roundHalfEven num den ∧ roundHalfEven num den ≤ num / den + 1 := by
  unfold roundHalfEven
  dsimp only
  split <;> omega

theorem roundHalfEven_one (num : Nat) : roundHalfEven num 1 = num := by
  simp [roundHalfEven, Nat.mod_one]

section Whole

variable {num : Nat}

theorem quotient_full (some : num ≠ 0) (wide : 52 ≤ num.log2) :
    hiddenBit ≤ num / Nat.pow 2 (num.log2 - 52) ∧
      num / Nat.pow 2 (num.log2 - 52) < 2 * hiddenBit := by
  have positive : 0 < Nat.pow 2 (num.log2 - 52) := Nat.pow_pos (by decide)
  have low := Nat.log2_self_le some
  have high : num < 2 ^ (num.log2 + 1) := Nat.lt_log2_self
  have lowParts : 2 ^ num.log2 = hiddenBit * Nat.pow 2 (num.log2 - 52) := by
    rw [← Nat.add_sub_of_le wide, Nat.pow_add]
    simp only [Nat.add_sub_cancel_left]
    rfl
  have highParts : 2 ^ (num.log2 + 1) = 2 * hiddenBit * Nat.pow 2 (num.log2 - 52) := by
    rw [Nat.pow_succ, lowParts]
    ring
  exact ⟨(Nat.le_div_iff_mul_le positive).mpr (lowParts ▸ low),
    (Nat.div_lt_iff_lt_mul positive).mpr (highParts ▸ high)⟩

theorem product_full (some : num ≠ 0) (narrow : num.log2 < 52) :
    hiddenBit ≤ num * Nat.pow 2 (52 - num.log2) ∧
      num * Nat.pow 2 (52 - num.log2) < 2 * hiddenBit := by
  have positive : 0 < Nat.pow 2 (52 - num.log2) := Nat.pow_pos (by decide)
  have low := Nat.log2_self_le some
  have high : num < 2 ^ (num.log2 + 1) := Nat.lt_log2_self
  have parts : 2 ^ num.log2 * Nat.pow 2 (52 - num.log2) = hiddenBit := by
    have whole : 2 ^ num.log2 * 2 ^ (52 - num.log2) = 2 ^ 52 := by
      rw [← Nat.pow_add, Nat.add_sub_of_le narrow.le]
    exact whole
  constructor
  · rw [← parts]
    exact Nat.mul_le_mul_right _ low
  · rw [← parts, ← Nat.mul_assoc, ← Nat.pow_succ']
    exact Nat.mul_lt_mul_of_pos_right high positive

theorem scaleOf_whole (some : num ≠ 0) : scaleOf num 1 = (num.log2 : Int) - 52 := by
  have guess : max ((num.log2 : Int) - Nat.log2 1 - 52) (-1074) = (num.log2 : Int) - 52 := by
    have one : Nat.log2 1 = 0 := by decide
    rw [one]
    omega
  unfold scaleOf
  dsimp only
  rw [guess]
  by_cases wide : 52 ≤ num.log2
  · have steps : ((num.log2 : Int) - 52).toNat = num.log2 - 52 := by omega
    have full := (quotient_full some wide).1
    rw [if_pos (by omega), steps, Nat.one_mul, if_neg (fun both => absurd both.1 (by omega))]
  · have steps : (-((num.log2 : Int) - 52)).toNat = 52 - num.log2 := by omega
    have full := (product_full some (by omega)).1
    rw [if_neg (by omega), steps, Nat.div_one, if_neg (fun both => absurd both.1 (by omega))]

theorem ofQuotient_infinite (some : num ≠ 0) :
    (ofQuotient negative num 1).isInfinite = true ↔
      1024 ≤ num.log2 ∨ num.log2 = 1023 ∧
        roundHalfEven num (Nat.pow 2 (num.log2 - 52)) = 2 * hiddenBit := by
  unfold ofQuotient
  dsimp only
  rw [if_neg some, scaleOf_whole some]
  generalize rounding : (if 0 ≤ (num.log2 : Int) - 52 then
    roundHalfEven num (1 * Nat.pow 2 ((num.log2 : Int) - 52).toNat)
    else roundHalfEven (num * Nat.pow 2 (-((num.log2 : Int) - 52)).toNat) 1) = rounded
  have bounds : hiddenBit ≤ rounded ∧ rounded ≤ 2 * hiddenBit ∧
      (num.log2 = 1023 → roundHalfEven num (Nat.pow 2 (num.log2 - 52)) = rounded) := by
    rw [← rounding]
    by_cases wide : 52 ≤ num.log2
    · have ahead : 0 ≤ (num.log2 : Int) - 52 := by omega
      have steps : ((num.log2 : Int) - 52).toNat = num.log2 - 52 := by omega
      obtain ⟨full, fits⟩ := quotient_full some wide
      obtain ⟨low, high⟩ := roundHalfEven_near num (Nat.pow 2 (num.log2 - 52))
      rw [if_pos ahead, steps, Nat.one_mul]
      exact ⟨by omega, by omega, fun _ => rfl⟩
    · have behind : ¬ 0 ≤ (num.log2 : Int) - 52 := by omega
      have steps : (-((num.log2 : Int) - 52)).toNat = 52 - num.log2 := by omega
      obtain ⟨full, fits⟩ := product_full some (by omega)
      rw [if_neg behind, steps, roundHalfEven_one]
      exact ⟨full, by omega, fun digits => by omega⟩
  obtain ⟨full, fits, top⟩ := bounds
  have hidden : 0 < hiddenBit := by decide
  by_cases carried : rounded = 2 * hiddenBit
  · rw [if_pos carried]
    dsimp only
    rw [if_neg (Nat.lt_irrefl _), finished_infinite (by omega)]
    omega
  · rw [if_neg carried]
    dsimp only
    rw [if_neg (by omega), finished_infinite (by omega)]
    omega

-- The powers are told apart from the half of a unit, so that nothing computes them.
theorem limit_parts : ∃ half, 0 < half ∧ 2 ^ 970 = half ∧ 2 ^ 1023 = 2 ^ 53 * half ∧
    2 ^ 1024 = 2 ^ 54 * half := by
  obtain ⟨half, unit⟩ : ∃ half, 2 ^ 970 = half := ⟨_, rfl⟩
  have positive : 0 < 2 ^ 970 := pow_pos (by decide) 970
  have raised (low more high : Nat) (lowest : 2 ^ low = half) (sum : high = low + more) :
      2 ^ high = 2 ^ more * half := by
    rw [sum, pow_add, lowest, Nat.mul_comm]
  exact ⟨half, unit ▸ positive, unit, raised 970 53 1023 unit rfl, raised 970 54 1024 unit rfl⟩

theorem roundHalfEven_top (digits : num.log2 = 1023) :
    roundHalfEven num (Nat.pow 2 (num.log2 - 52)) = 2 * hiddenBit ↔ 2 ^ 1024 - 2 ^ 970 ≤ num := by
  have some : num ≠ 0 := by
    rintro rfl
    cases digits
  obtain ⟨-, fits⟩ := quotient_full some (by omega)
  obtain ⟨half, positive, unit, -, limit⟩ := limit_parts
  have doubled (places : Nat) : Nat.pow 2 (places + 1) = 2 * 2 ^ places := Nat.pow_succ'
  have hidden : hiddenBit = 4503599627370496 := rfl
  have places : num.log2 - 52 = 970 + 1 := by omega
  rw [places, doubled 970, unit, hidden] at fits
  rw [places, doubled 970, limit, unit, hidden]
  have parts := Nat.div_add_mod num (2 * half)
  have small := Nat.mod_lt num (Nat.mul_pos (by decide : 0 < 2) positive)
  unfold roundHalfEven
  dsimp only
  generalize num / (2 * half) = quotient at *
  generalize num % (2 * half) = rest at *
  rw [Nat.mul_assoc] at parts
  by_cases largest : quotient = 9007199254740991
  · subst largest
    split <;> omega
  · have below : half * quotient ≤ half * 9007199254740990 := Nat.mul_le_mul_left _ (by omega)
    split <;> omega

end Whole

-- The least such number lies half a unit above the largest double.
theorem ofInt_infinite (n : Int) :
    (ofInt n).isInfinite = true ↔ 2 ^ 1024 - 2 ^ 970 ≤ n.natAbs := by
  unfold ofInt
  generalize n.natAbs = num
  obtain ⟨half, positive, unit, binade, limit⟩ := limit_parts
  by_cases some : num = 0
  · subst some
    refine iff_of_false (by cases decide (n < 0) <;> decide) ?_
    rw [limit, unit]
    omega
  · rw [ofQuotient_infinite some]
    constructor
    · rintro (long | ⟨digits, carried⟩)
      · have raised := (Nat.le_log2 some).mp long
        omega
      · exact (roundHalfEven_top digits).mp carried
    · intro large
      by_cases long : 1024 ≤ num.log2
      · exact .inl long
      · have digits : num.log2 = 1023 := by
          by_contra short
          have below : num.log2 < 1023 := by omega
          have high := (Nat.log2_lt some).mp below
          rw [limit, unit] at large
          omega
        exact .inr ⟨digits, (roundHalfEven_top digits).mpr large⟩

end EndpointCatalog.Decimal.Double
