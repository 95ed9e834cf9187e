import TransferWithFee.Bytes

/-!
# Fee arithmetic

`calculate_fee` and the constant-time cap of `TransferWithFeeData::new`. The fee is the basis-point
share of the transfer amount rounded up, computed through a `u128` product and cast back to
`u64`; the cap selects between the fee and `maximum_fee` with `subtle`'s branch-free primitives.
-/

namespace TransferWithFee

/-- `FEE_DENOMINATOR`: rates are counted in basis points, hundredths of a percent. -/
def feeDenominator : UInt64 := 10000

@[simp] theorem feeDenominator_toNat : feeDenominator.toNat = 10000 := rfl

/-- `calculate_fee`. The `u128` product of a `u64` and a `u16` cannot wrap, so it is the exact
product; the two `as u64` casts truncate, and `fee + 1` wraps. -/
def calculateFee (transferAmount : UInt64) (feeRateBasisPoints : UInt16) : UInt64 × UInt64 :=
  let feeScaled := transferAmount.toNat * feeRateBasisPoints.toNat
  let fee := UInt64.ofNat (feeScaled / feeDenominator.toNat)
  let rem := UInt64.ofNat (feeScaled % feeDenominator.toNat)
  if rem = 0 then (fee, rem) else (fee + 1, rem)

private theorem ofNat_rem_eq_zero_iff (scaled : ℕ) :
    UInt64.ofNat (scaled % 10000) = 0 ↔ scaled % 10000 = 0 := by
  constructor
  · intro isZero
    have := congrArg UInt64.toNat isZero
    rwa [uint64_toNat_ofNat, Nat.mod_eq_of_lt (by omega)] at this
  · intro isZero
    rw [isZero]
    rfl

/-- The remainder `calculate_fee` returns is the product's remainder modulo the denominator. -/
theorem calculateFee_snd_toNat (transferAmount : UInt64) (feeRateBasisPoints : UInt16) :
    (calculateFee transferAmount feeRateBasisPoints).2.toNat =
      transferAmount.toNat * feeRateBasisPoints.toNat % 10000 := by
  have small : transferAmount.toNat * feeRateBasisPoints.toNat % 10000 < 2 ^ 64 := by omega
  simp only [calculateFee, feeDenominator_toNat]
  split <;> simp only [uint64_toNat_ofNat, Nat.mod_eq_of_lt small]

/-- The fee `calculate_fee` returns is the rounded-up share, reduced modulo `2^64` by the casts. -/
theorem calculateFee_fst_toNat (transferAmount : UInt64) (feeRateBasisPoints : UInt16) :
    (calculateFee transferAmount feeRateBasisPoints).1.toNat =
      (transferAmount.toNat * feeRateBasisPoints.toNat + 9999) / 10000 % 2 ^ 64 := by
  simp only [calculateFee, feeDenominator_toNat]
  split
  · rename_i remZero
    rw [ofNat_rem_eq_zero_iff] at remZero
    rw [uint64_toNat_ofNat]
    congr 1
    omega
  · rename_i remNonzero
    rw [ofNat_rem_eq_zero_iff] at remNonzero
    rw [uint64_toNat_add, uint64_toNat_ofNat]
    show (_ % 2 ^ 64 + 1 % 2 ^ 64) % 2 ^ 64 = _
    rw [← Nat.add_mod]
    congr 1
    omega

/-- Up to a rate of 100%, the rounded-up fee never exceeds the amount, so the casts keep it. -/
theorem calculateFee_fst_toNat_of_rate_le {feeRateBasisPoints : UInt16}
    (transferAmount : UInt64) (rateAtMostWhole : feeRateBasisPoints.toNat ≤ 10000) :
    (calculateFee transferAmount feeRateBasisPoints).1.toNat =
      (transferAmount.toNat * feeRateBasisPoints.toNat + 9999) / 10000 := by
  have amountBound := transferAmount.toNat_lt_size
  have scaledBound : transferAmount.toNat * feeRateBasisPoints.toNat ≤
      transferAmount.toNat * 10000 := Nat.mul_le_mul_left _ rateAtMostWhole
  rw [calculateFee_fst_toNat, Nat.mod_eq_of_lt]
  change _ < 18446744073709551616
  change transferAmount.toNat < 18446744073709551616 at amountBound
  omega

/-- Up to a rate of 100%, the returned fee overshoots the exact share by the gap
`(10000 - rem) % 10000`, not by the remainder `rem` that `calculate_fee` returns beside it. -/
theorem calculateFee_gap {feeRateBasisPoints : UInt16} (transferAmount : UInt64)
    (rateAtMostWhole : feeRateBasisPoints.toNat ≤ 10000) :
    (calculateFee transferAmount feeRateBasisPoints).1.toNat * 10000 =
      transferAmount.toNat * feeRateBasisPoints.toNat +
        (10000 - (calculateFee transferAmount feeRateBasisPoints).2.toNat) % 10000 := by
  rw [calculateFee_fst_toNat_of_rate_le transferAmount rateAtMostWhole, calculateFee_snd_toNat]
  omega

/-- Up to a rate of 100%, `calculate_fee` returns the rounded-up share, never above the amount,
and the remainder. -/
theorem calculateFee_ceiling {feeRateBasisPoints : UInt16} (transferAmount : UInt64)
    (rateAtMostWhole : feeRateBasisPoints.toNat ≤ 10000) :
    transferAmount.toNat * feeRateBasisPoints.toNat ≤
        (calculateFee transferAmount feeRateBasisPoints).1.toNat * 10000 ∧
      (calculateFee transferAmount feeRateBasisPoints).1.toNat * 10000 <
        transferAmount.toNat * feeRateBasisPoints.toNat + 10000 ∧
      (calculateFee transferAmount feeRateBasisPoints).1.toNat ≤ transferAmount.toNat ∧
      (calculateFee transferAmount feeRateBasisPoints).2.toNat =
        transferAmount.toNat * feeRateBasisPoints.toNat % 10000 := by
  have scaledBound : transferAmount.toNat * feeRateBasisPoints.toNat ≤
      transferAmount.toNat * 10000 := Nat.mul_le_mul_left _ rateAtMostWhole
  rw [calculateFee_fst_toNat_of_rate_le transferAmount rateAtMostWhole, calculateFee_snd_toNat]
  omega

theorem calculateFee_ceiling_one :
    (1 : UInt16).toNat ≤ 10000 ∧
    (1 : UInt64).toNat * (1 : UInt16).toNat ≤ (calculateFee 1 1).1.toNat * 10000 ∧
      (calculateFee 1 1).1.toNat * 10000 < (1 : UInt64).toNat * (1 : UInt16).toNat + 10000 ∧
      (calculateFee 1 1).1.toNat ≤ (1 : UInt64).toNat ∧
      (calculateFee 1 1).2.toNat = (1 : UInt64).toNat * (1 : UInt16).toNat % 10000 :=
  ⟨by decide, calculateFee_ceiling 1 (by decide)⟩

/-- At the largest amount and rate the fee exceeds `u64::MAX`; the `as u64` cast wraps it and
`calculate_fee` returns a fee far below the rounded-up share. -/
theorem calculateFee_truncates_at_max :
    (calculateFee 18446744073709551615 65535).1.toNat ≠
      ((18446744073709551615 : UInt64).toNat * (65535 : UInt16).toNat + 9999) / 10000 := by
  rw [calculateFee_fst_toNat,
    show (18446744073709551615 : UInt64).toNat = 18446744073709551615 from rfl,
    show (65535 : UInt16).toNat = 65535 from rfl]
  decide

/-! ## The constant-time cap -/

/-- `u64::ct_gt(a, b)` of `subtle`, by its contract: the choice bit is set exactly when `a > b`.
The crate computes it by bit smearing, without branches. -/
def ctGt (a b : UInt64) : Bool := decide (b < a)

/-- `u64::conditional_select(a, b, choice)` of `subtle`: `b` under the mask `-(choice)`, `a`
otherwise, with no branch on the choice. -/
def conditionalSelect (a b : UInt64) (choice : Bool) : UInt64 :=
  a ^^^ ((0 - choice.toUInt64) &&& (a ^^^ b))

theorem conditionalSelect_eq (a b : UInt64) (choice : Bool) :
    conditionalSelect a b choice = if choice then b else a := by
  apply UInt64.eq_of_toBitVec_eq
  cases choice
  · show a.toBitVec ^^^ ((0 - 0) &&& (a.toBitVec ^^^ b.toBitVec)) = a.toBitVec
    simp
  · show a.toBitVec ^^^ ((0 - 1) &&& (a.toBitVec ^^^ b.toBitVec)) = b.toBitVec
    have allOnes : (0 - 1 : BitVec 64) = BitVec.allOnes 64 := by decide
    rw [allOnes, BitVec.allOnes_and, ← BitVec.xor_assoc, BitVec.xor_self, BitVec.zero_xor]

/-- The amount `TransferWithFeeData::new` encrypts as the fee: `maximum_fee` unless it is
strictly greater than the fee. -/
def feeToEncrypt (maximumFee feeAmount : UInt64) : UInt64 :=
  conditionalSelect maximumFee feeAmount (ctGt maximumFee feeAmount)

/-- The cap selects the smaller of the fee and `maximum_fee`. -/
theorem feeToEncrypt_toNat (maximumFee feeAmount : UInt64) :
    (feeToEncrypt maximumFee feeAmount).toNat = min feeAmount.toNat maximumFee.toNat := by
  rw [feeToEncrypt, conditionalSelect_eq, ctGt]
  by_cases below : feeAmount < maximumFee
  · have : feeAmount.toNat < maximumFee.toNat := below
    rw [if_pos (decide_eq_true below), min_eq_left this.le]
  · have : maximumFee.toNat ≤ feeAmount.toNat := Nat.not_lt.mp below
    rw [if_neg (by simpa using below), min_eq_right this]

end TransferWithFee
