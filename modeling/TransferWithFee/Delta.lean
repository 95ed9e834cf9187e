import TransferWithFee.Encryption
import TransferWithFee.Fee

/-!
# The delta commitment

`compute_delta_commitment_and_opening` (prover) and `compute_delta_commitment` (verifier) form
`fee • 10000 - rate • (lo + 2^32 • hi)` from public commitments, so that a range proof on a
commitment to the rounding gap certifies the fee. The complement commitment
`COMMITMENT_FEE_DENOMINATOR - commitment_claimed` bounds that gap from above.
-/

namespace TransferWithFee

variable {Point : Type} [AddCommGroup Point] [Module Scalar Point] (curve : Curve Point)

/-- `compute_delta_commitment_and_opening`: the same linear combination of the commitments and of
their openings. -/
def computeDeltaCommitmentAndOpening (lo hi fee : Point × Scalar) (feeRateBasisPoints : UInt16) :
    Point × Scalar :=
  let feeRateScalar : Scalar := feeRateBasisPoints.toNat
  let commitmentDelta := (feeDenominator.toNat : Scalar) • fee.1 -
    feeRateScalar • combineU32Commitments lo.1 hi.1
  let openingDelta := fee.2 * feeDenominator.toNat - combineU32Openings lo.2 hi.2 * feeRateScalar
  (commitmentDelta, openingDelta)

/-- `compute_delta_commitment`: the verifier's recomputation from public commitments only. -/
def computeDeltaCommitment (commitmentLo commitmentHi commitmentFee : Point)
    (feeRateBasisPoints : UInt16) : Point :=
  let feeRateScalar : Scalar := feeRateBasisPoints.toNat
  (feeDenominator.toNat : Scalar) • commitmentFee -
    feeRateScalar • combineU32Commitments commitmentLo commitmentHi

/-- The prover's delta commitment is the one the verifier recomputes, whatever the openings. -/
theorem computeDeltaCommitmentAndOpening_fst (lo hi fee : Point × Scalar) (rate : UInt16) :
    (computeDeltaCommitmentAndOpening lo hi fee rate).1 =
      computeDeltaCommitment lo.1 hi.1 fee.1 rate :=
  rfl

/-- On commitments, the delta commitment commits to `fee * 10000 - (lo + 2^32 * hi) * rate`. -/
theorem computeDeltaCommitment_new (lo hi fee openingLo openingHi openingFee : Scalar)
    (rate : UInt16) :
    computeDeltaCommitment (Pedersen.new curve lo openingLo) (Pedersen.new curve hi openingHi)
        (Pedersen.new curve fee openingFee) rate =
      Pedersen.new curve (fee * 10000 - (lo + 2 ^ 32 * hi) * rate.toNat)
        (openingFee * 10000 - (openingLo + 2 ^ 32 * openingHi) * rate.toNat) := by
  rw [computeDeltaCommitment, combineU32Commitments_new]
  simp only [combineU32, combineU32Openings, Pedersen.new, feeDenominator_toNat, two32_toNat,
    smul_eq_mul]
  push_cast
  module

/-- The prover's delta commitment is the verifier's recomputation and commits to
`fee * 10000 - (lo + 2^32 * hi) * rate` under the returned opening. -/
theorem computeDeltaCommitmentAndOpening_new (lo hi fee openingLo openingHi openingFee : Scalar)
    (rate : UInt16) :
    let commitmentLo := Pedersen.new curve lo openingLo
    let commitmentHi := Pedersen.new curve hi openingHi
    let commitmentFee := Pedersen.new curve fee openingFee
    let openingDelta := openingFee * 10000 - (openingLo + 2 ^ 32 * openingHi) * rate.toNat
    computeDeltaCommitmentAndOpening (commitmentLo, openingLo) (commitmentHi, openingHi)
        (commitmentFee, openingFee) rate =
      (computeDeltaCommitment commitmentLo commitmentHi commitmentFee rate, openingDelta) ∧
    computeDeltaCommitment commitmentLo commitmentHi commitmentFee rate =
      Pedersen.new curve (fee * 10000 - (lo + 2 ^ 32 * hi) * rate.toNat) openingDelta := by
  refine ⟨Prod.ext (computeDeltaCommitmentAndOpening_fst _ _ _ _) ?_,
    computeDeltaCommitment_new curve _ _ _ _ _ _ _⟩
  simp only [computeDeltaCommitmentAndOpening, combineU32Openings, combineU32, two32_toNat,
    feeDenominator_toNat, smul_eq_mul]
  push_cast
  ring

/-- At amount 1 and rate 1, `calculate_fee` returns `(1, 1)` while the delta commitment commits to
`1 * 10000 - 1 * 1 = 9999`. -/
theorem calculateFee_delta_mismatch_at_one (openingLo openingHi openingFee : Scalar) :
    calculateFee 1 1 = (1, 1) ∧ splitU64IntoU32 1 = (1, 0) ∧
    let delta := computeDeltaCommitmentAndOpening
      (Pedersen.new curve ((1 : UInt32).toNat : Scalar) openingLo, openingLo)
      (Pedersen.new curve ((0 : UInt32).toNat : Scalar) openingHi, openingHi)
      (Pedersen.new curve ((1 : UInt64).toNat : Scalar) openingFee, openingFee) 1
    delta.1 = Pedersen.new curve 9999 delta.2 := by
  refine ⟨by decide, by decide, ?_⟩
  obtain ⟨computed, committed⟩ := computeDeltaCommitmentAndOpening_new curve
    ((1 : UInt32).toNat : Scalar) ((0 : UInt32).toNat : Scalar) ((1 : UInt64).toNat : Scalar)
    openingLo openingHi openingFee 1
  simp only at computed committed ⊢
  rw [computed, committed]
  congr 1

/-! ## The complement range trick -/

/-- `COMMITMENT_FEE_DENOMINATOR`: the denominator under the zero opening. -/
def commitmentFeeDenominator : Point := Pedersen.encode curve (feeDenominator.toNat : Scalar)

/-- Subtracting a commitment from `COMMITMENT_FEE_DENOMINATOR` commits to the complement under
the negated opening. -/
theorem commitmentFeeDenominator_sub_new (amount opening : Scalar) :
    commitmentFeeDenominator curve - Pedersen.new curve amount opening =
      Pedersen.new curve (10000 - amount) (-opening) := by
  simp only [commitmentFeeDenominator, Pedersen.encode, Pedersen.new, feeDenominator_toNat]
  push_cast
  module

theorem two_pow_sixtyFive_lt_groupOrder : 2 ^ 65 < groupOrder := by
  norm_num [groupOrder]

/-- Below `2^65`, naturals are equal as scalars only when they are equal. -/
theorem natCast_scalar_inj {a b : ℕ} (aBound : a < 2 ^ 65) (bBound : b < 2 ^ 65) :
    (a : Scalar) = b ↔ a = b := by
  rw [ZMod.natCast_eq_natCast_iff', Nat.mod_eq_of_lt (aBound.trans two_pow_sixtyFive_lt_groupOrder),
    Nat.mod_eq_of_lt (bBound.trans two_pow_sixtyFive_lt_groupOrder)]

theorem uint64_toNat_lt_two_pow_sixtyFive (value : UInt64) : value.toNat < 2 ^ 65 :=
  value.toNat_lt_size.trans (by decide)

/-- Two values below `2^64` whose sum is `10000` in the scalar field sum to `10000` as integers,
so the first lies in `[0, 10000]`: the range proofs on a value and on its complement pin it. -/
theorem le_feeDenominator_of_complement {amount complement : ℕ} (amountBound : amount < 2 ^ 64)
    (complementBound : complement < 2 ^ 64)
    (isComplement : (complement : Scalar) = 10000 - amount) : amount ≤ 10000 := by
  have sum : ((complement + amount : ℕ) : Scalar) = ((10000 : ℕ) : Scalar) := by
    push_cast
    rw [isComplement, sub_add_cancel]
  rw [ZMod.natCast_eq_natCast_iff', Nat.mod_eq_of_lt, Nat.mod_eq_of_lt] at sum
  · omega
  · exact lt_trans (by norm_num) two_pow_sixtyFive_lt_groupOrder
  · exact lt_trans (by omega) two_pow_sixtyFive_lt_groupOrder

/-- The prover's fifth range slot opens the verifier's complement commitment when
`FEE_DENOMINATOR - delta_fee` does not wrap. -/
theorem pedersen_new_feeDenominator_sub {deltaFee : UInt64} (deltaBound : deltaFee.toNat ≤ 10000)
    (openingClaimed : Scalar) :
    Pedersen.new curve (feeDenominator - deltaFee).toNat (0 - openingClaimed) =
      commitmentFeeDenominator curve - Pedersen.new curve deltaFee.toNat openingClaimed := by
  rw [commitmentFeeDenominator_sub_new, UInt64.toNat_sub_of_le _ _ deltaBound,
    feeDenominator_toNat, Nat.cast_sub deltaBound, zero_sub, Nat.cast_ofNat]

end TransferWithFee
