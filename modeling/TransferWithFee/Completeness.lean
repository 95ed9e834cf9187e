import TransferWithFee.Generation
import Mathlib.Tactic.LinearCombination

/-!
# Generation, then verification

Whether the envelope `TransferWithFeeData::new` builds passes `verify` when the sub-proofs are
complete for their relations. Every generator sees the transcript its verifier checks on, and
the equality, aggregated-validity and range witnesses always satisfy their relations. The
fee-validity generator is handed `fee_amount` rather than the encrypted `fee_to_encrypt`, so its
witness holds only when the fee is not capped; the fee-sigma generator is handed the remainder as
`delta_fee`, while the delta commitment commits to `fee * 10000 - amount * rate`, so its witness
holds only when the fee is the maximum or the division is exact. With sub-proofs that are sound
as well as complete, this decides `verify` on every uncapped envelope `new` builds.
-/

namespace TransferWithFee

variable {Point : Type} [AddCommGroup Point] [Module Scalar Point] {curve : Curve Point}

/-! ## The generator's witnesses -/

/-- The fee encryption commits to `min(fee, maximum_fee)` under the fee opening. -/
theorem feeEncryptionCommitment_new (maximumFee feeAmount : UInt64)
    (pubkeyDest pubkeyFeeCollector : Point) (openingFee : Scalar) :
    (FeeEncryption.new curve (feeToEncrypt maximumFee feeAmount) pubkeyDest pubkeyFeeCollector
      openingFee).commitment =
      Pedersen.new curve (min feeAmount.toNat maximumFee.toNat : ℕ) openingFee := by
  rw [FeeEncryption.new, feeToEncrypt_toNat]

theorem aggregatedValidityWitness_new (amountLo amountHi : UInt32)
    (pubkeySource pubkeyDest pubkeyAuditor : Point) (openingLo openingHi : Scalar) :
    let ciphertextLo := TransferAmountEncryption.new curve amountLo pubkeySource pubkeyDest
      pubkeyAuditor openingLo
    let ciphertextHi := TransferAmountEncryption.new curve amountHi pubkeySource pubkeyDest
      pubkeyAuditor openingHi
    AggregatedValidityWitness curve
      ((pubkeyDest, pubkeyAuditor), (ciphertextLo.commitment, ciphertextHi.commitment),
        (ciphertextLo.dest, ciphertextHi.dest), (ciphertextLo.auditor, ciphertextHi.auditor))
      ((pubkeyDest, pubkeyAuditor), (amountLo, amountHi), (openingLo, openingHi)) :=
  ⟨rfl, rfl, rfl, rfl, rfl, rfl, rfl, rfl⟩

/-- The fee-validity witness holds when the fee is not capped, so that the encrypted fee is the
one the generator is handed. -/
theorem validityWitness_new {maximumFee feeAmount : UInt64} (uncapped : feeAmount ≤ maximumFee)
    (pubkeyDest pubkeyFeeCollector : Point) (openingFee : Scalar) :
    let ciphertextFee := FeeEncryption.new curve (feeToEncrypt maximumFee feeAmount) pubkeyDest
      pubkeyFeeCollector openingFee
    ValidityWitness curve
      (ciphertextFee.commitment, (pubkeyDest, pubkeyFeeCollector),
        (ciphertextFee.dest, ciphertextFee.feeCollector))
      ((pubkeyDest, pubkeyFeeCollector), feeAmount, openingFee) := by
  have uncappedNat : feeAmount.toNat ≤ maximumFee.toNat := uncapped
  refine ⟨rfl, rfl, ?_, rfl, rfl⟩
  rw [feeEncryptionCommitment_new, min_eq_left uncappedNat]

/-- The range witness opens the verifier's five commitments and fits `64, 32, 32, 64, 64` bits
whenever `delta_fee ≤ 10000`. -/
theorem rangeWitness_new {deltaFee : UInt64} (deltaBound : deltaFee.toNat ≤ 10000)
    (newBalance : UInt64) (amountLo amountHi : UInt32)
    (openingSource openingLo openingHi openingClaimed : Scalar) :
    RangeWitness curve
      ([Pedersen.new curve newBalance.toNat openingSource,
          Pedersen.new curve amountLo.toNat openingLo, Pedersen.new curve amountHi.toNat openingHi,
          Pedersen.new curve deltaFee.toNat openingClaimed,
          commitmentFeeDenominator curve - Pedersen.new curve deltaFee.toNat openingClaimed],
        [64, 32, 32, 64, 64])
      ([newBalance, amountLo.toUInt64, amountHi.toUInt64, deltaFee, feeDenominator - deltaFee],
        [64, 32, 32, 64, 64],
        [openingSource, openingLo, openingHi, openingClaimed, 0 - openingClaimed]) := by
  have bounds : ∀ value : UInt64, value.toNat < 2 ^ 64 := UInt64.toNat_lt_size
  have limbBounds : ∀ value : UInt32, value.toUInt64.toNat < 2 ^ 32 := UInt32.toNat_lt_size
  refine ⟨rfl, rfl, ?_, ?_⟩
  · simp only [List.zipWith_cons_cons, List.zipWith_nil_left,
      pedersen_new_feeDenominator_sub curve deltaBound]
    rfl
  · simp only [List.forall₂_cons, bounds, limbBounds, List.Forall₂.nil, and_self]

/-- The gap the delta commitment commits to: with the rate at most `10000`, the fee times `10000`
minus the recombined limbs times the rate is `(10000 - remainder) mod 10000`. -/
theorem calculateFee_limbs_gap {feeRateBasisPoints : UInt16} (transferAmount : UInt64)
    (rateAtMostWhole : feeRateBasisPoints.toNat ≤ 10000) :
    ((calculateFee transferAmount feeRateBasisPoints).1.toNat : Scalar) * 10000 -
        (((splitU64IntoU32 transferAmount).1.toNat : Scalar) +
          2 ^ 32 * (splitU64IntoU32 transferAmount).2.toNat) * feeRateBasisPoints.toNat =
      ((10000 - (calculateFee transferAmount feeRateBasisPoints).2.toNat) % 10000 : ℕ) := by
  have gap := calculateFee_gap transferAmount rateAtMostWhole
  obtain ⟨lo, hi⟩ := splitU64IntoU32_toNat transferAmount
  have natural : (calculateFee transferAmount feeRateBasisPoints).1.toNat * 10000 =
      (10000 - (calculateFee transferAmount feeRateBasisPoints).2.toNat) % 10000 +
        ((splitU64IntoU32 transferAmount).1.toNat +
          2 ^ 32 * (splitU64IntoU32 transferAmount).2.toNat) * feeRateBasisPoints.toNat := by
    rw [lo, hi, Nat.mod_add_div]
    omega
  have cast := congrArg (fun n : ℕ => (n : Scalar)) natural
  push_cast at cast
  linear_combination cast

/-- The fee-sigma witness holds when the fee is capped or the remainder is `0` or `5000`, the
values at which the gap `(10000 - rem) % 10000` equals the remainder. -/
theorem feeSigmaWitness_new {transferAmount : UInt64} {feeParameters : FeeParameters}
    (rateAtMostWhole : feeParameters.feeRateBasisPoints.toNat ≤ 10000)
    (cappedOrBalanced :
      feeParameters.maximumFee ≤ (calculateFee transferAmount feeParameters.feeRateBasisPoints).1 ∨
        (calculateFee transferAmount feeParameters.feeRateBasisPoints).2 = 0 ∨
        (calculateFee transferAmount feeParameters.feeRateBasisPoints).2 = 5000)
    (pubkeySource pubkeyDest pubkeyAuditor pubkeyFeeCollector : Point)
    (openingLo openingHi openingFee openingClaimed : Scalar) :
    let limbs := splitU64IntoU32 transferAmount
    let ciphertextLo := TransferAmountEncryption.new curve limbs.1 pubkeySource pubkeyDest
      pubkeyAuditor openingLo
    let ciphertextHi := TransferAmountEncryption.new curve limbs.2 pubkeySource pubkeyDest
      pubkeyAuditor openingHi
    let fee := calculateFee transferAmount feeParameters.feeRateBasisPoints
    let ciphertextFee := FeeEncryption.new curve (feeToEncrypt feeParameters.maximumFee fee.1)
      pubkeyDest pubkeyFeeCollector openingFee
    FeeSigmaWitness curve
      (ciphertextFee.commitment,
        computeDeltaCommitment ciphertextLo.commitment ciphertextHi.commitment
          ciphertextFee.commitment feeParameters.feeRateBasisPoints,
        Pedersen.new curve fee.2.toNat openingClaimed, feeParameters.maximumFee)
      ((fee.1, ciphertextFee.commitment, openingFee),
        (fee.2, computeDeltaCommitmentAndOpening (ciphertextLo.commitment, openingLo)
          (ciphertextHi.commitment, openingHi) (ciphertextFee.commitment, openingFee)
          feeParameters.feeRateBasisPoints),
        (Pedersen.new curve fee.2.toNat openingClaimed, openingClaimed),
        feeParameters.maximumFee) := by
  intro limbs ciphertextLo ciphertextHi fee ciphertextFee
  refine ⟨rfl, rfl, rfl, rfl, ?_⟩
  by_cases capped : feeParameters.maximumFee ≤ fee.1
  · have cappedNat : feeParameters.maximumFee.toNat ≤ fee.1.toNat := capped
    left
    rw [feeEncryptionCommitment_new, min_eq_right cappedNat]
  · have balanced : (10000 - fee.2.toNat) % 10000 = fee.2.toNat := by
      rcases cappedOrBalanced.resolve_left capped with remainder | remainder <;>
        rw [remainder] <;> rfl
    have uncappedNat : fee.1.toNat ≤ feeParameters.maximumFee.toNat := (Nat.not_le.mp capped).le
    have feeCommitment : ciphertextFee.commitment = Pedersen.new curve fee.1.toNat openingFee := by
      rw [feeEncryptionCommitment_new, min_eq_left uncappedNat]
    have committed := (computeDeltaCommitmentAndOpening_new curve (limbs.1.toNat : Scalar)
      limbs.2.toNat fee.1.toNat openingLo openingHi openingFee feeParameters.feeRateBasisPoints).2
    have gap := calculateFee_limbs_gap transferAmount rateAtMostWhole
    right
    refine ⟨?_, rfl⟩
    rw [feeCommitment]
    refine committed.trans ?_
    rw [gap, balanced]
    rfl

/-- On a binding curve the fee commitment `new` encrypts opens to the maximum fee only when the
fee reaches the maximum. -/
theorem maximumFee_le_of_feeOpens (binding : curve.Binding) {maximumFee feeAmount : UInt64}
    (pubkeyDest pubkeyFeeCollector : Point) (openingFee : Scalar)
    (opens : OpensTo curve (FeeEncryption.new curve (feeToEncrypt maximumFee feeAmount) pubkeyDest
      pubkeyFeeCollector openingFee).commitment maximumFee.toNat) :
    maximumFee ≤ feeAmount := by
  obtain ⟨opening, committed⟩ := opens
  rw [feeEncryptionCommitment_new] at committed
  have same := (natCast_scalar_inj ((Nat.min_le_right _ _).trans_lt
    (uint64_toNat_lt_two_pow_sixtyFive maximumFee)) (uint64_toNat_lt_two_pow_sixtyFive _)).mp
    (binding _ _ _ _ committed)
  exact (min_eq_right_iff.mp same : maximumFee.toNat ≤ feeAmount.toNat)

/-- For an uncapped fee on a binding curve, the verifier's delta commitment opens to `delta_fee`
only when it is `0` or `5000`. -/
theorem remainder_balanced_of_deltaOpens (binding : curve.Binding) {transferAmount : UInt64}
    {feeParameters : FeeParameters}
    (rateAtMostWhole : feeParameters.feeRateBasisPoints.toNat ≤ 10000)
    (uncapped : (calculateFee transferAmount feeParameters.feeRateBasisPoints).1 ≤
      feeParameters.maximumFee)
    (pubkeySource pubkeyDest pubkeyAuditor pubkeyFeeCollector : Point)
    (openingLo openingHi openingFee : Scalar) :
    let limbs := splitU64IntoU32 transferAmount
    let ciphertextLo := TransferAmountEncryption.new curve limbs.1 pubkeySource pubkeyDest
      pubkeyAuditor openingLo
    let ciphertextHi := TransferAmountEncryption.new curve limbs.2 pubkeySource pubkeyDest
      pubkeyAuditor openingHi
    let fee := calculateFee transferAmount feeParameters.feeRateBasisPoints
    let ciphertextFee := FeeEncryption.new curve (feeToEncrypt feeParameters.maximumFee fee.1)
      pubkeyDest pubkeyFeeCollector openingFee
    OpensTo curve (computeDeltaCommitment ciphertextLo.commitment ciphertextHi.commitment
        ciphertextFee.commitment feeParameters.feeRateBasisPoints) fee.2.toNat →
      fee.2 = 0 ∨ fee.2 = 5000 := by
  rintro limbs ciphertextLo ciphertextHi fee ciphertextFee ⟨openingDelta, deltaCommitted⟩
  have feeCommitment : ciphertextFee.commitment = Pedersen.new curve fee.1.toNat openingFee := by
    rw [feeEncryptionCommitment_new, min_eq_left uncapped]
  have committed := (computeDeltaCommitmentAndOpening_new curve (limbs.1.toNat : Scalar)
    limbs.2.toNat fee.1.toNat openingLo openingHi openingFee feeParameters.feeRateBasisPoints).2
  rw [feeCommitment] at deltaCommitted
  have gapScalar := binding _ _ _ _ (committed.symm.trans deltaCommitted)
  rw [calculateFee_limbs_gap transferAmount rateAtMostWhole] at gapScalar
  have remainder : fee.2.toNat < 10000 := by
    rw [calculateFee_snd_toNat]
    exact Nat.mod_lt _ (by norm_num)
  have gap : (10000 - fee.2.toNat) % 10000 = fee.2.toNat :=
    (natCast_scalar_inj (by omega) (by omega)).mp gapScalar
  rcases (by omega : fee.2.toNat = 0 ∨ fee.2.toNat = 5000) with zero | half
  · exact .inl (UInt64.toNat.inj zero)
  · exact .inr (UInt64.toNat.inj half)

section RoundTrip

variable (subProofs : SubProofs curve) {transferAmount spendableBalance : UInt64}
  (ciphertextOldSource : ElGamalCiphertext Point) (keypairSource : ElGamalKeypair curve)
  (pubkeyDest pubkeyAuditor : Point) (feeParameters : FeeParameters) (pubkeyFeeCollector : Point)
  (openings : Openings)

/-- With complete sub-proofs, generation then verification succeeds for a covered, uncapped fee
that is the maximum or leaves remainder `0` or `5000`. -/
theorem TransferWithFeeData.new_verify (roundTrip : curve.toPointEncoding.RoundTrip)
    (complete : subProofs.Complete curve) (covered : transferAmount ≤ spendableBalance)
    (oldEncrypts : ciphertextOldSource.Encrypts curve keypairSource.secret spendableBalance.toNat)
    (rateAtMostWhole : feeParameters.feeRateBasisPoints.toNat ≤ 10000)
    (uncapped : (calculateFee transferAmount feeParameters.feeRateBasisPoints).1 ≤
      feeParameters.maximumFee)
    (maximalOrBalanced :
      (calculateFee transferAmount feeParameters.feeRateBasisPoints).1 = feeParameters.maximumFee ∨
        (calculateFee transferAmount feeParameters.feeRateBasisPoints).2 = 0 ∨
        (calculateFee transferAmount feeParameters.feeRateBasisPoints).2 = 5000) :
    ∃ data, TransferWithFeeData.new curve subProofs transferAmount
        (spendableBalance, ciphertextOldSource)
        keypairSource (pubkeyDest, pubkeyAuditor) feeParameters pubkeyFeeCollector openings =
        .ok data ∧
      data.verify curve subProofs = .ok () := by
  refine ⟨_, TransferWithFeeData.new_of_le subProofs ciphertextOldSource keypairSource _ _
    feeParameters _ openings covered, ?_⟩
  -- the encodings are checked by tactic blocks, run once the rewrite has fixed the envelope
  rw [TransferWithFeeData.verify_of_encoded curve subProofs roundTrip (by rfl) (by rfl)
    (by exact podTransferWithFeePubkeysNew_eq _ _ _ _ _) (by rfl) (by rfl) (by rfl)]
  have deltaBound :
      (calculateFee transferAmount feeParameters.feeRateBasisPoints).2.toNat ≤ 10000 := by
    rw [calculateFee_snd_toNat]
    omega
  exact TransferWithFeeProof.verify_new curve subProofs roundTrip complete
    ⟨rfl, rfl, by
      rw [UInt64.toNat_sub_of_le _ _ covered]
      exact ciphertextNewSource_encrypts ciphertextOldSource keypairSource covered oldEncrypts
        _ _ _ _,
      rfl⟩
    (aggregatedValidityWitness_new _ _ _ _ _ _ _)
    (feeSigmaWitness_new rateAtMostWhole (maximalOrBalanced.imp_left fun maximal => by
      rw [maximal]
      exact Nat.le_refl _) _ _ _ _ _ _ _ _)
    (validityWitness_new uncapped _ _ _) (rangeWitness_new deltaBound _ _ _ _ _ _ _)

/-- With sound and complete sub-proofs on a binding curve, `verify` accepts the envelope `new`
builds for an uncapped fee exactly when it is the maximum or `delta_fee` is `0` or `5000`. -/
theorem TransferWithFeeData.new_verify_iff (roundTrip : curve.toPointEncoding.RoundTrip)
    (binding : curve.Binding) (sound : subProofs.Sound curve) (complete : subProofs.Complete curve)
    (covered : transferAmount ≤ spendableBalance)
    (oldEncrypts : ciphertextOldSource.Encrypts curve keypairSource.secret spendableBalance.toNat)
    (rateAtMostWhole : feeParameters.feeRateBasisPoints.toNat ≤ 10000)
    (uncapped : (calculateFee transferAmount feeParameters.feeRateBasisPoints).1 ≤
      feeParameters.maximumFee) :
    ∃ data, TransferWithFeeData.new curve subProofs transferAmount
        (spendableBalance, ciphertextOldSource)
        keypairSource (pubkeyDest, pubkeyAuditor) feeParameters pubkeyFeeCollector openings =
        .ok data ∧
      (data.verify curve subProofs = .ok () ↔
        (calculateFee transferAmount feeParameters.feeRateBasisPoints).1 = feeParameters.maximumFee ∨
          (calculateFee transferAmount feeParameters.feeRateBasisPoints).2 = 0 ∨
          (calculateFee transferAmount feeParameters.feeRateBasisPoints).2 = 5000) := by
  have built := TransferWithFeeData.new_of_le subProofs ciphertextOldSource keypairSource
    pubkeyDest pubkeyAuditor feeParameters pubkeyFeeCollector openings covered
  refine ⟨_, built, fun accepted => ?_, fun maximalOrBalanced => ?_⟩
  · rw [TransferWithFeeData.verify_of_encoded curve subProofs roundTrip (by rfl) (by rfl)
      (by exact podTransferWithFeePubkeysNew_eq _ _ _ _ _) (by rfl) (by rfl) (by rfl),
      TransferWithFeeProof.verify_eq_ok] at accepted
    obtain ⟨-, commitmentClaimed, -, claimedDecoded, -, -, feeSigmaAccepted, -⟩ := accepted
    cases (decodeCommitment_compress roundTrip _).symm.trans claimedDecoded
    obtain isMaximum | ⟨value, deltaOpens, claimedOpens⟩ := sound.feeSigma _ _ _ feeSigmaAccepted
    · have capped : feeParameters.maximumFee.toNat ≤
          (calculateFee transferAmount feeParameters.feeRateBasisPoints).1.toNat :=
        maximumFee_le_of_feeOpens binding _ _ _ isMaximum
      exact .inl (UInt64.toNat.inj (Nat.le_antisymm uncapped capped))
    · cases OpensTo.unique binding claimedOpens ⟨_, rfl⟩
      exact .inr (remainder_balanced_of_deltaOpens binding rateAtMostWhole uncapped _ _ _ _ _ _ _
        deltaOpens)
  · obtain ⟨data, generated, accepted⟩ := TransferWithFeeData.new_verify subProofs
      ciphertextOldSource keypairSource pubkeyDest pubkeyAuditor feeParameters pubkeyFeeCollector
      openings roundTrip complete covered oldEncrypts rateAtMostWhole uncapped maximalOrBalanced
    cases built.symm.trans generated
    exact accepted

/-- The scenario of `test_fee_correctness`: 100 sent from a balance of 120 at rate 100 with maximum
fee 3, where the fee 1 leaves remainder 0. -/
theorem new_verify_iff_scalarCurve :
    scalarCurve.toPointEncoding.RoundTrip ∧ scalarCurve.Binding ∧
    scalarSubProofs.Sound scalarCurve ∧ scalarSubProofs.Complete scalarCurve ∧
    (100 : UInt64) ≤ 120 ∧
    (ElGamalCiphertext.mk (120 : Scalar) 0).Encrypts scalarCurve scalarKeypair.secret
      (120 : UInt64).toNat ∧
    (100 : UInt16).toNat ≤ 10000 ∧ (calculateFee 100 100).1 ≤ 3 ∧
    ∃ data, TransferWithFeeData.new scalarCurve scalarSubProofs 100 (120, ⟨120, 0⟩) scalarKeypair
        (0, 0) ⟨100, 3⟩ 0 ⟨0, 0, 0, 0, 0⟩ = .ok data ∧
      (data.verify scalarCurve scalarSubProofs = .ok () ↔
        (calculateFee 100 100).1 = 3 ∨ (calculateFee 100 100).2 = 0 ∨
          (calculateFee 100 100).2 = 5000) :=
  have oldEncrypts : (ElGamalCiphertext.mk (120 : Scalar) 0).Encrypts scalarCurve
      scalarKeypair.secret (120 : UInt64).toNat := by
    rw [ElGamalCiphertext.Encrypts, ElGamalCiphertext.decryptPoint_mk]
    decide
  ⟨scalarCurve_roundTrip, scalarCurve_binding, scalarSubProofs_sound, scalarSubProofs_complete,
    by decide, oldEncrypts, by decide, by decide,
    TransferWithFeeData.new_verify_iff scalarSubProofs ⟨120, 0⟩ scalarKeypair 0 0 ⟨100, 3⟩ 0
      ⟨0, 0, 0, 0, 0⟩ scalarCurve_roundTrip scalarCurve_binding scalarSubProofs_sound
      scalarSubProofs_complete (by decide) oldEncrypts (by decide) (by decide)⟩

end RoundTrip

/-- Two inputs where a generator's witness misses its relation: the rounded fee at amount 1, rate 1,
maximum 5, and the capped fee at amount 10000, rate 10000, maximum 50. -/
theorem new_then_verify_fails_on_rounded_or_capped_fee :
    scalarSubProofs.Sound scalarCurve ∧ scalarSubProofs.Complete scalarCurve ∧
    (∃ data, TransferWithFeeData.new scalarCurve scalarSubProofs 1 (1, ⟨1, 0⟩) scalarKeypair (0, 0)
        ⟨1, 5⟩ 0 ⟨0, 0, 0, 0, 0⟩ = .ok data ∧
      data.verify scalarCurve scalarSubProofs = .error .verification) ∧
    let ciphertextFee :=
      FeeEncryption.new scalarCurve (feeToEncrypt 50 (calculateFee 10000 10000).1) 0 0 0
    ¬ ValidityWitness scalarCurve
      (ciphertextFee.commitment, (0, 0), (ciphertextFee.dest, ciphertextFee.feeCollector))
      ((0, 0), (calculateFee 10000 10000).1, 0) := by
  refine ⟨scalarSubProofs_sound, scalarSubProofs_complete, ⟨_, TransferWithFeeData.new_of_le
    scalarSubProofs ⟨1, 0⟩ scalarKeypair 0 0 ⟨1, 5⟩ 0 ⟨0, 0, 0, 0, 0⟩ (by decide), ?_⟩,
    fun holds => absurd holds.2.2.1 (by decide)⟩
  rw [TransferWithFeeData.verify_of_encoded scalarCurve scalarSubProofs scalarCurve_roundTrip
    (by rfl) (by rfl) (by exact podTransferWithFeePubkeysNew_eq _ _ _ _ _) (by rfl) (by rfl)
    (by rfl)]
  simp only [TransferWithFeeProof.verify, TransferWithFeeProof.new,
    decodeCommitment_compress scalarCurve_roundTrip, ok_bind, scalarSubProofs, decidingSubProof,
    if_true]
  rw [if_neg]
  · rfl
  · decide

end TransferWithFee
