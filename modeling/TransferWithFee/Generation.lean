import TransferWithFee.Data
import TransferWithFee.ScalarModel

/-!
# What generation produces

The instruction data `TransferWithFeeData::new` builds from plaintext: it fails exactly when the
balance does not cover the amount; otherwise the new-balance ciphertext is the old one minus the
recombined limbs, the fee ciphertext commits to the capped fee for destination and fee
collector, and every viewer decrypts the amount back from the limbs.
-/

namespace TransferWithFee

variable {Point : Type} [AddCommGroup Point] [Module Scalar Point] {curve : Curve Point}
  (subProofs : SubProofs curve)

section Generation

variable {transferAmount spendableBalance : UInt64} (ciphertextOldSource : ElGamalCiphertext Point)
  (keypairSource : ElGamalKeypair curve) (pubkeyDest pubkeyAuditor : Point)
  (feeParameters : FeeParameters) (pubkeyFeeCollector : Point) (openings : Openings)

/-- Generation aborts with `ProofError::Generation` when the amount exceeds the balance. -/
theorem TransferWithFeeData.new_of_lt (uncovered : spendableBalance < transferAmount) :
    TransferWithFeeData.new curve subProofs transferAmount (spendableBalance, ciphertextOldSource)
      keypairSource (pubkeyDest, pubkeyAuditor) feeParameters pubkeyFeeCollector openings =
      .error .generation := by
  simp [TransferWithFeeData.new, checkedSub, UInt64.not_le.mpr uncovered, okOr, bind, Except.bind]

/-- The instruction data `TransferWithFeeData::new` returns when the balance covers the amount. -/
theorem TransferWithFeeData.new_of_le (covered : transferAmount ≤ spendableBalance) :
    let encoding := curve.toPointEncoding
    let limbs := splitU64IntoU32 transferAmount
    let ciphertextLo := TransferAmountEncryption.new curve limbs.1 keypairSource.public pubkeyDest
      pubkeyAuditor openings.lo
    let ciphertextHi := TransferAmountEncryption.new curve limbs.2 keypairSource.public pubkeyDest
      pubkeyAuditor openings.hi
    let ciphertextNewSource := ciphertextOldSource -
      combineU32Ciphertexts ⟨ciphertextLo.commitment, ciphertextLo.source⟩
        ⟨ciphertextHi.commitment, ciphertextHi.source⟩
    let fee := calculateFee transferAmount feeParameters.feeRateBasisPoints
    let ciphertextFee := FeeEncryption.new curve (feeToEncrypt feeParameters.maximumFee fee.1)
      pubkeyDest pubkeyFeeCollector openings.fee
    let podPubkeys := podTransferWithFeePubkeysNew encoding keypairSource.public pubkeyDest
      pubkeyAuditor pubkeyFeeCollector
    TransferWithFeeData.new curve subProofs transferAmount (spendableBalance, ciphertextOldSource)
        keypairSource (pubkeyDest, pubkeyAuditor) feeParameters pubkeyFeeCollector openings =
      .ok
        { ciphertextLo := ciphertextLo.toBytes encoding
          ciphertextHi := ciphertextHi.toBytes encoding
          transferWithFeePubkeys := podPubkeys
          ciphertextNewSource := ciphertextNewSource.toBytes encoding
          ciphertextFee := ciphertextFee.toBytes encoding
          feeParameters := feeParameters.toBytes
          proof := TransferWithFeeProof.new curve subProofs (limbs.1, ciphertextLo, openings.lo)
            (limbs.2, ciphertextHi, openings.hi) keypairSource (pubkeyDest, pubkeyAuditor)
            (spendableBalance - transferAmount, ciphertextNewSource)
            (fee.1, ciphertextFee, openings.fee)
            fee.2 pubkeyFeeCollector feeParameters
            (TransferWithFeeProof.transcriptNew podPubkeys (ciphertextLo.toBytes encoding)
              (ciphertextHi.toBytes encoding) (ciphertextFee.toBytes encoding))
            openings.newSource openings.claimed } := by
  simp only [TransferWithFeeData.new, checkedSub, if_pos covered, okOr_some, ok_bind]
  rfl

/-- The source key recovers the amount from the source handles of its two limb encryptions,
recombined. -/
theorem sourceLimbs_decryptPoint (amount : UInt64) (keypair : ElGamalKeypair curve)
    (pubkeyDest pubkeyAuditor : Point) (openingLo openingHi : Scalar) :
    let ciphertextLo := TransferAmountEncryption.new curve (splitU64IntoU32 amount).1 keypair.public
      pubkeyDest pubkeyAuditor openingLo
    let ciphertextHi := TransferAmountEncryption.new curve (splitU64IntoU32 amount).2 keypair.public
      pubkeyDest pubkeyAuditor openingHi
    (combineU32Ciphertexts
      (⟨ciphertextLo.commitment, ciphertextLo.source⟩ : ElGamalCiphertext Point)
      ⟨ciphertextHi.commitment, ciphertextHi.source⟩).decryptPoint keypair.secret =
      (amount.toNat : Scalar) • curve.G := by
  simp only [combineU32Ciphertexts, combineU32, ElGamalCiphertext.decryptPoint_add,
    ElGamalCiphertext.decryptPoint_smul, ElGamalCiphertext.decryptPoint_mk,
    TransferAmountEncryption.new, decryptHandle_decrypt, smul_smul, ← add_smul]
  rw [← smul_eq_mul, ← combineU32, combineU32_limbs]

/-- The new-balance ciphertext encrypts the balance minus the amount under the source key. -/
theorem ciphertextNewSource_encrypts (covered : transferAmount ≤ spendableBalance)
    (oldEncrypts : ciphertextOldSource.Encrypts curve keypairSource.secret spendableBalance.toNat)
    (pubkeyDest pubkeyAuditor : Point) (openingLo openingHi : Scalar) :
    let ciphertextLo := TransferAmountEncryption.new curve (splitU64IntoU32 transferAmount).1
      keypairSource.public pubkeyDest pubkeyAuditor openingLo
    let ciphertextHi := TransferAmountEncryption.new curve (splitU64IntoU32 transferAmount).2
      keypairSource.public pubkeyDest pubkeyAuditor openingHi
    (ciphertextOldSource - combineU32Ciphertexts ⟨ciphertextLo.commitment, ciphertextLo.source⟩
      ⟨ciphertextHi.commitment, ciphertextHi.source⟩).Encrypts curve keypairSource.secret
      (spendableBalance.toNat - transferAmount.toNat : ℕ) := by
  have coveredNat : transferAmount.toNat ≤ spendableBalance.toNat := covered
  rw [ElGamalCiphertext.Encrypts, ElGamalCiphertext.decryptPoint_sub, oldEncrypts,
    sourceLimbs_decryptPoint, ← sub_smul, Nat.cast_sub coveredNat]

/-- Generation encrypts the balance minus the amount under the source key, and the capped fee
`min(fee, maximum_fee)` to the destination and the fee collector. -/
theorem TransferWithFeeData.new_encrypts_balance_and_fee
    (covered : transferAmount ≤ spendableBalance)
    (oldEncrypts : ciphertextOldSource.Encrypts curve keypairSource.secret spendableBalance.toNat)
    (keypairDest keypairFeeCollector : ElGamalKeypair curve) :
    let limbs := splitU64IntoU32 transferAmount
    let ciphertextLo := TransferAmountEncryption.new curve limbs.1 keypairSource.public
      keypairDest.public pubkeyAuditor openings.lo
    let ciphertextHi := TransferAmountEncryption.new curve limbs.2 keypairSource.public
      keypairDest.public pubkeyAuditor openings.hi
    let fee := (calculateFee transferAmount feeParameters.feeRateBasisPoints).1
    let cappedFee : Scalar := (min fee.toNat feeParameters.maximumFee.toNat : ℕ)
    ∃ data, TransferWithFeeData.new curve subProofs transferAmount
        (spendableBalance, ciphertextOldSource)
        keypairSource (keypairDest.public, pubkeyAuditor) feeParameters keypairFeeCollector.public
        openings = .ok data ∧
      (∃ ciphertextNewSource : ElGamalCiphertext Point,
        data.ciphertextNewSource = ciphertextNewSource.toBytes curve.toPointEncoding ∧
        ciphertextNewSource = ciphertextOldSource -
          combineU32Ciphertexts ⟨ciphertextLo.commitment, ciphertextLo.source⟩
            ⟨ciphertextHi.commitment, ciphertextHi.source⟩ ∧
        ciphertextNewSource.Encrypts curve keypairSource.secret
          (spendableBalance.toNat - transferAmount.toNat : ℕ)) ∧
      (∃ ciphertextFee : FeeEncryption Point,
        data.ciphertextFee = ciphertextFee.toBytes curve.toPointEncoding ∧
        ciphertextFee.commitment = Pedersen.new curve cappedFee openings.fee ∧
        ciphertextFee.dest = decryptHandle keypairDest.public openings.fee ∧
        ciphertextFee.feeCollector = decryptHandle keypairFeeCollector.public openings.fee ∧
        ElGamalCiphertext.Encrypts curve ⟨ciphertextFee.commitment, ciphertextFee.dest⟩
          keypairDest.secret cappedFee ∧
        ElGamalCiphertext.Encrypts curve ⟨ciphertextFee.commitment, ciphertextFee.feeCollector⟩
          keypairFeeCollector.secret cappedFee) := by
  intro limbs ciphertextLo ciphertextHi fee cappedFee
  have committed : (FeeEncryption.new curve (feeToEncrypt feeParameters.maximumFee fee)
      keypairDest.public keypairFeeCollector.public openings.fee).commitment =
      Pedersen.new curve cappedFee openings.fee := by
    simp only [FeeEncryption.new, feeToEncrypt_toNat, cappedFee]
  exact ⟨_, TransferWithFeeData.new_of_le subProofs ciphertextOldSource keypairSource _ _
    feeParameters _ openings covered, ⟨_, rfl, rfl, ciphertextNewSource_encrypts ciphertextOldSource
      keypairSource covered oldEncrypts _ _ _ _⟩, ⟨_, rfl, committed, rfl, rfl,
      ElGamalCiphertext.encrypts_of_opening curve committed rfl,
      ElGamalCiphertext.encrypts_of_opening curve committed rfl⟩⟩

/-- One token sent from a balance of two on the scalar curve, at rate 100 and maximum fee 3. -/
theorem new_encrypts_balance_and_fee_scalarCurve :
    (1 : UInt64) ≤ 2 ∧
    (ElGamalCiphertext.mk (2 : Scalar) 0).Encrypts scalarCurve scalarKeypair.secret
      (2 : UInt64).toNat ∧
    let limbs := splitU64IntoU32 1
    let ciphertextLo := TransferAmountEncryption.new scalarCurve limbs.1 scalarKeypair.public
      scalarKeypair.public 0 0
    let ciphertextHi := TransferAmountEncryption.new scalarCurve limbs.2 scalarKeypair.public
      scalarKeypair.public 0 0
    let fee := (calculateFee 1 100).1
    let cappedFee : Scalar := (min fee.toNat (3 : UInt64).toNat : ℕ)
    ∃ data, TransferWithFeeData.new scalarCurve scalarSubProofs 1 (2, ⟨2, 0⟩) scalarKeypair
        (scalarKeypair.public, 0) ⟨100, 3⟩ scalarKeypair.public ⟨0, 0, 0, 0, 0⟩ = .ok data ∧
      (∃ ciphertextNewSource : ElGamalCiphertext Scalar,
        data.ciphertextNewSource = ciphertextNewSource.toBytes scalarCurve.toPointEncoding ∧
        ciphertextNewSource = ⟨2, 0⟩ -
          combineU32Ciphertexts ⟨ciphertextLo.commitment, ciphertextLo.source⟩
            ⟨ciphertextHi.commitment, ciphertextHi.source⟩ ∧
        ciphertextNewSource.Encrypts scalarCurve scalarKeypair.secret
          ((2 : UInt64).toNat - (1 : UInt64).toNat : ℕ)) ∧
      (∃ ciphertextFee : FeeEncryption Scalar,
        data.ciphertextFee = ciphertextFee.toBytes scalarCurve.toPointEncoding ∧
        ciphertextFee.commitment = Pedersen.new scalarCurve cappedFee 0 ∧
        ciphertextFee.dest = decryptHandle scalarKeypair.public 0 ∧
        ciphertextFee.feeCollector = decryptHandle scalarKeypair.public 0 ∧
        ElGamalCiphertext.Encrypts scalarCurve ⟨ciphertextFee.commitment, ciphertextFee.dest⟩
          scalarKeypair.secret cappedFee ∧
        ElGamalCiphertext.Encrypts scalarCurve
          ⟨ciphertextFee.commitment, ciphertextFee.feeCollector⟩ scalarKeypair.secret cappedFee) :=
  have oldEncrypts : (ElGamalCiphertext.mk (2 : Scalar) 0).Encrypts scalarCurve scalarKeypair.secret
      (2 : UInt64).toNat := by
    rw [ElGamalCiphertext.Encrypts, ElGamalCiphertext.decryptPoint_mk]
    decide
  ⟨by decide, oldEncrypts, TransferWithFeeData.new_encrypts_balance_and_fee scalarSubProofs ⟨2, 0⟩
    scalarKeypair 0 ⟨100, 3⟩ ⟨0, 0, 0, 0, 0⟩ (by decide) oldEncrypts scalarKeypair scalarKeypair⟩

/-! ## Decryption -/

/-- A limb encryption, read back for a role, decrypts to the limb under the key whose public half
made that role's handle. -/
theorem roleCiphertext_new_decryptU32Online (roundTrip : curve.toPointEncoding.RoundTrip)
    {discreteLog : Point → Option UInt32}
    (recovers : ∀ amount : UInt32, discreteLog ((amount.toNat : Scalar) • curve.G) = some amount)
    (amount : UInt32) (pubkeySource pubkeyDest pubkeyAuditor : Point) (opening : Scalar)
    (role : Role)
    (keypair : ElGamalKeypair curve)
    (keyOfRole : keypair.public = match role with
      | .source => pubkeySource
      | .dest => pubkeyDest
      | .auditor => pubkeyAuditor) :
    ∃ ciphertext, roleCiphertext curve ((TransferAmountEncryption.new curve amount pubkeySource
        pubkeyDest pubkeyAuditor opening).toBytes curve.toPointEncoding) role = .ok ciphertext ∧
      ciphertext.decryptU32Online keypair.secret discreteLog = some amount := by
  rw [roleCiphertext, TransferAmountEncryption.ofArray_toBytes roundTrip, ok_bind]
  refine ⟨_, rfl, ?_⟩
  cases role <;>
  · subst keyOfRole
    rw [ElGamalCiphertext.decryptU32Online, ElGamalCiphertext.decryptPoint_mk,
      TransferAmountEncryption.new, decryptHandle_decrypt, recovers]

/-- `decrypt_amount` returns the amount to the key of every role's handle on an envelope holding
its two limb encryptions. -/
theorem TransferWithFeeData.decryptAmount_of_limbEncryptions
    (roundTrip : curve.toPointEncoding.RoundTrip)
    {discreteLog : Point → Option UInt32}
    (recovers : ∀ amount : UInt32, discreteLog ((amount.toNat : Scalar) • curve.G) = some amount)
    {data : TransferWithFeeData} {amount : UInt64} {pubkeySource pubkeyDest pubkeyAuditor : Point}
    {openingLo openingHi : Scalar}
    (loBytes : data.ciphertextLo = (TransferAmountEncryption.new curve (splitU64IntoU32 amount).1
      pubkeySource pubkeyDest pubkeyAuditor openingLo).toBytes curve.toPointEncoding)
    (hiBytes : data.ciphertextHi = (TransferAmountEncryption.new curve (splitU64IntoU32 amount).2
      pubkeySource pubkeyDest pubkeyAuditor openingHi).toBytes curve.toPointEncoding)
    (role : Role) (keypair : ElGamalKeypair curve)
    (keyOfRole : keypair.public = match role with
      | .source => pubkeySource
      | .dest => pubkeyDest
      | .auditor => pubkeyAuditor) :
    data.decryptAmount curve role keypair.secret discreteLog = .ok amount := by
  obtain ⟨_, loDecoded, loRecovered⟩ := roleCiphertext_new_decryptU32Online roundTrip recovers
    (splitU64IntoU32 amount).1 _ _ _ openingLo role keypair keyOfRole
  obtain ⟨_, hiDecoded, hiRecovered⟩ := roleCiphertext_new_decryptU32Online roundTrip recovers
    (splitU64IntoU32 amount).2 _ _ _ openingHi role keypair keyOfRole
  simp only [TransferWithFeeData.decryptAmount, TransferWithFeeData.ciphertextLoFor,
    TransferWithFeeData.ciphertextHiFor, loBytes, hiBytes, loDecoded, hiDecoded, ok_bind,
    loRecovered, hiRecovered, splitU64IntoU32_recombine]
  rfl

/-- Each of the source, destination and auditor keys recovers the amount from the envelope `new`
builds. -/
theorem TransferWithFeeData.new_decryptAmount (roundTrip : curve.toPointEncoding.RoundTrip)
    (covered : transferAmount ≤ spendableBalance)
    (keypairDest keypairAuditor : ElGamalKeypair curve)
    {discreteLog : Point → Option UInt32}
    (recovers : ∀ amount : UInt32, discreteLog ((amount.toNat : Scalar) • curve.G) = some amount) :
    ∃ data, TransferWithFeeData.new curve subProofs transferAmount
        (spendableBalance, ciphertextOldSource)
        keypairSource (keypairDest.public, keypairAuditor.public) feeParameters pubkeyFeeCollector
        openings = .ok data ∧
      data.decryptAmount curve .source keypairSource.secret discreteLog = .ok transferAmount ∧
      data.decryptAmount curve .dest keypairDest.secret discreteLog = .ok transferAmount ∧
      data.decryptAmount curve .auditor keypairAuditor.secret discreteLog = .ok transferAmount :=
  -- the limb encodings are checked by tactic blocks, run once the envelope is fixed
  ⟨_, TransferWithFeeData.new_of_le subProofs ciphertextOldSource keypairSource _ _ feeParameters _
    openings covered,
    TransferWithFeeData.decryptAmount_of_limbEncryptions roundTrip recovers (by rfl) (by rfl)
      .source keypairSource rfl,
    TransferWithFeeData.decryptAmount_of_limbEncryptions roundTrip recovers (by rfl) (by rfl)
      .dest keypairDest rfl,
    TransferWithFeeData.decryptAmount_of_limbEncryptions roundTrip recovers (by rfl) (by rfl)
      .auditor keypairAuditor rfl⟩

/-- On the scalar curve, with the secret-one key pair in every role, the amount `2^32 + 5` comes
back to each viewer. -/
theorem new_decryptAmount_scalarCurve :
    scalarCurve.toPointEncoding.RoundTrip ∧ (4294967301 : UInt64) ≤ 4294967301 ∧
    (∀ amount : UInt32, scalarDiscreteLog ((amount.toNat : Scalar) • scalarCurve.G) = some amount) ∧
    ∃ data, TransferWithFeeData.new scalarCurve scalarSubProofs 4294967301 (4294967301, ⟨0, 0⟩)
        scalarKeypair (scalarKeypair.public, scalarKeypair.public) ⟨100, 3⟩ 0 ⟨0, 0, 0, 0, 0⟩ =
        .ok data ∧
      data.decryptAmount scalarCurve .source scalarKeypair.secret scalarDiscreteLog =
        .ok 4294967301 ∧
      data.decryptAmount scalarCurve .dest scalarKeypair.secret scalarDiscreteLog =
        .ok 4294967301 ∧
      data.decryptAmount scalarCurve .auditor scalarKeypair.secret scalarDiscreteLog =
        .ok 4294967301 :=
  ⟨scalarCurve_roundTrip, by decide, scalarDiscreteLog_recovers,
    TransferWithFeeData.new_decryptAmount scalarSubProofs ⟨0, 0⟩ scalarKeypair ⟨100, 3⟩ 0
      ⟨0, 0, 0, 0, 0⟩ scalarCurve_roundTrip (by decide) scalarKeypair scalarKeypair
      scalarDiscreteLog_recovers⟩

end Generation

end TransferWithFee
