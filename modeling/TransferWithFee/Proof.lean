import TransferWithFee.SubProofs
import TransferWithFee.Delta

/-!
# The proof bundle

`TransferWithFeeProof`: two commitments and five sub-proofs, generated by `new` and checked by
`verify` in one fixed order on one transcript. The verifier's transcript before each sub-proof is
the public statement, the two commitments, and the earlier sub-proofs' own messages;
`checkTranscripts` computes these states from the proof alone.
-/

namespace TransferWithFee

/-- `TransferWithFeeProof`, in its pod form: the two commitments' encodings and the five
sub-proofs' bytes. -/
structure TransferWithFeeProof where
  commitmentNewSource : Bytes 32
  commitmentClaimed : Bytes 32
  equalityProof : List UInt8
  ciphertextAmountValidityProof : List UInt8
  feeSigmaProof : List UInt8
  ciphertextFeeValidityProof : List UInt8
  rangeProof : List UInt8

/-- `TransferWithFeeProof::transcript_new`: the domain label, then the public keys and the three
encryptions. -/
def TransferWithFeeProof.transcriptNew (transferWithFeePubkeys : Bytes 128)
    (ciphertextLo ciphertextHi : Bytes 128) (ciphertextFee : Bytes 96) : Transcript :=
  (((Transcript.new "FeeProof").appendMessage "transfer-with-fee-pubkeys"
    transferWithFeePubkeys.toList).appendMessage "ciphertext-lo" ciphertextLo.toList).appendMessage
    "ciphertext-hi" ciphertextHi.toList |>.appendMessage "ciphertext-fee" ciphertextFee.toList

/-- The transcript states at which the sub-proofs are checked, in order. -/
structure CheckTranscripts where
  equality : Transcript
  aggregatedValidity : Transcript
  feeSigma : Transcript
  validity : Transcript
  range : Transcript

variable {Point : Type} [AddCommGroup Point] [Module Scalar Point] (curve : Curve Point)
  (subProofs : SubProofs curve)

/-- The transcripts `TransferWithFeeProof::verify` checks its sub-proofs on: the two commitments
appended to the given transcript, then each earlier sub-proof's messages. -/
def TransferWithFeeProof.checkTranscripts (proof : TransferWithFeeProof) (transcript : Transcript) :
    CheckTranscripts :=
  let equality := (transcript.appendCommitment "commitment-new-source"
    proof.commitmentNewSource).appendCommitment "commitment-claimed" proof.commitmentClaimed
  let aggregatedValidity := equality.extend (subProofs.equality.messages proof.equalityProof)
  let feeSigma := aggregatedValidity.extend
    (subProofs.aggregatedValidity.messages proof.ciphertextAmountValidityProof)
  let validity := feeSigma.extend (subProofs.feeSigma.messages proof.feeSigmaProof)
  let range := validity.extend (subProofs.validity.messages proof.ciphertextFeeValidityProof)
  ⟨equality, aggregatedValidity, feeSigma, validity, range⟩

/-- `TransferWithFeeProof::new`. The openings the two `Pedersen::new` calls draw are the last two
arguments. -/
def TransferWithFeeProof.new
    (transferAmountLoData : UInt32 × TransferAmountEncryption Point × Scalar)
    (transferAmountHiData : UInt32 × TransferAmountEncryption Point × Scalar)
    (keypairSource : ElGamalKeypair curve) (pubkeys : Point × Point)
    (newSource : UInt64 × ElGamalCiphertext Point) (feeData : UInt64 × FeeEncryption Point × Scalar)
    (deltaFee : UInt64) (pubkeyFeeCollector : Point) (feeParameters : FeeParameters)
    (transcript : Transcript) (openingSource openingClaimed : Scalar) : TransferWithFeeProof :=
  let (transferAmountLo, ciphertextLo, openingLo) := transferAmountLoData
  let (transferAmountHi, ciphertextHi, openingHi) := transferAmountHiData
  let (pubkeyDest, pubkeyAuditor) := pubkeys
  let (sourceNewBalance, ciphertextNewSource) := newSource
  let (feeAmount, ciphertextFee, openingFee) := feeData
  let commitmentNewSource := Pedersen.new curve sourceNewBalance.toNat openingSource
  let commitmentClaimed := Pedersen.new curve deltaFee.toNat openingClaimed
  let podCommitmentNewSource := curve.compress commitmentNewSource
  let podCommitmentClaimed := curve.compress commitmentClaimed
  let transcript := transcript.appendCommitment "commitment-new-source" podCommitmentNewSource
  let transcript := transcript.appendCommitment "commitment-claimed" podCommitmentClaimed
  let equalityProof := subProofs.equality.new
    (keypairSource, ciphertextNewSource, sourceNewBalance, openingSource) transcript
  let transcript := transcript.extend (subProofs.equality.messages equalityProof)
  let ciphertextAmountValidityProof := subProofs.aggregatedValidity.new
    ((pubkeyDest, pubkeyAuditor), (transferAmountLo, transferAmountHi), (openingLo, openingHi))
    transcript
  let transcript := transcript.extend
    (subProofs.aggregatedValidity.messages ciphertextAmountValidityProof)
  let (commitmentDelta, openingDelta) := computeDeltaCommitmentAndOpening
    (ciphertextLo.commitment, openingLo) (ciphertextHi.commitment, openingHi)
    (ciphertextFee.commitment, openingFee) feeParameters.feeRateBasisPoints
  let feeSigmaProof := subProofs.feeSigma.new
    ((feeAmount, ciphertextFee.commitment, openingFee), (deltaFee, commitmentDelta, openingDelta),
      (commitmentClaimed, openingClaimed), feeParameters.maximumFee) transcript
  let transcript := transcript.extend (subProofs.feeSigma.messages feeSigmaProof)
  let ciphertextFeeValidityProof := subProofs.validity.new
    ((pubkeyDest, pubkeyFeeCollector), feeAmount, openingFee) transcript
  let transcript := transcript.extend (subProofs.validity.messages ciphertextFeeValidityProof)
  let openingClaimedNegated := 0 - openingClaimed
  let rangeProof := subProofs.range.new
    ([sourceNewBalance, transferAmountLo.toUInt64, transferAmountHi.toUInt64, deltaFee,
        feeDenominator - deltaFee],
      [64, 32, 32, 64, 64],
      [openingSource, openingLo, openingHi, openingClaimed, openingClaimedNegated]) transcript
  { commitmentNewSource := podCommitmentNewSource
    commitmentClaimed := podCommitmentClaimed
    equalityProof := equalityProof
    ciphertextAmountValidityProof := ciphertextAmountValidityProof
    feeSigmaProof := feeSigmaProof
    ciphertextFeeValidityProof := ciphertextFeeValidityProof
    rangeProof := rangeProof }

/-- Each sub-proof `new` generates is its generator's output on the transcript its verifier
checks it on. -/
theorem TransferWithFeeProof.new_generators
    (transferAmountLoData : UInt32 × TransferAmountEncryption Point × Scalar)
    (transferAmountHiData : UInt32 × TransferAmountEncryption Point × Scalar)
    (keypairSource : ElGamalKeypair curve) (pubkeys : Point × Point)
    (newSource : UInt64 × ElGamalCiphertext Point) (feeData : UInt64 × FeeEncryption Point × Scalar)
    (deltaFee : UInt64) (pubkeyFeeCollector : Point) (feeParameters : FeeParameters)
    (transcript : Transcript) (openingSource openingClaimed : Scalar) :
    let proof := TransferWithFeeProof.new curve subProofs transferAmountLoData transferAmountHiData
      keypairSource pubkeys newSource feeData deltaFee pubkeyFeeCollector feeParameters transcript
      openingSource openingClaimed
    let transcripts := proof.checkTranscripts curve subProofs transcript
    let commitmentClaimed := Pedersen.new curve deltaFee.toNat openingClaimed
    let delta := computeDeltaCommitmentAndOpening
      (transferAmountLoData.2.1.commitment, transferAmountLoData.2.2)
      (transferAmountHiData.2.1.commitment, transferAmountHiData.2.2)
      (feeData.2.1.commitment, feeData.2.2) feeParameters.feeRateBasisPoints
    proof.equalityProof = subProofs.equality.new
        (keypairSource, newSource.2, newSource.1, openingSource) transcripts.equality ∧
      proof.ciphertextAmountValidityProof = subProofs.aggregatedValidity.new
        (pubkeys, (transferAmountLoData.1, transferAmountHiData.1),
          (transferAmountLoData.2.2, transferAmountHiData.2.2)) transcripts.aggregatedValidity ∧
      proof.feeSigmaProof = subProofs.feeSigma.new
        ((feeData.1, feeData.2.1.commitment, feeData.2.2), (deltaFee, delta),
          (commitmentClaimed, openingClaimed), feeParameters.maximumFee) transcripts.feeSigma ∧
      proof.ciphertextFeeValidityProof = subProofs.validity.new
        ((pubkeys.1, pubkeyFeeCollector), feeData.1, feeData.2.2) transcripts.validity ∧
      proof.rangeProof = subProofs.range.new
        ([newSource.1, transferAmountLoData.1.toUInt64, transferAmountHiData.1.toUInt64, deltaFee,
            feeDenominator - deltaFee], [64, 32, 32, 64, 64],
          [openingSource, transferAmountLoData.2.2, transferAmountHiData.2.2, openingClaimed,
            0 - openingClaimed]) transcripts.range :=
  ⟨rfl, rfl, rfl, rfl, rfl⟩

/-- `TransferWithFeeProof::verify`: decode the two commitments, then check the five sub-proofs
in order, each on its transcript, stopping at the first failure. -/
def TransferWithFeeProof.verify (proof : TransferWithFeeProof)
    (ciphertextLo ciphertextHi : TransferAmountEncryption Point)
    (transferWithFeePubkeys : TransferWithFeePubkeys Point)
    (newSpendableCiphertext : ElGamalCiphertext Point) (ciphertextFee : FeeEncryption Point)
    (feeParameters : FeeParameters) (transcript : Transcript) : Except ProofError Unit := do
  let transcripts := proof.checkTranscripts curve subProofs transcript
  let commitmentNewSource ← decodeCommitment curve.toPointEncoding proof.commitmentNewSource
  let commitmentClaimed ← decodeCommitment curve.toPointEncoding proof.commitmentClaimed
  subProofs.equality.verify proof.equalityProof
    (transferWithFeePubkeys.source, newSpendableCiphertext, commitmentNewSource)
    transcripts.equality
  subProofs.aggregatedValidity.verify proof.ciphertextAmountValidityProof
    ((transferWithFeePubkeys.dest, transferWithFeePubkeys.auditor),
      (ciphertextLo.commitment, ciphertextHi.commitment), (ciphertextLo.dest, ciphertextHi.dest),
      (ciphertextLo.auditor, ciphertextHi.auditor))
    transcripts.aggregatedValidity
  let commitmentDelta := computeDeltaCommitment ciphertextLo.commitment ciphertextHi.commitment
    ciphertextFee.commitment feeParameters.feeRateBasisPoints
  subProofs.feeSigma.verify proof.feeSigmaProof
    (ciphertextFee.commitment, commitmentDelta, commitmentClaimed, feeParameters.maximumFee)
    transcripts.feeSigma
  subProofs.validity.verify proof.ciphertextFeeValidityProof
    (ciphertextFee.commitment, (transferWithFeePubkeys.dest, transferWithFeePubkeys.feeCollector),
      (ciphertextFee.dest, ciphertextFee.feeCollector))
    transcripts.validity
  let commitmentClaimedNegated := commitmentFeeDenominator curve - commitmentClaimed
  subProofs.range.verify proof.rangeProof
    ([commitmentNewSource, ciphertextLo.commitment, ciphertextHi.commitment, commitmentClaimed,
        commitmentClaimedNegated],
      [64, 32, 32, 64, 64])
    transcripts.range

/-- `verify` accepts exactly when both commitments decode and the five sub-proofs verify, each on
its transcript, against the statement the bundle hands it. -/
theorem TransferWithFeeProof.verify_eq_ok (proof : TransferWithFeeProof)
    (ciphertextLo ciphertextHi : TransferAmountEncryption Point)
    (transferWithFeePubkeys : TransferWithFeePubkeys Point)
    (newSpendableCiphertext : ElGamalCiphertext Point) (ciphertextFee : FeeEncryption Point)
    (feeParameters : FeeParameters) (transcript : Transcript) :
    proof.verify curve subProofs ciphertextLo ciphertextHi transferWithFeePubkeys
        newSpendableCiphertext ciphertextFee feeParameters transcript = .ok () ↔
      ∃ commitmentNewSource commitmentClaimed,
        decodeCommitment curve.toPointEncoding proof.commitmentNewSource = .ok commitmentNewSource ∧
        decodeCommitment curve.toPointEncoding proof.commitmentClaimed = .ok commitmentClaimed ∧
        subProofs.equality.verify proof.equalityProof
          (transferWithFeePubkeys.source, newSpendableCiphertext, commitmentNewSource)
          (proof.checkTranscripts curve subProofs transcript).equality = .ok () ∧
        subProofs.aggregatedValidity.verify proof.ciphertextAmountValidityProof
          ((transferWithFeePubkeys.dest, transferWithFeePubkeys.auditor),
            (ciphertextLo.commitment, ciphertextHi.commitment),
            (ciphertextLo.dest, ciphertextHi.dest), (ciphertextLo.auditor, ciphertextHi.auditor))
          (proof.checkTranscripts curve subProofs transcript).aggregatedValidity = .ok () ∧
        subProofs.feeSigma.verify proof.feeSigmaProof
          (ciphertextFee.commitment,
            computeDeltaCommitment ciphertextLo.commitment ciphertextHi.commitment
              ciphertextFee.commitment feeParameters.feeRateBasisPoints,
            commitmentClaimed, feeParameters.maximumFee)
          (proof.checkTranscripts curve subProofs transcript).feeSigma = .ok () ∧
        subProofs.validity.verify proof.ciphertextFeeValidityProof
          (ciphertextFee.commitment,
            (transferWithFeePubkeys.dest, transferWithFeePubkeys.feeCollector),
            (ciphertextFee.dest, ciphertextFee.feeCollector))
          (proof.checkTranscripts curve subProofs transcript).validity = .ok () ∧
        subProofs.range.verify proof.rangeProof
          ([commitmentNewSource, ciphertextLo.commitment, ciphertextHi.commitment,
              commitmentClaimed, commitmentFeeDenominator curve - commitmentClaimed],
            [64, 32, 32, 64, 64])
          (proof.checkTranscripts curve subProofs transcript).range = .ok () := by
  simp only [TransferWithFeeProof.verify, bind_eq_ok, Unique.exists_iff, exists_and_left]

/-- With complete sub-proofs, an honest bundle verifies when each witness satisfies its relation
against the statement `verify` hands its verifier. -/
theorem TransferWithFeeProof.verify_new (roundTrip : curve.toPointEncoding.RoundTrip)
    (complete : subProofs.Complete curve) {amountLo amountHi : UInt32}
    {ciphertextLo ciphertextHi : TransferAmountEncryption Point} {openingLo openingHi : Scalar}
    {keypairSource : ElGamalKeypair curve} {pubkeyDest pubkeyAuditor pubkeyFeeCollector : Point}
    {newBalance : UInt64} {ciphertextNewSource : ElGamalCiphertext Point} {feeAmount : UInt64}
    {ciphertextFee : FeeEncryption Point} {openingFee : Scalar} {deltaFee : UInt64}
    {feeParameters : FeeParameters} {transcript : Transcript}
    {openingSource openingClaimed : Scalar}
    (equalityHolds : EqualityWitness curve
      (keypairSource.public, ciphertextNewSource, Pedersen.new curve newBalance.toNat openingSource)
      (keypairSource, ciphertextNewSource, newBalance, openingSource))
    (aggregatedValidityHolds : AggregatedValidityWitness curve
      ((pubkeyDest, pubkeyAuditor), (ciphertextLo.commitment, ciphertextHi.commitment),
        (ciphertextLo.dest, ciphertextHi.dest), (ciphertextLo.auditor, ciphertextHi.auditor))
      ((pubkeyDest, pubkeyAuditor), (amountLo, amountHi), (openingLo, openingHi)))
    (feeSigmaHolds : FeeSigmaWitness curve
      (ciphertextFee.commitment,
        computeDeltaCommitment ciphertextLo.commitment ciphertextHi.commitment
          ciphertextFee.commitment feeParameters.feeRateBasisPoints,
        Pedersen.new curve deltaFee.toNat openingClaimed, feeParameters.maximumFee)
      ((feeAmount, ciphertextFee.commitment, openingFee),
        (deltaFee, computeDeltaCommitmentAndOpening (ciphertextLo.commitment, openingLo)
          (ciphertextHi.commitment, openingHi) (ciphertextFee.commitment, openingFee)
          feeParameters.feeRateBasisPoints),
        (Pedersen.new curve deltaFee.toNat openingClaimed, openingClaimed),
        feeParameters.maximumFee))
    (validityHolds : ValidityWitness curve
      (ciphertextFee.commitment, (pubkeyDest, pubkeyFeeCollector),
        (ciphertextFee.dest, ciphertextFee.feeCollector))
      ((pubkeyDest, pubkeyFeeCollector), feeAmount, openingFee))
    (rangeHolds : RangeWitness curve
      ([Pedersen.new curve newBalance.toNat openingSource, ciphertextLo.commitment,
          ciphertextHi.commitment, Pedersen.new curve deltaFee.toNat openingClaimed,
          commitmentFeeDenominator curve - Pedersen.new curve deltaFee.toNat openingClaimed],
        [64, 32, 32, 64, 64])
      ([newBalance, amountLo.toUInt64, amountHi.toUInt64, deltaFee, feeDenominator - deltaFee],
        [64, 32, 32, 64, 64],
        [openingSource, openingLo, openingHi, openingClaimed, 0 - openingClaimed])) :
    (TransferWithFeeProof.new curve subProofs (amountLo, ciphertextLo, openingLo)
        (amountHi, ciphertextHi, openingHi) keypairSource (pubkeyDest, pubkeyAuditor)
        (newBalance, ciphertextNewSource) (feeAmount, ciphertextFee, openingFee) deltaFee
        pubkeyFeeCollector feeParameters transcript openingSource openingClaimed).verify curve
      subProofs ciphertextLo ciphertextHi
      ⟨keypairSource.public, pubkeyDest, pubkeyAuditor, pubkeyFeeCollector⟩ ciphertextNewSource
      ciphertextFee feeParameters transcript = .ok () :=
  (TransferWithFeeProof.verify_eq_ok curve subProofs _ _ _ _ _ _ _ _).mpr
    ⟨_, _, decodeCommitment_compress roundTrip _, decodeCommitment_compress roundTrip _,
      complete.equality _ _ _ equalityHolds,
      complete.aggregatedValidity _ _ _ aggregatedValidityHolds,
      complete.feeSigma _ _ _ feeSigmaHolds, complete.validity _ _ _ validityHolds,
      complete.range _ _ _ rangeHolds⟩

end TransferWithFee
