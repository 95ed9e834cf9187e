import TransferWithFee.Data
import TransferWithFee.ScalarModel
import Mathlib.Tactic.LinearCombination

/-!
# What an accepted envelope proves about the fee

`Verifiable::verify` on any bytes, read through the relations its fee-sigma and range verifiers
certify and with binding commitments. The range proof pins the limbs below `2^32` and the claimed
delta to `[0, 10000]` (a value and its complement below `2^64`); the fee-sigma proof then leaves
the fee commitment two ways to be accepted: opening to `maximum_fee`, or opening to a scalar
`fee` with `fee * 10000 = amount * rate + delta`. No range proof covers the fee itself, and the
first branch is open whatever the amount, so the fee is not pinned to `min(ceil(amount * rate /
10000), maximum_fee)`: on the scalar curve the verifier accepts a fee above the maximum.

With all five verifiers sound, an accepted envelope has a `Certificate`: the values its encodings
decode to, and the limbs, new balance and fee its commitments open to under the openings its
handles are made from. On it the destination's and the auditor's limb ciphertexts are encryptions
to their own keys, and their `decrypt_amount` agree. Under a decoder that accepts only canonical
encodings, an accepted envelope is the encoding of what it decodes to; the ten bytes of the fee
parameters decode to every pair and back, so they are canonical whatever the decoder.
-/

namespace TransferWithFee

variable {Point : Type} [AddCommGroup Point] [Module Scalar Point] {curve : Curve Point}

/-- With binding commitments, the fee-sigma and range relations pin the fee commitment to the
maximum fee or to `(lo + 2^32 * hi) * rate + delta` over `10000`, with `delta ≤ 10000`. -/
theorem feeSigma_range_pin (binding : curve.Binding)
    {commitmentNewSource commitmentLo commitmentHi commitmentFee commitmentClaimed : Point}
    {feeParameters : FeeParameters}
    (feeSigma : FeeSigmaHolds curve (commitmentFee,
      computeDeltaCommitment commitmentLo commitmentHi commitmentFee
        feeParameters.feeRateBasisPoints,
      commitmentClaimed, feeParameters.maximumFee))
    (range : RangeHolds curve ([commitmentNewSource, commitmentLo, commitmentHi, commitmentClaimed,
      commitmentFeeDenominator curve - commitmentClaimed], [64, 32, 32, 64, 64])) :
    ∃ amountLo amountHi : ℕ, amountLo < 2 ^ 32 ∧ amountHi < 2 ^ 32 ∧
      OpensTo curve commitmentLo amountLo ∧ OpensTo curve commitmentHi amountHi ∧
      ∀ fee : Scalar, OpensTo curve commitmentFee fee →
        fee = feeParameters.maximumFee.toNat ∨
        ∃ delta : ℕ, delta ≤ 10000 ∧
          fee * 10000 =
            ((amountLo + 2 ^ 32 * amountHi) * feeParameters.feeRateBasisPoints.toNat +
              delta : ℕ) := by
  simp only [rangeHolds_cons] at range
  obtain ⟨-, ⟨amountLo, loBound, loOpens⟩, ⟨amountHi, hiBound, hiOpens⟩,
    ⟨claimed, claimedBound, claimedOpens⟩, ⟨complement, complementBound, complementOpens⟩, -⟩ :=
    range
  refine ⟨amountLo, amountHi, loBound, hiBound, loOpens, hiOpens, fun fee feeOpens => ?_⟩
  rcases feeSigma with isMaximum | ⟨delta, deltaOpens, claimedOpensDelta⟩
  · exact .inl (feeOpens.unique binding isMaximum)
  obtain ⟨openingLo, rfl⟩ := loOpens
  obtain ⟨openingHi, rfl⟩ := hiOpens
  obtain ⟨openingFee, rfl⟩ := feeOpens
  obtain ⟨openingClaimed, rfl⟩ := claimedOpens
  have deltaValue := OpensTo.unique binding ⟨_, computeDeltaCommitment_new curve _ _ _ _ _ _ _⟩
    deltaOpens
  have claimedValue := OpensTo.unique binding ⟨openingClaimed, rfl⟩ claimedOpensDelta
  have complementValue : (complement : Scalar) = 10000 - claimed := OpensTo.unique binding
    complementOpens ⟨_, commitmentFeeDenominator_sub_new curve _ _⟩
  refine .inr ⟨claimed,
    le_feeDenominator_of_complement claimedBound complementBound complementValue, ?_⟩
  push_cast
  linear_combination deltaValue - claimedValue

/-! ## Accepted envelopes -/

/-- An envelope on the scalar curve for amount `10000` at rate `10000` with maximum fee `0`, whose
fee commitment commits to `10000`. -/
def excessFeeEnvelope : TransferWithFeeData where
  ciphertextLo :=
    (⟨10000, 0, 0, 0⟩ : TransferAmountEncryption Scalar).toBytes scalarCurve.toPointEncoding
  ciphertextHi :=
    (⟨0, 0, 0, 0⟩ : TransferAmountEncryption Scalar).toBytes scalarCurve.toPointEncoding
  transferWithFeePubkeys :=
    (⟨0, 0, 0, 0⟩ : TransferWithFeePubkeys Scalar).toBytes scalarCurve.toPointEncoding
  ciphertextNewSource := (⟨0, 0⟩ : ElGamalCiphertext Scalar).toBytes scalarCurve.toPointEncoding
  ciphertextFee := (⟨10000, 0, 0⟩ : FeeEncryption Scalar).toBytes scalarCurve.toPointEncoding
  feeParameters := (⟨10000, 0⟩ : FeeParameters).toBytes
  proof := ⟨scalarCurve.compress 0, scalarCurve.compress 0, [], [], [], [], []⟩

theorem excessFeeEnvelope_verify :
    excessFeeEnvelope.verify scalarCurve checkingSubProofs = .ok () := by
  rw [TransferWithFeeData.verify_of_encoded scalarCurve checkingSubProofs scalarCurve_roundTrip
    (by rfl) (by rfl) (by rfl) (by rfl) (by rfl) (by rfl), TransferWithFeeProof.verify_eq_ok]
  refine ⟨0, 0, decodeCommitment_compress scalarCurve_roundTrip 0,
    decodeCommitment_compress scalarCurve_roundTrip 0, ?_⟩
  have feeSigmaHolds :
      scalarFeeSigmaHolds (10000, computeDeltaCommitment 10000 0 10000 10000, 0, 0) :=
    .inr (by decide)
  have rangeHolds : scalarRangeHolds
      ([0, 10000, 0, 0, commitmentFeeDenominator scalarCurve - 0], [64, 32, 32, 64, 64]) := by
    decide
  simp only [checkingSubProofs, decidingSubProof, feeSigmaHolds, rangeHolds, if_true, and_self]

variable {subProofs : SubProofs curve}

/-- Fee soundness of `verify` with binding commitments and sound fee-sigma and range verifiers:
the fee is the maximum or `(lo + 2^32 * hi) * rate + delta` over `10000`, `delta ≤ 10000`. -/
theorem TransferWithFeeData.verify_fee_sound (binding : curve.Binding)
    (sound : subProofs.Sound curve) {data : TransferWithFeeData}
    (accepted : data.verify curve subProofs = .ok ()) :
    let feeParameters := FeeParameters.ofArray data.feeParameters.toList
    ∃ (ciphertextLo ciphertextHi : TransferAmountEncryption Point)
      (ciphertextFee : FeeEncryption Point) (amountLo amountHi : ℕ),
      TransferAmountEncryption.ofArray curve.toPointEncoding data.ciphertextLo.toList =
        .ok ciphertextLo ∧
      TransferAmountEncryption.ofArray curve.toPointEncoding data.ciphertextHi.toList =
        .ok ciphertextHi ∧
      FeeEncryption.ofArray curve.toPointEncoding data.ciphertextFee.toList = .ok ciphertextFee ∧
      amountLo < 2 ^ 32 ∧ amountHi < 2 ^ 32 ∧
      OpensTo curve ciphertextLo.commitment amountLo ∧
      OpensTo curve ciphertextHi.commitment amountHi ∧
      ∀ fee : Scalar, OpensTo curve ciphertextFee.commitment fee →
        fee = feeParameters.maximumFee.toNat ∨
        ∃ delta : ℕ, delta ≤ 10000 ∧
          fee * 10000 =
            ((amountLo + 2 ^ 32 * amountHi) * feeParameters.feeRateBasisPoints.toNat +
              delta : ℕ) := by
  obtain ⟨ciphertextLo, ciphertextHi, _, _, ciphertextFee, loDecoded, hiDecoded, -, -, feeDecoded,
    proofAccepted⟩ := (data.verify_eq_ok curve subProofs).mp accepted
  obtain ⟨_, _, -, -, -, -, feeSigmaAccepted, -, rangeAccepted⟩ :=
    (TransferWithFeeProof.verify_eq_ok curve subProofs _ _ _ _ _ _ _ _).mp proofAccepted
  obtain ⟨amountLo, amountHi, pinned⟩ := feeSigma_range_pin binding
    (sound.feeSigma _ _ _ feeSigmaAccepted) (sound.range _ _ _ rangeAccepted)
  exact ⟨ciphertextLo, ciphertextHi, ciphertextFee, amountLo, amountHi, loDecoded, hiDecoded,
    feeDecoded, pinned⟩

theorem verify_fee_sound_excessFeeEnvelope :
    scalarCurve.Binding ∧ checkingSubProofs.Sound scalarCurve ∧
    excessFeeEnvelope.verify scalarCurve checkingSubProofs = .ok () ∧
    let feeParameters := FeeParameters.ofArray excessFeeEnvelope.feeParameters.toList
    ∃ (ciphertextLo ciphertextHi : TransferAmountEncryption Scalar)
      (ciphertextFee : FeeEncryption Scalar) (amountLo amountHi : ℕ),
      TransferAmountEncryption.ofArray scalarCurve.toPointEncoding
        excessFeeEnvelope.ciphertextLo.toList = .ok ciphertextLo ∧
      TransferAmountEncryption.ofArray scalarCurve.toPointEncoding
        excessFeeEnvelope.ciphertextHi.toList = .ok ciphertextHi ∧
      FeeEncryption.ofArray scalarCurve.toPointEncoding excessFeeEnvelope.ciphertextFee.toList =
        .ok ciphertextFee ∧
      amountLo < 2 ^ 32 ∧ amountHi < 2 ^ 32 ∧
      OpensTo scalarCurve ciphertextLo.commitment amountLo ∧
      OpensTo scalarCurve ciphertextHi.commitment amountHi ∧
      ∀ fee : Scalar, OpensTo scalarCurve ciphertextFee.commitment fee →
        fee = feeParameters.maximumFee.toNat ∨
        ∃ delta : ℕ, delta ≤ 10000 ∧
          fee * 10000 =
            ((amountLo + 2 ^ 32 * amountHi) * feeParameters.feeRateBasisPoints.toNat + delta : ℕ) :=
  ⟨scalarCurve_binding, checkingSubProofs_fullySound.toSound, excessFeeEnvelope_verify,
    TransferWithFeeData.verify_fee_sound scalarCurve_binding checkingSubProofs_fullySound.toSound
      excessFeeEnvelope_verify⟩

/-- `verify` accepts a fee above the maximum: with fully sound verifiers, the fee `10000` of
`excessFeeEnvelope` passes at rate `10000` with maximum fee `0`. -/
theorem verify_accepts_fee_above_maximum :
    scalarCurve.Binding ∧ checkingSubProofs.FullySound scalarCurve ∧
    excessFeeEnvelope.verify scalarCurve checkingSubProofs = .ok () ∧
    TransferAmountEncryption.ofArray scalarCurve.toPointEncoding
      excessFeeEnvelope.ciphertextLo.toList = .ok ⟨10000, 0, 0, 0⟩ ∧
    TransferAmountEncryption.ofArray scalarCurve.toPointEncoding
      excessFeeEnvelope.ciphertextHi.toList = .ok ⟨0, 0, 0, 0⟩ ∧
    FeeEncryption.ofArray scalarCurve.toPointEncoding excessFeeEnvelope.ciphertextFee.toList =
      .ok ⟨10000, 0, 0⟩ ∧
    FeeParameters.ofArray excessFeeEnvelope.feeParameters.toList = ⟨10000, 0⟩ ∧
    OpensTo scalarCurve 10000 (10000 : ℕ) ∧ OpensTo scalarCurve 0 (0 : ℕ) ∧
    OpensTo scalarCurve 10000 (10000 : ℕ) ∧
    (10000 : Scalar) ≠ (min (((10000 + 2 ^ 32 * 0) * 10000 + 9999) / 10000) 0 : ℕ) :=
  ⟨scalarCurve_binding, checkingSubProofs_fullySound, excessFeeEnvelope_verify,
    TransferAmountEncryption.ofArray_toBytes scalarCurve_roundTrip _,
    TransferAmountEncryption.ofArray_toBytes scalarCurve_roundTrip _,
    FeeEncryption.ofArray_toBytes scalarCurve_roundTrip _, FeeParameters.ofArray_toBytes _,
    by simp, by simp, by simp, by decide⟩

/-! ## Everything an accepted envelope proves -/

variable (curve) in
/-- What `verify` certifies of an envelope: the values its encodings decode to, and the limbs,
fee and new balance its commitments and ciphertexts are made from. -/
structure TransferWithFeeData.Certificate (data : TransferWithFeeData) where
  ciphertextLo : TransferAmountEncryption Point
  ciphertextHi : TransferAmountEncryption Point
  pubkeys : TransferWithFeePubkeys Point
  newSource : ElGamalCiphertext Point
  ciphertextFee : FeeEncryption Point
  amountLo : ℕ
  amountHi : ℕ
  newBalance : ℕ
  fee : Scalar
  loDecoded :
    TransferAmountEncryption.ofArray curve.toPointEncoding data.ciphertextLo.toList = .ok ciphertextLo
  hiDecoded :
    TransferAmountEncryption.ofArray curve.toPointEncoding data.ciphertextHi.toList = .ok ciphertextHi
  pubkeysDecoded :
    TransferWithFeePubkeys.ofArray curve.toPointEncoding data.transferWithFeePubkeys.toList =
      .ok pubkeys
  newSourceDecoded :
    ElGamalCiphertext.ofArray curve.toPointEncoding data.ciphertextNewSource.toList = .ok newSource
  feeDecoded : FeeEncryption.ofArray curve.toPointEncoding data.ciphertextFee.toList = .ok ciphertextFee
  loBound : amountLo < 2 ^ 32
  hiBound : amountHi < 2 ^ 32
  /-- The low limb commitment opens to `amountLo` under the opening of its destination and
  auditor handles. -/
  loOpens : ∃ opening, ciphertextLo.commitment = Pedersen.new curve amountLo opening ∧
    ciphertextLo.dest = decryptHandle pubkeys.dest opening ∧
    ciphertextLo.auditor = decryptHandle pubkeys.auditor opening
  /-- The high limb commitment opens to `amountHi` under the opening of its destination and
  auditor handles. -/
  hiOpens : ∃ opening, ciphertextHi.commitment = Pedersen.new curve amountHi opening ∧
    ciphertextHi.dest = decryptHandle pubkeys.dest opening ∧
    ciphertextHi.auditor = decryptHandle pubkeys.auditor opening
  /-- The fee commitment opens to `fee` under the opening of its destination and fee-collector
  handles. -/
  feeOpens : ∃ opening, ciphertextFee.commitment = Pedersen.new curve fee opening ∧
    ciphertextFee.dest = decryptHandle pubkeys.dest opening ∧
    ciphertextFee.feeCollector = decryptHandle pubkeys.feeCollector opening
  newBalanceBound : newBalance < 2 ^ 64
  sourceEncrypts : ∃ secret : Scalar, secret • pubkeys.source = curve.H ∧
    newSource.Encrypts curve secret newBalance
  feePinned : fee = (FeeParameters.ofArray data.feeParameters.toList).maximumFee.toNat ∨
    ∃ delta : ℕ, delta ≤ 10000 ∧
      fee * 10000 = ((amountLo + 2 ^ 32 * amountHi) *
        (FeeParameters.ofArray data.feeParameters.toList).feeRateBasisPoints.toNat + delta : ℕ)

/-- Soundness of `verify`: on a binding curve with all five verifiers sound, every envelope it
accepts has a certificate. -/
theorem TransferWithFeeData.verify_sound (binding : curve.Binding)
    (sound : subProofs.FullySound curve) {data : TransferWithFeeData}
    (accepted : data.verify curve subProofs = .ok ()) : Nonempty (data.Certificate curve) := by
  obtain ⟨ciphertextLo, ciphertextHi, pubkeys, newSource, ciphertextFee, loDecoded, hiDecoded,
    pubkeysDecoded, newSourceDecoded, feeDecoded, proofAccepted⟩ :=
    (data.verify_eq_ok curve subProofs).mp accepted
  obtain ⟨_, _, -, -, equalityAccepted, aggregatedAccepted, feeSigmaAccepted, validityAccepted,
    rangeAccepted⟩ :=
    (TransferWithFeeProof.verify_eq_ok curve subProofs _ _ _ _ _ _ _ _).mp proofAccepted
  have range := sound.range _ _ _ rangeAccepted
  obtain ⟨amountLo, amountHi, loBound, hiBound, loOpens, hiOpens, pinned⟩ :=
    feeSigma_range_pin binding (sound.feeSigma _ _ _ feeSigmaAccepted) range
  simp only [rangeHolds_cons] at range
  obtain ⟨⟨newBalance, newBalanceBound, newBalanceOpens⟩, -⟩ := range
  obtain ⟨secret, amount, sourceKey, encrypts, amountOpens⟩ :=
    sound.equality _ _ _ equalityAccepted
  obtain ⟨⟨lo, openingLo, loCommitted, loDest, loAuditor⟩,
    ⟨hi, openingHi, hiCommitted, hiDest, hiAuditor⟩⟩ :=
    sound.aggregatedValidity _ _ _ aggregatedAccepted
  obtain ⟨fee, openingFee, feeCommitted, feeDest, feeCollector⟩ :=
    sound.validity _ _ _ validityAccepted
  have loValue : lo = amountLo := OpensTo.unique binding ⟨_, loCommitted⟩ loOpens
  have hiValue : hi = amountHi := OpensTo.unique binding ⟨_, hiCommitted⟩ hiOpens
  have newBalanceValue : amount = newBalance := OpensTo.unique binding amountOpens newBalanceOpens
  subst loValue hiValue newBalanceValue
  exact ⟨⟨ciphertextLo, ciphertextHi, pubkeys, newSource, ciphertextFee, amountLo, amountHi,
    newBalance, fee, loDecoded, hiDecoded, pubkeysDecoded, newSourceDecoded, feeDecoded, loBound,
    hiBound, ⟨openingLo, loCommitted, loDest, loAuditor⟩, ⟨openingHi, hiCommitted, hiDest, hiAuditor⟩,
    ⟨openingFee, feeCommitted, feeDest, feeCollector⟩, newBalanceBound, ⟨secret, sourceKey, encrypts⟩,
    pinned fee ⟨_, feeCommitted⟩⟩⟩

theorem verify_sound_excessFeeEnvelope :
    scalarCurve.Binding ∧ checkingSubProofs.FullySound scalarCurve ∧
    excessFeeEnvelope.verify scalarCurve checkingSubProofs = .ok () ∧
    Nonempty (excessFeeEnvelope.Certificate scalarCurve) :=
  ⟨scalarCurve_binding, checkingSubProofs_fullySound, excessFeeEnvelope_verify,
    TransferWithFeeData.verify_sound scalarCurve_binding checkingSubProofs_fullySound
      excessFeeEnvelope_verify⟩

/-! ## What the viewers decrypt -/

/-- On a certified envelope the destination and the auditor read encryptions to their own keys
of the certified limbs, and every key pair of either decrypts their sum without wrapping. -/
theorem TransferWithFeeData.Certificate.decryptAmount_agree {data : TransferWithFeeData}
    (certificate : data.Certificate curve) {discreteLog : Point → Option UInt32}
    (recovers : ∀ amount : UInt32, discreteLog ((amount.toNat : Scalar) • curve.G) = some amount) :
    let amount := UInt64.ofNat (certificate.amountLo + 2 ^ 32 * certificate.amountHi)
    amount.toNat = certificate.amountLo + 2 ^ 32 * certificate.amountHi ∧
    OpensTo curve certificate.ciphertextLo.commitment certificate.amountLo ∧
    OpensTo curve certificate.ciphertextHi.commitment certificate.amountHi ∧
    ∀ role : Role, role ≠ .source →
      let pubkey := match role with
        | .source => certificate.pubkeys.source
        | .dest => certificate.pubkeys.dest
        | .auditor => certificate.pubkeys.auditor
      (∃ ciphertextLo ciphertextHi : ElGamalCiphertext Point,
        data.ciphertextLoFor curve role = .ok ciphertextLo ∧
        data.ciphertextHiFor curve role = .ok ciphertextHi ∧
        ciphertextLo.EncryptsTo curve pubkey certificate.amountLo ∧
        ciphertextHi.EncryptsTo curve pubkey certificate.amountHi) ∧
      ∀ keypair : ElGamalKeypair curve, keypair.public = pubkey →
        data.decryptAmount curve role keypair.secret discreteLog = .ok amount := by
  have loBound := certificate.loBound
  have hiBound := certificate.hiBound
  obtain ⟨openingLo, loCommitted, loDest, loAuditor⟩ := certificate.loOpens
  obtain ⟨openingHi, hiCommitted, hiDest, hiAuditor⟩ := certificate.hiOpens
  refine ⟨by rw [uint64_toNat_ofNat, Nat.mod_eq_of_lt (by omega)], ⟨_, loCommitted⟩,
    ⟨_, hiCommitted⟩, fun role notSource => ?_⟩
  have loFor := roleCiphertext_of_decoded curve certificate.loDecoded role
  have hiFor := roleCiphertext_of_decoded curve certificate.hiDecoded role
  cases role
  · exact absurd rfl notSource
  -- each role's limb ciphertexts carry its handles, made from the limbs' openings
  all_goals
    refine ⟨⟨_, _, loFor, hiFor, ⟨openingLo, loCommitted, ?_⟩, ⟨openingHi, hiCommitted, ?_⟩⟩,
      fun _ isKey => TransferWithFeeData.decryptAmount_of_encrypts curve recovers loFor hiFor
        (ElGamalCiphertext.EncryptsTo.encrypts curve ⟨openingLo, loCommitted, ?_⟩ isKey)
        (ElGamalCiphertext.EncryptsTo.encrypts curve ⟨openingHi, hiCommitted, ?_⟩ isKey)
        loBound hiBound⟩ <;> assumption

/-- The certificate of `excessFeeEnvelope`, built by hand from its encodings: limbs `10000` and
`0`, new balance `0` under the secret `0`, and the fee `10000`, every opening and handle zero. -/
def excessFeeCertificate : excessFeeEnvelope.Certificate scalarCurve where
  ciphertextLo := ⟨10000, 0, 0, 0⟩
  ciphertextHi := ⟨0, 0, 0, 0⟩
  pubkeys := ⟨0, 0, 0, 0⟩
  newSource := ⟨0, 0⟩
  ciphertextFee := ⟨10000, 0, 0⟩
  amountLo := 10000
  amountHi := 0
  newBalance := 0
  fee := 10000
  loDecoded := TransferAmountEncryption.ofArray_toBytes scalarCurve_roundTrip _
  hiDecoded := TransferAmountEncryption.ofArray_toBytes scalarCurve_roundTrip _
  pubkeysDecoded := TransferWithFeePubkeys.ofArray_toBytes scalarCurve_roundTrip _
  newSourceDecoded := ElGamalCiphertext.ofArray_toBytes scalarCurve_roundTrip _
  feeDecoded := FeeEncryption.ofArray_toBytes scalarCurve_roundTrip _
  loBound := by decide
  hiBound := by decide
  loOpens := ⟨0, by simp, by simp [decryptHandle], by simp [decryptHandle]⟩
  hiOpens := ⟨0, by simp, by simp [decryptHandle], by simp [decryptHandle]⟩
  feeOpens := ⟨0, by simp, by simp [decryptHandle], by simp [decryptHandle]⟩
  newBalanceBound := by decide
  sourceEncrypts := ⟨0, by simp [scalarCurve],
    by simp [ElGamalCiphertext.Encrypts, ElGamalCiphertext.decryptPoint, scalarCurve]⟩
  feePinned := .inr ⟨0, by decide, by
    rw [show FeeParameters.ofArray excessFeeEnvelope.feeParameters.toList = ⟨10000, 0⟩ from
      FeeParameters.ofArray_toBytes _]
    decide⟩

/-- On `excessFeeCertificate` the secret-one key pair holds both the destination and the auditor
key. -/
theorem decryptAmount_agree_excessFeeCertificate :
    (∀ amount : UInt32,
      scalarDiscreteLog ((amount.toNat : Scalar) • scalarCurve.G) = some amount) ∧
    scalarKeypair.public = excessFeeCertificate.pubkeys.dest ∧
    scalarKeypair.public = excessFeeCertificate.pubkeys.auditor ∧
    let amount :=
      UInt64.ofNat (excessFeeCertificate.amountLo + 2 ^ 32 * excessFeeCertificate.amountHi)
    amount.toNat = excessFeeCertificate.amountLo + 2 ^ 32 * excessFeeCertificate.amountHi ∧
    OpensTo scalarCurve excessFeeCertificate.ciphertextLo.commitment
      excessFeeCertificate.amountLo ∧
    OpensTo scalarCurve excessFeeCertificate.ciphertextHi.commitment
      excessFeeCertificate.amountHi ∧
    ∀ role : Role, role ≠ .source →
      let pubkey := match role with
        | .source => excessFeeCertificate.pubkeys.source
        | .dest => excessFeeCertificate.pubkeys.dest
        | .auditor => excessFeeCertificate.pubkeys.auditor
      (∃ ciphertextLo ciphertextHi : ElGamalCiphertext Scalar,
        excessFeeEnvelope.ciphertextLoFor scalarCurve role = .ok ciphertextLo ∧
        excessFeeEnvelope.ciphertextHiFor scalarCurve role = .ok ciphertextHi ∧
        ciphertextLo.EncryptsTo scalarCurve pubkey excessFeeCertificate.amountLo ∧
        ciphertextHi.EncryptsTo scalarCurve pubkey excessFeeCertificate.amountHi) ∧
      ∀ keypair : ElGamalKeypair scalarCurve, keypair.public = pubkey →
        excessFeeEnvelope.decryptAmount scalarCurve role keypair.secret scalarDiscreteLog =
          .ok amount :=
  ⟨scalarDiscreteLog_recovers, rfl, rfl,
    TransferWithFeeData.Certificate.decryptAmount_agree excessFeeCertificate
      scalarDiscreteLog_recovers⟩

/-! ## Canonical encodings -/

/-- Under a decoder that accepts exactly its encoder's image, every envelope `verify` accepts is
the encoding of what it decodes to. -/
theorem TransferWithFeeData.verify_canonical (exact : curve.toPointEncoding.Exact)
    {data : TransferWithFeeData} (accepted : data.verify curve subProofs = .ok ()) :
    let encoding := curve.toPointEncoding
    ∃ (ciphertextLo ciphertextHi : TransferAmountEncryption Point)
      (pubkeys : TransferWithFeePubkeys Point) (newSource : ElGamalCiphertext Point)
      (ciphertextFee : FeeEncryption Point) (commitmentNewSource commitmentClaimed : Point),
      data.ciphertextLo = ciphertextLo.toBytes encoding ∧
      data.ciphertextHi = ciphertextHi.toBytes encoding ∧
      data.transferWithFeePubkeys = pubkeys.toBytes encoding ∧
      data.ciphertextNewSource = newSource.toBytes encoding ∧
      data.ciphertextFee = ciphertextFee.toBytes encoding ∧
      data.proof.commitmentNewSource = encoding.compress commitmentNewSource ∧
      data.proof.commitmentClaimed = encoding.compress commitmentClaimed := by
  obtain ⟨ciphertextLo, ciphertextHi, pubkeys, newSource, ciphertextFee, loDecoded, hiDecoded,
    pubkeysDecoded, newSourceDecoded, feeDecoded, proofAccepted⟩ :=
    (data.verify_eq_ok curve subProofs).mp accepted
  obtain ⟨commitmentNewSource, commitmentClaimed, newSourceCommitted, claimedCommitted, -⟩ :=
    (TransferWithFeeProof.verify_eq_ok curve subProofs _ _ _ _ _ _ _ _).mp proofAccepted
  exact ⟨ciphertextLo, ciphertextHi, pubkeys, newSource, ciphertextFee, commitmentNewSource,
    commitmentClaimed,
    Mathlib.Vector.eq _ _ ((TransferAmountEncryption.ofArray_eq_ok exact _ _
      (Mathlib.Vector.toList_length _)).mp loDecoded),
    Mathlib.Vector.eq _ _ ((TransferAmountEncryption.ofArray_eq_ok exact _ _
      (Mathlib.Vector.toList_length _)).mp hiDecoded),
    Mathlib.Vector.eq _ _ ((TransferWithFeePubkeys.ofArray_eq_ok exact _ _
      (Mathlib.Vector.toList_length _)).mp pubkeysDecoded),
    Mathlib.Vector.eq _ _ ((ElGamalCiphertext.ofArray_eq_ok exact _ _
      (Mathlib.Vector.toList_length _)).mp newSourceDecoded),
    Mathlib.Vector.eq _ _ ((FeeEncryption.ofArray_eq_ok exact _ _
      (Mathlib.Vector.toList_length _)).mp feeDecoded),
    (decodeCommitment_eq_ok exact).mp newSourceCommitted,
    (decodeCommitment_eq_ok exact).mp claimedCommitted⟩

/-- The envelope on the canonical scalar curve whose every field encodes zero. -/
def zeroEnvelope : TransferWithFeeData where
  ciphertextLo :=
    (⟨0, 0, 0, 0⟩ : TransferAmountEncryption Scalar).toBytes canonicalScalarCurve.toPointEncoding
  ciphertextHi :=
    (⟨0, 0, 0, 0⟩ : TransferAmountEncryption Scalar).toBytes canonicalScalarCurve.toPointEncoding
  transferWithFeePubkeys :=
    (⟨0, 0, 0, 0⟩ : TransferWithFeePubkeys Scalar).toBytes canonicalScalarCurve.toPointEncoding
  ciphertextNewSource :=
    (⟨0, 0⟩ : ElGamalCiphertext Scalar).toBytes canonicalScalarCurve.toPointEncoding
  ciphertextFee := (⟨0, 0, 0⟩ : FeeEncryption Scalar).toBytes canonicalScalarCurve.toPointEncoding
  feeParameters := (⟨0, 0⟩ : FeeParameters).toBytes
  proof := ⟨canonicalScalarCurve.compress 0, canonicalScalarCurve.compress 0, [], [], [], [], []⟩

theorem zeroEnvelope_verify :
    zeroEnvelope.verify canonicalScalarCurve (acceptingSubProofs _) = .ok () := by
  have roundTrip := canonicalScalarCurve_exact.roundTrip
  rw [TransferWithFeeData.verify_of_encoded canonicalScalarCurve (acceptingSubProofs _) roundTrip
    (by rfl) (by rfl) (by rfl) (by rfl) (by rfl) (by rfl), TransferWithFeeProof.verify_eq_ok]
  refine ⟨0, 0, decodeCommitment_compress roundTrip 0, decodeCommitment_compress roundTrip 0, ?_⟩
  simp only [acceptingSubProofs, decidingSubProof, if_true, and_self]

theorem verify_canonical_zeroEnvelope :
    canonicalScalarCurve.toPointEncoding.Exact ∧
    zeroEnvelope.verify canonicalScalarCurve (acceptingSubProofs _) = .ok () ∧
    let encoding := canonicalScalarCurve.toPointEncoding
    ∃ (ciphertextLo ciphertextHi : TransferAmountEncryption Scalar)
      (pubkeys : TransferWithFeePubkeys Scalar) (newSource : ElGamalCiphertext Scalar)
      (ciphertextFee : FeeEncryption Scalar) (commitmentNewSource commitmentClaimed : Scalar),
      zeroEnvelope.ciphertextLo = ciphertextLo.toBytes encoding ∧
      zeroEnvelope.ciphertextHi = ciphertextHi.toBytes encoding ∧
      zeroEnvelope.transferWithFeePubkeys = pubkeys.toBytes encoding ∧
      zeroEnvelope.ciphertextNewSource = newSource.toBytes encoding ∧
      zeroEnvelope.ciphertextFee = ciphertextFee.toBytes encoding ∧
      zeroEnvelope.proof.commitmentNewSource = encoding.compress commitmentNewSource ∧
      zeroEnvelope.proof.commitmentClaimed = encoding.compress commitmentClaimed :=
  ⟨canonicalScalarCurve_exact, zeroEnvelope_verify,
    TransferWithFeeData.verify_canonical canonicalScalarCurve_exact zeroEnvelope_verify⟩

end TransferWithFee
