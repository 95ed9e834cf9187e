import TransferWithFee.Proof

/-!
# The transfer-with-fee instruction data

`TransferWithFeeData`: the encrypted amount, keys, new balance, fee and fee parameters in their
byte layouts, with the proof bundle. `new` builds it from plaintext (or fails when the balance
would underflow), `verify` rebuilds the transcript from the bytes and checks the bundle, and
`decrypt_amount` recovers the amount for any of the three viewers.
-/

namespace TransferWithFee

/-- `Role`: who decrypts a transfer amount. -/
inductive Role
  | source
  | dest
  | auditor
  deriving DecidableEq, Repr

/-- The openings `TransferWithFeeData::new` draws through `Pedersen::new`: for the two limbs and
the fee, and inside `TransferWithFeeProof::new` for the new balance and the claimed delta. -/
structure Openings where
  lo : Scalar
  hi : Scalar
  fee : Scalar
  newSource : Scalar
  claimed : Scalar

/-- `TransferWithFeeData`, every field in its pod layout. -/
structure TransferWithFeeData where
  ciphertextLo : Bytes 128
  ciphertextHi : Bytes 128
  transferWithFeePubkeys : Bytes 128
  ciphertextNewSource : Bytes 64
  ciphertextFee : Bytes 96
  feeParameters : Bytes 10
  proof : TransferWithFeeProof

variable {Point : Type} [AddCommGroup Point] [Module Scalar Point] (curve : Curve Point)
  (subProofs : SubProofs curve)

/-- `TransferWithFeeData::new`. -/
def TransferWithFeeData.new (transferAmount : UInt64)
    (spendable : UInt64 × ElGamalCiphertext Point) (keypairSource : ElGamalKeypair curve)
    (pubkeys : Point × Point) (feeParameters : FeeParameters) (pubkeyFeeCollector : Point)
    (openings : Openings) : Except ProofError TransferWithFeeData := do
  let (spendableBalance, ciphertextOldSource) := spendable
  let (pubkeyDest, pubkeyAuditor) := pubkeys
  let (amountLo, amountHi) := splitU64IntoU32 transferAmount
  let ciphertextLo := TransferAmountEncryption.new curve amountLo keypairSource.public pubkeyDest
    pubkeyAuditor openings.lo
  let ciphertextHi := TransferAmountEncryption.new curve amountHi keypairSource.public pubkeyDest
    pubkeyAuditor openings.hi
  let newSpendableBalance ← okOr (checkedSub spendableBalance transferAmount) .generation
  let transferAmountLoSource : ElGamalCiphertext Point :=
    ⟨ciphertextLo.commitment, ciphertextLo.source⟩
  let transferAmountHiSource : ElGamalCiphertext Point :=
    ⟨ciphertextHi.commitment, ciphertextHi.source⟩
  let ciphertextNewSource := ciphertextOldSource -
    combineU32Ciphertexts transferAmountLoSource transferAmountHiSource
  let (feeAmount, deltaFee) := calculateFee transferAmount feeParameters.feeRateBasisPoints
  let feeToEncrypt := feeToEncrypt feeParameters.maximumFee feeAmount
  let ciphertextFee :=
    FeeEncryption.new curve feeToEncrypt pubkeyDest pubkeyFeeCollector openings.fee
  let podTransferWithFeePubkeys := podTransferWithFeePubkeysNew curve.toPointEncoding
    keypairSource.public pubkeyDest pubkeyAuditor pubkeyFeeCollector
  let podCiphertextLo := ciphertextLo.toBytes curve.toPointEncoding
  let podCiphertextHi := ciphertextHi.toBytes curve.toPointEncoding
  let podCiphertextNewSource := ciphertextNewSource.toBytes curve.toPointEncoding
  let podCiphertextFee := ciphertextFee.toBytes curve.toPointEncoding
  let transcript := TransferWithFeeProof.transcriptNew podTransferWithFeePubkeys podCiphertextLo
    podCiphertextHi podCiphertextFee
  let proof := TransferWithFeeProof.new curve subProofs (amountLo, ciphertextLo, openings.lo)
    (amountHi, ciphertextHi, openings.hi) keypairSource (pubkeyDest, pubkeyAuditor)
    (newSpendableBalance, ciphertextNewSource) (feeAmount, ciphertextFee, openings.fee) deltaFee
    pubkeyFeeCollector feeParameters transcript openings.newSource openings.claimed
  pure
    { ciphertextLo := podCiphertextLo
      ciphertextHi := podCiphertextHi
      transferWithFeePubkeys := podTransferWithFeePubkeys
      ciphertextNewSource := podCiphertextNewSource
      ciphertextFee := podCiphertextFee
      feeParameters := feeParameters.toBytes
      proof := proof }

/-- `Verifiable::verify` for `TransferWithFeeData`: the transcript from the stored bytes, then the
decoded statement checked by `TransferWithFeeProof::verify`. -/
def TransferWithFeeData.verify (data : TransferWithFeeData) : Except ProofError Unit := do
  let transcript := TransferWithFeeProof.transcriptNew data.transferWithFeePubkeys data.ciphertextLo
    data.ciphertextHi data.ciphertextFee
  let ciphertextLo ← TransferAmountEncryption.ofArray curve.toPointEncoding data.ciphertextLo.toList
  let ciphertextHi ← TransferAmountEncryption.ofArray curve.toPointEncoding data.ciphertextHi.toList
  let transferWithFeePubkeys ←
    TransferWithFeePubkeys.ofArray curve.toPointEncoding data.transferWithFeePubkeys.toList
  let newSpendableCiphertext ←
    ElGamalCiphertext.ofArray curve.toPointEncoding data.ciphertextNewSource.toList
  let ciphertextFee ← FeeEncryption.ofArray curve.toPointEncoding data.ciphertextFee.toList
  let feeParameters := FeeParameters.ofArray data.feeParameters.toList
  data.proof.verify curve subProofs ciphertextLo ciphertextHi transferWithFeePubkeys
    newSpendableCiphertext ciphertextFee feeParameters transcript

/-- `verify` accepts exactly when the five encodings decode and the proof verifies against them,
on the transcript made from the envelope's bytes. -/
theorem TransferWithFeeData.verify_eq_ok (data : TransferWithFeeData) :
    data.verify curve subProofs = .ok () ↔
      ∃ ciphertextLo ciphertextHi transferWithFeePubkeys newSpendableCiphertext ciphertextFee,
        TransferAmountEncryption.ofArray curve.toPointEncoding data.ciphertextLo.toList =
          .ok ciphertextLo ∧
        TransferAmountEncryption.ofArray curve.toPointEncoding data.ciphertextHi.toList =
          .ok ciphertextHi ∧
        TransferWithFeePubkeys.ofArray curve.toPointEncoding data.transferWithFeePubkeys.toList =
          .ok transferWithFeePubkeys ∧
        ElGamalCiphertext.ofArray curve.toPointEncoding data.ciphertextNewSource.toList =
          .ok newSpendableCiphertext ∧
        FeeEncryption.ofArray curve.toPointEncoding data.ciphertextFee.toList = .ok ciphertextFee ∧
        data.proof.verify curve subProofs ciphertextLo ciphertextHi transferWithFeePubkeys
          newSpendableCiphertext ciphertextFee (FeeParameters.ofArray data.feeParameters.toList)
          (TransferWithFeeProof.transcriptNew data.transferWithFeePubkeys data.ciphertextLo
            data.ciphertextHi data.ciphertextFee) = .ok () := by
  simp only [TransferWithFeeData.verify, bind_eq_ok, exists_and_left]

/-- On an envelope whose fields are encodings of values, `verify` is the proof's check against
those values. -/
theorem TransferWithFeeData.verify_of_encoded (roundTrip : curve.toPointEncoding.RoundTrip)
    {data : TransferWithFeeData} {ciphertextLo ciphertextHi : TransferAmountEncryption Point}
    {transferWithFeePubkeys : TransferWithFeePubkeys Point}
    {newSpendableCiphertext : ElGamalCiphertext Point} {ciphertextFee : FeeEncryption Point}
    {feeParameters : FeeParameters}
    (loBytes : data.ciphertextLo = ciphertextLo.toBytes curve.toPointEncoding)
    (hiBytes : data.ciphertextHi = ciphertextHi.toBytes curve.toPointEncoding)
    (pubkeysBytes :
      data.transferWithFeePubkeys = transferWithFeePubkeys.toBytes curve.toPointEncoding)
    (newSourceBytes :
      data.ciphertextNewSource = newSpendableCiphertext.toBytes curve.toPointEncoding)
    (feeBytes : data.ciphertextFee = ciphertextFee.toBytes curve.toPointEncoding)
    (parametersBytes : data.feeParameters = feeParameters.toBytes) :
    data.verify curve subProofs =
      data.proof.verify curve subProofs ciphertextLo ciphertextHi transferWithFeePubkeys
        newSpendableCiphertext ciphertextFee feeParameters
        (TransferWithFeeProof.transcriptNew data.transferWithFeePubkeys data.ciphertextLo
          data.ciphertextHi data.ciphertextFee) := by
  simp only [TransferWithFeeData.verify, loBytes, hiBytes, pubkeysBytes, newSourceBytes, feeBytes,
    parametersBytes, TransferAmountEncryption.ofArray_toBytes roundTrip,
    TransferWithFeePubkeys.ofArray_toBytes roundTrip, ElGamalCiphertext.ofArray_toBytes roundTrip,
    FeeEncryption.ofArray_toBytes roundTrip, FeeParameters.ofArray_toBytes, ok_bind]

/-! ## Decryption -/

/-- The body shared by `TransferWithFeeData::ciphertext_lo` and `ciphertext_hi`: a limb's
commitment with the handle of the given role. -/
def roleCiphertext (encryption : Bytes 128) (role : Role) :
    Except ProofError (ElGamalCiphertext Point) := do
  let ciphertext ← TransferAmountEncryption.ofArray curve.toPointEncoding encryption.toList
  let handle := match role with
    | .source => ciphertext.source
    | .dest => ciphertext.dest
    | .auditor => ciphertext.auditor
  pure ⟨ciphertext.commitment, handle⟩

/-- `TransferWithFeeData::ciphertext_lo`. -/
def TransferWithFeeData.ciphertextLoFor (data : TransferWithFeeData) (role : Role) :
    Except ProofError (ElGamalCiphertext Point) :=
  roleCiphertext curve data.ciphertextLo role

/-- `TransferWithFeeData::ciphertext_hi`. -/
def TransferWithFeeData.ciphertextHiFor (data : TransferWithFeeData) (role : Role) :
    Except ProofError (ElGamalCiphertext Point) :=
  roleCiphertext curve data.ciphertextHi role

/-- `TransferWithFeeData::decrypt_amount`, with the discrete-log search of
`DECODE_U32_PRECOMPUTATION_FOR_G` as a parameter. -/
def TransferWithFeeData.decryptAmount (data : TransferWithFeeData) (role : Role) (secret : Scalar)
    (discreteLog : Point → Option UInt32) : Except ProofError UInt64 := do
  let ciphertextLo ← data.ciphertextLoFor curve role
  let ciphertextHi ← data.ciphertextHiFor curve role
  let amountLo := ciphertextLo.decryptU32Online secret discreteLog
  let amountHi := ciphertextHi.decryptU32Online secret discreteLog
  match amountLo, amountHi with
  | some amountLo, some amountHi => pure (amountLo.toUInt64 + two32 * amountHi.toUInt64)
  | _, _ => throw .verification

omit [AddCommGroup Point] [Module Scalar Point] in
/-- A limb encryption that decodes gives each role its commitment with that role's handle. -/
theorem roleCiphertext_of_decoded {encryption : Bytes 128}
    {ciphertext : TransferAmountEncryption Point}
    (decoded : TransferAmountEncryption.ofArray curve.toPointEncoding encryption.toList =
      .ok ciphertext) (role : Role) :
    roleCiphertext curve encryption role = .ok ⟨ciphertext.commitment, match role with
      | .source => ciphertext.source
      | .dest => ciphertext.dest
      | .auditor => ciphertext.auditor⟩ := by
  rw [roleCiphertext, decoded, ok_bind]
  rfl

/-- `decrypt_amount` returns `lo + 2^32 * hi` without wrapping when a role's limb ciphertexts
encrypt `u32` limbs and the discrete-log table recovers every `u32`. -/
theorem TransferWithFeeData.decryptAmount_of_encrypts {discreteLog : Point → Option UInt32}
    (recovers : ∀ amount : UInt32, discreteLog ((amount.toNat : Scalar) • curve.G) = some amount)
    {data : TransferWithFeeData} {role : Role} {secret : Scalar}
    {ciphertextLo ciphertextHi : ElGamalCiphertext Point} {amountLo amountHi : ℕ}
    (loFor : data.ciphertextLoFor curve role = .ok ciphertextLo)
    (hiFor : data.ciphertextHiFor curve role = .ok ciphertextHi)
    (loEncrypts : ciphertextLo.Encrypts curve secret amountLo)
    (hiEncrypts : ciphertextHi.Encrypts curve secret amountHi)
    (loBound : amountLo < 2 ^ 32) (hiBound : amountHi < 2 ^ 32) :
    data.decryptAmount curve role secret discreteLog =
      .ok (UInt64.ofNat (amountLo + 2 ^ 32 * amountHi)) := by
  have limb : ∀ {amount : ℕ}, amount < 2 ^ 32 →
      discreteLog ((amount : Scalar) • curve.G) = some (UInt32.ofNat amount) := fun bound => by
    rw [← recovers, uint32_toNat_ofNat, Nat.mod_eq_of_lt bound]
  have amountBound : amountLo + 2 ^ 32 * amountHi < 2 ^ 64 := by omega
  have split : splitU64IntoU32 (UInt64.ofNat (amountLo + 2 ^ 32 * amountHi)) =
      (UInt32.ofNat amountLo, UInt32.ofNat amountHi) := by
    simp only [splitU64IntoU32, uint64_toNat_ofNat, Nat.mod_eq_of_lt amountBound, Prod.mk.injEq]
    constructor <;> congr 1 <;> omega
  rw [← splitU64IntoU32_recombine (UInt64.ofNat _), split]
  simp only [TransferWithFeeData.decryptAmount, loFor, hiFor, ok_bind,
    ElGamalCiphertext.decryptU32Online]
  rw [show ciphertextLo.decryptPoint secret = _ from loEncrypts, limb loBound,
    show ciphertextHi.decryptPoint secret = _ from hiEncrypts, limb hiBound]
  rfl

end TransferWithFee
