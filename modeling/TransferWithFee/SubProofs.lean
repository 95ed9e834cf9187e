import TransferWithFee.Codec
import TransferWithFee.Transcript

/-!
# The sub-proof collaborators

The five sigma and range proofs the bundle composes, seen through the arguments this instruction
passes them. Each is a generator, a verifier and the operations a proof contributes to the
transcript, the same on both sides (Fiat-Shamir). Their relations are stated twice: what a
generator's witness must satisfy for its proof to verify, and what an accepting verifier
certifies about the public commitments, for some openings.
-/

namespace TransferWithFee

/-- A sub-proof as this instruction drives it: a generator and a verifier on the transcript as it
stands, and the messages either side then appends. -/
structure SubProof (Witness Statement : Type) where
  new : Witness → Transcript → List UInt8
  verify : List UInt8 → Statement → Transcript → Except ProofError Unit
  messages : List UInt8 → List TranscriptOp

variable {Point : Type} [AddCommGroup Point] [Module Scalar Point] (curve : Curve Point)

/-- The five sub-proofs: `EqualityProof`, `AggregatedValidityProof`, `FeeSigmaProof`,
`ValidityProof` and `RangeProof`. -/
structure SubProofs where
  equality :
    SubProof (ElGamalKeypair curve × ElGamalCiphertext Point × UInt64 × Scalar)
      (Point × ElGamalCiphertext Point × Point)
  aggregatedValidity :
    SubProof ((Point × Point) × (UInt32 × UInt32) × (Scalar × Scalar))
      ((Point × Point) × (Point × Point) × (Point × Point) × (Point × Point))
  feeSigma :
    SubProof ((UInt64 × Point × Scalar) × (UInt64 × Point × Scalar) × (Point × Scalar) × UInt64)
      (Point × Point × Point × UInt64)
  validity :
    SubProof ((Point × Point) × UInt64 × Scalar) (Point × (Point × Point) × (Point × Point))
  range : SubProof (List UInt64 × List ℕ × List Scalar) (List Point × List ℕ)

/-! ## What a generator's witness must satisfy -/

/-- `EqualityProof`: the key pair is the source key, the ciphertext encrypts the amount under it,
and the commitment opens to the amount under the opening. -/
def EqualityWitness : Point × ElGamalCiphertext Point × Point →
    ElGamalKeypair curve × ElGamalCiphertext Point × UInt64 × Scalar → Prop
  | (pubkey, ciphertext, commitment), (keypair, provedCiphertext, amount, opening) =>
    keypair.public = pubkey ∧ provedCiphertext = ciphertext ∧
      ciphertext.Encrypts curve keypair.secret amount.toNat ∧
      commitment = Pedersen.new curve amount.toNat opening

/-- `AggregatedValidityProof`: each limb commitment opens to its limb under its opening, and its
destination and auditor handles are made from that opening. -/
def AggregatedValidityWitness :
    (Point × Point) × (Point × Point) × (Point × Point) × (Point × Point) →
      (Point × Point) × (UInt32 × UInt32) × (Scalar × Scalar) → Prop
  | ((dest, auditor), (commitmentLo, commitmentHi), (destLo, destHi), (auditorLo, auditorHi)),
    ((provedDest, provedAuditor), (amountLo, amountHi), (openingLo, openingHi)) =>
    provedDest = dest ∧ provedAuditor = auditor ∧
      commitmentLo = Pedersen.new curve amountLo.toNat openingLo ∧
      commitmentHi = Pedersen.new curve amountHi.toNat openingHi ∧
      destLo = decryptHandle dest openingLo ∧ destHi = decryptHandle dest openingHi ∧
      auditorLo = decryptHandle auditor openingLo ∧ auditorHi = decryptHandle auditor openingHi

/-- `FeeSigmaProof`: the fee commitment opens to the maximum fee, or the delta and claimed
commitments both open to the claimed delta. -/
def FeeSigmaWitness : Point × Point × Point × UInt64 →
    (UInt64 × Point × Scalar) × (UInt64 × Point × Scalar) × (Point × Scalar) × UInt64 → Prop
  | (commitmentFee, commitmentDelta, commitmentClaimed, maximumFee),
    ((_, provedFee, openingFee), (deltaFee, provedDelta, openingDelta),
      (provedClaimed, openingClaimed), provedMaximum) =>
    provedFee = commitmentFee ∧ provedDelta = commitmentDelta ∧
      provedClaimed = commitmentClaimed ∧ provedMaximum = maximumFee ∧
      (commitmentFee = Pedersen.new curve maximumFee.toNat openingFee ∨
        commitmentDelta = Pedersen.new curve deltaFee.toNat openingDelta ∧
          commitmentClaimed = Pedersen.new curve deltaFee.toNat openingClaimed)

/-- `ValidityProof`: the commitment opens to the amount, and both handles are made from the
opening. -/
def ValidityWitness : Point × (Point × Point) × (Point × Point) →
    (Point × Point) × UInt64 × Scalar → Prop
  | (commitment, (dest, feeCollector), (destHandle, feeCollectorHandle)),
    ((provedDest, provedFeeCollector), amount, opening) =>
    provedDest = dest ∧ provedFeeCollector = feeCollector ∧
      commitment = Pedersen.new curve amount.toNat opening ∧
      destHandle = decryptHandle dest opening ∧
      feeCollectorHandle = decryptHandle feeCollector opening

/-- `RangeProof`: every commitment opens to its value under its opening, and every value fits in
its bit length. -/
def RangeWitness : List Point × List ℕ → List UInt64 × List ℕ × List Scalar → Prop
  | (commitments, bitLengths), (amounts, provedBitLengths, openings) =>
    provedBitLengths = bitLengths ∧ amounts.length = openings.length ∧
      commitments = List.zipWith (fun amount opening => Pedersen.new curve amount.toNat opening)
        amounts openings ∧
      List.Forall₂ (fun (amount : UInt64) bits => amount.toNat < 2 ^ bits) amounts bitLengths

/-- A sub-proof is complete for a relation when its verifier accepts, on the transcript the
generator saw, every proof generated from a witness the relation holds of. -/
def SubProof.Complete {Witness Statement : Type} (relation : Statement → Witness → Prop)
    (subProof : SubProof Witness Statement) : Prop :=
  ∀ statement witness transcript, relation statement witness →
    subProof.verify (subProof.new witness transcript) statement transcript = .ok ()

/-- The five sub-proofs are complete for the relations their generators' witnesses must satisfy. -/
structure SubProofs.Complete (subProofs : SubProofs curve) : Prop where
  equality : subProofs.equality.Complete (EqualityWitness curve)
  aggregatedValidity : subProofs.aggregatedValidity.Complete (AggregatedValidityWitness curve)
  feeSigma : subProofs.feeSigma.Complete (FeeSigmaWitness curve)
  validity : subProofs.validity.Complete (ValidityWitness curve)
  range : subProofs.range.Complete (RangeWitness curve)

/-! ## What an accepting verifier certifies -/

/-- What `RangeProof::verify` certifies: every commitment opens to a value below `2 ^ bits`. -/
def RangeHolds : List Point × List ℕ → Prop
  | (commitments, bitLengths) =>
    List.Forall₂ (fun commitment bits => ∃ amount : ℕ, amount < 2 ^ bits ∧
      OpensTo curve commitment amount) commitments bitLengths

@[simp] theorem rangeHolds_cons (commitment : Point) (commitments : List Point) (bits : ℕ)
    (bitLengths : List ℕ) :
    RangeHolds curve (commitment :: commitments, bits :: bitLengths) ↔
      (∃ amount : ℕ, amount < 2 ^ bits ∧ OpensTo curve commitment amount) ∧
        RangeHolds curve (commitments, bitLengths) :=
  List.forall₂_cons

/-- What `FeeSigmaProof::verify` certifies: the fee commitment opens to the maximum fee, or the
delta and claimed commitments open to one same value. -/
def FeeSigmaHolds : Point × Point × Point × UInt64 → Prop
  | (commitmentFee, commitmentDelta, commitmentClaimed, maximumFee) =>
    OpensTo curve commitmentFee maximumFee.toNat ∨
      ∃ value, OpensTo curve commitmentDelta value ∧ OpensTo curve commitmentClaimed value

/-- The fee-sigma and range verifiers accept only what their relations hold of. -/
structure SubProofs.Sound (subProofs : SubProofs curve) : Prop where
  feeSigma : ∀ proof statement transcript,
    subProofs.feeSigma.verify proof statement transcript = .ok () → FeeSigmaHolds curve statement
  range : ∀ proof statement transcript,
    subProofs.range.verify proof statement transcript = .ok () → RangeHolds curve statement

/-- What `EqualityProof::verify` certifies: under some secret of the public key, the ciphertext
encrypts the value the commitment opens to. -/
def EqualityHolds : Point × ElGamalCiphertext Point × Point → Prop
  | (pubkey, ciphertext, commitment) => ∃ secret amount, secret • pubkey = curve.H ∧
    ciphertext.Encrypts curve secret amount ∧ OpensTo curve commitment amount

/-- What `ValidityProof::verify` certifies: both handles are made from an opening of the
commitment. -/
def ValidityHolds : Point × (Point × Point) × (Point × Point) → Prop
  | (commitment, (dest, feeCollector), (destHandle, feeCollectorHandle)) =>
    ∃ amount opening, commitment = Pedersen.new curve amount opening ∧
      destHandle = decryptHandle dest opening ∧
      feeCollectorHandle = decryptHandle feeCollector opening

/-- What `AggregatedValidityProof::verify` certifies: the validity relation of each limb, with
the destination and auditor keys. -/
def AggregatedValidityHolds :
    (Point × Point) × (Point × Point) × (Point × Point) × (Point × Point) → Prop
  | ((dest, auditor), (commitmentLo, commitmentHi), (destLo, destHi), (auditorLo, auditorHi)) =>
    ValidityHolds curve (commitmentLo, (dest, auditor), (destLo, auditorLo)) ∧
      ValidityHolds curve (commitmentHi, (dest, auditor), (destHi, auditorHi))

/-- Every one of the five verifiers accepts only what its relation holds of. -/
structure SubProofs.FullySound (subProofs : SubProofs curve) extends
    SubProofs.Sound curve subProofs : Prop where
  equality : ∀ proof statement transcript,
    subProofs.equality.verify proof statement transcript = .ok () → EqualityHolds curve statement
  aggregatedValidity : ∀ proof statement transcript,
    subProofs.aggregatedValidity.verify proof statement transcript = .ok () →
      AggregatedValidityHolds curve statement
  validity : ∀ proof statement transcript,
    subProofs.validity.verify proof statement transcript = .ok () → ValidityHolds curve statement

end TransferWithFee
