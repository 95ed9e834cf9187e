import TransferWithFee.Data

/-!
# What the transcript binds

The challenges of the five sub-proofs are drawn from one transcript: `transcript_new` appends the
domain label, the public keys and the two limb encryptions and the fee encryption, and `verify`
appends the bundle's two commitments before the first sub-proof. The first challenge is a
function of exactly these six fields: the new-balance ciphertext and the fee parameters, though
part of the statement the sub-proofs are checked against, enter none of the transcripts.
-/

namespace TransferWithFee

variable {Point : Type} [AddCommGroup Point] [Module Scalar Point] (curve : Curve Point)
  (subProofs : SubProofs curve)

/-- The transcript `verify` checks the equality proof on: the label, the four encodings and the
two commitments, as messages. -/
theorem TransferWithFeeProof.checkTranscripts_equality_ops (proof : TransferWithFeeProof)
    (transferWithFeePubkeys ciphertextLo ciphertextHi : Bytes 128) (ciphertextFee : Bytes 96) :
    (proof.checkTranscripts curve subProofs
      (TransferWithFeeProof.transcriptNew transferWithFeePubkeys ciphertextLo ciphertextHi
        ciphertextFee)).equality.ops =
      [.appendMessage "dom-sep" "FeeProof".toUTF8.toList,
        .appendMessage "transfer-with-fee-pubkeys" transferWithFeePubkeys.toList,
        .appendMessage "ciphertext-lo" ciphertextLo.toList,
        .appendMessage "ciphertext-hi" ciphertextHi.toList,
        .appendMessage "ciphertext-fee" ciphertextFee.toList,
        .appendMessage "commitment-new-source" proof.commitmentNewSource.toList,
        .appendMessage "commitment-claimed" proof.commitmentClaimed.toList] :=
  rfl

/-- The equality verifier's transcripts agree exactly when the keys, encryptions and commitments
do; the new-balance ciphertext and fee parameters enter none of the five transcripts. -/
theorem TransferWithFeeData.checkTranscripts_omit_newSource_and_feeParameters
    (envelope other : TransferWithFeeData) (newSource : Bytes 64) (parameters : Bytes 10) :
    let transcripts := fun envelope : TransferWithFeeData =>
      envelope.proof.checkTranscripts curve subProofs (TransferWithFeeProof.transcriptNew
        envelope.transferWithFeePubkeys envelope.ciphertextLo envelope.ciphertextHi
        envelope.ciphertextFee)
    ((transcripts envelope).equality = (transcripts other).equality ↔
      envelope.transferWithFeePubkeys = other.transferWithFeePubkeys ∧
      envelope.ciphertextLo = other.ciphertextLo ∧ envelope.ciphertextHi = other.ciphertextHi ∧
      envelope.ciphertextFee = other.ciphertextFee ∧
      envelope.proof.commitmentNewSource = other.proof.commitmentNewSource ∧
      envelope.proof.commitmentClaimed = other.proof.commitmentClaimed) ∧
    transcripts { envelope with ciphertextNewSource := newSource, feeParameters := parameters } =
      transcripts envelope := by
  refine ⟨⟨fun same => ?_, fun agree => ?_⟩, rfl⟩
  · have ops := congrArg Transcript.ops same
    simp only [TransferWithFeeProof.checkTranscripts_equality_ops, List.cons.injEq,
      TranscriptOp.appendMessage.injEq, true_and, and_true] at ops
    obtain ⟨pubkeys, lo, hi, fee, newSource, claimed⟩ := ops
    exact ⟨Mathlib.Vector.eq _ _ pubkeys, Mathlib.Vector.eq _ _ lo, Mathlib.Vector.eq _ _ hi,
      Mathlib.Vector.eq _ _ fee, Mathlib.Vector.eq _ _ newSource, Mathlib.Vector.eq _ _ claimed⟩
  · obtain ⟨pubkeys, lo, hi, fee, newSource, claimed⟩ := agree
    apply Transcript.ext
    simp only [TransferWithFeeProof.checkTranscripts_equality_ops, pubkeys, lo, hi, fee, newSource,
      claimed]

end TransferWithFee
