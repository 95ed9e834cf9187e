import TransferWithFee.SubProofs
import Mathlib

/-!
# The scalar field as a curve

A concrete instance of every parameter of the model, on which the hypotheses of the results can
be discharged: the scalars as their own group, with base point `1` and blinding base `0` (binding,
not hiding), encoded as the 32 little-endian bytes of their canonical representative; the
discrete logarithm read off that representative; and sub-proofs with empty proofs whose range
and fee-sigma verifiers decide their relations. A second curve on the same scalars decodes only
canonical representatives, as the Ristretto decoder does.
-/

namespace TransferWithFee

/-- Scalars encoded as the 32 little-endian bytes of their canonical representative. -/
def scalarEncoding : PointEncoding Scalar where
  compress scalar := ⟨leBytes 32 scalar.val, length_leBytes 32 _⟩
  decompress bytes := if bytes.length = 32 then some (ofLeBytes bytes : Scalar) else none

/-- The scalar field as a curve: base point `1`, blinding base `0`. -/
def scalarCurve : Curve Scalar := { scalarEncoding with G := 1, H := 0 }

theorem scalarCurve_roundTrip : scalarCurve.toPointEncoding.RoundTrip := by
  intro scalar
  have canonical : scalar.val < 256 ^ 32 :=
    lt_trans (ZMod.val_lt scalar) (by norm_num [groupOrder])
  simp only [scalarCurve, scalarEncoding, Mathlib.Vector.toList_mk, length_leBytes, if_true,
    ofLeBytes_leBytes, Nat.mod_eq_of_lt canonical, ZMod.natCast_zmod_val]

@[simp] theorem pedersen_new_scalarCurve (amount opening : Scalar) :
    Pedersen.new scalarCurve amount opening = amount := by
  simp [Pedersen.new, scalarCurve]

theorem scalarCurve_binding : scalarCurve.Binding := by
  intro amount opening amount' opening' same
  simpa using same

@[simp] theorem opensTo_scalarCurve {commitment amount : Scalar} :
    OpensTo scalarCurve commitment amount ↔ commitment = amount := by
  simp [OpensTo]

/-- The key pair with secret `1`, whose public key is `0 = H`. -/
def scalarKeypair : ElGamalKeypair scalarCurve := ⟨0, 1, by simp [scalarCurve]⟩

/-- `DECODE_U32_PRECOMPUTATION_FOR_G` on this curve: the canonical representative, when it is
below `2^32`. -/
def scalarDiscreteLog (point : Scalar) : Option UInt32 :=
  if point.val < 2 ^ 32 then some (UInt32.ofNat point.val) else none

theorem scalarDiscreteLog_recovers (amount : UInt32) :
    scalarDiscreteLog ((amount.toNat : Scalar) • scalarCurve.G) = some amount := by
  have limb := amount.toNat_lt_size
  change amount.toNat < 2 ^ 32 at limb
  have canonical : ((amount.toNat : Scalar)).val = amount.toNat :=
    ZMod.val_natCast_of_lt (lt_trans limb (by norm_num [groupOrder]))
  simp only [scalarDiscreteLog, scalarCurve, smul_eq_mul, mul_one, canonical, limb, if_true,
    Option.some.injEq]
  exact UInt32.toNat.inj (by rw [uint32_toNat_ofNat, Nat.mod_eq_of_lt limb])

/-! ## Deciding sub-proofs -/

/-- A sub-proof with empty proofs and no transcript messages whose verifier accepts exactly the
statements `holds` decides. -/
def decidingSubProof {Witness Statement : Type} (holds : Statement → Prop) [DecidablePred holds] :
    SubProof Witness Statement where
  new _ _ := []
  verify _ statement _ := if holds statement then .ok () else .error .verification
  messages _ := []

theorem decidingSubProof_verify {Witness Statement : Type} {holds : Statement → Prop}
    [DecidablePred holds] {proof : List UInt8} {statement : Statement} {transcript : Transcript}
    (accepted : (@decidingSubProof Witness Statement holds _).verify proof statement transcript =
      .ok ()) : holds statement := by
  by_contra fails
  simp [decidingSubProof, fails] at accepted

/-- The fee-sigma relation on this curve: the fee commitment is the maximum fee, or the delta
and claimed commitments are equal. -/
def scalarFeeSigmaHolds : Scalar × Scalar × Scalar × UInt64 → Prop
  | (commitmentFee, commitmentDelta, commitmentClaimed, maximumFee) =>
    commitmentFee = (maximumFee.toNat : Scalar) ∨ commitmentDelta = commitmentClaimed

instance : DecidablePred scalarFeeSigmaHolds := fun _ => instDecidableOr

/-- The range relation on this curve: every commitment's representative fits its bit length. -/
def scalarRangeHolds : List Scalar × List ℕ → Prop
  | (commitments, bitLengths) =>
    List.Forall₂ (fun (commitment : Scalar) bits => commitment.val < 2 ^ bits) commitments
      bitLengths

instance : DecidablePred scalarRangeHolds := fun statement =>
  inferInstanceAs (Decidable (List.Forall₂ _ statement.1 statement.2))

/-- Sub-proofs on the scalar curve: equality and the two validity proofs accept every proof, the
fee-sigma and range verifiers decide their relations. -/
def scalarSubProofs : SubProofs scalarCurve where
  equality := decidingSubProof fun _ => True
  aggregatedValidity := decidingSubProof fun _ => True
  feeSigma := decidingSubProof scalarFeeSigmaHolds
  validity := decidingSubProof fun _ => True
  range := decidingSubProof scalarRangeHolds

theorem scalarSubProofs_sound : scalarSubProofs.Sound scalarCurve where
  feeSigma proof statement transcript accepted := by
    obtain ⟨commitmentFee, commitmentDelta, commitmentClaimed, maximumFee⟩ := statement
    rcases decidingSubProof_verify accepted with isMaximum | equal
    · exact .inl (opensTo_scalarCurve.mpr isMaximum)
    · exact .inr ⟨commitmentClaimed, opensTo_scalarCurve.mpr equal, opensTo_scalarCurve.mpr rfl⟩
  range proof statement transcript accepted :=
    (decidingSubProof_verify accepted).imp fun commitment _ fits =>
      ⟨commitment.val, fits, opensTo_scalarCurve.mpr (ZMod.natCast_zmod_val commitment).symm⟩

/-- Sub-proofs on the scalar curve whose verifiers check conditions that imply their relations:
equal commitments, zero handles, and the deciding fee-sigma and range checks. -/
def checkingSubProofs : SubProofs scalarCurve where
  equality := decidingSubProof fun statement => statement.2.1.commitment = statement.2.2
  aggregatedValidity := decidingSubProof fun statement =>
    statement.2.2.1 = (0, 0) ∧ statement.2.2.2 = (0, 0)
  feeSigma := decidingSubProof scalarFeeSigmaHolds
  validity := decidingSubProof fun statement => statement.2.2 = (0, 0)
  range := decidingSubProof scalarRangeHolds

/-- Handles equal to zero are made from the opening zero. -/
theorem scalarValidityHolds_of_zero
    {commitment dest feeCollector destHandle feeCollectorHandle : Scalar}
    (zero : (destHandle, feeCollectorHandle) = (0, 0)) :
    ValidityHolds scalarCurve
      (commitment, (dest, feeCollector), (destHandle, feeCollectorHandle)) := by
  obtain ⟨rfl, rfl⟩ := Prod.mk.inj zero
  exact ⟨commitment, 0, (pedersen_new_scalarCurve _ _).symm, (zero_smul _ _).symm,
    (zero_smul _ _).symm⟩

theorem checkingSubProofs_fullySound : checkingSubProofs.FullySound scalarCurve where
  feeSigma := scalarSubProofs_sound.feeSigma
  range := scalarSubProofs_sound.range
  equality proof statement transcript accepted := by
    obtain ⟨pubkey, ⟨commitment, handle⟩, provedCommitment⟩ := statement
    have same := decidingSubProof_verify accepted
    refine ⟨0, commitment, zero_smul _ _, ?_, opensTo_scalarCurve.mpr same.symm⟩
    rw [ElGamalCiphertext.Encrypts, ElGamalCiphertext.decryptPoint_mk, zero_smul, sub_zero]
    exact (mul_one commitment).symm
  aggregatedValidity proof statement transcript accepted := by
    obtain ⟨keys, commitments, ⟨destLo, destHi⟩, ⟨auditorLo, auditorHi⟩⟩ := statement
    obtain ⟨destZero, auditorZero⟩ := decidingSubProof_verify accepted
    obtain ⟨rfl, rfl⟩ := Prod.mk.inj destZero
    obtain ⟨rfl, rfl⟩ := Prod.mk.inj auditorZero
    exact ⟨scalarValidityHolds_of_zero rfl, scalarValidityHolds_of_zero rfl⟩
  validity proof statement transcript accepted := by
    obtain ⟨commitment, keys, handles⟩ := statement
    have zero := decidingSubProof_verify accepted
    exact scalarValidityHolds_of_zero zero

theorem scalar_val_of_uint64 (amount : UInt64) : ((amount.toNat : Scalar)).val = amount.toNat :=
  ZMod.val_natCast_of_lt (lt_trans amount.toNat_lt_size (by norm_num [groupOrder, UInt64.size]))

/-- Commitments to values that fit their bit lengths pass the range check of this curve. -/
theorem scalarRangeHolds_zipWith {amounts : List UInt64} {bitLengths : List ℕ}
    (fits : List.Forall₂ (fun (amount : UInt64) bits => amount.toNat < 2 ^ bits) amounts
      bitLengths) :
    ∀ {openings : List Scalar}, amounts.length = openings.length →
      scalarRangeHolds (List.zipWith (fun amount opening => Pedersen.new scalarCurve amount.toNat
        opening) amounts openings, bitLengths) := by
  induction fits with
  | nil => exact fun _ => .nil
  | cons fitsHead _ fitsTail =>
    intro openings lengths
    cases openings with
    | nil => simp at lengths
    | cons opening openings =>
      simp only [List.length_cons, Nat.add_right_cancel_iff] at lengths
      exact .cons (by simpa only [pedersen_new_scalarCurve, scalar_val_of_uint64] using fitsHead)
        (fitsTail lengths)

theorem scalarSubProofs_complete : scalarSubProofs.Complete scalarCurve where
  equality _ _ _ _ := by simp [scalarSubProofs, decidingSubProof]
  aggregatedValidity _ _ _ _ := by simp [scalarSubProofs, decidingSubProof]
  feeSigma statement witness _ holds := by
    obtain ⟨commitmentFee, commitmentDelta, commitmentClaimed, maximumFee⟩ := statement
    obtain ⟨⟨_, provedFee, openingFee⟩, ⟨deltaFee, provedDelta, openingDelta⟩,
      ⟨provedClaimed, openingClaimed⟩, provedMaximum⟩ := witness
    have decided :
        scalarFeeSigmaHolds (commitmentFee, commitmentDelta, commitmentClaimed, maximumFee) := by
      obtain ⟨-, -, -, -, isMaximum | ⟨isDelta, isClaimed⟩⟩ := holds
      · exact .inl (by rw [isMaximum, pedersen_new_scalarCurve])
      · exact .inr (by rw [isDelta, isClaimed, pedersen_new_scalarCurve, pedersen_new_scalarCurve])
    simp [scalarSubProofs, decidingSubProof, decided]
  validity _ _ _ _ := by simp [scalarSubProofs, decidingSubProof]
  range statement witness _ holds := by
    obtain ⟨commitments, bitLengths⟩ := statement
    obtain ⟨amounts, provedBitLengths, openings⟩ := witness
    obtain ⟨-, lengths, rfl, fits⟩ := holds
    simp only [scalarSubProofs, decidingSubProof, if_pos (scalarRangeHolds_zipWith fits lengths)]

/-! ## A canonical decoder -/

/-- The scalar field as a curve whose decoder, like the Ristretto decoder, accepts only the
encoding of a canonical representative. -/
def canonicalScalarCurve : Curve Scalar where
  compress := scalarEncoding.compress
  decompress bytes :=
    if bytes.length = 32 ∧ ofLeBytes bytes < groupOrder then some (ofLeBytes bytes : Scalar)
    else none
  G := 1
  H := 0

theorem canonicalScalarCurve_exact : canonicalScalarCurve.toPointEncoding.Exact := by
  intro bytes scalar
  simp only [canonicalScalarCurve, scalarEncoding, Mathlib.Vector.toList_mk]
  constructor
  · intro decoded
    split_ifs at decoded with canonical
    cases decoded
    rw [ZMod.val_natCast_of_lt canonical.2, ← canonical.1, leBytes_ofLeBytes]
  · rintro rfl
    have representative : scalar.val < 256 ^ 32 :=
      lt_trans (ZMod.val_lt scalar) (by norm_num [groupOrder])
    rw [ofLeBytes_leBytes, Nat.mod_eq_of_lt representative,
      if_pos ⟨length_leBytes _ _, ZMod.val_lt scalar⟩, ZMod.natCast_zmod_val]

/-- Sub-proofs whose five verifiers accept every proof. -/
def acceptingSubProofs {Point : Type} [AddCommGroup Point] [Module Scalar Point]
    (curve : Curve Point) : SubProofs curve where
  equality := decidingSubProof fun _ => True
  aggregatedValidity := decidingSubProof fun _ => True
  feeSigma := decidingSubProof fun _ => True
  validity := decidingSubProof fun _ => True
  range := decidingSubProof fun _ => True

end TransferWithFee
