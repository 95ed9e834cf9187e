import TransferWithFee.Bytes
import Mathlib.Data.ZMod.Basic
import Mathlib.Tactic.Module

/-!
# The encryption collaborators

The Pedersen commitments and twisted ElGamal ciphertexts the instruction is built from, as the
instruction uses them: a commitment is `amount • G + opening • H` in a group of order
`groupOrder`, a decrypt handle is `opening • pubkey`, and a key pair's secret undoes its public
key on `H`. The group is any module over the scalar field; its 32-byte encoding, its generators
and the bounded discrete-log search are parameters.
-/

namespace TransferWithFee

/-- The order of the Ristretto group, the modulus of `curve25519_dalek::scalar::Scalar`. -/
def groupOrder : ℕ := 2 ^ 252 + 27742317777372353535851937790883648493

/-- `curve25519_dalek::scalar::Scalar`; `Scalar::from(x)` is the cast of `x`. -/
abbrev Scalar := ZMod groupOrder

instance : NeZero groupOrder := ⟨by decide⟩

/-- `to_bytes` and `from_bytes` of the 32-byte group elements (commitments, decrypt handles and
public keys are all compressed points). -/
structure PointEncoding (Point : Type) where
  compress : Point → Bytes 32
  decompress : List UInt8 → Option Point

/-- The group the encryption module works in: its encoding, the Pedersen base point `G` and the
blinding base `H`. -/
structure Curve (Point : Type) extends PointEncoding Point where
  G : Point
  H : Point

variable {Point : Type} [AddCommGroup Point]

/-- `ElGamalCiphertext`: a commitment and one decrypt handle. -/
structure ElGamalCiphertext (Point : Type) where
  commitment : Point
  handle : Point

instance : Add (ElGamalCiphertext Point) :=
  ⟨fun a b => ⟨a.commitment + b.commitment, a.handle + b.handle⟩⟩

instance : Sub (ElGamalCiphertext Point) :=
  ⟨fun a b => ⟨a.commitment - b.commitment, a.handle - b.handle⟩⟩

@[simp] theorem ElGamalCiphertext.add_commitment (a b : ElGamalCiphertext Point) :
    (a + b).commitment = a.commitment + b.commitment := rfl

@[simp] theorem ElGamalCiphertext.add_handle (a b : ElGamalCiphertext Point) :
    (a + b).handle = a.handle + b.handle := rfl

@[simp] theorem ElGamalCiphertext.sub_commitment (a b : ElGamalCiphertext Point) :
    (a - b).commitment = a.commitment - b.commitment := rfl

@[simp] theorem ElGamalCiphertext.sub_handle (a b : ElGamalCiphertext Point) :
    (a - b).handle = a.handle - b.handle := rfl

variable [Module Scalar Point] (curve : Curve Point)

instance : SMul Scalar (ElGamalCiphertext Point) := ⟨fun s a => ⟨s • a.commitment, s • a.handle⟩⟩

@[simp] theorem ElGamalCiphertext.smul_commitment (s : Scalar) (a : ElGamalCiphertext Point) :
    (s • a).commitment = s • a.commitment := rfl

@[simp] theorem ElGamalCiphertext.smul_handle (s : Scalar) (a : ElGamalCiphertext Point) :
    (s • a).handle = s • a.handle := rfl

/-! ## Pedersen commitments -/

/-- Modelled from the spec: `Pedersen::new` of the pedersen module, the commitment to `amount`
under the opening it draws (passed in here). -/
def Pedersen.new (amount opening : Scalar) : Point := amount • curve.G + opening • curve.H

/-- Modelled from the spec: `Pedersen::encode`, the commitment under the zero opening. -/
def Pedersen.encode (amount : Scalar) : Point := amount • curve.G

/-- A commitment opens to `amount` when some opening makes it `Pedersen::new(amount)`. -/
def OpensTo (commitment : Point) (amount : Scalar) : Prop :=
  ∃ opening, commitment = Pedersen.new curve amount opening

/-- Pedersen commitments on the curve are binding: no commitment has openings to two values. -/
def Curve.Binding : Prop :=
  ∀ amount opening amount' opening' : Scalar,
    Pedersen.new curve amount opening = Pedersen.new curve amount' opening' → amount = amount'

/-- On a binding curve a commitment opens to one value only. -/
theorem OpensTo.unique {curve : Curve Point} (binding : curve.Binding) {commitment : Point}
    {amount amount' : Scalar} (opens : OpensTo curve commitment amount)
    (opens' : OpensTo curve commitment amount') : amount = amount' := by
  obtain ⟨opening, rfl⟩ := opens
  obtain ⟨opening', same⟩ := opens'
  exact binding _ _ _ _ same

/-! ## ElGamal -/

/-- Modelled from the spec: `ElGamalKeypair`. The public key is `secret⁻¹ • H`; what decryption
relies on is that the secret maps it back to `H`. -/
structure ElGamalKeypair where
  public : Point
  secret : Scalar
  secret_smul_public : secret • public = curve.H

/-- Modelled from the spec: `ElGamalPubkey::decrypt_handle`. -/
def decryptHandle (pubkey : Point) (opening : Scalar) : Point := opening • pubkey

/-- The group element a secret key recovers from a ciphertext, `commitment - secret • handle`. -/
def ElGamalCiphertext.decryptPoint (ciphertext : ElGamalCiphertext Point) (secret : Scalar) :
    Point :=
  ciphertext.commitment - secret • ciphertext.handle

@[simp] theorem ElGamalCiphertext.decryptPoint_mk (commitment handle : Point) (secret : Scalar) :
    (ElGamalCiphertext.mk commitment handle).decryptPoint secret = commitment - secret • handle :=
  rfl

/-- A ciphertext encrypts `amount` under a secret key when that key recovers `amount • G`. -/
def ElGamalCiphertext.Encrypts (ciphertext : ElGamalCiphertext Point) (secret amount : Scalar) :
    Prop :=
  ciphertext.decryptPoint secret = amount • curve.G

/-- Modelled from the spec: `ElGamalCiphertext::decrypt_u32_online`, the bounded discrete-log
search of the precomputed table, on the recovered group element. -/
def ElGamalCiphertext.decryptU32Online (ciphertext : ElGamalCiphertext Point) (secret : Scalar)
    (discreteLog : Point → Option UInt32) : Option UInt32 :=
  discreteLog (ciphertext.decryptPoint secret)

@[simp] theorem ElGamalCiphertext.decryptPoint_sub (a b : ElGamalCiphertext Point)
    (secret : Scalar) :
    (a - b).decryptPoint secret = a.decryptPoint secret - b.decryptPoint secret := by
  simp only [decryptPoint, sub_commitment, sub_handle, smul_sub]
  abel

@[simp] theorem ElGamalCiphertext.decryptPoint_add (a b : ElGamalCiphertext Point)
    (secret : Scalar) :
    (a + b).decryptPoint secret = a.decryptPoint secret + b.decryptPoint secret := by
  simp only [decryptPoint, add_commitment, add_handle, smul_add]
  abel

@[simp] theorem ElGamalCiphertext.decryptPoint_smul (a : ElGamalCiphertext Point)
    (s secret : Scalar) :
    (s • a).decryptPoint secret = s • a.decryptPoint secret := by
  simp only [decryptPoint, smul_commitment, smul_handle, smul_sub, smul_comm s secret]

/-- The key pair's secret opens a commitment through the handle made for its public key. -/
theorem decryptHandle_decrypt (keypair : ElGamalKeypair curve) (amount opening : Scalar) :
    Pedersen.new curve amount opening - keypair.secret • decryptHandle keypair.public opening =
      amount • curve.G := by
  rw [decryptHandle, smul_comm, keypair.secret_smul_public, Pedersen.new, add_sub_cancel_right]

/-- A commitment with a handle made from its opening for a key pair's public key encrypts the
committed value under the key pair's secret. -/
theorem ElGamalCiphertext.encrypts_of_opening {keypair : ElGamalKeypair curve}
    {commitment handle : Point} {amount opening : Scalar}
    (committed : commitment = Pedersen.new curve amount opening)
    (handled : handle = decryptHandle keypair.public opening) :
    (ElGamalCiphertext.mk commitment handle).Encrypts curve keypair.secret amount := by
  rw [Encrypts, decryptPoint_mk, committed, handled, decryptHandle_decrypt]

/-- The ciphertext is an encryption of `amount` to `pubkey`, as `ElGamalPubkey::encrypt_with`
builds one: its commitment opens to `amount` under the opening its handle is made from. -/
def ElGamalCiphertext.EncryptsTo (ciphertext : ElGamalCiphertext Point) (pubkey : Point)
    (amount : Scalar) : Prop :=
  ∃ opening, ciphertext.commitment = Pedersen.new curve amount opening ∧
    ciphertext.handle = decryptHandle pubkey opening

theorem ElGamalCiphertext.EncryptsTo.opensTo {ciphertext : ElGamalCiphertext Point}
    {pubkey : Point} {amount : Scalar} (encrypted : ciphertext.EncryptsTo curve pubkey amount) :
    OpensTo curve ciphertext.commitment amount :=
  encrypted.imp fun _ => And.left

/-- Every key pair of the public key decrypts an encryption to it. -/
theorem ElGamalCiphertext.EncryptsTo.encrypts {ciphertext : ElGamalCiphertext Point}
    {pubkey : Point} {amount : Scalar} (encrypted : ciphertext.EncryptsTo curve pubkey amount)
    {keypair : ElGamalKeypair curve} (isKey : keypair.public = pubkey) :
    ciphertext.Encrypts curve keypair.secret amount := by
  subst isKey
  obtain ⟨opening, committed, handled⟩ := encrypted
  exact encrypts_of_opening curve committed handled

/-! ## Limbs -/

/-- `TWO_32`. -/
def two32 : UInt64 := 4294967296

@[simp] theorem two32_toNat : two32.toNat = 2 ^ 32 := rfl

/-- Modelled from the spec: `split_u64_into_u32`, the low and high 32 bits of an amount. -/
def splitU64IntoU32 (amount : UInt64) : UInt32 × UInt32 :=
  (UInt32.ofNat (amount.toNat % 2 ^ 32), UInt32.ofNat (amount.toNat / 2 ^ 32))

theorem splitU64IntoU32_toNat (amount : UInt64) :
    (splitU64IntoU32 amount).1.toNat = amount.toNat % 2 ^ 32 ∧
      (splitU64IntoU32 amount).2.toNat = amount.toNat / 2 ^ 32 := by
  have amountBound := amount.toNat_lt_size
  change amount.toNat < 2 ^ 64 at amountBound
  simp only [splitU64IntoU32, uint32_toNat_ofNat]
  omega

/-- `lo + hi * 2^32` in any module over the scalars: the one shape of the three `combine_u32_*`. -/
def combineU32 {M : Type} [Add M] [SMul Scalar M] (lo hi : M) : M :=
  lo + ((two32.toNat : Scalar) • hi)

/-- Modelled from the spec: `combine_u32_commitments`. -/
def combineU32Commitments (lo hi : Point) : Point := combineU32 lo hi

/-- Modelled from the spec: `combine_u32_openings`. -/
def combineU32Openings (lo hi : Scalar) : Scalar := combineU32 lo hi

/-- Modelled from the spec: `combine_u32_ciphertexts`. -/
def combineU32Ciphertexts (lo hi : ElGamalCiphertext Point) : ElGamalCiphertext Point :=
  combineU32 lo hi

/-- Combining commitments commits to the combined amount under the combined opening. -/
theorem combineU32Commitments_new (lo hi openingLo openingHi : Scalar) :
    combineU32Commitments (Pedersen.new curve lo openingLo) (Pedersen.new curve hi openingHi) =
      Pedersen.new curve (combineU32 lo hi) (combineU32Openings openingLo openingHi) := by
  simp only [combineU32Commitments, combineU32Openings, combineU32, Pedersen.new, smul_eq_mul]
  module

theorem combineU32_limbs (amount : UInt64) :
    combineU32 ((splitU64IntoU32 amount).1.toNat : Scalar)
        ((splitU64IntoU32 amount).2.toNat : Scalar) =
      (amount.toNat : Scalar) := by
  obtain ⟨lo, hi⟩ := splitU64IntoU32_toNat amount
  rw [combineU32, lo, hi, smul_eq_mul, two32_toNat]
  norm_cast
  rw [Nat.mod_add_div]

/-- The limbs recombine, in `u64` arithmetic and without wrapping, to the amount they split. -/
theorem splitU64IntoU32_recombine (amount : UInt64) :
    (splitU64IntoU32 amount).1.toUInt64 + two32 * (splitU64IntoU32 amount).2.toUInt64 = amount := by
  obtain ⟨lo, hi⟩ := splitU64IntoU32_toNat amount
  have amountBound := amount.toNat_lt_size
  change amount.toNat < 2 ^ 64 at amountBound
  apply UInt64.toNat.inj
  rw [uint64_toNat_add, uint64_toNat_mul, two32_toNat]
  change ((splitU64IntoU32 amount).1.toNat + 2 ^ 32 * (splitU64IntoU32 amount).2.toNat % 2 ^ 64) %
    2 ^ 64 = _
  rw [lo, hi]
  omega

/-! ## Transfer-amount and fee encryptions -/

/-- `TransferAmountEncryption`: one commitment to a limb with a handle for each of source,
destination and auditor. -/
structure TransferAmountEncryption (Point : Type) where
  commitment : Point
  source : Point
  dest : Point
  auditor : Point

/-- Modelled from the spec: `TransferAmountEncryption::new`, every handle made from the opening
of the commitment. -/
def TransferAmountEncryption.new (amount : UInt32) (pubkeySource pubkeyDest pubkeyAuditor : Point)
    (opening : Scalar) : TransferAmountEncryption Point where
  commitment := Pedersen.new curve amount.toNat opening
  source := decryptHandle pubkeySource opening
  dest := decryptHandle pubkeyDest opening
  auditor := decryptHandle pubkeyAuditor opening

/-- `FeeEncryption`: one commitment to the fee with handles for destination and fee collector. -/
structure FeeEncryption (Point : Type) where
  commitment : Point
  dest : Point
  feeCollector : Point

/-- `FeeEncryption::new`, with the opening `Pedersen::new` draws passed in. -/
def FeeEncryption.new (amount : UInt64) (pubkeyDest pubkeyFeeCollector : Point) (opening : Scalar) :
    FeeEncryption Point where
  commitment := Pedersen.new curve amount.toNat opening
  dest := decryptHandle pubkeyDest opening
  feeCollector := decryptHandle pubkeyFeeCollector opening

end TransferWithFee
