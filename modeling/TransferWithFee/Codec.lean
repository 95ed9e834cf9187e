import TransferWithFee.Encryption

/-!
# Fixed-layout encodings

The byte layouts the instruction data travels in. A record of group elements is its fields'
32-byte encodings side by side, written with `copy_from_slice` into a zeroed array and read back
through `array_ref!`/`array_refs!`; `FeeParameters` is a little-endian `u16` then a little-endian
`u64`. A decoder on a slice panics (`none`) when the slice is shorter than the layout, reads only
the layout's window of a longer one, and fails with `ProofError::Verification` on a block that is
no group element's encoding.
-/

namespace TransferWithFee

/-- `ProofError`, with the two kinds this instruction raises. The collaborators' decode and
verification failures surface as `verification`. -/
inductive ProofError
  | generation
  | verification
  deriving DecidableEq, Repr

/-- `Option::ok_or`. -/
def okOr {α ε : Type} : Option α → ε → Except ε α
  | some value, _ => .ok value
  | none, error => .error error

@[simp] theorem okOr_eq_ok {α ε : Type} (value : Option α) (error : ε) (result : α) :
    okOr value error = .ok result ↔ value = some result := by
  cases value <;> simp [okOr]

@[simp] theorem okOr_some {α ε : Type} (value : α) (error : ε) :
    okOr (some value) error = .ok value :=
  rfl

@[simp] theorem ok_bind {α β ε : Type} (value : α) (rest : α → Except ε β) :
    (Except.ok value >>= rest) = rest value :=
  rfl

/-- Every error the computation can end in is `ProofError::Verification`. -/
def FailsVerifying {α : Type} (computation : Except ProofError α) : Prop :=
  ∀ error, computation = .error error → error = .verification

theorem FailsVerifying.bind {α β : Type} {first : Except ProofError α}
    {rest : α → Except ProofError β} (firstFails : FailsVerifying first)
    (restFails : ∀ value, FailsVerifying (rest value)) : FailsVerifying (first >>= rest) := by
  intro error failed
  cases first with
  | error firstError => exact firstFails error (by simpa [Bind.bind, Except.bind] using failed)
  | ok value => exact restFails value error failed

theorem FailsVerifying.pure {α : Type} (value : α) :
    FailsVerifying (Pure.pure value : Except ProofError α) := by
  intro error failed
  cases failed

theorem okOr_failsVerifying {α : Type} (value : Option α) :
    FailsVerifying (okOr value ProofError.verification) := by
  intro error failed
  cases value <;> simp_all [okOr]

/-! ## Blocks of group elements -/

/-- `bytes[start..start + 32].copy_from_slice(&block)` for each block in turn, the next block 32
bytes further on. -/
def copyBlocksFrom : List (Bytes 32) → ℕ → List UInt8 → List UInt8
  | [], _, bytes => bytes
  | block :: rest, start, bytes =>
      copyBlocksFrom rest (start + 32) (copyFromSlice bytes start block.toList)

/-- The blocks copied one after the other into a zeroed array of their total size. -/
def copyBlocks (blocks : List (Bytes 32)) : List UInt8 :=
  copyBlocksFrom blocks 0 (zeroes (32 * blocks.length))

theorem copyBlocksFrom_zeroes (blocks : List (Bytes 32)) (written : List UInt8) :
    copyBlocksFrom blocks written.length (written ++ zeroes (32 * blocks.length)) =
      written ++ (blocks.map Mathlib.Vector.toList).flatten := by
  induction blocks generalizing written with
  | nil => simp [copyBlocksFrom, zeroes]
  | cons block rest inductionHypothesis =>
      have remaining : 32 * (rest.length + 1) - block.toList.length = 32 * rest.length := by
        simp only [Mathlib.Vector.toList_length]
        omega
      rw [List.length_cons, copyBlocksFrom, copyFromSlice_zeroes, remaining]
      rw [show written.length + 32 = (written ++ block.toList).length by simp,
        inductionHypothesis, List.map_cons, List.flatten_cons, List.append_assoc]

/-- Copying blocks into a zeroed array lays them side by side. -/
theorem copyBlocks_eq_flatten (blocks : List (Bytes 32)) :
    copyBlocks blocks = (blocks.map Mathlib.Vector.toList).flatten :=
  copyBlocksFrom_zeroes blocks []

theorem length_copyBlocks (blocks : List (Bytes 32)) :
    (copyBlocks blocks).length = 32 * blocks.length := by
  simp [copyBlocks_eq_flatten, List.length_flatten, Function.comp_def, List.sum_replicate,
    mul_comm]

/-- An array whose consecutive 32-byte windows are the given blocks is the blocks side by side. -/
theorem eq_flatten_of_windows (blocks : List (Bytes 32)) (bytes : List UInt8)
    (length : bytes.length = 32 * blocks.length)
    (windows : ∀ index (inRange : index < blocks.length),
      slice bytes (32 * index) 32 = (blocks.get ⟨index, inRange⟩).toList) :
    bytes = (blocks.map Mathlib.Vector.toList).flatten := by
  induction blocks generalizing bytes with
  | nil => simpa using length
  | cons block rest inductionHypothesis =>
      have first : slice bytes 0 32 = block.toList := windows 0 (by simp)
      have tail := inductionHypothesis (bytes.drop 32)
        (by simp only [List.length_drop, length, List.length_cons]; omega)
        (fun index inRange => by
          have shifted := windows (index + 1) (by simpa using inRange)
          rw [slice, List.drop_drop, show 32 + 32 * index = 32 * (index + 1) by ring]
          exact shifted)
      have whole := slice_append_drop bytes 0 32
      rw [Nat.zero_add, List.drop_zero] at whole
      rw [← whole, first, tail, List.map_cons, List.flatten_cons]

variable {Point : Type} (encoding : PointEncoding Point)

/-- The decoder inverts the encoder. -/
def PointEncoding.RoundTrip : Prop :=
  ∀ point : Point, encoding.decompress (encoding.compress point).toList = some point

/-- The decoder accepts exactly the encoder's image. -/
def PointEncoding.Exact : Prop :=
  ∀ (bytes : List UInt8) (point : Point),
    encoding.decompress bytes = some point ↔ bytes = (encoding.compress point).toList

theorem PointEncoding.Exact.roundTrip {encoding : PointEncoding Point} (exact : encoding.Exact) :
    encoding.RoundTrip :=
  fun point => (exact _ point).mpr rfl

/-- The `index`-th 32-byte window of an array (as `array_refs!` splits it) decoded as a group
element, or `ProofError::Verification`. -/
def decodeBlock (bytes : List UInt8) (index : ℕ) : Except ProofError Point :=
  okOr (encoding.decompress (slice bytes (32 * index) 32)) .verification

theorem decodeBlock_failsVerifying (bytes : List UInt8) (index : ℕ) :
    FailsVerifying (decodeBlock encoding bytes index) :=
  okOr_failsVerifying _

theorem decodeBlock_eq_ok {encoding : PointEncoding Point} (exact : encoding.Exact)
    {bytes : List UInt8} {index : ℕ} {point : Point} :
    decodeBlock encoding bytes index = .ok point ↔
      slice bytes (32 * index) 32 = (encoding.compress point).toList := by
  rw [decodeBlock, okOr_eq_ok, exact]

/-- A `do` block succeeds exactly when its first step does and the rest succeeds on its value. -/
theorem bind_eq_ok {α β ε : Type} (first : Except ε α) (rest : α → Except ε β) (result : β) :
    (first >>= rest) = .ok result ↔ ∃ value, first = .ok value ∧ rest value = .ok result := by
  cases first <;> simp [bind, Except.bind]

/-- A fixed-layout decoder behind `array_ref!`: it panics below `size` bytes, else accepts exactly
the slices that start with an encoding and otherwise fails verifying. -/
def DecodesWindow {α : Type} (size : ℕ) (toBytes : α → List UInt8)
    (fromBytes : List UInt8 → Option (Except ProofError α)) : Prop :=
  ∀ bytes : List UInt8,
    (fromBytes bytes = none ↔ bytes.length < size) ∧
    (∀ value, fromBytes bytes = some (.ok value) ↔
      size ≤ bytes.length ∧ bytes.take size = toBytes value) ∧
    (∀ error, fromBytes bytes = some (.error error) → error = .verification)

/-- A body that inverts the encoder on `size` bytes and fails only verifying behaves as
`DecodesWindow` behind `array_ref!`. -/
theorem decodesWindow_arrayRef {α : Type} {size : ℕ} {toBytes : α → List UInt8}
    {ofArray : List UInt8 → Except ProofError α}
    (inverts : ∀ bytes value, bytes.length = size →
      (ofArray bytes = .ok value ↔ bytes = toBytes value))
    (failsVerifying : ∀ bytes, FailsVerifying (ofArray bytes)) :
    DecodesWindow size toBytes fun bytes => (arrayRef bytes 0 size).map ofArray := by
  intro bytes
  by_cases longEnough : size ≤ bytes.length
  · have windowLength : (bytes.take size).length = size := by simp [longEnough]
    have window : arrayRef bytes 0 size = some (bytes.take size) := by
      simp [arrayRef, slice, longEnough]
    simp only [window, Option.map_some', Option.some.injEq, reduceCtorEq, false_iff, not_lt,
      longEnough, true_and]
    exact ⟨fun value => inverts _ value windowLength, failsVerifying _⟩
  · have panics : arrayRef bytes 0 size = none := by simp [arrayRef, longEnough]
    simp only [panics, Option.map_none', reduceCtorEq, false_iff, longEnough, false_and,
      iff_false, implies_true, and_true]
    simpa using longEnough

/-- Under an exact encoding, an array of `32 * n` bytes whose `n` windows decode to the given
points is their encodings side by side. -/
theorem eq_copyBlocks_of_decoded {encoding : PointEncoding Point} (exact : encoding.Exact)
    {bytes : List UInt8} (points : List Point) (length : bytes.length = 32 * points.length)
    (decoded : ∀ index (inRange : index < points.length),
      decodeBlock encoding bytes index = .ok (points.get ⟨index, inRange⟩)) :
    bytes = copyBlocks (points.map encoding.compress) := by
  rw [copyBlocks_eq_flatten]
  exact eq_flatten_of_windows _ _ (by simpa using length) fun index inRange => by
    simpa using (decodeBlock_eq_ok exact).mp (decoded index (by simpa using inRange))

/-! ## Public keys -/

/-- `TransferWithFeePubkeys`: the ElGamal public keys of source, destination, auditor and fee
collector. -/
structure TransferWithFeePubkeys (Point : Type) where
  source : Point
  dest : Point
  auditor : Point
  feeCollector : Point

/-- `TransferWithFeePubkeys::to_bytes`. -/
def TransferWithFeePubkeys.toBytes (pubkeys : TransferWithFeePubkeys Point) : Bytes 128 :=
  ⟨copyBlocks [encoding.compress pubkeys.source, encoding.compress pubkeys.dest,
    encoding.compress pubkeys.auditor, encoding.compress pubkeys.feeCollector],
    length_copyBlocks _⟩

/-- `pod::TransferWithFeePubkeys::new`. -/
def podTransferWithFeePubkeysNew (source dest auditor feeCollector : Point) : Bytes 128 :=
  ⟨copyBlocks [encoding.compress source, encoding.compress dest, encoding.compress auditor,
    encoding.compress feeCollector], length_copyBlocks _⟩

theorem podTransferWithFeePubkeysNew_eq (source dest auditor feeCollector : Point) :
    podTransferWithFeePubkeysNew encoding source dest auditor feeCollector =
      TransferWithFeePubkeys.toBytes encoding ⟨source, dest, auditor, feeCollector⟩ :=
  rfl

/-- `TransferWithFeePubkeys::from_bytes` past its `array_ref!`: the four 32-byte windows
decoded in order. -/
def TransferWithFeePubkeys.ofArray (bytes : List UInt8) :
    Except ProofError (TransferWithFeePubkeys Point) := do
  let source ← decodeBlock encoding bytes 0
  let dest ← decodeBlock encoding bytes 1
  let auditor ← decodeBlock encoding bytes 2
  let feeCollector ← decodeBlock encoding bytes 3
  pure ⟨source, dest, auditor, feeCollector⟩

/-- `TransferWithFeePubkeys::from_bytes`. -/
def TransferWithFeePubkeys.fromBytes (bytes : List UInt8) :
    Option (Except ProofError (TransferWithFeePubkeys Point)) :=
  (arrayRef bytes 0 128).map (TransferWithFeePubkeys.ofArray encoding)

theorem TransferWithFeePubkeys.ofArray_toBytes {encoding : PointEncoding Point}
    (roundTrip : encoding.RoundTrip) (pubkeys : TransferWithFeePubkeys Point) :
    TransferWithFeePubkeys.ofArray encoding (pubkeys.toBytes encoding).toList = .ok pubkeys := by
  rw [PointEncoding.RoundTrip] at roundTrip
  simp (disch := simp) only [ofArray, toBytes, Mathlib.Vector.toList_mk, copyBlocks_eq_flatten,
    List.map_cons, List.map_nil, List.flatten_cons, List.flatten_nil, List.append_nil, decodeBlock,
    slice_append_of_length_le, slice_append_left, slice_of_length, Mathlib.Vector.toList_length,
    Nat.reduceMul, Nat.reduceSub, roundTrip, okOr_some, ok_bind]
  rfl

theorem TransferWithFeePubkeys.ofArray_eq_ok {encoding : PointEncoding Point}
    (exact : encoding.Exact) (bytes : List UInt8) (pubkeys : TransferWithFeePubkeys Point)
    (length : bytes.length = 128) :
    TransferWithFeePubkeys.ofArray encoding bytes = .ok pubkeys ↔
      bytes = (pubkeys.toBytes encoding).toList := by
  refine ⟨fun decoded => ?_, fun encoded => encoded ▸ ofArray_toBytes exact.roundTrip pubkeys⟩
  simp only [ofArray, bind_eq_ok, decodeBlock_eq_ok exact] at decoded
  obtain ⟨source, sourceWindow, dest, destWindow, auditor, auditorWindow, feeCollector,
    feeCollectorWindow, built⟩ := decoded
  cases built
  rw [toBytes, Mathlib.Vector.toList_mk, copyBlocks_eq_flatten]
  apply eq_flatten_of_windows _ _ (by simpa using length)
  intro index inRange
  match index, inRange with
  | 0, _ => simpa using sourceWindow
  | 1, _ => simpa using destWindow
  | 2, _ => simpa using auditorWindow
  | 3, _ => simpa using feeCollectorWindow

theorem TransferWithFeePubkeys.ofArray_failsVerifying (bytes : List UInt8) :
    FailsVerifying (TransferWithFeePubkeys.ofArray encoding bytes) :=
  .bind (decodeBlock_failsVerifying _ _ _) fun _ =>
    .bind (decodeBlock_failsVerifying _ _ _) fun _ =>
      .bind (decodeBlock_failsVerifying _ _ _) fun _ =>
        .bind (decodeBlock_failsVerifying _ _ _) fun _ => .pure _

/-- `TransferWithFeePubkeys::from_bytes` behind its `array_ref!`. -/
theorem TransferWithFeePubkeys.fromBytes_decodesWindow {encoding : PointEncoding Point}
    (exact : encoding.Exact) :
    DecodesWindow 128 (fun pubkeys => (pubkeys.toBytes encoding).toList)
      (TransferWithFeePubkeys.fromBytes encoding) :=
  decodesWindow_arrayRef (fun bytes pubkeys length => ofArray_eq_ok exact bytes pubkeys length)
    (ofArray_failsVerifying encoding)

/-! ## Fee encryptions -/

/-- `FeeEncryption::to_bytes`. -/
def FeeEncryption.toBytes (fee : FeeEncryption Point) : Bytes 96 :=
  ⟨copyBlocks [encoding.compress fee.commitment, encoding.compress fee.dest,
    encoding.compress fee.feeCollector], length_copyBlocks _⟩

/-- `FeeEncryption::from_bytes` past its `array_ref!`: the three 32-byte windows decoded in
order. -/
def FeeEncryption.ofArray (bytes : List UInt8) : Except ProofError (FeeEncryption Point) := do
  let commitment ← decodeBlock encoding bytes 0
  let dest ← decodeBlock encoding bytes 1
  let feeCollector ← decodeBlock encoding bytes 2
  pure ⟨commitment, dest, feeCollector⟩

/-- `FeeEncryption::from_bytes`. -/
def FeeEncryption.fromBytes (bytes : List UInt8) :
    Option (Except ProofError (FeeEncryption Point)) :=
  (arrayRef bytes 0 96).map (FeeEncryption.ofArray encoding)

theorem FeeEncryption.ofArray_toBytes {encoding : PointEncoding Point}
    (roundTrip : encoding.RoundTrip) (fee : FeeEncryption Point) :
    FeeEncryption.ofArray encoding (fee.toBytes encoding).toList = .ok fee := by
  rw [PointEncoding.RoundTrip] at roundTrip
  simp (disch := simp) only [ofArray, toBytes, Mathlib.Vector.toList_mk, copyBlocks_eq_flatten,
    List.map_cons, List.map_nil, List.flatten_cons, List.flatten_nil, List.append_nil, decodeBlock,
    slice_append_of_length_le, slice_append_left, slice_of_length, Mathlib.Vector.toList_length,
    Nat.reduceMul, Nat.reduceSub, roundTrip, okOr_some, ok_bind]
  rfl

theorem FeeEncryption.ofArray_eq_ok {encoding : PointEncoding Point} (exact : encoding.Exact)
    (bytes : List UInt8) (fee : FeeEncryption Point) (length : bytes.length = 96) :
    FeeEncryption.ofArray encoding bytes = .ok fee ↔ bytes = (fee.toBytes encoding).toList := by
  refine ⟨fun decoded => ?_, fun encoded => encoded ▸ ofArray_toBytes exact.roundTrip fee⟩
  simp only [ofArray, bind_eq_ok, decodeBlock_eq_ok exact] at decoded
  obtain ⟨commitment, commitmentWindow, dest, destWindow, feeCollector, feeCollectorWindow,
    built⟩ := decoded
  cases built
  rw [toBytes, Mathlib.Vector.toList_mk, copyBlocks_eq_flatten]
  apply eq_flatten_of_windows _ _ (by simpa using length)
  intro index inRange
  match index, inRange with
  | 0, _ => simpa using commitmentWindow
  | 1, _ => simpa using destWindow
  | 2, _ => simpa using feeCollectorWindow

theorem FeeEncryption.ofArray_failsVerifying (bytes : List UInt8) :
    FailsVerifying (FeeEncryption.ofArray encoding bytes) :=
  .bind (decodeBlock_failsVerifying _ _ _) fun _ =>
    .bind (decodeBlock_failsVerifying _ _ _) fun _ =>
      .bind (decodeBlock_failsVerifying _ _ _) fun _ => .pure _

/-- `FeeEncryption::from_bytes` behind its `array_ref!`. -/
theorem FeeEncryption.fromBytes_decodesWindow {encoding : PointEncoding Point}
    (exact : encoding.Exact) :
    DecodesWindow 96 (fun fee => (fee.toBytes encoding).toList)
      (FeeEncryption.fromBytes encoding) :=
  decodesWindow_arrayRef (fun bytes fee length => ofArray_eq_ok exact bytes fee length)
    (ofArray_failsVerifying encoding)

/-! ## The collaborators' layouts -/

/-- Modelled from the spec: `TransferAmountEncryption::to_bytes` of the transfer instruction, its
four fields side by side. -/
def TransferAmountEncryption.toBytes (amount : TransferAmountEncryption Point) : Bytes 128 :=
  ⟨copyBlocks [encoding.compress amount.commitment, encoding.compress amount.source,
    encoding.compress amount.dest, encoding.compress amount.auditor], length_copyBlocks _⟩

/-- Modelled from the spec: `TransferAmountEncryption::from_bytes` on its 128-byte pod. -/
def TransferAmountEncryption.ofArray (bytes : List UInt8) :
    Except ProofError (TransferAmountEncryption Point) := do
  let commitment ← decodeBlock encoding bytes 0
  let source ← decodeBlock encoding bytes 1
  let dest ← decodeBlock encoding bytes 2
  let auditor ← decodeBlock encoding bytes 3
  pure ⟨commitment, source, dest, auditor⟩

theorem TransferAmountEncryption.ofArray_toBytes {encoding : PointEncoding Point}
    (roundTrip : encoding.RoundTrip) (amount : TransferAmountEncryption Point) :
    TransferAmountEncryption.ofArray encoding (amount.toBytes encoding).toList = .ok amount := by
  rw [PointEncoding.RoundTrip] at roundTrip
  simp (disch := simp) only [ofArray, toBytes, Mathlib.Vector.toList_mk, copyBlocks_eq_flatten,
    List.map_cons, List.map_nil, List.flatten_cons, List.flatten_nil, List.append_nil, decodeBlock,
    slice_append_of_length_le, slice_append_left, slice_of_length, Mathlib.Vector.toList_length,
    Nat.reduceMul, Nat.reduceSub, roundTrip, okOr_some, ok_bind]
  rfl

theorem TransferAmountEncryption.ofArray_eq_ok {encoding : PointEncoding Point}
    (exact : encoding.Exact) (bytes : List UInt8) (amount : TransferAmountEncryption Point)
    (length : bytes.length = 128) :
    TransferAmountEncryption.ofArray encoding bytes = .ok amount ↔
      bytes = (amount.toBytes encoding).toList := by
  refine ⟨fun decoded => ?_, fun encoded => encoded ▸ ofArray_toBytes exact.roundTrip amount⟩
  simp only [ofArray, bind_eq_ok] at decoded
  obtain ⟨commitment, commitmentDecoded, source, sourceDecoded, dest, destDecoded, auditor,
    auditorDecoded, built⟩ := decoded
  cases built
  exact eq_copyBlocks_of_decoded exact [commitment, source, dest, auditor] length fun
    | 0, _ => commitmentDecoded
    | 1, _ => sourceDecoded
    | 2, _ => destDecoded
    | 3, _ => auditorDecoded

/-- Modelled from the spec: the 64-byte `pod::ElGamalCiphertext`, commitment then handle. -/
def ElGamalCiphertext.toBytes (ciphertext : ElGamalCiphertext Point) : Bytes 64 :=
  ⟨copyBlocks [encoding.compress ciphertext.commitment, encoding.compress ciphertext.handle],
    length_copyBlocks _⟩

/-- Modelled from the spec: `ElGamalCiphertext::from_bytes` on its 64-byte pod. -/
def ElGamalCiphertext.ofArray (bytes : List UInt8) :
    Except ProofError (ElGamalCiphertext Point) := do
  let commitment ← decodeBlock encoding bytes 0
  let handle ← decodeBlock encoding bytes 1
  pure ⟨commitment, handle⟩

theorem ElGamalCiphertext.ofArray_toBytes {encoding : PointEncoding Point}
    (roundTrip : encoding.RoundTrip) (ciphertext : ElGamalCiphertext Point) :
    ElGamalCiphertext.ofArray encoding (ciphertext.toBytes encoding).toList = .ok ciphertext := by
  rw [PointEncoding.RoundTrip] at roundTrip
  simp (disch := simp) only [ofArray, toBytes, Mathlib.Vector.toList_mk, copyBlocks_eq_flatten,
    List.map_cons, List.map_nil, List.flatten_cons, List.flatten_nil, List.append_nil, decodeBlock,
    slice_append_of_length_le, slice_append_left, slice_of_length, Mathlib.Vector.toList_length,
    Nat.reduceMul, Nat.reduceSub, roundTrip, okOr_some, ok_bind]
  rfl

theorem ElGamalCiphertext.ofArray_eq_ok {encoding : PointEncoding Point} (exact : encoding.Exact)
    (bytes : List UInt8) (ciphertext : ElGamalCiphertext Point) (length : bytes.length = 64) :
    ElGamalCiphertext.ofArray encoding bytes = .ok ciphertext ↔
      bytes = (ciphertext.toBytes encoding).toList := by
  refine ⟨fun decoded => ?_, fun encoded => encoded ▸ ofArray_toBytes exact.roundTrip ciphertext⟩
  simp only [ofArray, bind_eq_ok] at decoded
  obtain ⟨commitment, commitmentDecoded, handle, handleDecoded, built⟩ := decoded
  cases built
  exact eq_copyBlocks_of_decoded exact [commitment, handle] length fun
    | 0, _ => commitmentDecoded
    | 1, _ => handleDecoded

/-- Modelled from the spec: `PedersenCommitment::from_bytes` on its 32-byte pod. -/
def decodeCommitment (bytes : Bytes 32) : Except ProofError Point :=
  decodeBlock encoding bytes.toList 0

theorem decodeCommitment_compress {encoding : PointEncoding Point} (roundTrip : encoding.RoundTrip)
    (point : Point) : decodeCommitment encoding (encoding.compress point) = .ok point := by
  rw [decodeCommitment, decodeBlock, Nat.mul_zero, slice_of_length (by simp), roundTrip, okOr_some]

theorem decodeCommitment_eq_ok {encoding : PointEncoding Point} (exact : encoding.Exact)
    {bytes : Bytes 32} {point : Point} :
    decodeCommitment encoding bytes = .ok point ↔ bytes = encoding.compress point := by
  rw [decodeCommitment, decodeBlock_eq_ok exact, Nat.mul_zero, slice_of_length bytes.toList_length]
  exact ⟨Mathlib.Vector.eq _ _, congrArg Mathlib.Vector.toList⟩

/-! ## Fee parameters -/

/-- `FeeParameters`. -/
structure FeeParameters where
  feeRateBasisPoints : UInt16
  maximumFee : UInt64
  deriving DecidableEq, Repr

/-- The array `FeeParameters::to_bytes` fills: the rate's two little-endian bytes, then the
maximum fee's eight. -/
def FeeParameters.layout (parameters : FeeParameters) : List UInt8 :=
  copyFromSlice (copyFromSlice (zeroes 10) 0 (u16ToLeBytes parameters.feeRateBasisPoints)) 2
    (u64ToLeBytes parameters.maximumFee)

theorem FeeParameters.layout_eq (parameters : FeeParameters) :
    parameters.layout =
      u16ToLeBytes parameters.feeRateBasisPoints ++ u64ToLeBytes parameters.maximumFee := by
  have rate := copyFromSlice_zeroes [] (u16ToLeBytes parameters.feeRateBasisPoints) 10
  have maximum := copyFromSlice_zeroes (u16ToLeBytes parameters.feeRateBasisPoints)
    (u64ToLeBytes parameters.maximumFee) 8
  simp only [List.nil_append, List.length_nil, length_u16ToLeBytes, length_u64ToLeBytes]
    at rate maximum
  rw [layout, rate, maximum]
  simp [zeroes]

/-- `FeeParameters::to_bytes`. -/
def FeeParameters.toBytes (parameters : FeeParameters) : Bytes 10 :=
  ⟨parameters.layout, by simp [layout_eq]⟩

/-- `FeeParameters::from_bytes` past its `array_ref!`: the rate from bytes `0..2`, the maximum
fee from bytes `2..10`, both little-endian. -/
def FeeParameters.ofArray (bytes : List UInt8) : FeeParameters :=
  ⟨u16FromLeBytes (slice bytes 0 2), u64FromLeBytes (slice bytes 2 8)⟩

/-- `FeeParameters::from_bytes`. -/
def FeeParameters.fromBytes (bytes : List UInt8) : Option FeeParameters :=
  (arrayRef bytes 0 10).map FeeParameters.ofArray

theorem FeeParameters.ofArray_toBytes (parameters : FeeParameters) :
    FeeParameters.ofArray parameters.toBytes.toList = parameters := by
  rw [toBytes, Mathlib.Vector.toList_mk, layout_eq, ofArray]
  simp (disch := simp) only [slice_append_left, slice_append_of_length_le, length_u16ToLeBytes,
    Nat.sub_self, slice_of_length, u16FromLeBytes_u16ToLeBytes, u64FromLeBytes_u64ToLeBytes]

theorem FeeParameters.fromBytes_toBytes (parameters : FeeParameters) :
    FeeParameters.fromBytes parameters.toBytes.toList = some parameters := by
  rw [fromBytes, arrayRef_of_length (by simp), Option.map_some', ofArray_toBytes]

theorem FeeParameters.toBytes_fromBytes (bytes : Bytes 10) :
    (FeeParameters.fromBytes bytes.toList).map FeeParameters.toBytes = some bytes := by
  have length : bytes.toList.length = 10 := by simp
  have rateBytes : (slice bytes.toList 0 2).length = 2 := by simp [slice, length]
  have maximumBytes : (slice bytes.toList 2 8).length = 8 := by simp [slice, length]
  have halves : slice bytes.toList 0 2 ++ slice bytes.toList 2 8 = bytes.toList := by
    have first := slice_append_drop bytes.toList 0 2
    have second := slice_append_drop bytes.toList 2 8
    rw [List.drop_eq_nil_of_le (by omega), List.append_nil] at second
    rw [second, first, List.drop_zero]
  rw [fromBytes, arrayRef_of_length length, Option.map_some', Option.map_some']
  congr 1
  apply Mathlib.Vector.eq
  rw [toBytes, Mathlib.Vector.toList_mk, layout_eq, ofArray, u16ToLeBytes_u16FromLeBytes rateBytes,
    u64ToLeBytes_u64FromLeBytes maximumBytes, halves]

/-- `to_bytes` and `from_bytes` of `FeeParameters` are inverse bijections with 10-byte arrays,
the little-endian rate then maximum fee. -/
theorem feeParameters_codec_bijective :
    (∀ parameters : FeeParameters,
      FeeParameters.fromBytes parameters.toBytes.toList = some parameters) ∧
    (∀ bytes : Bytes 10,
      (FeeParameters.fromBytes bytes.toList).map FeeParameters.toBytes = some bytes) ∧
    (∀ parameters : FeeParameters, parameters.toBytes.toList =
      u16ToLeBytes parameters.feeRateBasisPoints ++ u64ToLeBytes parameters.maximumFee) :=
  ⟨FeeParameters.fromBytes_toBytes, FeeParameters.toBytes_fromBytes, FeeParameters.layout_eq⟩

/-! ## Decoding slices of any length -/

/-- `TransferWithFeePubkeys::from_bytes` and `FeeEncryption::from_bytes` behave as `DecodesWindow`
on 128 and 96 bytes, and `pod::TransferWithFeePubkeys::new` lays keys out as `to_bytes` does. -/
theorem fixedLayout_fromBytes_windows {encoding : PointEncoding Point} (exact : encoding.Exact) :
    DecodesWindow 128 (fun pubkeys => (pubkeys.toBytes encoding).toList)
      (TransferWithFeePubkeys.fromBytes encoding) ∧
    DecodesWindow 96 (fun fee => (fee.toBytes encoding).toList) (FeeEncryption.fromBytes encoding) ∧
    ∀ source dest auditor feeCollector : Point,
      podTransferWithFeePubkeysNew encoding source dest auditor feeCollector =
        TransferWithFeePubkeys.toBytes encoding ⟨source, dest, auditor, feeCollector⟩ :=
  ⟨TransferWithFeePubkeys.fromBytes_decodesWindow exact,
    FeeEncryption.fromBytes_decodesWindow exact, fun _ _ _ _ => rfl⟩

/-- The encoding in which every 32-byte array encodes a group element, `Bytes 32` itself. -/
def bytesEncoding : PointEncoding (Bytes 32) where
  compress := id
  decompress bytes := if length : bytes.length = 32 then some ⟨bytes, length⟩ else none

theorem bytesEncoding_exact : bytesEncoding.Exact := by
  intro bytes point
  by_cases length : bytes.length = 32
  · simp only [bytesEncoding, length, dite_true, Option.some.injEq, id]
    exact ⟨fun built => built ▸ rfl, fun listed => Mathlib.Vector.eq _ _ listed⟩
  · simp only [bytesEncoding, length, dite_false, reduceCtorEq, false_iff]
    rintro rfl
    exact length (by simp)

theorem fixedLayout_fromBytes_windows_bytesEncoding :
    bytesEncoding.Exact ∧
    (DecodesWindow 128 (fun pubkeys => (pubkeys.toBytes bytesEncoding).toList)
      (TransferWithFeePubkeys.fromBytes bytesEncoding) ∧
    DecodesWindow 96 (fun fee => (fee.toBytes bytesEncoding).toList)
      (FeeEncryption.fromBytes bytesEncoding) ∧
    ∀ source dest auditor feeCollector : Bytes 32,
      podTransferWithFeePubkeysNew bytesEncoding source dest auditor feeCollector =
        TransferWithFeePubkeys.toBytes bytesEncoding ⟨source, dest, auditor, feeCollector⟩) :=
  ⟨bytesEncoding_exact, fixedLayout_fromBytes_windows bytesEncoding_exact⟩

/-- A zeroed 32-byte array. -/
def zeroBlock : Bytes 32 := ⟨zeroes 32, rfl⟩

/-- `TransferWithFeePubkeys::from_bytes` panics on the empty slice, and accepts 129 zero bytes,
which are not the encoding of any key array. -/
theorem pubkeys_fromBytes_panics_or_ignores_tail :
    TransferWithFeePubkeys.fromBytes bytesEncoding [] = none ∧
    TransferWithFeePubkeys.fromBytes bytesEncoding (zeroes 129) =
      some (.ok ⟨zeroBlock, zeroBlock, zeroBlock, zeroBlock⟩) ∧
    ∀ pubkeys : TransferWithFeePubkeys (Bytes 32),
      zeroes 129 ≠ (pubkeys.toBytes bytesEncoding).toList := by
  have zeroKeys : zeroes 128 = (TransferWithFeePubkeys.toBytes bytesEncoding
      ⟨zeroBlock, zeroBlock, zeroBlock, zeroBlock⟩).toList := by
    simp [TransferWithFeePubkeys.toBytes, copyBlocks_eq_flatten, zeroBlock, zeroes, bytesEncoding]
  have window : arrayRef (zeroes 129) 0 128 = some (zeroes 128) := by
    simp [arrayRef, slice, zeroes, List.take_replicate]
  refine ⟨rfl, ?_, fun pubkeys encoded => ?_⟩
  · rw [TransferWithFeePubkeys.fromBytes, window, Option.map_some', zeroKeys,
      TransferWithFeePubkeys.ofArray_toBytes bytesEncoding_exact.roundTrip]
  · have := congrArg List.length encoded
    simp [zeroes] at this

end TransferWithFee
