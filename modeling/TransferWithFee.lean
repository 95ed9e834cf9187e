import TransferWithFee.Bytes
import TransferWithFee.Fee
import TransferWithFee.Encryption
import TransferWithFee.Delta
import TransferWithFee.Codec
import TransferWithFee.Transcript
import TransferWithFee.SubProofs
import TransferWithFee.Proof
import TransferWithFee.Data
import TransferWithFee.ScalarModel
import TransferWithFee.Generation
import TransferWithFee.Completeness
import TransferWithFee.Soundness
import TransferWithFee.FiatShamir
