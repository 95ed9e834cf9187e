import TransferWithFee.Bytes

/-!
# Fiat-Shamir transcripts

A merlin transcript is a hash state whose challenges are a deterministic function of the
operations applied to it, so it is modelled as that sequence of operations: labelled messages
appended, and challenges drawn. Two parties that apply the same operations derive the same
challenges.
-/

namespace TransferWithFee

/-- One operation applied to a merlin transcript. -/
inductive TranscriptOp
  | appendMessage (label : String) (message : List UInt8)
  | challenge (label : String)
  deriving DecidableEq

/-- A merlin `Transcript`: the operations applied to it since `Transcript::new`. -/
@[ext] structure Transcript where
  ops : List TranscriptOp
  deriving DecidableEq

/-- `Transcript::new(label)`, which appends the label under `dom-sep`. -/
def Transcript.new (label : String) : Transcript :=
  ⟨[.appendMessage "dom-sep" label.toUTF8.toList]⟩

/-- `Transcript::append_message`. -/
def Transcript.appendMessage (transcript : Transcript) (label : String) (message : List UInt8) :
    Transcript :=
  ⟨transcript.ops ++ [.appendMessage label message]⟩

/-- Modelled from the spec: `TranscriptProtocol::append_commitment`, the commitment's 32 bytes as
a message. -/
def Transcript.appendCommitment (transcript : Transcript) (label : String) (commitment : Bytes 32) :
    Transcript :=
  transcript.appendMessage label commitment.toList

/-- The transcript after a sub-proof has appended its messages and drawn its challenges. -/
def Transcript.extend (transcript : Transcript) (ops : List TranscriptOp) : Transcript :=
  ⟨transcript.ops ++ ops⟩

@[simp] theorem Transcript.appendMessage_ops (transcript : Transcript) (label : String)
    (message : List UInt8) :
    (transcript.appendMessage label message).ops =
      transcript.ops ++ [.appendMessage label message] :=
  rfl

@[simp] theorem Transcript.appendCommitment_ops (transcript : Transcript) (label : String)
    (commitment : Bytes 32) :
    (transcript.appendCommitment label commitment).ops =
      transcript.ops ++ [.appendMessage label commitment.toList] :=
  rfl

@[simp] theorem Transcript.extend_ops (transcript : Transcript) (ops : List TranscriptOp) :
    (transcript.extend ops).ops = transcript.ops ++ ops :=
  rfl

end TransferWithFee
