import CustomModels.Shared.ManifestStream
import CustomModels.Client.Receiver

/-!
# The metadata bytes of a manifest

What the metadata counter of the receiver stands for: the payload bytes of the messages that it has accepted.
-/

namespace CustomModels.Client
open CustomModels.Shared

/-- The bytes of the encoded packet behind its header, 0 for a message that cannot be encoded. -/
def payloadLength (message : Message) : Nat :=
  match encodePacket message kProtocolVersion with
  | .ok bytes => bytes.length - kHeaderSize
  | .error _ => 0

namespace ManifestReceiver

inductive Call where
  | handle (message : Message)
  | reset

/-- A receiver with the messages that it has accepted since the last begin message. -/
structure Account where
  receiver : ManifestReceiver
  accepted : List Message

/-- The accepted messages behind the answer to one more. -/
def noteAnswer (accepted : List Message) (message : Message) : ManifestInputResult → List Message
  | .accepted | .complete =>
      match message with
      | .manifestBegin _ => [message]
      | _ => accepted ++ [message]
  | _ => accepted

def Account.call (account : Account) : Call → Account
  | .handle message =>
      let (result, receiver) := account.receiver.handle message
      ⟨receiver, noteAnswer account.accepted message result⟩
  | .reset => ⟨account.receiver.reset, []⟩

end ManifestReceiver

end CustomModels.Client
