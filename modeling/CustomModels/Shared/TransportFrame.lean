import CustomModels.Shared.Protocol

/-!
# The transport frame

`transport_frame.hpp` and `transport_frame.cpp`: the RakNet packet id in front of a protocol packet.
-/

namespace CustomModels.Shared

def kRakNetPacketId : UInt8 := 0x5E
def kPrefixSize : Nat := 1
def kMaximumFrameSize : Nat := kPrefixSize + kMaximumPacketSize

/-- `FrameKind` and the protocol bytes that come with a claimed frame. -/
inductive InspectedFrame where
  | unrelated
  | customModel (protocolBytes : List UInt8)
  deriving DecidableEq

/-- The bytes `C`, `M`, `O`, `D`. -/
def protocolMagic : List UInt8 := [67, 77, 79, 68]

def hasProtocolMagic (bytes : List UInt8) : Bool :=
  4 ≤ bytes.length && bytes.take 4 == protocolMagic

def inspectProtocolPayload (protocolBytes : List UInt8) : InspectedFrame :=
  if !hasProtocolMagic protocolBytes then .unrelated else .customModel protocolBytes

def inspect (frame : List UInt8) : InspectedFrame :=
  if frame.length ≤ kPrefixSize || frame.head? != some kRakNetPacketId then .unrelated
  else inspectProtocolPayload (frame.drop kPrefixSize)

/-- `transport_frame::Encode`. -/
def encodeFrame (protocolBytes : List UInt8) : Option (List UInt8) :=
  if !hasProtocolMagic protocolBytes || kMaximumPacketSize < protocolBytes.length then none
  else some (kRakNetPacketId :: protocolBytes)

end CustomModels.Shared
