import CustomModels.Lib.BigEndian
import CustomModels.Lib.Wire
import CustomModels.Shared.Assets

/-!
# The protocol serializer

`protocol.hpp` and `protocol.cpp`. A `ByteView` is the list of the bytes it covers. The null view is the
empty list: wherever the source tests for null, the size test beside it fails for the empty list too.
-/

namespace CustomModels.Shared
open CustomModels.Lib

def kMagic : UInt32 := 0x434D4F44
def kProtocolVersion : UInt16 := 1
def kHeaderSize : Nat := 12
def kMaximumPacketSize : Nat := 4096
def kMaximumPayloadSize : Nat := kMaximumPacketSize - kHeaderSize

/-! ## Messages -/

inductive MessageType where
  | hello
  | welcome
  | reject
  | ping
  | pong
  | manifestBegin
  | manifestAsset
  | manifestEnd
  | assetReady
  | assetError
  deriving DecidableEq

namespace MessageType

/-- The underlying value of the enumerator. -/
def value : MessageType → UInt16
  | hello => 1
  | welcome => 2
  | reject => 3
  | ping => 4
  | pong => 5
  | manifestBegin => 6
  | manifestAsset => 7
  | manifestEnd => 8
  | assetReady => 9
  | assetError => 10

/-- `IsKnownMessageType` and the cast that follows it. -/
def ofValue? (value : UInt16) : Option MessageType :=
  match value.toNat with
  | 1 => some hello
  | 2 => some welcome
  | 3 => some reject
  | 4 => some ping
  | 5 => some pong
  | 6 => some manifestBegin
  | 7 => some manifestAsset
  | 8 => some manifestEnd
  | 9 => some assetReady
  | 10 => some assetError
  | _ => none

end MessageType

abbrev CapabilityFlags := UInt32

def capabilityCharModel : CapabilityFlags := (1 : UInt32) <<< (0 : UInt32)
def capabilityObjectModel : CapabilityFlags := (1 : UInt32) <<< (1 : UInt32)
def capabilityDff : CapabilityFlags := (1 : UInt32) <<< (2 : UInt32)
def capabilityTxd : CapabilityFlags := (1 : UInt32) <<< (3 : UInt32)
def capabilitySha256Cache : CapabilityFlags := (1 : UInt32) <<< (4 : UInt32)

def kDeclaredCapabilities : CapabilityFlags :=
  capabilityCharModel ||| capabilityObjectModel ||| capabilityDff ||| capabilityTxd |||
    capabilitySha256Cache

/-- `enum class RejectReason : std::uint16_t`. -/
structure RejectReason where
  value : UInt16
  deriving DecidableEq

namespace RejectReason

def unsupportedProtocol : RejectReason := ⟨1⟩
def unsupportedClientRuntime : RejectReason := ⟨2⟩
def unsupportedSampBuild : RejectReason := ⟨3⟩
def malformedHandshake : RejectReason := ⟨4⟩
def unsupportedCapabilities : RejectReason := ⟨5⟩

end RejectReason

/-- `enum class AssetErrorReason : std::uint16_t`. -/
structure AssetErrorReason where
  value : UInt16
  deriving DecidableEq

namespace AssetErrorReason

def invalidManifest : AssetErrorReason := ⟨1⟩
def unsupportedScheme : AssetErrorReason := ⟨2⟩
def networkFailure : AssetErrorReason := ⟨3⟩
def timeout : AssetErrorReason := ⟨4⟩
def sizeMismatch : AssetErrorReason := ⟨5⟩
def hashMismatch : AssetErrorReason := ⟨6⟩
def diskFailure : AssetErrorReason := ⟨7⟩
def internalError : AssetErrorReason := ⟨8⟩

end AssetErrorReason

structure Hello where
  runtimeVersion : RuntimeVersion
  protocolVersion : UInt16
  sampVersion : SampVersion
  capabilities : CapabilityFlags
  deriving DecidableEq

structure Welcome where
  acceptedProtocolVersion : UInt16
  serverRuntimeVersion : RuntimeVersion
  serverProtocolVersion : UInt16
  negotiatedCapabilities : CapabilityFlags
  deriving DecidableEq

structure Reject where
  reason : RejectReason
  deriving DecidableEq

structure Ping where
  nonce : UInt64
  deriving DecidableEq

structure Pong where
  nonce : UInt64
  deriving DecidableEq

structure ManifestBegin where
  manifestRevision : UInt64
  assetCount : UInt32
  totalDownloadSize : UInt64
  deriving DecidableEq

structure ManifestAsset where
  manifestRevision : UInt64
  assetIndex : UInt32
  asset : AssetDescription
  deriving DecidableEq

structure ManifestEnd where
  manifestRevision : UInt64
  assetCount : UInt32
  totalDownloadSize : UInt64
  deriving DecidableEq

structure AssetReady where
  manifestRevision : UInt64
  assetId : UInt32
  deriving DecidableEq

structure AssetError where
  manifestRevision : UInt64
  assetId : UInt32
  reason : AssetErrorReason
  deriving DecidableEq

inductive Message where
  | hello (value : Hello)
  | welcome (value : Welcome)
  | reject (value : Reject)
  | ping (value : Ping)
  | pong (value : Pong)
  | manifestBegin (value : ManifestBegin)
  | manifestAsset (value : ManifestAsset)
  | manifestEnd (value : ManifestEnd)
  | assetReady (value : AssetReady)
  | assetError (value : AssetError)
  deriving DecidableEq

structure Packet where
  protocolVersion : UInt16
  message : Message
  deriving DecidableEq

inductive EncodeError where
  | invalidField
  | oversizedPayload
  deriving DecidableEq

inductive DecodeError where
  | truncatedHeader
  | invalidMagic
  | unsupportedProtocolVersion
  | oversizedPayload
  | truncatedPayload
  | payloadLengthMismatch
  | unknownMessageType
  | invalidField
  deriving DecidableEq

/-! ## `ByteWriter` -/

abbrev ByteWriter := Buffer kMaximumPacketSize

namespace ByteWriter

def writeByte (value : UInt8) (writer : ByteWriter) : Option ByteWriter :=
  if h : writer.bytes.length = kMaximumPacketSize then none
  else some ⟨writer.bytes ++ [value], by
    have := writer.bounded
    rw [List.length_append, List.length_singleton]
    omega⟩

def writeU8 (value : UInt8) (writer : ByteWriter) : Option ByteWriter := writer.writeByte value

def writeU16 (value : UInt16) (writer : ByteWriter) : Option ByteWriter :=
  writer.writeByte (value >>> 8).toUInt8 >>= writeByte value.toUInt8

def writeU32 (value : UInt32) (writer : ByteWriter) : Option ByteWriter :=
  writer.writeByte (value >>> 24).toUInt8 >>= writeByte (value >>> 16).toUInt8 >>=
    writeByte (value >>> 8).toUInt8 >>= writeByte value.toUInt8

def writeU64 (value : UInt64) (writer : ByteWriter) : Option ByteWriter :=
  writer.writeU32 (value >>> 32).toUInt32 >>= writeU32 value.toUInt32

def writeBytes (data : List UInt8) (writer : ByteWriter) : Option ByteWriter :=
  if h : kMaximumPacketSize - writer.bytes.length < data.length then none
  else some ⟨writer.bytes ++ data, by
    have := writer.bounded
    rw [List.length_append]
    omega⟩

def writeString (value : ByteString) (writer : ByteWriter) : Option ByteWriter :=
  if value.length ≤ 65535 then
    writer.writeU16 (UInt16.ofNat value.length) >>= writeBytes value
  else none

end ByteWriter

/-! ## `ByteReader` -/

/-- The bytes between the offset of the reader and the end of its view. -/
abbrev ByteReader := List UInt8

abbrev remaining (reader : ByteReader) : Nat := reader.length

def readByte : Reader UInt8
  | [] => none
  | byte :: reader => some (byte, reader)

def readU16 : Reader UInt16 := do
  let high ← readByte
  let low ← readByte
  return ofBe16 high low

def readU32 : Reader UInt32 := do
  let b0 ← readByte
  let b1 ← readByte
  let b2 ← readByte
  let b3 ← readByte
  return ofBe32 b0 b1 b2 b3

def readU64 : Reader UInt64 := do
  let high ← readU32
  let low ← readU32
  return ofBe64 high low

/-- `ReadBytes` into an array of `size` bytes. -/
def readBytes (size : Nat) : Reader { bytes : ByteString // bytes.length = size } := fun reader =>
  if h : remaining reader < size then none
  else some (⟨reader.take size, by
    rw [List.length_take]
    exact Nat.min_eq_left (Nat.le_of_not_lt h)⟩, reader.drop size)

def readString (maximumLength : Nat) : Reader ByteString := do
  let length ← readU16
  fun reader =>
    if maximumLength < length.toNat || remaining reader < length.toNat then none
    else some (reader.take length.toNat, reader.drop length.toNat)

/-! ## Field checks -/

def isSampVersionValueValid (value : UInt16) : Bool := value ≤ SampVersion.r4Family.value.toUInt16

def isRejectReasonValid (value : UInt16) : Bool :=
  RejectReason.unsupportedProtocol.value ≤ value && value ≤ RejectReason.unsupportedCapabilities.value

def isAssetErrorReasonValid (value : UInt16) : Bool :=
  AssetErrorReason.invalidManifest.value ≤ value && value ≤ AssetErrorReason.internalError.value

def areCapabilitiesValid (flags : CapabilityFlags) : Bool := flags &&& ~~~kDeclaredCapabilities == 0

def isManifestBoundaryValid (revision : UInt64) (count : UInt32) (totalDownloadSize : UInt64) : Bool :=
  revision != 0 && count.toNat ≤ kMaximumAssetsPerManifest &&
    totalDownloadSize ≤ kMaximumTotalDownloadSize && (count != 0 || totalDownloadSize == 0)

/-! ## Compound fields -/

def writeRuntimeVersion (version : RuntimeVersion) (writer : ByteWriter) : Option ByteWriter :=
  writer.writeU16 version.major >>= ByteWriter.writeU16 version.minor >>=
    ByteWriter.writeU16 version.patch

def readRuntimeVersion : Reader RuntimeVersion := do
  let major ← readU16
  let minor ← readU16
  let patch ← readU16
  return ⟨major, minor, patch⟩

def writeAssetDescription (asset : AssetDescription) (writer : ByteWriter) : Option ByteWriter :=
  writer.writeU32 asset.assetId >>= ByteWriter.writeU16 asset.type.value >>=
    ByteWriter.writeString asset.logicalName >>= ByteWriter.writeString asset.downloadUrl >>=
    ByteWriter.writeU64 asset.fileSize >>= ByteWriter.writeBytes asset.sha256.bytes

/-- The reads of `ReadAssetDescription`; its field check follows them in `decodeFields`. -/
def readAssetDescription : Reader AssetDescription := do
  let assetId ← readU32
  let type ← readU16
  let logicalName ← readString kMaximumLogicalNameLength
  let downloadUrl ← readString kMaximumUrlLength
  let fileSize ← readU64
  let sha256 ← readBytes kSha256Size
  return ⟨assetId, ⟨type⟩, logicalName, downloadUrl, fileSize, ⟨sha256.val, sha256.property⟩⟩

/-! ## Payloads -/

def typeOf : Message → MessageType
  | .hello _ => .hello
  | .welcome _ => .welcome
  | .reject _ => .reject
  | .ping _ => .ping
  | .pong _ => .pong
  | .manifestBegin _ => .manifestBegin
  | .manifestAsset _ => .manifestAsset
  | .manifestEnd _ => .manifestEnd
  | .assetReady _ => .assetReady
  | .assetError _ => .assetError

/-- One branch of `EncodePayload`: the field check, then the writes. -/
def encodeFields (valid : Bool) (write : ByteWriter → Option ByteWriter) (writer : ByteWriter) :
    Except EncodeError ByteWriter :=
  if !valid then .error .invalidField
  else match write writer with
    | none => .error .oversizedPayload
    | some writer => .ok writer

def encodePayload (writer : ByteWriter) : Message → Except EncodeError ByteWriter
  | .hello value =>
      encodeFields
        (isSampVersionValueValid value.sampVersion.value.toUInt16 &&
          areCapabilitiesValid value.capabilities)
        (fun writer => writeRuntimeVersion value.runtimeVersion writer >>=
          ByteWriter.writeU16 value.protocolVersion >>=
          ByteWriter.writeU16 value.sampVersion.value.toUInt16 >>=
          ByteWriter.writeU32 value.capabilities)
        writer
  | .welcome value =>
      encodeFields (areCapabilitiesValid value.negotiatedCapabilities)
        (fun writer => writer.writeU16 value.acceptedProtocolVersion >>=
          writeRuntimeVersion value.serverRuntimeVersion >>=
          ByteWriter.writeU16 value.serverProtocolVersion >>=
          ByteWriter.writeU32 value.negotiatedCapabilities)
        writer
  | .reject value =>
      encodeFields (isRejectReasonValid value.reason.value)
        (fun writer => writer.writeU16 value.reason.value) writer
  | .ping value => encodeFields true (fun writer => writer.writeU64 value.nonce) writer
  | .pong value => encodeFields true (fun writer => writer.writeU64 value.nonce) writer
  | .manifestBegin value =>
      encodeFields
        (isManifestBoundaryValid value.manifestRevision value.assetCount value.totalDownloadSize)
        (fun writer => writer.writeU64 value.manifestRevision >>=
          ByteWriter.writeU32 value.assetCount >>= ByteWriter.writeU64 value.totalDownloadSize)
        writer
  | .manifestAsset value =>
      encodeFields
        (value.manifestRevision != 0 && value.assetIndex.toNat < kMaximumAssetsPerManifest &&
          isAssetDescriptionValid value.asset)
        (fun writer => writer.writeU64 value.manifestRevision >>=
          ByteWriter.writeU32 value.assetIndex >>= writeAssetDescription value.asset)
        writer
  | .manifestEnd value =>
      encodeFields
        (isManifestBoundaryValid value.manifestRevision value.assetCount value.totalDownloadSize)
        (fun writer => writer.writeU64 value.manifestRevision >>=
          ByteWriter.writeU32 value.assetCount >>= ByteWriter.writeU64 value.totalDownloadSize)
        writer
  | .assetReady value =>
      encodeFields (value.manifestRevision != 0 && value.assetId != 0)
        (fun writer => writer.writeU64 value.manifestRevision >>= ByteWriter.writeU32 value.assetId)
        writer
  | .assetError value =>
      encodeFields
        (value.manifestRevision != 0 && value.assetId != 0 &&
          isAssetErrorReasonValid value.reason.value)
        (fun writer => writer.writeU64 value.manifestRevision >>=
          ByteWriter.writeU32 value.assetId >>= ByteWriter.writeU16 value.reason.value)
        writer

/-- One branch of `DecodePayload`: the reads, then the field check, then the check for trailing bytes. -/
def decodeFields {α : Type} (read : Reader α) (valid : α → Bool) (message : α → Message)
    (payload : List UInt8) : Except DecodeError Message :=
  match read payload with
  | none => .error .truncatedPayload
  | some (value, reader) =>
      if !valid value then .error .invalidField
      else if remaining reader = 0 then .ok (message value)
      else .error .payloadLengthMismatch

/-- The fields of `Hello` as they are read, with the build still a 16-bit value. -/
def readHello : Reader (RuntimeVersion × UInt16 × UInt16 × CapabilityFlags) := do
  let runtimeVersion ← readRuntimeVersion
  let protocolVersion ← readU16
  let sampVersion ← readU16
  let capabilities ← readU32
  return (runtimeVersion, protocolVersion, sampVersion, capabilities)

def readWelcome : Reader Welcome := do
  let acceptedProtocolVersion ← readU16
  let serverRuntimeVersion ← readRuntimeVersion
  let serverProtocolVersion ← readU16
  let negotiatedCapabilities ← readU32
  return ⟨acceptedProtocolVersion, serverRuntimeVersion, serverProtocolVersion, negotiatedCapabilities⟩

/-- Revision, count and total of `ManifestBegin` and of `ManifestEnd`. -/
def readManifestBoundary : Reader (UInt64 × UInt32 × UInt64) := do
  let manifestRevision ← readU64
  let assetCount ← readU32
  let totalDownloadSize ← readU64
  return (manifestRevision, assetCount, totalDownloadSize)

def readManifestAsset : Reader ManifestAsset := do
  let manifestRevision ← readU64
  let assetIndex ← readU32
  let asset ← readAssetDescription
  return ⟨manifestRevision, assetIndex, asset⟩

def readAssetReady : Reader AssetReady := do
  let manifestRevision ← readU64
  let assetId ← readU32
  return ⟨manifestRevision, assetId⟩

def readAssetError : Reader AssetError := do
  let manifestRevision ← readU64
  let assetId ← readU32
  let reason ← readU16
  return ⟨manifestRevision, assetId, ⟨reason⟩⟩

def decodePayload (type : MessageType) (payload : List UInt8) : Except DecodeError Message :=
  match type with
  | .hello =>
      decodeFields readHello
        (fun (_, _, sampVersion, capabilities) =>
          isSampVersionValueValid sampVersion && areCapabilitiesValid capabilities)
        (fun (runtimeVersion, protocolVersion, sampVersion, capabilities) =>
          .hello ⟨runtimeVersion, protocolVersion, ⟨sampVersion.toUInt8⟩, capabilities⟩)
        payload
  | .welcome =>
      decodeFields readWelcome (fun value => areCapabilitiesValid value.negotiatedCapabilities)
        .welcome payload
  | .reject =>
      decodeFields readU16 isRejectReasonValid (fun reason => .reject ⟨⟨reason⟩⟩) payload
  | .ping => decodeFields readU64 (fun _ => true) (fun nonce => .ping ⟨nonce⟩) payload
  | .pong => decodeFields readU64 (fun _ => true) (fun nonce => .pong ⟨nonce⟩) payload
  | .manifestBegin =>
      decodeFields readManifestBoundary
        (fun (revision, count, total) => isManifestBoundaryValid revision count total)
        (fun (revision, count, total) => .manifestBegin ⟨revision, count, total⟩) payload
  | .manifestAsset =>
      decodeFields readManifestAsset
        (fun value => isAssetDescriptionValid value.asset && value.manifestRevision != 0 &&
          value.assetIndex.toNat < kMaximumAssetsPerManifest)
        .manifestAsset payload
  | .manifestEnd =>
      decodeFields readManifestBoundary
        (fun (revision, count, total) => isManifestBoundaryValid revision count total)
        (fun (revision, count, total) => .manifestEnd ⟨revision, count, total⟩) payload
  | .assetReady =>
      decodeFields readAssetReady (fun value => value.manifestRevision != 0 && value.assetId != 0)
        .assetReady payload
  | .assetError =>
      decodeFields readAssetError
        (fun value => value.manifestRevision != 0 && value.assetId != 0 &&
          isAssetErrorReasonValid value.reason.value)
        .assetError payload

/-! ## Packets -/

/-- The loop of `EncodePacket` that copies the payload. -/
def writePayload : (payload : List UInt8) → ByteWriter → Option ByteWriter
  | [], writer => some writer
  | byte :: payload, writer => writer.writeU8 byte >>= writePayload payload

def encodePacket (message : Message) (protocolVersion : UInt16) : Except EncodeError (List UInt8) :=
  if protocolVersion ≠ kProtocolVersion then .error .invalidField
  else do
    let payloadWriter ← encodePayload Buffer.empty message
    let payload := payloadWriter.bytes
    if kMaximumPayloadSize < payload.length || UInt32.size - 1 < payload.length then
      .error .oversizedPayload
    else
      let header : Option ByteWriter := ByteWriter.writeU32 kMagic Buffer.empty >>=
        ByteWriter.writeU16 protocolVersion >>= ByteWriter.writeU16 (typeOf message).value >>=
        ByteWriter.writeU32 (UInt32.ofNat payload.length)
      match header >>= writePayload payload with
      | none => .error .oversizedPayload
      | some packetWriter => .ok packetWriter.bytes

/-- Magic, version, message type and payload size. -/
def readHeader : Reader (UInt32 × UInt16 × UInt16 × UInt32) := do
  let magic ← readU32
  let protocolVersion ← readU16
  let messageType ← readU16
  let payloadSize ← readU32
  return (magic, protocolVersion, messageType, payloadSize)

def decodePacket (bytes : List UInt8) : Except DecodeError Packet :=
  if bytes.length < kHeaderSize then .error .truncatedHeader
  else match readHeader bytes with
    | none => .error .truncatedHeader
    | some ((magic, protocolVersion, messageType, payloadSize), reader) =>
        if magic ≠ kMagic then .error .invalidMagic
        else if protocolVersion ≠ kProtocolVersion then .error .unsupportedProtocolVersion
        else if kMaximumPayloadSize < payloadSize.toNat then .error .oversizedPayload
        else if remaining reader < payloadSize.toNat then .error .truncatedPayload
        else if payloadSize.toNat ≠ remaining reader then .error .payloadLengthMismatch
        else match MessageType.ofValue? messageType with
          | none => .error .unknownMessageType
          | some type =>
              match decodePayload type reader with
              | .error error => .error error
              | .ok message => .ok ⟨protocolVersion, message⟩

end CustomModels.Shared
