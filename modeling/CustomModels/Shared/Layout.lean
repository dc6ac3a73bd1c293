import CustomModels.Shared.Protocol

/-!
# The wire format of protocol version 1

What a packet is for, apart from the code that writes and reads it: the messages that version 1 can
carry, and the one byte string that stands for each of them.
-/

namespace CustomModels.Shared
open CustomModels.Lib

namespace RuntimeVersion

def layout (version : RuntimeVersion) : List UInt8 :=
  be16 version.major ++ be16 version.minor ++ be16 version.patch

end RuntimeVersion

def stringLayout (value : ByteString) : List UInt8 := be16 (UInt16.ofNat value.length) ++ value

namespace AssetDescription

def layout (asset : AssetDescription) : List UInt8 :=
  be32 asset.assetId ++ be16 asset.type.value ++ stringLayout asset.logicalName ++
    stringLayout asset.downloadUrl ++ be64 asset.fileSize ++ asset.sha256.bytes

end AssetDescription

/-- The limits of a manifest boundary: revision, asset count and total announced size. -/
def ManifestBoundary (revision : UInt64) (count : UInt32) (total : UInt64) : Prop :=
  revision ≠ 0 ∧ count.toNat ≤ 256 ∧ total.toNat ≤ 512 * 1024 * 1024 ∧ (count = 0 → total = 0)

instance (revision : UInt64) (count : UInt32) (total : UInt64) :
    Decidable (ManifestBoundary revision count total) := inferInstanceAs (Decidable (_ ∧ _))

def boundaryLayout (revision : UInt64) (count : UInt32) (total : UInt64) : List UInt8 :=
  be64 revision ++ be32 count ++ be64 total

/-- No capability bit outside those that version 1 declares. -/
def DeclaredOnly (flags : CapabilityFlags) : Prop := flags &&& ~~~kDeclaredCapabilities = 0

instance : DecidablePred DeclaredOnly := fun flags =>
  inferInstanceAs (Decidable (flags &&& ~~~kDeclaredCapabilities = 0))

namespace Message

/-- The messages that version 1 can carry. -/
def Encodable : Message → Prop
  | hello value => value.sampVersion.value.toNat ≤ 7 ∧ DeclaredOnly value.capabilities
  | welcome value => DeclaredOnly value.negotiatedCapabilities
  | reject value => 1 ≤ value.reason.value.toNat ∧ value.reason.value.toNat ≤ 5
  | ping _ => True
  | pong _ => True
  | manifestBegin value =>
      ManifestBoundary value.manifestRevision value.assetCount value.totalDownloadSize
  | manifestAsset value =>
      value.manifestRevision ≠ 0 ∧ value.assetIndex.toNat < 256 ∧
        isAssetDescriptionValid value.asset = true
  | manifestEnd value =>
      ManifestBoundary value.manifestRevision value.assetCount value.totalDownloadSize
  | assetReady value => value.manifestRevision ≠ 0 ∧ value.assetId ≠ 0
  | assetError value =>
      value.manifestRevision ≠ 0 ∧ value.assetId ≠ 0 ∧
        1 ≤ value.reason.value.toNat ∧ value.reason.value.toNat ≤ 8

instance : DecidablePred Encodable
  | hello _ => inferInstanceAs (Decidable (_ ∧ _))
  | welcome _ => inferInstanceAs (Decidable (DeclaredOnly _))
  | reject _ => inferInstanceAs (Decidable (_ ∧ _))
  | ping _ => inferInstanceAs (Decidable True)
  | pong _ => inferInstanceAs (Decidable True)
  | manifestBegin _ => inferInstanceAs (Decidable (ManifestBoundary _ _ _))
  | manifestAsset _ => inferInstanceAs (Decidable (_ ∧ _))
  | manifestEnd _ => inferInstanceAs (Decidable (ManifestBoundary _ _ _))
  | assetReady _ => inferInstanceAs (Decidable (_ ∧ _))
  | assetError _ => inferInstanceAs (Decidable (_ ∧ _))

/-- The payload bytes of a message. -/
def payload : Message → List UInt8
  | hello value =>
      value.runtimeVersion.layout ++ be16 value.protocolVersion ++
        be16 value.sampVersion.value.toUInt16 ++ be32 value.capabilities
  | welcome value =>
      be16 value.acceptedProtocolVersion ++ value.serverRuntimeVersion.layout ++
        be16 value.serverProtocolVersion ++ be32 value.negotiatedCapabilities
  | reject value => be16 value.reason.value
  | ping value => be64 value.nonce
  | pong value => be64 value.nonce
  | manifestBegin value =>
      boundaryLayout value.manifestRevision value.assetCount value.totalDownloadSize
  | manifestAsset value =>
      be64 value.manifestRevision ++ be32 value.assetIndex ++ value.asset.layout
  | manifestEnd value =>
      boundaryLayout value.manifestRevision value.assetCount value.totalDownloadSize
  | assetReady value => be64 value.manifestRevision ++ be32 value.assetId
  | assetError value =>
      be64 value.manifestRevision ++ be32 value.assetId ++ be16 value.reason.value

/-- Magic, version 1, message type, payload size, payload. -/
def packet (message : Message) : List UInt8 :=
  be32 kMagic ++ be16 kProtocolVersion ++ be16 (typeOf message).value ++
    be32 (UInt32.ofNat message.payload.length) ++ message.payload

/-- The packet behind the RakNet packet id. -/
def frame (message : Message) : List UInt8 := 0x5E :: message.packet

end Message

/-- The packet with another payload, the size of which is written into the header. -/
def withPayload (packet payload : List UInt8) : List UInt8 :=
  packet.take 8 ++ be32 (UInt32.ofNat payload.length) ++ payload

end CustomModels.Shared
