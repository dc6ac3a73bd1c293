import CustomModels.Shared.Version

/-!
# Asset descriptions

`assets.hpp` and `assets.cpp`. A `std::string` is the list of its bytes; the character classes are those
of the C locale.
-/

namespace CustomModels.Shared

abbrev ByteString := List UInt8

def kSha256Size : Nat := 32
def kMaximumAssetsPerManifest : Nat := 256
def kMaximumLogicalNameLength : Nat := 96
def kMaximumUrlLength : Nat := 2048
def kMaximumIndividualFileSize : UInt64 := 64 * 1024 * 1024
def kMaximumTotalDownloadSize : UInt64 := 512 * 1024 * 1024
def kMaximumManifestBytes : Nat := 1024 * 1024

/-- `std::array<std::uint8_t, kSha256Size>`. -/
structure Sha256Digest where
  bytes : List UInt8
  size : bytes.length = kSha256Size
  deriving DecidableEq

/-- `enum class AssetType : std::uint16_t`. -/
structure AssetType where
  value : UInt16
  deriving DecidableEq

namespace AssetType

def dff : AssetType := ⟨1⟩
def txd : AssetType := ⟨2⟩

end AssetType

structure AssetDescription where
  assetId : UInt32
  type : AssetType
  logicalName : ByteString
  downloadUrl : ByteString
  fileSize : UInt64
  sha256 : Sha256Digest
  deriving DecidableEq

structure Manifest where
  revision : UInt64
  assets : List AssetDescription
  totalDownloadSize : UInt64
  deriving DecidableEq

/-! ## Character classes and searches of the standard library -/

def isAlnum (value : UInt8) : Bool :=
  (48 ≤ value && value ≤ 57) || (65 ≤ value && value ≤ 90) || (97 ≤ value && value ≤ 122)

def toLower (value : UInt8) : UInt8 :=
  if 65 ≤ value && value ≤ 90 then value + 32 else value

/-- `find(char, offset)`, `none` for `npos`. -/
def findByte (text : ByteString) (value : UInt8) (offset : Nat) : Option Nat :=
  ((text.drop offset).findIdx? (· == value)).map (offset + ·)

/-- `find(string)` from the start. -/
def findText (text needle : ByteString) : Option Nat :=
  (List.range (text.length + 1)).find? fun index => needle.isPrefixOf (text.drop index)

/-- `find_first_of(set, offset)`. -/
def findFirstOf (text set : ByteString) (offset : Nat) : Option Nat :=
  ((text.drop offset).findIdx? (set.contains ·)).map (offset + ·)

def substr (text : ByteString) (offset length : Nat) : ByteString := (text.drop offset).take length

/-! ## Names and URLs -/

def slash : UInt8 := 47
def dot : UInt8 := 46

def isAsciiIdentifierByte (value : UInt8) : Bool :=
  isAlnum value || value == 95 || value == 45 || value == dot || value == slash

/-- The loop of `HasInvalidPathSegment` from `offset` on, `none` if it does not end with the fuel. -/
def hasInvalidPathSegmentFrom (name : ByteString) : (fuel offset : Nat) → Option Bool
  | 0, _ => none
  | fuel + 1, offset =>
      if offset ≤ name.length then
        let separator := findByte name slash offset
        let length := match separator with
          | none => name.length - offset
          | some index => index - offset
        let segment := substr name offset length
        if segment.isEmpty || segment == [dot] || segment == [dot, dot] then some true
        else match separator with
          | none => some false
          | some index => hasInvalidPathSegmentFrom name fuel (index + 1)
      else some false

/-- The offset grows with every turn and the loop ends past the last byte, so the fuel suffices. -/
def hasInvalidPathSegment (name : ByteString) : Bool :=
  (hasInvalidPathSegmentFrom name (name.length + 1) 0).getD false

def startsWithCaseInsensitive (value pre : ByteString) : Bool :=
  pre.length ≤ value.length && (value.take pre.length).map toLower == pre.map toLower

/-- `http://` -/
def httpPrefix : ByteString := [104, 116, 116, 112, 58, 47, 47]
/-- `https://` -/
def httpsPrefix : ByteString := [104, 116, 116, 112, 115, 58, 47, 47]
/-- `://` -/
def schemeSeparator : ByteString := [58, 47, 47]
/-- `/?#` -/
def authorityEnds : ByteString := [47, 63, 35]

def isAssetTypeValid (type : AssetType) : Bool := type == .dff || type == .txd

def isLogicalNameValid (name : ByteString) : Bool :=
  if name.isEmpty || kMaximumLogicalNameLength < name.length ||
      name.head? == some slash || name.getLast? == some slash then false
  else name.all isAsciiIdentifierByte && !hasInvalidPathSegment name

def isDownloadUrlValid (url : ByteString) : Bool :=
  if url.isEmpty || kMaximumUrlLength < url.length then false
  else if !startsWithCaseInsensitive url httpPrefix && !startsWithCaseInsensitive url httpsPrefix then false
  else match findText url schemeSeparator with
    | none => false
    | some schemeEnd =>
        let authorityStart := schemeEnd + 3
        let authority := match findFirstOf url authorityEnds authorityStart with
          | none => substr url authorityStart (url.length - authorityStart)
          | some authorityEnd => substr url authorityStart (authorityEnd - authorityStart)
        -- 64 is '@', 92 is '\' and 35 is '#'
        if authority.isEmpty || authority.contains 64 || url.contains 92 || url.contains 35 then false
        else url.all fun byte => 0x21 ≤ byte && byte ≤ 0x7E

def isAssetDescriptionValid (asset : AssetDescription) : Bool :=
  asset.assetId != 0 && isAssetTypeValid asset.type && isLogicalNameValid asset.logicalName &&
    isDownloadUrlValid asset.downloadUrl && asset.fileSize != 0 &&
    asset.fileSize ≤ kMaximumIndividualFileSize

/-- `std::numeric_limits<std::size_t>::max()` of the 32-bit client. -/
def sizeMaximum : Nat := 0xFFFFFFFF

/-- Revision, index, id, type, two string lengths, file size and digest. -/
def serializedFixedBytes : Nat := 8 + 4 + 4 + 2 + 2 + 2 + 8 + kSha256Size

def serializedAssetBytes (asset : AssetDescription) : Nat :=
  if sizeMaximum - serializedFixedBytes < asset.logicalName.length ||
      sizeMaximum - serializedFixedBytes - asset.logicalName.length < asset.downloadUrl.length then
    sizeMaximum
  else serializedFixedBytes + asset.logicalName.length + asset.downloadUrl.length

/-- `.dff`, `.txd`, and nothing for a type that no enumerator names. -/
def extensionFor (type : AssetType) : ByteString :=
  if type = .dff then [46, 100, 102, 102]
  else if type = .txd then [46, 116, 120, 100]
  else []

end CustomModels.Shared
