import CustomModels.Lib.Search
import CustomModels.Server.Contents

/-!
# The grammar of the manifest configuration

What a line of the configuration is documented to be, apart from the streams that read it, and the other spellings
that the streams take for the same.
-/

namespace CustomModels.Server
open CustomModels.Shared

/-- The maximal runs of bytes that are not white space. -/
def fieldsOf (line : ByteString) : List ByteString := Lib.fieldsOnP isSpace line

/-- The spelling of an asset type. -/
def typeName (type : AssetType) : ByteString :=
  if type = .dff then dffName else if type = .txd then txdName else []

/-! ## Numbers -/

/-- One or more decimal digits, and the value that they denote. -/
def Digits (values : Nat) (number : ByteString) (value : Nat) : Prop :=
  number ≠ [] ∧ (∀ byte ∈ number, isDigit byte = true) ∧ decimalValue number = value ∧ value < values

/-- A sign in front of digits. The minus sign negates modulo the number of values. -/
inductive Signed (values : Nat) : ByteString → Nat → Prop where
  | plus {digits : ByteString} {value : Nat} (h : Digits values digits value) : Signed values (43 :: digits) value
  | minus {digits : ByteString} {value : Nat} (h : Digits values digits value) :
      Signed values (45 :: digits) ((values - value) % values)

/-! ## A number and the word behind it -/

/-- As documented, they are two fields, and the number has digits only. -/
def Separate (values value : Nat) (word : ByteString) (fields : List ByteString) : Prop :=
  ∃ number, Digits values number value ∧ fields = [number, word]

/-- The number has a sign, or the word follows it without white space and does not start with a digit. -/
inductive Irregular (values value : Nat) (word : ByteString) : List ByteString → Prop where
  | signed {number : ByteString} (h : Signed values number value) : Irregular values value word [number, word]
  | joined {number : ByteString} {first : UInt8} (h : Digits values number value ∨ Signed values number value)
      (hfirst : word.head? = some first) (hdigit : isDigit first = false) :
      Irregular values value word [number ++ word]

/-! ## Lines -/

/-- A line as documented: six fields that denote the asset. -/
def Documented (line : ByteString) (asset : AssetDescription) : Prop :=
  isAssetDescriptionValid asset = true ∧ ∃ assetId fileSize,
    fieldsOf line = [assetId, typeName asset.type, asset.logicalName, asset.downloadUrl, fileSize,
      sha256Hex asset.sha256] ∧
    Digits UInt32.size assetId asset.assetId.toNat ∧ Digits UInt64.size fileSize asset.fileSize.toNat

/-- A line that denotes the asset, but with an irregular id and type or an irregular size and digest. -/
def Deviating (line : ByteString) (asset : AssetDescription) : Prop :=
  isAssetDescriptionValid asset = true ∧ ∃ front back,
    fieldsOf line = front ++ [asset.logicalName, asset.downloadUrl] ++ back ∧
    (Irregular UInt32.size asset.assetId.toNat (typeName asset.type) front ∧
        (Separate UInt64.size asset.fileSize.toNat (sha256Hex asset.sha256) back ∨
          Irregular UInt64.size asset.fileSize.toNat (sha256Hex asset.sha256) back) ∨
      Separate UInt32.size asset.assetId.toNat (typeName asset.type) front ∧
        Irregular UInt64.size asset.fileSize.toNat (sha256Hex asset.sha256) back)

/-- The line yields the asset, and it is valid. -/
def Yields (line : ByteString) (asset : AssetDescription) : Prop :=
  parseLine (trim line) = .ok asset ∧ isAssetDescriptionValid asset = true

/-- A line of a file, behind as many others, is taken exactly if it is as documented: then the registry has the asset
once the file is loaded, and otherwise the load fails with the number of the line. -/
structure ReadAsDocumented (file : ConfigFile) (registry : AssetRegistry) (others : Nat) (line : ByteString) :
    Prop where
  yields : ∀ asset, Yields line asset ↔ Documented line asset
  registered : ∀ asset, Documented line asset → (loadManifestConfig file registry).1.error = "" →
    asset ∈ (loadManifestConfig file registry).2.contents
  refused : (∀ asset, ¬ Documented line asset) →
    (loadManifestConfig file registry).1.errorLine = others + 1 ∧
      (loadManifestConfig file registry).1.error ≠ "" ∧ (loadManifestConfig file registry).2 = registry

end CustomModels.Server
