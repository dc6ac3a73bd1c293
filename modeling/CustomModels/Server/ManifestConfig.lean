import CustomModels.Shared.Sha256
import CustomModels.Server.Registry

/-!
# The manifest configuration

`LoadManifestConfig` of `manifest_config.cpp`, and the part of `std::istream` that it uses, in the C locale.
-/

namespace CustomModels.Server
open CustomModels.Shared

/-! ## Streams -/

/-- `" \t\r\n"`. -/
def trimmedBytes : ByteString := [32, 9, 13, 10]

def trim (value : ByteString) : ByteString :=
  ((value.dropWhile (trimmedBytes.contains ·)).reverse.dropWhile (trimmedBytes.contains ·)).reverse

/-- `std::isspace`. -/
def isSpace (value : UInt8) : Bool := value == 32 || (9 ≤ value && value ≤ 13)

def isDigit (value : UInt8) : Bool := 48 ≤ value && value ≤ 57

def decimalValue (digits : ByteString) : Nat :=
  digits.foldl (fun value digit => 10 * value + (digit.toNat - 48)) 0

/-- `fields >> text`, and what is left of the stream; `none` where it fails. -/
def extractWord (text : ByteString) : Option (ByteString × ByteString) :=
  let text := text.dropWhile isSpace
  if text.isEmpty then none else some (text.span (!isSpace ·))

/-- `fields >> number` for an unsigned type with so many values. A sign may stand in front of the digits, and a
minus sign negates modulo the number of values. -/
def extractUnsigned (values : Nat) (text : ByteString) : Option (Nat × ByteString) :=
  let text := text.dropWhile isSpace
  -- 45 is '-' and 43 is '+'
  let negative := text.head? == some 45
  let (digits, rest) := (if negative || text.head? == some 43 then text.tail else text).span isDigit
  if digits.isEmpty || values ≤ decimalValue digits then none
  else if negative then some ((values - decimalValue digits) % values, rest)
  else some (decimalValue digits, rest)

/-- What an `std::ifstream` makes of a file: it does not open, or it delivers these bytes and then finds the
end of the file or fails. -/
inductive ConfigFile where
  | unopened
  | opened (bytes : ByteString) (failure : Bool)

/-- The lines that `std::getline` delivers before it fails. Behind the last newline there is one more at the
end of the file, unless it is empty. -/
def getLines (bytes : ByteString) (failure : Bool) : List ByteString :=
  let pieces := bytes.splitOn 10
  pieces.dropLast ++ pieces.getLast?.toList.filter fun line => !failure && !line.isEmpty

/-! ## Lines of the configuration -/

structure ConfigFields where
  assetId : UInt32
  type : ByteString
  logicalName : ByteString
  url : ByteString
  fileSize : UInt64
  sha256 : ByteString
  deriving DecidableEq

/-- The chain of extractions, with nothing but white space behind it. -/
def extractFields (line : ByteString) : Option ConfigFields := do
  let (assetId, fields) ← extractUnsigned UInt32.size line
  let (type, fields) ← extractWord fields
  let (logicalName, fields) ← extractWord fields
  let (url, fields) ← extractWord fields
  let (fileSize, fields) ← extractUnsigned UInt64.size fields
  let (sha256, fields) ← extractWord fields
  if (extractWord fields).isSome then none
  else some ⟨UInt32.ofNat assetId, type, logicalName, url, UInt64.ofNat fileSize, sha256⟩

/-- `DFF` and `TXD`. -/
def dffName : ByteString := [68, 70, 70]
def txdName : ByteString := [84, 88, 68]

/-- The asset that a line describes, or the text of the error. -/
def parseLine (line : ByteString) : Except String AssetDescription :=
  match extractFields line with
  | none => .error "expected six whitespace-separated fields"
  | some fields =>
      match parseSha256Hex fields.sha256 with
      | none => .error "SHA-256 must contain 64 lowercase hexadecimal characters"
      | some digest =>
          if fields.type = dffName then
            .ok ⟨fields.assetId, .dff, fields.logicalName, fields.url, fields.fileSize, digest⟩
          else if fields.type = txdName then
            .ok ⟨fields.assetId, .txd, fields.logicalName, fields.url, fields.fileSize, digest⟩
          else .error "asset type must be DFF or TXD"

/-- `ToString`. -/
def RegistryResult.text : RegistryResult → String
  | added => "added"
  | removed => "removed"
  | cleared => "cleared"
  | notFound => "not found"
  | invalidAsset => "invalid asset"
  | duplicateAssetId => "duplicate asset id"
  | duplicateLogicalName => "duplicate logical name"
  | assetLimitReached => "asset limit reached"
  | totalSizeExceeded => "total size exceeded"

/-! ## `LoadManifestConfig` -/

structure ManifestConfigResult where
  loadedAssets : Nat
  errorLine : Nat
  error : String
  deriving DecidableEq

/-- Lines that are skipped: empty ones and comments. -/
def isSkipped (line : ByteString) : Bool := line.isEmpty || line.head? == some 35

/-- The loop over the lines, behind `lineNumber` others. -/
def readLines : (lineNumber : Nat) → List ByteString → AssetRegistry →
    Except ManifestConfigResult AssetRegistry
  | _, [], parsed => .ok parsed
  | lineNumber, line :: lines, parsed =>
      if isSkipped (trim line) then readLines (lineNumber + 1) lines parsed
      else match parseLine (trim line) with
        | .error error => .error ⟨0, lineNumber + 1, error⟩
        | .ok asset =>
            match parsed.registerAsset asset with
            | (.added, parsed) => readLines (lineNumber + 1) lines parsed
            | (result, _) => .error ⟨0, lineNumber + 1, result.text⟩

def loadManifestConfig (file : ConfigFile) (registry : AssetRegistry) :
    ManifestConfigResult × AssetRegistry :=
  match file with
  | .unopened => (⟨0, 0, "could not open manifest configuration"⟩, registry)
  | .opened bytes failure =>
      let lines := getLines bytes failure
      match readLines 0 lines .fresh with
      | .error result => (result, registry)
      | .ok parsed =>
          if failure then (⟨0, lines.length, "manifest configuration read failed"⟩, registry)
          else (⟨parsed.assets.entries.length, 0, ""⟩, parsed)

namespace AssetRegistry

/-! ## Histories with loads -/

inductive Operation where
  | call (call : Call)
  | loadManifestConfig (file : ConfigFile)

def operate (registry : AssetRegistry) : Operation → AssetRegistry
  | .call call => registry.call call
  | .loadManifestConfig file => (Server.loadManifestConfig file registry).2

end AssetRegistry

end CustomModels.Server
