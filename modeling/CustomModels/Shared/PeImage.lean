import CustomModels.Lib.BigEndian

/-!
# Portable executables

`pe_image.hpp` and `pe_image.cpp`. A `std::size_t` is that of the 32-bit client. The parser is modelled with the
calls of `Read` that it makes, since it ignores what they answer.
-/

namespace CustomModels.Shared
open CustomModels.Lib

inductive PeImageKind where
  | pe32
  | pe32Plus
  deriving DecidableEq

structure PeImageInfo where
  kind : PeImageKind
  entryPointRva : UInt32
  sizeOfImage : UInt32
  deriving DecidableEq

/-- The enumerators behind `None`. -/
inductive PeParseError where
  | nullInput
  | truncatedDosHeader
  | invalidDosSignature
  | truncatedNtHeaders
  | invalidNtSignature
  | truncatedOptionalHeader
  | unsupportedOptionalHeader
  | invalidImageSize
  deriving DecidableEq

/-- An array of bytes, whose size is a `std::size_t`. -/
structure ImageView where
  bytes : List UInt8
  fits : bytes.length < UInt32.size

def ImageView.size (data : ImageView) : UInt32 := UInt32.ofNat data.bytes.length

def kDosSignatureOffset : UInt32 := 0x00
def kNtHeaderOffsetField : UInt32 := 0x3C
def kDosHeaderMinimumSize : UInt32 := 0x40
def kCoffHeaderSize : UInt32 := 20
def kOptionalHeaderMagicOffset : UInt32 := 0
def kEntryPointOffset : UInt32 := 16
def kImageSizeOffset : UInt32 := 56
def kRequiredOptionalHeaderSize : UInt32 := 60
def kDosSignature : UInt16 := 0x5A4D
def kNtSignature : UInt32 := 0x00004550
def kPe32Magic : UInt16 := 0x010B
def kPe32PlusMagic : UInt16 := 0x020B

/-! ## Reads -/

/-- The two bytes at the offset, the least significant one first. -/
def u16At (bytes : List UInt8) (offset : Nat) : UInt16 :=
  ofBe16 (bytes.getD (offset + 1) 0) (bytes.getD offset 0)

/-- The four bytes at the offset, the least significant one first. -/
def u32At (bytes : List UInt8) (offset : Nat) : UInt32 :=
  ofBe32 (bytes.getD (offset + 3) 0) (bytes.getD (offset + 2) 0) (bytes.getD (offset + 1) 0)
    (bytes.getD offset 0)

def canRead (offset length size : UInt32) : Bool := offset ≤ size && length ≤ size - offset

/-- A call of `Read`: the offset, the size of the value, and the answer. -/
structure PeRead where
  offset : UInt32
  width : UInt32
  succeeded : Bool
  deriving DecidableEq

/-- The calls of `Read` so far are the state. -/
abbrev PeParser := ExceptT PeParseError (StateM (List PeRead))

/-- `Read` into a variable of `width` bytes, which is `initial` before: what is at the offset, if that is within the
data. -/
def read {α : Type} (width : UInt32) (valueAt : List UInt8 → Nat → α) (initial : α) (data : ImageView)
    (offset : UInt32) : PeParser α := do
  let succeeded := canRead offset width data.size
  modify (· ++ [⟨offset, width, succeeded⟩])
  return if succeeded then valueAt data.bytes offset.toNat else initial

def read16 : ImageView → UInt32 → PeParser UInt16 := read 2 u16At 0

def read32 : ImageView → UInt32 → PeParser UInt32 := read 4 u32At 0

/-! ## `ParsePeImage` -/

/-- From the optional header on. -/
def parseOptionalHeader (data : ImageView) (optionalOffset : UInt32) : PeParser PeImageInfo := do
  let optionalMagic ← read16 data (optionalOffset + kOptionalHeaderMagicOffset)
  let kind ← if optionalMagic = kPe32Magic then pure PeImageKind.pe32
    else if optionalMagic = kPe32PlusMagic then pure PeImageKind.pe32Plus
    else throw .unsupportedOptionalHeader
  let entryPointRva ← read32 data (optionalOffset + kEntryPointOffset)
  let sizeOfImage ← read32 data (optionalOffset + kImageSizeOffset)
  if sizeOfImage = 0 then throw .invalidImageSize
  else return ⟨kind, entryPointRva, sizeOfImage⟩

/-- From the NT headers on. -/
def parseNtHeaders (data : ImageView) (ntOffset : UInt32) : PeParser PeImageInfo := do
  let ntSignature ← read32 data ntOffset
  if ntSignature ≠ kNtSignature then throw .invalidNtSignature
  else
    let coffOffset := ntOffset + 4
    let optionalHeaderSize ← read16 data (coffOffset + 16)
    if optionalHeaderSize.toUInt32 < kRequiredOptionalHeaderSize then throw .truncatedOptionalHeader
    else
      let optionalOffset := coffOffset + kCoffHeaderSize
      if !canRead optionalOffset optionalHeaderSize.toUInt32 data.size then throw .truncatedOptionalHeader
      else parseOptionalHeader data optionalOffset

/-- `none` is the null pointer. -/
def parsePeImage : Option ImageView → PeParser PeImageInfo
  | none => throw .nullInput
  | some data =>
      if data.size < kDosHeaderMinimumSize then throw .truncatedDosHeader
      else do
        let dosSignature ← read16 data kDosSignatureOffset
        if dosSignature ≠ kDosSignature then throw .invalidDosSignature
        else
          let ntOffset ← read32 data kNtHeaderOffsetField
          if !canRead ntOffset (4 + kCoffHeaderSize) data.size then throw .truncatedNtHeaders
          else parseNtHeaders data ntOffset

/-- What the parser returns, and the calls of `Read` that it has made. -/
def runPeImage (data : Option ImageView) : Except PeParseError PeImageInfo × List PeRead :=
  (parsePeImage data).run.run []

/-! ## Images -/

/-- Where the NT headers are. -/
def ntOffsetOf (bytes : List UInt8) : Nat := (u32At bytes 0x3C).toNat

/-- The size of the optional header. -/
def optionalSizeOf (bytes : List UInt8) : Nat := (u16At bytes (ntOffsetOf bytes + 20)).toNat

/-- The images that the client can make something of. All offsets are natural numbers. -/
structure PeImage (bytes : List UInt8) : Prop where
  dosHeader : 64 ≤ bytes.length
  dosSignature : u16At bytes 0 = 0x5A4D
  ntHeaders : ntOffsetOf bytes + 24 ≤ bytes.length
  ntSignature : u32At bytes (ntOffsetOf bytes) = 0x4550
  optionalSize : 60 ≤ optionalSizeOf bytes
  optionalHeader : ntOffsetOf bytes + 24 + optionalSizeOf bytes ≤ bytes.length
  optionalMagic : u16At bytes (ntOffsetOf bytes + 24) = 0x10B ∨ u16At bytes (ntOffsetOf bytes + 24) = 0x20B
  imageSize : u32At bytes (ntOffsetOf bytes + 80) ≠ 0

/-- The fields of an image. -/
def imageInfo (bytes : List UInt8) : PeImageInfo where
  kind := if u16At bytes (ntOffsetOf bytes + 24) = 0x10B then .pe32 else .pe32Plus
  entryPointRva := u32At bytes (ntOffsetOf bytes + 40)
  sizeOfImage := u32At bytes (ntOffsetOf bytes + 80)

end CustomModels.Shared
