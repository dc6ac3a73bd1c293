import CustomModels.Shared.PeImage

/-!
# Modules of the process

`module.hpp` and `module.cpp`. An address and a `std::size_t` have `width` bits; what the system answers is given.
-/

namespace CustomModels.Client
open CustomModels.Shared

/-! ## The system -/

def memCommit : UInt32 := 0x1000
def pageNoAccess : UInt32 := 0x01
def pageGuard : UInt32 := 0x100

/-- `MEMORY_BASIC_INFORMATION`. -/
structure MemoryBasicInformation (width : Nat) where
  baseAddress : BitVec width
  allocationBase : BitVec width
  regionSize : BitVec width
  state : UInt32
  protect : UInt32

/-- What `VirtualQuery` tells of an address in its n-th call, `none` if it fails. -/
abbrev VirtualQuery (width : Nat) := Nat → BitVec width → Option (MemoryBasicInformation width)

/-- The check on a region that `IsAccessible` and `FindLoadedModule` make first. -/
def MemoryBasicInformation.isBlocked {width : Nat} (memory : MemoryBasicInformation width) : Bool :=
  memory.state != memCommit || memory.protect &&& (pageGuard ||| pageNoAccess) != 0

/-! ## `ModuleInfo` -/

structure ModuleInfo (width : Nat) where
  handle : BitVec width
  base : BitVec width
  imageSize : BitVec width
  entryPointRva : UInt32
  isPe32 : Bool
  deriving DecidableEq

namespace ModuleInfo

variable {width : Nat}

def contains (info : ModuleInfo width) (address length : BitVec width) : Bool :=
  if info.base = 0 ∨ info.imageSize = 0 ∨ address < info.base then false
  else
    let offset := address - info.base
    if info.imageSize ≤ offset then false
    else length != 0 && decide (length ≤ info.imageSize - offset)

/-- One turn of the loop of `IsAccessible`: where it goes on, `none` where it returns false. -/
def nextRegion (info : ModuleInfo width) (answer : Option (MemoryBasicInformation width)) (current : BitVec width) :
    Option (BitVec width) :=
  match answer with
  | none => none
  | some memory =>
      if memory.isBlocked then none
      else if memory.allocationBase ≠ info.base then none
      else if BitVec.allOnes width - memory.baseAddress < memory.regionSize then none
      else
        let next := memory.baseAddress + memory.regionSize
        if next ≤ current then none else some next

/-- The loop of `IsAccessible`, `none` if it does not end with the fuel. -/
def walkRegions (info : ModuleInfo width) (query : VirtualQuery width) (stop : BitVec width) :
    (fuel index : Nat) → BitVec width → Option Bool
  | 0, _, _ => none
  | fuel + 1, index, current =>
      if current < stop then
        match info.nextRegion (query index current) current with
        | none => some false
        | some next => walkRegions info query stop fuel (index + 1) next
      else some true

def isAccessible (info : ModuleInfo width) (query : VirtualQuery width) (address length : BitVec width)
    (fuel : Nat) : Option Bool :=
  if !info.contains address length then some false
  else walkRegions info query (address + length) fuel 0 address

def resolveRva (info : ModuleInfo width) (rva length : BitVec width) : Option (BitVec width) :=
  if rva = 0 ∨ BitVec.allOnes width - info.base < rva then none
  else
    let address := info.base + rva
    if !info.contains address length then none else some address

end ModuleInfo

/-! ## `FindLoadedModule` -/

/-- `ToString` of `pe_image.cpp`. -/
def peErrorText : PeParseError → String
  | .nullInput => "null input"
  | .truncatedDosHeader => "truncated DOS header"
  | .invalidDosSignature => "invalid DOS signature"
  | .truncatedNtHeaders => "truncated NT headers"
  | .invalidNtSignature => "invalid NT signature"
  | .truncatedOptionalHeader => "truncated optional header"
  | .unsupportedOptionalHeader => "unsupported optional header"
  | .invalidImageSize => "invalid image size"

/-- The bytes that a pointer and a size refer to. -/
def imageViewOf (contents : BitVec 32 → UInt8) (base size : BitVec 32) : ImageView where
  bytes := (List.range size.toNat).map fun offset => contents (base + BitVec.ofNat 32 offset)
  fits := by
    rw [List.length_map, List.length_range]
    exact size.isLt

/-- `GetModuleHandleW` answers 0 for a module that is not loaded, `answer` is that of `VirtualQuery`, and `contents` are
the bytes of the address space. A null pointer for a name is `none`. -/
def findLoadedModule (name : Option (List UInt16)) (handle : BitVec 32)
    (answer : Option (MemoryBasicInformation 32)) (contents : BitVec 32 → UInt8) :
    Except String (ModuleInfo 32) :=
  if name.all List.isEmpty then .error "module name is empty"
  else if handle = 0 then .error "module is not loaded"
  else
    let base := handle
    match answer with
    | none => .error "VirtualQuery failed for the module header"
    | some memory =>
        if memory.isBlocked then .error "module header memory is not accessible"
        else if memory.allocationBase ≠ handle then
          .error "module header does not belong to the expected allocation"
        else if base < memory.baseAddress ∨ memory.regionSize ≤ base - memory.baseAddress then
          .error "module base is outside its header memory region"
        else
          let headerSize := memory.regionSize - (base - memory.baseAddress)
          match (runPeImage (some (imageViewOf contents base headerSize))).1 with
          | .error error => .error (peErrorText error)
          | .ok image =>
              if BitVec.allOnes 32 - base < image.sizeOfImage.toBitVec then
                .error "module image range overflows the address space"
              else .ok ⟨handle, base, image.sizeOfImage.toBitVec, image.entryPointRva, image.kind == .pe32⟩

/-! ## What is promised -/

/-- A module as `FindLoadedModule` finds it: its image is not empty and ends before the address space does. -/
structure ModuleInfo.Placed {width : Nat} (info : ModuleInfo width) : Prop where
  base : 0 < info.base.toNat
  imageSize : 0 < info.imageSize.toNat
  fits : info.base.toNat + info.imageSize.toNat ≤ 2 ^ width - 1

/-- What holds of the memory at an address. -/
structure MemoryCell (width : Nat) where
  state : UInt32
  protect : UInt32
  allocationBase : BitVec width

/-- Committed, neither guarded nor without access, and allocated at the base. -/
structure MemoryCell.Accessible {width : Nat} (cell : MemoryCell width) (base : BitVec width) : Prop where
  committed : cell.state = memCommit
  unguarded : cell.protect &&& pageGuard = 0
  access : cell.protect &&& pageNoAccess = 0
  allocation : cell.allocationBase = base

/-- The region has the address, and all of its memory is alike. -/
structure MemoryBasicInformation.Describes {width : Nat} (region : MemoryBasicInformation width)
    (memory : BitVec width → MemoryCell width) (address : BitVec width) : Prop where
  lower : region.baseAddress.toNat ≤ address.toNat
  upper : address.toNat < region.baseAddress.toNat + region.regionSize.toNat
  cells : ∀ byte, region.baseAddress.toNat ≤ byte.toNat →
    byte.toNat < region.baseAddress.toNat + region.regionSize.toNat →
    memory byte = ⟨region.state, region.protect, region.allocationBase⟩

end CustomModels.Client
