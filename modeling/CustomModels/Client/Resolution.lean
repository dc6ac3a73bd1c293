import CustomModels.Client.Module
import CustomModels.Client.ReceiveSlot
import CustomModels.Lib.Regions
import CustomModels.Shared.Version

/-!
# The resolution of the RakClient

`compatibility.cpp`, `ModuleInfo::IsExecutable`, and what `Initialize` of `raknet_transport.cpp` does before it installs
the hook: `IsReadable`, `ResolveRakClient` and the attempts at it. A pointer has 32 bits. The uses of foreign pointers
are recorded, each with the memory that it finds.
-/

namespace CustomModels.Shared

/-- `FindSampBuild(std::uint32_t)`. -/
def findSampBuildAt (entryPoint : UInt32) : Option SampBuildInfo :=
  kKnownBuilds.find? fun build => build.entryPoint == entryPoint

end CustomModels.Shared

namespace CustomModels.Client
open CustomModels.Shared

/-! ## Addresses of SA-MP -/

structure SampAddresses where
  netGamePointerRva : BitVec 32
  getRakClientRva : BitVec 32
  rpcHandlerRva : BitVec 32

inductive AddressMapping where
  | netGame
  | getRakClient
  | rpcHandler

structure SampCompatibility where
  version : SampVersion
  addresses : SampAddresses

def kCompatibility : List SampCompatibility :=
  [⟨.r1, 0x21A0F8, 0x1A40, 0⟩, ⟨.r2, 0, 0, 0⟩, ⟨.r31, 0x26E8DC, 0x1A40, 0⟩, ⟨.r4, 0, 0, 0⟩, ⟨.r4Family, 0, 0, 0⟩]

namespace SampCompatibility

def hasMapping (compatibility : SampCompatibility) : AddressMapping → Bool
  | .netGame => compatibility.addresses.netGamePointerRva != 0
  | .getRakClient => compatibility.addresses.getRakClientRva != 0
  | .rpcHandler => compatibility.addresses.rpcHandlerRva != 0

def hasAllMappings (compatibility : SampCompatibility) (mappings : List AddressMapping) : Bool :=
  mappings.all compatibility.hasMapping

end SampCompatibility

def findCompatibility (version : SampVersion) : Option SampCompatibility :=
  kCompatibility.find? fun compatibility => compatibility.version = version

/-! ## Memory -/

def pageExecute : UInt32 := 0x10
def pageExecuteRead : UInt32 := 0x20
def pageExecuteReadWrite : UInt32 := 0x40
def pageExecuteWriteCopy : UInt32 := 0x80

/-- The memory of the process at some time: what `VirtualQuery` tells of an address, and the words that are stored. The
regions divide it up, and the last byte of all does not belong to any. -/
structure AddressSpace where
  query : BitVec 32 → Option (MemoryBasicInformation 32)
  word : BitVec 32 → BitVec 32
  covers : ∀ {address region}, query address = some region → region.baseAddress.toNat ≤ address.toNat ∧
    address.toNat < region.baseAddress.toNat + region.regionSize.toNat
  uniform : ∀ {address region other}, query address = some region →
    region.baseAddress.toNat ≤ other.toNat →
    other.toNat < region.baseAddress.toNat + region.regionSize.toNat → query other = some region
  ends : ∀ {address region}, query address = some region →
    region.baseAddress.toNat + region.regionSize.toNat ≤ 2 ^ 32 - 1

/-- What `IsReadable` asks of a region. -/
def MemoryBasicInformation.isReadable (memory : MemoryBasicInformation 32) : Bool :=
  !memory.isBlocked && memory.protect &&& 0xFF != pageExecute

namespace AddressSpace

variable (space : AddressSpace)

/-- The loop of `IsReadable`, `none` if it does not end with the fuel. -/
def walkReadable (stop : BitVec 32) : (fuel : Nat) → BitVec 32 → Option Bool
  | 0, _ => none
  | fuel + 1, current =>
      if current < stop then
        match space.query current with
        | none => some false
        | some memory =>
            if !memory.isReadable then some false
            else if BitVec.allOnes 32 - memory.baseAddress < memory.regionSize then some false
            else
              let next := memory.baseAddress + memory.regionSize
              if next ≤ current then some false else walkReadable stop fuel next
      else some true

/-- `IsReadable`; the loop has no more turns than the range has bytes. -/
def isReadable (pointer length : BitVec 32) : Bool :=
  if pointer = 0 ∨ length = 0 then false
  else if BitVec.allOnes 32 - pointer < length then false
  else (space.walkReadable (pointer + length) (length.toNat + 1) pointer).getD false

/-- `IsAccessible` in this memory. -/
def isAccessible (info : ModuleInfo 32) (address length : BitVec 32) : Bool :=
  (info.isAccessible (fun _ => space.query) address length (length.toNat + 1)).getD false

def isExecutable (info : ModuleInfo 32) (address : BitVec 32) : Bool :=
  if !info.contains address 1 then false
  else
    match space.query address with
    | none => false
    | some memory =>
        if memory.isBlocked || memory.allocationBase != info.base then false
        else
          let protection := memory.protect &&& 0xFF
          protection == pageExecute || protection == pageExecuteRead || protection == pageExecuteReadWrite ||
            protection == pageExecuteWriteCopy

end AddressSpace

/-! ## `ResolveRakClient` -/

/-- A pointer is read from an address, or a function is called. -/
inductive PointerUse where
  | read (space : AddressSpace) (address : BitVec 32)
  | called (space : AddressSpace) (function argument : BitVec 32)

/-- What `ResolveRakClient` stores. -/
structure ResolvedClient where
  rakClient : BitVec 32
  vtable : BitVec 32
  sendFunction : BitVec 32
  originalReceive : BitVec 32
  deallocateFunction : BitVec 32
  isConnectedFunction : BitVec 32

/-- The four entries of the vtable that the transport calls, by their `RakClientVtableIndex`. -/
def sendRawIndex : Nat := 7
def receiveIndex : Nat := 8
def deallocatePacketIndex : Nat := 9
def isConnectedIndex : Nat := 18

/-- `kRakClientVtableEntriesNeeded`, in bytes. -/
def vtableSize : BitVec 32 := 19 * 4

def vtableEntry (vtable : BitVec 32) (index : Nat) : BitVec 32 := vtable + BitVec.ofNat 32 (4 * index)

/-- One attempt at the RakClient: the memory that it finds, and what SA-MP's `GetRakClient` returns for a net game, and
leaves behind. -/
structure Attempt where
  space : AddressSpace
  getRakClient : BitVec 32 → BitVec 32 × AddressSpace

/-- What is read through the vtable, and the functions found there. -/
def resolveVtable (info : ModuleInfo 32) (space : AddressSpace) (rakClient vtable : BitVec 32) :
    Option ResolvedClient × List PointerUse :=
  if !info.contains vtable vtableSize || !space.isAccessible info vtable vtableSize then (none, [])
  else
    let function := fun index => space.word (vtableEntry vtable index)
    let uses := [sendRawIndex, receiveIndex, deallocatePacketIndex, isConnectedIndex].map fun index =>
      PointerUse.read space (vtableEntry vtable index)
    if !space.isExecutable info (function sendRawIndex) || !space.isExecutable info (function receiveIndex) ||
        !space.isExecutable info (function deallocatePacketIndex) ||
        !space.isExecutable info (function isConnectedIndex) then (none, uses)
    else
      (some
        { rakClient
          vtable
          sendFunction := function sendRawIndex
          originalReceive := function receiveIndex
          deallocateFunction := function deallocatePacketIndex
          isConnectedFunction := function isConnectedIndex }, uses)

def resolveRakClient (info : ModuleInfo 32) (compatibility : SampCompatibility) (attempt : Attempt) :
    Option ResolvedClient × List PointerUse :=
  match info.resolveRva compatibility.addresses.netGamePointerRva 4,
      info.resolveRva compatibility.addresses.getRakClientRva 1 with
  | some netGameSlot, some getRakClientAddress =>
      if !attempt.space.isAccessible info netGameSlot 4 || !attempt.space.isExecutable info getRakClientAddress then
        (none, [])
      else
        let netGame := attempt.space.word netGameSlot
        let uses := [PointerUse.read attempt.space netGameSlot]
        if !attempt.space.isReadable netGame 4 then (none, uses)
        else
          let (rakClient, space) := attempt.getRakClient netGame
          let uses := uses ++ [.called attempt.space getRakClientAddress netGame]
          if !space.isReadable rakClient 4 then (none, uses)
          else
            let (client, more) := resolveVtable info space rakClient (space.word rakClient)
            (client, uses ++ .read space rakClient :: more)
  | _, _ => (none, [])

/-- The loop of `Initialize`, up to the first attempt that succeeds. -/
def resolveAttempts (info : ModuleInfo 32) (compatibility : SampCompatibility) :
    List Attempt → Option ResolvedClient × List PointerUse
  | [] => (none, [])
  | attempt :: attempts =>
      match resolveRakClient info compatibility attempt with
      | (some client, uses) => (some client, uses)
      | (none, uses) =>
          let (client, more) := resolveAttempts info compatibility attempts
          (client, uses ++ more)

/-- `Initialize` of the transport for a version of SA-MP up to the installation of the hook: whether the module is one
that it knows, the client that it has resolved, and its uses of pointers. -/
def resolveTransport (version : SampVersion) (lookup : Except String (ModuleInfo 32)) (attempts : Nat → Attempt) :
    Bool × Option ResolvedClient × List PointerUse :=
  match lookup with
  | .error _ => (false, none, [])
  | .ok info =>
      if info.entryPointRva = 0 then (false, none, [])
      else
        match findSampBuildAt info.entryPointRva, findCompatibility version with
        | some build, some compatibility =>
            if build.version ≠ version || !compatibility.hasAllMappings [.netGame, .getRakClient] then
              (false, none, [])
            else (true, resolveAttempts info compatibility ((List.range kResolveAttempts).map attempts))
        | _, _ => (false, none, [])

/-! ## What is promised -/

/-- The builds with a transport, by their entry points. -/
def HasTransport (version : SampVersion) (entryPoint : UInt32) : Prop :=
  version = .r1 ∧ entryPoint = 0x31DF13 ∨ version = .r31 ∧ entryPoint = 0x0CC4D0

/-- What `IsAccessible` asks of a region. -/
def MemoryBasicInformation.isAccessibleIn (memory : MemoryBasicInformation 32) (info : ModuleInfo 32) : Bool :=
  !memory.isBlocked && memory.allocationBase == info.base

/-- What `IsExecutable` asks of a region. -/
def MemoryBasicInformation.isExecutableIn (memory : MemoryBasicInformation 32) (info : ModuleInfo 32) : Bool :=
  memory.isAccessibleIn info &&
    [pageExecute, pageExecuteRead, pageExecuteReadWrite, pageExecuteWriteCopy].contains (memory.protect &&& 0xFF)

namespace AddressSpace

/-- All bytes of a range lie in good regions. -/
def Has (space : AddressSpace) (good : MemoryBasicInformation 32 → Bool) (address length : Nat) : Prop :=
  ∀ byte : BitVec 32, address ≤ byte.toNat → byte.toNat < address + length →
    ∃ region, space.query byte = some region ∧ good region = true

/-- A range that does not begin at 0, has bytes and ends in the address space, and can be read. -/
structure Readable (space : AddressSpace) (pointer length : BitVec 32) : Prop where
  nonnull : pointer ≠ 0
  nonempty : length ≠ 0
  ends : pointer.toNat + length.toNat ≤ 2 ^ 32 - 1
  access : space.Has MemoryBasicInformation.isReadable pointer.toNat length.toNat

/-- A range of the image that is accessible. -/
structure Accessible (space : AddressSpace) (info : ModuleInfo 32) (address length : BitVec 32) : Prop where
  nonempty : 1 ≤ length.toNat
  begins : info.base.toNat ≤ address.toNat
  ends : address.toNat + length.toNat ≤ info.base.toNat + info.imageSize.toNat
  access : space.Has (·.isAccessibleIn info) address.toNat length.toNat

/-- A function of the module. -/
structure Executable (space : AddressSpace) (info : ModuleInfo 32) (function : BitVec 32) : Prop where
  begins : info.base.toNat ≤ function.toNat
  ends : function.toNat < info.base.toNat + info.imageSize.toNat
  access : ∃ region, space.query function = some region ∧ region.isExecutableIn info = true

end AddressSpace

/-- Only memory that is committed, and neither guarded nor without access, is read, and only functions of the module are
called. -/
def PointerUse.Allowed (info : ModuleInfo 32) : PointerUse → Prop
  | read space address =>
      address.toNat + 4 ≤ 2 ^ 32 - 1 ∧ space.Has (fun region => !region.isBlocked) address.toNat 4
  | called space function _ => space.Executable info function

/-- The module has a vtable there, with functions of its own in the four entries. -/
structure ResolvedClient.HasVtable (client : ResolvedClient) (info : ModuleInfo 32) (space : AddressSpace) : Prop where
  access : space.Accessible info client.vtable vtableSize
  entries : [client.sendFunction, client.originalReceive, client.deallocateFunction, client.isConnectedFunction] =
    [sendRawIndex, receiveIndex, deallocatePacketIndex, isConnectedIndex].map
      (fun index => space.word (vtableEntry client.vtable index))
  functions : ∀ function ∈ [client.sendFunction, client.originalReceive, client.deallocateFunction,
    client.isConnectedFunction], space.Executable info function

/-- The attempt finds the client, where SA-MP has its net game and `GetRakClient`. -/
structure Attempt.Finds (attempt : Attempt) (info : ModuleInfo 32) (compatibility : SampCompatibility)
    (client : ResolvedClient) : Prop where
  rvas : 1 ≤ compatibility.addresses.netGamePointerRva.toNat ∧ 1 ≤ compatibility.addresses.getRakClientRva.toNat
  netGameSlot : attempt.space.Accessible info (info.base + compatibility.addresses.netGamePointerRva) 4
  getRakClient : attempt.space.Executable info (info.base + compatibility.addresses.getRakClientRva)
  netGame : attempt.space.Readable
    (attempt.space.word (info.base + compatibility.addresses.netGamePointerRva)) 4
  found : ∃ space, attempt.getRakClient (attempt.space.word
      (info.base + compatibility.addresses.netGamePointerRva)) = (client.rakClient, space) ∧
    space.Readable client.rakClient 4 ∧ client.vtable = space.word client.rakClient ∧ client.HasVtable info space

end CustomModels.Client
