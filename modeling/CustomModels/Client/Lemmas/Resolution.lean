import CustomModels.Client.Resolution
import CustomModels.Client.Lemmas.Module

/-!
# The resolution of the RakClient

The walks of `IsReadable` and `IsAccessible` are walks over the regions of the memory, so both answer exactly what is
asked. What is read and called in an attempt at the RakClient has been asked for before.
-/

namespace CustomModels.Client
open CustomModels.Shared CustomModels.Lib

namespace AddressSpace

variable {space : AddressSpace} {info : ModuleInfo 32} {pointer address length stop current : BitVec 32} {fuel : Nat}

/-! ## Walks -/

def regions (space : AddressSpace) : Regions (MemoryBasicInformation 32) where
  find position :=
    if position < 2 ^ 32 then
      (space.query (BitVec.ofNat 32 position)).map fun memory =>
        ⟨memory.baseAddress.toNat, memory.baseAddress.toNat + memory.regionSize.toNat, memory⟩
    else none
  covers {position region} h := by
    split at h
    · rename_i hposition
      obtain ⟨memory, hmemory, rfl⟩ := Option.map_eq_some_iff.mp h
      have hcovers := space.covers hmemory
      rwa [BitVec.toNat_ofNat, Nat.mod_eq_of_lt hposition] at hcovers
    · cases h
  uniform {position region other} h hlower hupper := by
    split at h
    · obtain ⟨memory, hmemory, rfl⟩ := Option.map_eq_some_iff.mp h
      have hends := space.ends hmemory
      have hother : other < 2 ^ 32 := by
        simp only at hupper
        omega
      have htoNat : (BitVec.ofNat 32 other).toNat = other := by
        rw [BitVec.toNat_ofNat, Nat.mod_eq_of_lt hother]
      rw [if_pos hother, space.uniform hmemory (htoNat.symm ▸ hlower) (htoNat.symm ▸ hupper)]
      rfl
    · cases h

theorem regions_find (space : AddressSpace) (address : BitVec 32) :
    space.regions.find address.toNat = (space.query address).map fun memory =>
      ⟨memory.baseAddress.toNat, memory.baseAddress.toNat + memory.regionSize.toNat, memory⟩ := by
  simp only [regions, address.isLt, ↓reduceIte, BitVec.ofNat_toNat, BitVec.setWidth_eq]

/-- The end of a region does not wrap, and lies behind every address in it. -/
theorem next_toNat {memory : MemoryBasicInformation 32} (h : space.query current = some memory) :
    ¬ BitVec.allOnes 32 - memory.baseAddress < memory.regionSize ∧
      ¬ memory.baseAddress + memory.regionSize ≤ current ∧
      (memory.baseAddress + memory.regionSize).toNat = memory.baseAddress.toNat + memory.regionSize.toNat := by
  have hends := space.ends h
  have hcovers := space.covers h
  have hsum : (memory.baseAddress + memory.regionSize).toNat =
      memory.baseAddress.toNat + memory.regionSize.toNat := toNat_add_of_le hends
  refine ⟨?_, ?_, hsum⟩
  · rw [BitVec.lt_def, toNat_allOnes_sub]
    omega
  · rw [BitVec.le_def, hsum]
    omega

theorem walkReadable_eq : space.walkReadable stop fuel current =
    space.regions.walk MemoryBasicInformation.isReadable stop.toNat fuel current.toNat := by
  induction fuel generalizing current with
  | zero => rfl
  | succ fuel ih =>
      rw [walkReadable, Regions.walk, regions_find]
      simp only [BitVec.lt_def]
      split
      · cases hquery : space.query current with
        | none => rfl
        | some memory =>
            obtain ⟨hfits, hprogress, hnext⟩ := next_toNat hquery
            rw [BitVec.lt_def] at hfits
            simp only [Option.map_some, hfits, hprogress, ↓reduceIte, ih, hnext]
            cases memory.isReadable <;> rfl
      · rfl

theorem walkRegions_eq {index : Nat} : info.walkRegions (fun _ => space.query) stop fuel index current =
    space.regions.walk (·.isAccessibleIn info) stop.toNat fuel current.toNat := by
  induction fuel generalizing index current with
  | zero => rfl
  | succ fuel ih =>
      rw [ModuleInfo.walkRegions, Regions.walk, regions_find]
      simp only [BitVec.lt_def]
      split
      · cases hquery : space.query current with
        | none => rfl
        | some memory =>
            obtain ⟨hfits, hprogress, hnext⟩ := next_toNat hquery
            rw [BitVec.lt_def] at hfits
            by_cases hgood : memory.isAccessibleIn info = true
            · have hparts := hgood
              simp only [MemoryBasicInformation.isAccessibleIn, Bool.and_eq_true, Bool.not_eq_true',
                beq_iff_eq] at hparts
              simp only [ModuleInfo.nextRegion, hparts, BitVec.lt_def, hfits, hprogress, Bool.false_eq_true,
                ne_eq, not_true_eq_false, ↓reduceIte, Option.map_some, hgood, ih, hnext]
            · have hnone : info.nextRegion (some memory) current = none := by
                simp only [MemoryBasicInformation.isAccessibleIn, Bool.and_eq_true, Bool.not_eq_true', beq_iff_eq,
                  not_and_or, Bool.not_eq_false] at hgood
                rcases hgood with hblocked | hother
                · simp [ModuleInfo.nextRegion, hblocked]
                · simp [ModuleInfo.nextRegion, hother]
              simp [hnone, hgood]
      · rfl

/-- A range of positions is good where its bytes are. -/
theorem isGood_iff {good : MemoryBasicInformation 32 → Bool} {lower size : Nat} (h : lower + size ≤ 2 ^ 32) :
    (∀ position, lower ≤ position → position < lower + size → space.regions.IsGood good position) ↔
      space.Has good lower size := by
  constructor
  · intro hall byte hlower hupper
    obtain ⟨region, hregion, hgood⟩ := hall byte.toNat hlower hupper
    rw [regions_find] at hregion
    obtain ⟨memory, hmemory, rfl⟩ := Option.map_eq_some_iff.mp hregion
    exact ⟨memory, hmemory, hgood⟩
  · intro hall position hlower hupper
    have hposition : position < 2 ^ 32 := by omega
    have htoNat : (BitVec.ofNat 32 position).toNat = position := by
      rw [BitVec.toNat_ofNat, Nat.mod_eq_of_lt hposition]
    obtain ⟨memory, hmemory, hgood⟩ := hall (BitVec.ofNat 32 position) (by omega) (by omega)
    have hfind := space.regions_find (BitVec.ofNat 32 position)
    rw [hmemory, htoNat] at hfind
    exact ⟨_, hfind, hgood⟩

theorem isReadable_iff : space.isReadable pointer length = true ↔ space.Readable pointer length := by
  unfold isReadable
  split
  · rename_i hnone
    exact iff_of_false nofun fun h => hnone.elim h.nonnull h.nonempty
  · rename_i hsome
    obtain ⟨hpointer, hlength⟩ := not_or.mp hsome
    split
    · rename_i hwraps
      rw [BitVec.lt_def, toNat_allOnes_sub] at hwraps
      refine iff_of_false nofun fun h => ?_
      have hends := h.ends
      omega
    · rename_i hends
      rw [BitVec.lt_def, toNat_allOnes_sub] at hends
      have hlimit := pointer.isLt
      have hstop : (pointer + length).toNat = pointer.toNat + length.toNat := toNat_add_of_le (by omega)
      obtain ⟨verdict, hwalk, hverdict⟩ := @Regions.walk_eq _ space.regions MemoryBasicInformation.isReadable
        (pointer.toNat + length.toNat) length.toNat pointer.toNat (Nat.le_refl _)
      rw [walkReadable_eq, hstop, hwalk, Option.getD_some, hverdict, isGood_iff (by omega)]
      exact ⟨fun h => ⟨hpointer, hlength, by omega, h⟩, fun h => h.access⟩

theorem isAccessible_iff (hi : info.Placed) :
    space.isAccessible info address length = true ↔ space.Accessible info address length := by
  have hbase := hi.base
  have hfits := hi.fits
  unfold isAccessible ModuleInfo.isAccessible
  split
  · rename_i hcontains
    rw [Bool.not_eq_true', ← Bool.not_eq_true, ModuleInfo.contains_iff] at hcontains
    refine iff_of_false nofun fun h => hcontains ⟨hbase, h.nonempty, h.begins, h.ends⟩
  · rename_i hcontains
    rw [Bool.not_eq_true', Bool.not_eq_false, ModuleInfo.contains_iff] at hcontains
    obtain ⟨-, hlength, hbegins, hends⟩ := hcontains
    have hstop : (address + length).toNat = address.toNat + length.toNat := toNat_add_of_le (by omega)
    obtain ⟨verdict, hwalk, hverdict⟩ := @Regions.walk_eq _ space.regions (·.isAccessibleIn info)
      (address.toNat + length.toNat) length.toNat address.toNat (Nat.le_refl _)
    rw [walkRegions_eq, hstop, hwalk, Option.getD_some, hverdict, isGood_iff (by omega)]
    exact ⟨fun h => ⟨hlength, hbegins, hends, h⟩, fun h => h.access⟩

theorem isExecutable_iff (hi : info.Placed) :
    space.isExecutable info address = true ↔ space.Executable info address := by
  have hone : (1 : BitVec 32).toNat = 1 := rfl
  unfold isExecutable
  split
  · rename_i hcontains
    rw [Bool.not_eq_true', ← Bool.not_eq_true, ModuleInfo.contains_iff, hone] at hcontains
    refine iff_of_false nofun fun h => hcontains ⟨hi.base, Nat.le_refl _, h.begins, h.ends⟩
  · rename_i hcontains
    rw [Bool.not_eq_true', Bool.not_eq_false, ModuleInfo.contains_iff, hone] at hcontains
    obtain ⟨-, -, hbegins, hends⟩ := hcontains
    cases hquery : space.query address with
    | none =>
        refine iff_of_false nofun fun h => ?_
        obtain ⟨_, hregion, -⟩ := h.access
        cases hquery.symm.trans hregion
    | some memory =>
        have hbits : memory.isExecutableIn info = true ↔
            (memory.isBlocked || memory.allocationBase != info.base) = false ∧
              (memory.protect &&& 0xFF == pageExecute || memory.protect &&& 0xFF == pageExecuteRead ||
                memory.protect &&& 0xFF == pageExecuteReadWrite ||
                memory.protect &&& 0xFF == pageExecuteWriteCopy) = true := by
          simp only [MemoryBasicInformation.isExecutableIn, MemoryBasicInformation.isAccessibleIn, Bool.and_eq_true,
            Bool.not_eq_true', beq_iff_eq, List.contains_cons, List.contains_nil, Bool.or_false, Bool.or_assoc,
            Bool.or_eq_false_iff, bne_eq_false_iff_eq]
        have haccess : space.Executable info address ↔ memory.isExecutableIn info = true := by
          refine ⟨fun h => ?_, fun h => ⟨hbegins, hends, memory, hquery, h⟩⟩
          obtain ⟨_, hregion, hexecutable⟩ := h.access
          cases hquery.symm.trans hregion
          exact hexecutable
        rw [haccess, hbits]
        simp only
        split
        · rename_i hother
          exact iff_of_false nofun fun h => Bool.false_ne_true (h.1.symm.trans hother)
        · rename_i hown
          exact (and_iff_right (Bool.eq_false_iff.mpr hown)).symm

/-! ## What may be read -/

theorem Has.mono {good better : MemoryBasicInformation 32 → Bool} {lower size : Nat} (h : space.Has good lower size)
    (hb : ∀ region, good region = true → better region = true) : space.Has better lower size := by
  intro byte hlower hupper
  obtain ⟨region, hregion, hgood⟩ := h byte hlower hupper
  exact ⟨region, hregion, hb region hgood⟩

/-- A pointer that has been found readable may be read. -/
theorem Readable.allowed (h : space.Readable pointer 4) : (PointerUse.read space pointer).Allowed info := by
  refine ⟨h.ends, h.access.mono fun region hregion => ?_⟩
  simp only [MemoryBasicInformation.isReadable, Bool.and_eq_true] at hregion
  exact hregion.1

/-- So may a pointer in a range of the image that has been found accessible. -/
theorem Accessible.allowed (hi : info.Placed) (h : space.Accessible info address length) {offset : Nat}
    (ho : offset + 4 ≤ length.toNat) : (PointerUse.read space (address + BitVec.ofNat 32 offset)).Allowed info := by
  have hends := h.ends
  have hfits := hi.fits
  have hlength := length.isLt
  have htoNat : (address + BitVec.ofNat 32 offset).toNat = address.toNat + offset := by
    have hoffset : (BitVec.ofNat 32 offset).toNat = offset := by
      rw [BitVec.toNat_ofNat]
      exact Nat.mod_eq_of_lt (by omega)
    rw [toNat_add_of_le (by omega), hoffset]
  refine ⟨by omega, fun byte hlower hupper => ?_⟩
  obtain ⟨region, hregion, hgood⟩ := h.access byte (by omega) (by omega)
  simp only [MemoryBasicInformation.isAccessibleIn, Bool.and_eq_true] at hgood
  exact ⟨region, hregion, hgood.1⟩

end AddressSpace

/-! ## `ResolveRakClient` -/

theorem ModuleInfo.resolveRva_eq_some_iff {info : ModuleInfo 32} (hi : info.Placed) {rva length address : BitVec 32} :
    info.resolveRva rva length = some address ↔
      1 ≤ rva.toNat ∧ address = info.base + rva ∧ info.contains address length = true := by
  constructor
  · intro h
    have hsome := (resolveRva_isSome_iff hi).mp (by rw [h]; rfl)
    have htoNat := resolveRva_eq_some h
    have haddress : address = info.base + rva := by
      refine BitVec.eq_of_toNat_eq ?_
      rw [htoNat, BitVec.toNat_add, ← htoNat, Nat.mod_eq_of_lt address.isLt]
    exact ⟨hsome.1, haddress, contains_iff.mpr ⟨hi.base, hsome.2.1, by omega, by omega⟩⟩
  · rintro ⟨hrva, rfl, hcontains⟩
    obtain ⟨-, hlength, hbegins, hends⟩ := contains_iff.mp hcontains
    have hfits := hi.fits
    have hlimit := rva.isLt
    have hbase := info.base.isLt
    -- the sum has not wrapped, or it would lie below the base
    have htoNat : (info.base + rva).toNat = info.base.toNat + rva.toNat := by
      rw [BitVec.toNat_add] at hbegins ⊢
      omega
    obtain ⟨address, haddress⟩ := Option.isSome_iff_exists.mp ((resolveRva_isSome_iff hi).mpr
      ⟨hrva, hlength, by omega⟩)
    rw [haddress, Option.some.injEq]
    refine BitVec.eq_of_toNat_eq ?_
    rw [resolveRva_eq_some haddress, htoNat]

section Resolve

variable {info : ModuleInfo 32} {compatibility : SampCompatibility} {attempt : Attempt} {client : ResolvedClient}

theorem resolveVtable_spec (hi : info.Placed) (space : AddressSpace) (rakClient vtable : BitVec 32) :
    (∀ use ∈ (resolveVtable info space rakClient vtable).2, use.Allowed info) ∧
      ((resolveVtable info space rakClient vtable).1 = some client ↔
        client.rakClient = rakClient ∧ client.vtable = vtable ∧ client.HasVtable info space) := by
  unfold resolveVtable
  split
  · rename_i hrefused
    refine ⟨nofun, iff_of_false nofun ?_⟩
    rintro ⟨-, rfl, h⟩
    have hcontains : info.contains client.vtable vtableSize = true :=
      ModuleInfo.contains_iff.mpr ⟨hi.base, h.access.nonempty, h.access.begins, h.access.ends⟩
    simp [hcontains, (AddressSpace.isAccessible_iff hi).mpr h.access] at hrefused
  · rename_i hvtable
    simp only [Bool.or_eq_true, Bool.not_eq_true', not_or, Bool.not_eq_false, AddressSpace.isAccessible_iff hi]
      at hvtable
    have hreads : ∀ use ∈ [sendRawIndex, receiveIndex, deallocatePacketIndex, isConnectedIndex].map fun index =>
        PointerUse.read space (vtableEntry vtable index), use.Allowed info := by
      intro use hu
      obtain ⟨index, hindex, rfl⟩ := List.mem_map.mp hu
      refine hvtable.2.allowed hi ?_
      simp only [sendRawIndex, receiveIndex, deallocatePacketIndex, isConnectedIndex, List.mem_cons,
        List.not_mem_nil, or_false] at hindex
      have hsize : vtableSize.toNat = 76 := rfl
      omega
    simp only
    split
    · rename_i hrefused
      refine ⟨hreads, iff_of_false nofun ?_⟩
      rintro ⟨-, rfl, h⟩
      have hentries := h.entries
      simp only [List.map_cons, List.map_nil, List.cons.injEq, and_true] at hentries
      have hfunctions := h.functions
      simp only [hentries, List.forall_mem_cons, ← AddressSpace.isExecutable_iff hi] at hfunctions
      simp [hfunctions] at hrefused
    · rename_i hgranted
      simp only [Bool.or_eq_true, Bool.not_eq_true', not_or, Bool.not_eq_false, AddressSpace.isExecutable_iff hi,
        and_assoc] at hgranted
      refine ⟨hreads, ?_, ?_⟩
      · rintro ⟨⟩
        exact ⟨rfl, rfl, hvtable.2, rfl, by simpa using hgranted⟩
      · rintro ⟨rfl, rfl, h⟩
        have hentries := h.entries
        simp only [List.map_cons, List.map_nil, List.cons.injEq, and_true] at hentries
        obtain ⟨_, _, _, _, _, _⟩ := client
        simp only at hentries
        obtain ⟨rfl, rfl, rfl, rfl⟩ := hentries
        rfl

theorem Accessible.contains (hi : info.Placed) {space : AddressSpace} {address length : BitVec 32}
    (h : space.Accessible info address length) : info.contains address length = true :=
  ModuleInfo.contains_iff.mpr ⟨hi.base, h.nonempty, h.begins, h.ends⟩

theorem resolveRakClient_spec (hi : info.Placed) (compatibility : SampCompatibility) (attempt : Attempt) :
    (∀ use ∈ (resolveRakClient info compatibility attempt).2, use.Allowed info) ∧
      ((resolveRakClient info compatibility attempt).1 = some client ↔ attempt.Finds info compatibility client) := by
  have hexecutable : ∀ {space : AddressSpace} {function : BitVec 32}, space.Executable info function →
      info.contains function 1 = true := fun h => ModuleInfo.contains_iff.mpr ⟨hi.base, Nat.le_refl _, h.begins, h.ends⟩
  unfold resolveRakClient
  split
  · rename_i netGameSlot getRakClientAddress hslot haddress
    obtain ⟨hslotRva, rfl, -⟩ := (ModuleInfo.resolveRva_eq_some_iff hi).mp hslot
    obtain ⟨haddressRva, rfl, -⟩ := (ModuleInfo.resolveRva_eq_some_iff hi).mp haddress
    split
    · rename_i hrefused
      refine ⟨nofun, iff_of_false nofun fun h => ?_⟩
      rw [(AddressSpace.isAccessible_iff hi).mpr h.netGameSlot, (AddressSpace.isExecutable_iff hi).mpr h.getRakClient]
        at hrefused
      cases hrefused
    · rename_i hgranted
      simp only [Bool.or_eq_true, Bool.not_eq_true', not_or, Bool.not_eq_false, AddressSpace.isAccessible_iff hi,
        AddressSpace.isExecutable_iff hi] at hgranted
      have hfirst : (PointerUse.read attempt.space (info.base + compatibility.addresses.netGamePointerRva)).Allowed
          info := by
        have hread := @AddressSpace.Accessible.allowed _ _ _ _ hi hgranted.1 0 (by decide)
        rwa [BitVec.add_zero] at hread
      simp only
      split
      · rename_i hunreadable
        refine ⟨by simpa using hfirst, iff_of_false nofun fun h => ?_⟩
        rw [AddressSpace.isReadable_iff.mpr h.netGame] at hunreadable
        cases hunreadable
      · rename_i hnetGame
        rw [Bool.not_eq_true', Bool.not_eq_false, AddressSpace.isReadable_iff] at hnetGame
        obtain ⟨rakClient, space, hcall⟩ : ∃ rakClient space, attempt.getRakClient
            (attempt.space.word (info.base + compatibility.addresses.netGamePointerRva)) = (rakClient, space) :=
          ⟨_, _, rfl⟩
        simp only [hcall]
        split
        · rename_i hunreadable
          refine ⟨by simpa using ⟨hfirst, hgranted.2⟩, iff_of_false nofun fun h => ?_⟩
          obtain ⟨_, heq, hreadable, -⟩ := h.found
          cases hcall.symm.trans heq
          rw [AddressSpace.isReadable_iff.mpr hreadable] at hunreadable
          cases hunreadable
        · rename_i hreadable
          rw [Bool.not_eq_true', Bool.not_eq_false, AddressSpace.isReadable_iff] at hreadable
          obtain ⟨huses, hclient⟩ := @resolveVtable_spec info client hi space rakClient (space.word rakClient)
          refine ⟨?_, hclient.trans ⟨?_, fun h => ?_⟩⟩
          · simp only [List.cons_append, List.nil_append, List.forall_mem_cons]
            exact ⟨hfirst, hgranted.2, hreadable.allowed, huses⟩
          · rintro ⟨rfl, hvtable, htable⟩
            exact ⟨⟨hslotRva, haddressRva⟩, hgranted.1, hgranted.2, hnetGame, space, hcall, hreadable, hvtable,
              htable⟩
          · obtain ⟨_, heq, -, hvtable, htable⟩ := h.found
            cases hcall.symm.trans heq
            exact ⟨rfl, hvtable, htable⟩
  · rename_i hnone
    refine ⟨nofun, iff_of_false nofun fun h => ?_⟩
    exact hnone _ _ ((ModuleInfo.resolveRva_eq_some_iff hi).mpr ⟨h.rvas.1, rfl, Accessible.contains hi h.netGameSlot⟩)
      ((ModuleInfo.resolveRva_eq_some_iff hi).mpr ⟨h.rvas.2, rfl, hexecutable h.getRakClient⟩)

/-! ## Attempts -/

/-- The first attempt that finds a client counts. -/
theorem resolveAttempts_spec (hi : info.Placed) (compatibility : SampCompatibility) (attempts : List Attempt) :
    (∀ use ∈ (resolveAttempts info compatibility attempts).2, use.Allowed info) ∧
      ((resolveAttempts info compatibility attempts).1 = some client ↔ ∃ (count : Nat) (attempt : Attempt),
        attempts[count]? = some attempt ∧ attempt.Finds info compatibility client ∧ ∀ earlier < count,
          ∀ other : Attempt, attempts[earlier]? = some other → ∀ found, ¬ other.Finds info compatibility found) := by
  induction attempts with
  | nil => exact ⟨nofun, iff_of_false nofun (by simp)⟩
  | cons attempt attempts ih =>
      have hspec := fun client => @resolveRakClient_spec info client hi compatibility attempt
      rw [resolveAttempts]
      generalize resolveRakClient info compatibility attempt = outcome at hspec
      obtain ⟨_ | found, uses⟩ := outcome
      · have hnone : ∀ found, ¬ attempt.Finds info compatibility found :=
          fun found hf => nomatch (hspec found).2.mpr hf
        refine ⟨?_, ih.2.trans ⟨?_, ?_⟩⟩
        · simp only [List.forall_mem_append]
          exact ⟨(hspec client).1, ih.1⟩
        · rintro ⟨count, last, hlast, hfinds, hfirst⟩
          refine ⟨count + 1, last, hlast, hfinds, fun earlier he other ho => ?_⟩
          cases earlier with
          | zero =>
              cases ho
              exact hnone
          | succ earlier => exact hfirst earlier (by omega) other ho
        · rintro ⟨_ | count, last, hlast, hfinds, hfirst⟩
          · cases hlast
            exact absurd hfinds (hnone client)
          · exact ⟨count, last, hlast, hfinds, fun earlier he other ho => hfirst (earlier + 1) (by omega) other ho⟩
      · refine ⟨(hspec client).1, ⟨?_, ?_⟩⟩
        · rintro ⟨⟩
          exact ⟨0, attempt, rfl, (hspec client).2.mp rfl, nofun⟩
        · rintro ⟨_ | count, last, hlast, hfinds, hfirst⟩
          · cases hlast
            exact (hspec client).2.mpr hfinds
          · exact absurd ((hspec found).2.mp rfl) (hfirst 0 (by omega) attempt rfl found)

/-! ## Builds -/

/-- The tables know the build of the entry point and all addresses of the version exactly for these two. -/
theorem tables_iff {version : SampVersion} {entryPoint : UInt32} :
    (∃ build compatibility, findSampBuildAt entryPoint = some build ∧ findCompatibility version = some compatibility ∧
      build.version = version ∧ compatibility.hasAllMappings [.netGame, .getRakClient] = true) ↔
        HasTransport version entryPoint := by
  constructor
  · rintro ⟨build, compatibility, hbuild, hcompatibility, hversion, hmappings⟩
    have hentry : build.entryPoint = entryPoint := by simpa using List.find?_some hbuild
    have hsame : compatibility.version = version := by simpa using List.find?_some hcompatibility
    have hknown := List.mem_of_find?_eq_some hbuild
    have hlisted := List.mem_of_find?_eq_some hcompatibility
    subst hentry
    subst hversion
    simp only [kCompatibility, List.mem_cons, List.not_mem_nil, or_false] at hlisted
    simp only [kKnownBuilds, List.mem_cons, List.not_mem_nil, or_false] at hknown
    -- all others are without addresses
    rcases hlisted with rfl | rfl | rfl | rfl | rfl
    · rcases hknown with rfl | rfl | rfl | rfl | rfl <;> first | exact .inl ⟨rfl, rfl⟩ | cases hsame
    · cases hmappings
    · rcases hknown with rfl | rfl | rfl | rfl | rfl <;> first | exact .inr ⟨rfl, rfl⟩ | cases hsame
    · cases hmappings
    · cases hmappings
  · rintro (⟨rfl, rfl⟩ | ⟨rfl, rfl⟩)
    · exact ⟨_, _, rfl, rfl, rfl, rfl⟩
    · exact ⟨_, _, rfl, rfl, rfl, rfl⟩

/-- Without such a build nothing is tried. -/
theorem resolveTransport_cases (version : SampVersion) (lookup : Except String (ModuleInfo 32))
    (attempts : Nat → Attempt) :
    (resolveTransport version lookup attempts = (false, none, []) ∧
        ¬ ∃ info, lookup = .ok info ∧ HasTransport version info.entryPointRva) ∨
      ∃ info compatibility, lookup = .ok info ∧ HasTransport version info.entryPointRva ∧
        findCompatibility version = some compatibility ∧ resolveTransport version lookup attempts =
          (true, resolveAttempts info compatibility ((List.range kResolveAttempts).map attempts)) := by
  cases lookup with
  | error error => exact .inl ⟨rfl, by simp⟩
  | ok info =>
      have hfound : (∃ found, (.ok info : Except String (ModuleInfo 32)) = .ok found ∧
          HasTransport version found.entryPointRva) ↔
          HasTransport version info.entryPointRva := by simp
      rw [hfound, ← tables_iff]
      rw [resolveTransport]
      by_cases hzero : info.entryPointRva = 0
      · rw [if_pos hzero]
        refine .inl ⟨rfl, ?_⟩
        rintro ⟨build, _, hbuild, -⟩
        rw [hzero] at hbuild
        cases hbuild
      · rw [if_neg hzero]
        cases hbuild : findSampBuildAt info.entryPointRva with
        | none => exact .inl ⟨rfl, by simp⟩
        | some build =>
            cases hcompatibility : findCompatibility version with
            | none => exact .inl ⟨rfl, by simp⟩
            | some compatibility =>
                by_cases hknown : build.version = version ∧
                    compatibility.hasAllMappings [.netGame, .getRakClient] = true
                · refine .inr ⟨info, compatibility, rfl, ?_, rfl, ?_⟩
                  · exact tables_iff.mp ⟨build, compatibility, hbuild, hcompatibility, hknown⟩
                  · simp [hknown]
                · refine .inl ⟨?_, by simpa using hknown⟩
                  have hrefused : (build.version ≠ version ||
                      !compatibility.hasAllMappings [.netGame, .getRakClient]) = true := by
                    rw [not_and_or] at hknown
                    simpa using hknown
                  simp only [hrefused, ↓reduceIte]

end Resolve

end CustomModels.Client
