import CustomModels.Client.Module
import CustomModels.Shared.Lemmas.PeImage

/-!
# Modules of the process

What the range checks mean over the natural numbers, and what a walk over the regions of a range has seen.
-/

namespace CustomModels.Client
open CustomModels.Shared

variable {width : Nat}

theorem toNat_allOnes_sub (x : BitVec width) : (BitVec.allOnes width - x).toNat = 2 ^ width - 1 - x.toNat := by
  have hx := x.isLt
  rw [BitVec.toNat_sub_of_le, BitVec.toNat_allOnes]
  rw [BitVec.le_def, BitVec.toNat_allOnes]
  omega

/-- Below the end of the address space nothing wraps. -/
theorem toNat_add_of_le {x y : BitVec width} (h : x.toNat + y.toNat ≤ 2 ^ width - 1) :
    (x + y).toNat = x.toNat + y.toNat := by
  have hx := x.isLt
  rw [BitVec.toNat_add]
  exact Nat.mod_eq_of_lt (by omega)

namespace ModuleInfo

variable {info : ModuleInfo width} {address length rva : BitVec width}

/-! ## Ranges -/

theorem contains_iff : info.contains address length = true ↔
    0 < info.base.toNat ∧ 1 ≤ length.toNat ∧ info.base.toNat ≤ address.toNat ∧
      address.toNat + length.toNat ≤ info.base.toNat + info.imageSize.toNat := by
  unfold contains
  split
  · rename_i hnone
    rw [BitVec.toNat_eq, BitVec.toNat_eq, BitVec.lt_def] at hnone
    simp only [BitVec.ofNat_eq_ofNat, BitVec.toNat_ofNat, Nat.zero_mod] at hnone
    simp only [Bool.false_eq_true, false_iff]
    omega
  · rename_i hsome
    rw [BitVec.toNat_eq, BitVec.toNat_eq, BitVec.lt_def] at hsome
    simp only [BitVec.ofNat_eq_ofNat, BitVec.toNat_ofNat, Nat.zero_mod, not_or, not_lt] at hsome
    have hoffset : (address - info.base).toNat = address.toNat - info.base.toNat :=
      BitVec.toNat_sub_of_le (BitVec.le_def.mpr hsome.2.2)
    simp only
    split
    · rename_i hbehind
      rw [BitVec.le_def, hoffset] at hbehind
      simp only [Bool.false_eq_true, false_iff]
      omega
    · rename_i hinside
      rw [BitVec.le_def, hoffset] at hinside
      have hrest : (info.imageSize - (address - info.base)).toNat =
          info.imageSize.toNat - (address.toNat - info.base.toNat) := by
        rw [BitVec.toNat_sub_of_le (BitVec.le_def.mpr (by omega)), hoffset]
      rw [Bool.and_eq_true, bne_iff_ne, BitVec.toNat_ne, decide_eq_true_eq, BitVec.le_def, hrest]
      simp only [BitVec.ofNat_eq_ofNat, BitVec.toNat_ofNat, Nat.zero_mod]
      omega

/-- The check on the sum of base and RVA never refuses what is within the image. -/
theorem resolveRva_isSome_iff (h : info.Placed) : (info.resolveRva rva length).isSome = true ↔
    1 ≤ rva.toNat ∧ 1 ≤ length.toNat ∧ rva.toNat + length.toNat ≤ info.imageSize.toNat := by
  have hbase := h.base
  have hfits := h.fits
  unfold resolveRva
  split
  · rename_i hrefused
    rw [BitVec.toNat_eq, BitVec.lt_def, toNat_allOnes_sub] at hrefused
    simp only [BitVec.ofNat_eq_ofNat, BitVec.toNat_ofNat, Nat.zero_mod] at hrefused
    simp only [Option.isSome_none, Bool.false_eq_true, false_iff]
    omega
  · rename_i hsum
    rw [BitVec.toNat_eq, BitVec.lt_def, toNat_allOnes_sub] at hsum
    simp only [BitVec.ofNat_eq_ofNat, BitVec.toNat_ofNat, Nat.zero_mod, not_or, not_lt] at hsum
    have haddress : (info.base + rva).toNat = info.base.toNat + rva.toNat := toNat_add_of_le (by omega)
    have hcontains := @contains_iff _ info (info.base + rva) length
    rw [haddress] at hcontains
    simp only
    split
    · rename_i hout
      rw [Bool.not_eq_true', ← Bool.not_eq_true, hcontains] at hout
      simp only [Option.isSome_none, Bool.false_eq_true, false_iff]
      omega
    · rename_i hin
      rw [Bool.not_eq_true', Bool.not_eq_false, hcontains] at hin
      simp only [Option.isSome_some, true_iff]
      omega

theorem resolveRva_eq_some (h : info.resolveRva rva length = some address) :
    address.toNat = info.base.toNat + rva.toNat := by
  unfold resolveRva at h
  split at h
  · cases h
  · rename_i hsum
    rw [not_or, BitVec.lt_def, toNat_allOnes_sub] at hsum
    have hbase := info.base.isLt
    simp only at h
    split at h
    · cases h
    · cases h
      exact toNat_add_of_le (by omega)

/-! ## Regions -/

variable {query : VirtualQuery width} {memory : Nat → BitVec width → MemoryCell width}
  {region : MemoryBasicInformation width} {stop current next : BitVec width} {fuel index : Nat}

theorem not_isBlocked_iff : region.isBlocked = false ↔
    region.state = memCommit ∧ region.protect &&& pageGuard = 0 ∧ region.protect &&& pageNoAccess = 0 := by
  have hmask : region.protect &&& (pageGuard ||| pageNoAccess) =
      region.protect &&& pageGuard ||| region.protect &&& pageNoAccess :=
    UInt32.eq_of_toBitVec_eq BitVec.and_or_distrib_left
  rw [MemoryBasicInformation.isBlocked, Bool.or_eq_false_iff, bne_eq_false_iff_eq, bne_eq_false_iff_eq, hmask,
    UInt32.or_eq_zero_iff]

/-- A turn that goes on has seen an accessible region of the module, and goes on behind it. -/
theorem nextRegion_eq_some {answer : Option (MemoryBasicInformation width)}
    (h : info.nextRegion answer current = some next) :
    current.toNat < next.toNat ∧ ∃ region, answer = some region ∧ region.isBlocked = false ∧
      region.allocationBase = info.base ∧ next.toNat = region.baseAddress.toNat + region.regionSize.toNat := by
  cases answer with
  | none => cases h
  | some region =>
      simp only [nextRegion] at h
      split at h
      · cases h
      · rename_i hblocked
        split at h
        · cases h
        · rename_i hallocation
          split at h
          · cases h
          · rename_i hsize
            split at h
            · cases h
            · rename_i hprogress
              cases h
              rw [BitVec.lt_def, toNat_allOnes_sub, not_lt] at hsize
              have hbase := region.baseAddress.isLt
              refine ⟨BitVec.lt_def.mp (BitVec.not_le.mp hprogress), region, rfl, by simpa using hblocked,
                not_not.mp hallocation, toNat_add_of_le (by omega)⟩

/-- Every turn gets closer to the end of the range, so there are at most as many as it has bytes. -/
theorem walkRegions_ends (info : ModuleInfo width) (query : VirtualQuery width) (index : Nat)
    (hf : stop.toNat ≤ fuel + current.toNat) :
    ∃ verdict, ∀ more, info.walkRegions query stop (fuel + 1 + more) index current = some verdict := by
  induction fuel generalizing index current with
  | zero =>
      have hstop : ¬ current < stop := by
        rw [BitVec.lt_def]
        omega
      refine ⟨true, fun more => ?_⟩
      rw [Nat.zero_add, Nat.add_comm, walkRegions, if_neg hstop]
  | succ fuel ih =>
      have hsucc : ∀ more, fuel + 1 + 1 + more = fuel + 1 + more + 1 := fun more => by omega
      simp only [hsucc, walkRegions]
      by_cases hstop : current < stop
      · simp only [if_pos hstop]
        cases hnext : info.nextRegion (query index current) current with
        | none => exact ⟨false, fun more => rfl⟩
        | some next =>
            obtain ⟨hprogress, -⟩ := nextRegion_eq_some hnext
            exact ih (index + 1) (by omega)
      · exact ⟨true, fun more => if_neg hstop⟩

/-- A walk that ends well has seen accessible regions of the module all the way. -/
theorem walkRegions_accessible
    (hq : ∀ call address region, query call address = some region → region.Describes (memory call) address)
    (h : info.walkRegions query stop fuel index current = some true) {byte : BitVec width}
    (hlower : current.toNat ≤ byte.toNat) (hupper : byte.toNat < stop.toNat) :
    ∃ call, (memory call byte).Accessible info.base := by
  induction fuel generalizing index current with
  | zero => cases h
  | succ fuel ih =>
      rw [walkRegions, if_pos (BitVec.lt_def.mpr (by omega))] at h
      cases hnext : info.nextRegion (query index current) current with
      | none =>
          rw [hnext] at h
          cases h
      | some next =>
          rw [hnext] at h
          obtain ⟨hprogress, region, hregion, hblocked, hallocation, hend⟩ := nextRegion_eq_some hnext
          obtain ⟨hcommitted, hunguarded, haccess⟩ := not_isBlocked_iff.mp hblocked
          have hdescribes := hq index current region hregion
          -- the byte is in the region of this turn, or the walk goes on to it
          by_cases hbyte : byte.toNat < next.toNat
          · have hcell := hdescribes.cells byte (by have := hdescribes.lower; omega) (by omega)
            refine ⟨index, ?_⟩
            rw [hcell]
            exact ⟨hcommitted, hunguarded, haccess, hallocation⟩
          · exact ih h (by omega)

theorem isAccessible_ends (info : ModuleInfo width) (query : VirtualQuery width) (address length : BitVec width) :
    ∃ verdict, ∀ more, info.isAccessible query address length (length.toNat + 1 + more) = some verdict := by
  unfold isAccessible
  split
  · exact ⟨false, fun more => rfl⟩
  · apply walkRegions_ends
    rw [BitVec.toNat_add]
    have hmod := Nat.mod_le (address.toNat + length.toNat) (2 ^ width)
    omega

theorem isAccessible_true (h : info.Placed)
    (hq : ∀ call address region, query call address = some region → region.Describes (memory call) address)
    (ha : info.isAccessible query address length fuel = some true) :
    1 ≤ length.toNat ∧ info.base.toNat ≤ address.toNat ∧
      address.toNat + length.toNat ≤ info.base.toNat + info.imageSize.toNat ∧
      ∀ byte : BitVec width, address.toNat ≤ byte.toNat → byte.toNat < address.toNat + length.toNat →
        ∃ call, (memory call byte).Accessible info.base := by
  unfold isAccessible at ha
  split at ha
  · cases ha
  · rename_i hcontains
    rw [Bool.not_eq_true', Bool.not_eq_false, contains_iff] at hcontains
    obtain ⟨-, hlength, hbase, hend⟩ := hcontains
    have hfits := h.fits
    have hstop : (address + length).toNat = address.toNat + length.toNat := toNat_add_of_le (by omega)
    refine ⟨hlength, hbase, hend, fun byte hlower hupper => ?_⟩
    exact walkRegions_accessible hq ha hlower (by rw [hstop]; exact hupper)

end ModuleInfo

/-! ## `FindLoadedModule` -/

/-- An image that is parsed and ends before the address space does. -/
theorem placed_of_image {view : ImageView} {image : PeImageInfo} {handle : BitVec 32} (hh : handle ≠ 0)
    (hi : (runPeImage (some view)).1 = .ok image)
    (hf : ¬ BitVec.allOnes 32 - handle < image.sizeOfImage.toBitVec) :
    ModuleInfo.Placed ⟨handle, handle, image.sizeOfImage.toBitVec, image.entryPointRva, image.kind == .pe32⟩ := by
  rw [BitVec.lt_def, toNat_allOnes_sub, not_lt] at hf
  have hlimit := handle.isLt
  have hbase : handle.toNat ≠ 0 := fun hzero => hh (BitVec.eq_of_toNat_eq hzero)
  have hsize : image.sizeOfImage.toBitVec.toNat ≠ 0 :=
    fun hzero => sizeOfImage_ne_zero hi (UInt32.toNat_inj.mp hzero)
  have hend : handle.toNat + image.sizeOfImage.toBitVec.toNat ≤ 2 ^ 32 - 1 := by omega
  exact ⟨Nat.pos_of_ne_zero hbase, Nat.pos_of_ne_zero hsize, hend⟩

theorem findLoadedModule_placed {name : Option (List UInt16)} {handle : BitVec 32}
    {answer : Option (MemoryBasicInformation 32)} {contents : BitVec 32 → UInt8} {info : ModuleInfo 32}
    (h : findLoadedModule name handle answer contents = .ok info) : info.Placed ∧ info.base = handle := by
  unfold findLoadedModule at h
  split at h
  · cases h
  · split at h
    · cases h
    · rename_i hhandle
      cases answer with
      | none => cases h
      | some memory =>
          simp only at h
          split at h
          · cases h
          · split at h
            · cases h
            · split at h
              · cases h
              · split at h
                · cases h
                · rename_i image himage
                  split at h
                  · cases h
                  · rename_i hfits
                    cases h
                    exact ⟨placed_of_image hhandle himage hfits, rfl⟩

end CustomModels.Client
