import CustomModels.Shared.PeImage

/-!
# Reads of an image

The parser's ranges are checked before the reads, without an overflow of the 32-bit offsets. So no read fails, and
what the parser returns is what the image has at these offsets.
-/

namespace CustomModels.Shared
open CustomModels.Lib

variable {data : ImageView} {offset : UInt32}

/-! ## Ranges -/

theorem ImageView.toNat_size (data : ImageView) : data.size.toNat = data.bytes.length :=
  UInt32.toNat_ofNat_of_lt data.fits

theorem canRead_iff {length : UInt32} :
    canRead offset length data.size = true ↔ offset.toNat + length.toNat ≤ data.bytes.length := by
  rw [canRead, Bool.and_eq_true, decide_eq_true_eq, decide_eq_true_eq, UInt32.le_iff_toNat_le,
    UInt32.le_iff_toNat_le, data.toNat_size]
  constructor
  · intro ⟨ho, hl⟩
    rw [UInt32.toNat_sub_of_le _ _ (UInt32.le_iff_toNat_le.mpr (data.toNat_size ▸ ho)), data.toNat_size] at hl
    omega
  · intro h
    have ho : offset.toNat ≤ data.bytes.length := by omega
    rw [UInt32.toNat_sub_of_le _ _ (UInt32.le_iff_toNat_le.mpr (data.toNat_size ▸ ho)), data.toNat_size]
    omega

/-- The offset of a field within the image is not wrapped around. -/
theorem ImageView.toNat_field (data : ImageView) {field : UInt32} {index distance : Nat} (ho : offset.toNat = index)
    (hf : field.toNat = distance) (hin : index + distance ≤ data.bytes.length) :
    (offset + field).toNat = index + distance := by
  have hfits := data.fits
  rw [UInt32.toNat_add, ho, hf]
  exact Nat.mod_eq_of_lt (lt_of_le_of_lt hin hfits)

/-! ## Runs of the parser -/

/-- The read is within the image. -/
def PeRead.Within (data : ImageView) (read : PeRead) : Prop :=
  read.succeeded = true ∧ read.offset.toNat + read.width.toNat ≤ data.bytes.length

/-- The parser makes reads within the image only, and returns something with `Q`. -/
def PeParser.Returns {α : Type} (data : ImageView) (parser : PeParser α) (Q : Except PeParseError α → Prop) : Prop :=
  ∀ reads : List PeRead, (∀ read ∈ reads, read.Within data) →
    Q (parser.run.run reads).1 ∧ ∀ read ∈ (parser.run.run reads).2, read.Within data

namespace PeParser.Returns

variable {α β : Type} {Q : Except PeParseError β → Prop}

theorem throw {error : PeParseError} (h : Q (.error error)) :
    Returns data (MonadExcept.throw error : PeParser β) Q := fun _ hreads => ⟨h, hreads⟩

theorem pure {value : β} (h : Q (.ok value)) : Returns data (Pure.pure value : PeParser β) Q :=
  fun _ hreads => ⟨h, hreads⟩

theorem read {α : Type} {width : UInt32} {valueAt : List UInt8 → Nat → α} {initial : α} {f : α → PeParser β}
    (hin : offset.toNat + width.toNat ≤ data.bytes.length)
    (h : Returns data (f (valueAt data.bytes offset.toNat)) Q) :
    Returns data (Shared.read width valueAt initial data offset >>= f) Q := by
  intro reads hreads
  have hcan : canRead offset width data.size = true := canRead_iff.mpr hin
  have hrun : (Shared.read width valueAt initial data offset >>= f).run.run reads =
      (f (valueAt data.bytes offset.toNat)).run.run (reads ++ [⟨offset, width, true⟩]) := by
    show (f (if canRead offset width data.size = true then _ else _)).run.run
      (reads ++ [⟨offset, width, canRead offset width data.size⟩]) = _
    rw [if_pos hcan, hcan]
  rw [hrun]
  refine h _ fun call hcall => ?_
  rcases List.mem_append.mp hcall with hcall | hcall
  · exact hreads call hcall
  · cases List.mem_singleton.mp hcall
    exact ⟨rfl, hin⟩

theorem read16 {index : Nat} {f : UInt16 → PeParser β} (ho : offset.toNat = index)
    (hin : index + 2 ≤ data.bytes.length) (h : Returns data (f (u16At data.bytes index)) Q) :
    Returns data (Shared.read16 data offset >>= f) Q := by
  subst ho
  exact read hin h

theorem read32 {index : Nat} {f : UInt32 → PeParser β} (ho : offset.toNat = index)
    (hin : index + 4 ≤ data.bytes.length) (h : Returns data (f (u32At data.bytes index)) Q) :
    Returns data (Shared.read32 data offset >>= f) Q := by
  subst ho
  exact read hin h

end PeParser.Returns

/-! ## `ParsePeImage` -/

/-- The parser returns the fields of an image exactly if it is one. -/
def Exact (bytes : List UInt8) (result : Except PeParseError PeImageInfo) : Prop :=
  ∀ info, result = .ok info ↔ PeImage bytes ∧ info = imageInfo bytes

theorem exact_error {bytes : List UInt8} {error : PeParseError} (h : ¬ PeImage bytes) :
    Exact bytes (.error error) := fun _ => iff_of_false (fun h => by cases h) fun hi => h hi.1

/-- The optional header decides, if everything before it is that of an image. -/
theorem parseOptionalHeader_returns (hoffset : offset.toNat = ntOffsetOf data.bytes + 24)
    (hin : ntOffsetOf data.bytes + 84 ≤ data.bytes.length)
    (hrest : u16At data.bytes (ntOffsetOf data.bytes + 24) = 0x10B ∨
        u16At data.bytes (ntOffsetOf data.bytes + 24) = 0x20B →
      u32At data.bytes (ntOffsetOf data.bytes + 80) ≠ 0 → PeImage data.bytes) :
    (parseOptionalHeader data offset).Returns data (Exact data.bytes) := by
  have hmagic : (offset + kOptionalHeaderMagicOffset).toNat = ntOffsetOf data.bytes + 24 + 0 :=
    data.toNat_field hoffset rfl (by omega)
  have hentry : (offset + kEntryPointOffset).toNat = ntOffsetOf data.bytes + 24 + 16 :=
    data.toNat_field hoffset rfl (by omega)
  have hsize : (offset + kImageSizeOffset).toNat = ntOffsetOf data.bytes + 24 + 56 :=
    data.toNat_field hoffset rfl (by omega)
  -- behind the magic, for either kind
  have htail : ∀ kind, kind = (imageInfo data.bytes).kind →
      (u32At data.bytes (ntOffsetOf data.bytes + 80) ≠ 0 → PeImage data.bytes) →
      PeParser.Returns data (do
        let entryPointRva ← read32 data (offset + kEntryPointOffset)
        let sizeOfImage ← read32 data (offset + kImageSizeOffset)
        if sizeOfImage = 0 then throw PeParseError.invalidImageSize
        else return ⟨kind, entryPointRva, sizeOfImage⟩) (Exact data.bytes) := by
    intro kind hkind himage
    apply PeParser.Returns.read32 hentry (by omega)
    apply PeParser.Returns.read32 hsize (by omega)
    split
    · rename_i hzero
      exact .throw (exact_error fun h => h.imageSize hzero)
    · rename_i hnonzero
      refine .pure fun info => ?_
      rw [Except.ok.injEq, and_iff_right (himage hnonzero), hkind]
      exact eq_comm
  rw [parseOptionalHeader]
  apply PeParser.Returns.read16 hmagic (by omega)
  by_cases h32 : u16At data.bytes (ntOffsetOf data.bytes + 24) = kPe32Magic
  · rw [if_pos h32, pure_bind]
    exact htail _ (if_pos h32).symm (hrest (.inl h32))
  · by_cases h32Plus : u16At data.bytes (ntOffsetOf data.bytes + 24) = kPe32PlusMagic
    · rw [if_neg h32, if_pos h32Plus, pure_bind]
      exact htail _ (if_neg h32).symm (hrest (.inr h32Plus))
    · rw [if_neg h32, if_neg h32Plus]
      exact .throw (exact_error fun h => h.optionalMagic.elim h32 h32Plus)

/-- The NT headers decide, if the DOS header is that of an image. -/
theorem parseNtHeaders_returns (hoffset : offset = u32At data.bytes 0x3C)
    (hin : ntOffsetOf data.bytes + 24 ≤ data.bytes.length) (hdos : 64 ≤ data.bytes.length)
    (hsignature : u16At data.bytes 0 = 0x5A4D) :
    (parseNtHeaders data offset).Returns data (Exact data.bytes) := by
  have hnt : offset.toNat = ntOffsetOf data.bytes := congrArg UInt32.toNat hoffset
  have hcoff : (offset + 4).toNat = ntOffsetOf data.bytes + 4 := data.toNat_field hnt rfl (by omega)
  have hcoffSize : (offset + 4 + 16).toNat = ntOffsetOf data.bytes + 4 + 16 :=
    data.toNat_field hcoff rfl (by omega)
  have hoptional : (offset + 4 + kCoffHeaderSize).toNat = ntOffsetOf data.bytes + 4 + 20 :=
    data.toNat_field hcoff rfl (by omega)
  rw [parseNtHeaders]
  apply PeParser.Returns.read32 hnt (by omega)
  split
  · rename_i hne
    exact .throw (exact_error fun h => hne h.ntSignature)
  · rename_i heq
    apply PeParser.Returns.read16 hcoffSize (by omega)
    have hwidth : (u16At data.bytes (ntOffsetOf data.bytes + 4 + 16)).toUInt32.toNat = optionalSizeOf data.bytes :=
      UInt16.toNat_toUInt32 _
    split
    · rename_i hsmall
      rw [UInt32.lt_iff_toNat_lt, hwidth] at hsmall
      exact .throw (exact_error fun h => absurd h.optionalSize (Nat.not_le.mpr hsmall))
    · rename_i hlarge
      rw [UInt32.lt_iff_toNat_lt, hwidth, Nat.not_lt] at hlarge
      have hcan := @canRead_iff data (offset + 4 + kCoffHeaderSize)
        (u16At data.bytes (ntOffsetOf data.bytes + 4 + 16)).toUInt32
      rw [hoptional, hwidth] at hcan
      dsimp only
      split
      · rename_i hcannot
        refine .throw (exact_error fun h => ?_)
        rw [hcan.mpr h.optionalHeader] at hcannot
        cases hcannot
      · rename_i hcannot
        have hheader : ntOffsetOf data.bytes + 24 + optionalSizeOf data.bytes ≤ data.bytes.length :=
          hcan.mp (by simpa using hcannot)
        have hsize : 60 ≤ optionalSizeOf data.bytes := hlarge
        exact parseOptionalHeader_returns hoptional (by omega) fun hmagic himage =>
          ⟨hdos, hsignature, hin, not_not.mp heq, hsize, hheader, hmagic, himage⟩

theorem parsePeImage_returns (data : ImageView) :
    (parsePeImage (some data)).Returns data (Exact data.bytes) := by
  rw [parsePeImage]
  split
  · rename_i hshort
    rw [UInt32.lt_iff_toNat_lt, data.toNat_size] at hshort
    exact .throw (exact_error fun h => absurd h.dosHeader (Nat.not_le.mpr hshort))
  · rename_i hlong
    rw [UInt32.lt_iff_toNat_lt, data.toNat_size, Nat.not_lt] at hlong
    have hdos : 64 ≤ data.bytes.length := hlong
    apply PeParser.Returns.read16 rfl (Nat.le_trans (by decide) hdos)
    split
    · rename_i hne
      exact .throw (exact_error fun h => hne h.dosSignature)
    · rename_i heq
      apply PeParser.Returns.read32 rfl (Nat.le_trans (by decide) hdos)
      have hcan := @canRead_iff data (u32At data.bytes kNtHeaderOffsetField.toNat) (4 + kCoffHeaderSize)
      split
      · rename_i hcannot
        refine .throw (exact_error fun h => ?_)
        rw [hcan.mpr h.ntHeaders] at hcannot
        cases hcannot
      · rename_i hcannot
        exact parseNtHeaders_returns rfl (hcan.mp (by simpa using hcannot)) hdos (not_not.mp heq)

theorem sizeOfImage_ne_zero {data : ImageView} {info : PeImageInfo} (h : (runPeImage (some data)).1 = .ok info) :
    info.sizeOfImage ≠ 0 := by
  obtain ⟨hexact, -⟩ := parsePeImage_returns data [] (by simp)
  obtain ⟨himage, rfl⟩ := (hexact info).mp h
  exact himage.imageSize

end CustomModels.Shared
