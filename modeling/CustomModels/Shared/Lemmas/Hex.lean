import CustomModels.Shared.Sha256

/-!
# The hexadecimal spelling of a digest
-/

namespace CustomModels.Shared
open Picosha2

theorem hexValue_hexDigit (byte : UInt8) :
    hexValue (hexDigit (byte / 16)) = some (byte / 16) ∧
      hexValue (hexDigit (byte % 16)) = some (byte % 16) ∧ (byte / 16) <<< 4 ||| byte % 16 = byte := by
  have hall : ∀ n : Fin 256,
      hexValue (hexDigit (UInt8.ofNat n / 16)) = some (UInt8.ofNat n / 16) ∧
        hexValue (hexDigit (UInt8.ofNat n % 16)) = some (UInt8.ofNat n % 16) ∧
        (UInt8.ofNat n / 16) <<< 4 ||| UInt8.ofNat n % 16 = UInt8.ofNat n := by decide +kernel
  have hbyte := hall ⟨byte.toNat, byte.toNat_lt⟩
  rwa [UInt8.ofNat_toNat] at hbyte

theorem parseHexBytes_bytesToHexString (bytes : List UInt8) :
    parseHexBytes (bytesToHexString bytes) = some bytes := by
  induction bytes with
  | nil => rfl
  | cons byte bytes ih =>
      obtain ⟨hhigh, hlow, hbyte⟩ := hexValue_hexDigit byte
      have hcons : bytesToHexString (byte :: bytes) =
          hexDigit (byte / 16) :: hexDigit (byte % 16) :: bytesToHexString bytes := rfl
      simp only [hcons, parseHexBytes, hhigh, hlow, ih, Option.bind_eq_bind, Option.bind_some, hbyte]
      rfl

theorem bytesToHexString_length (bytes : List UInt8) :
    (bytesToHexString bytes).length = 2 * bytes.length := by
  induction bytes with
  | nil => rfl
  | cons byte bytes ih =>
      rw [show bytesToHexString (byte :: bytes) =
        hexDigit (byte / 16) :: hexDigit (byte % 16) :: bytesToHexString bytes from rfl]
      simp only [List.length_cons, ih]
      omega

@[simp] theorem sha256Hex_length (digest : Sha256Digest) : (sha256Hex digest).length = 64 := by
  rw [sha256Hex, bytesToHexString_length, digest.size, kSha256Size]

theorem parseSha256Hex_sha256Hex (digest : Sha256Digest) :
    parseSha256Hex (sha256Hex digest) = some digest := by
  have hlength : ¬ (sha256Hex digest).length ≠ kSha256Size * 2 := not_not.mpr (sha256Hex_length digest)
  rw [parseSha256Hex, if_neg hlength, sha256Hex, parseHexBytes_bytesToHexString]
  simp only [digest.size, ↓reduceDIte]

/-- The converse for one digit and for a pair of them. -/
theorem hexDigit_of_hexValue {digit value : UInt8} (h : hexValue digit = some value) :
    value.toNat < 16 ∧ hexDigit value = digit := by
  have hall : ∀ n : Fin 256, ((hexValue (UInt8.ofNat n)).all fun value =>
      value.toNat < 16 && hexDigit value == UInt8.ofNat n) = true := by decide +kernel
  have hdigit := hall ⟨digit.toNat, digit.toNat_lt⟩
  rw [UInt8.ofNat_toNat, h] at hdigit
  simpa using hdigit

theorem nibbles {high low : UInt8} (hh : high.toNat < 16) (hl : low.toNat < 16) :
    (high <<< 4 ||| low) / 16 = high ∧ (high <<< 4 ||| low) % 16 = low := by
  have hall : ∀ a b : Fin 16, (UInt8.ofNat a <<< 4 ||| UInt8.ofNat b) / 16 = UInt8.ofNat a ∧
      (UInt8.ofNat a <<< 4 ||| UInt8.ofNat b) % 16 = UInt8.ofNat b := by decide +kernel
  have hpair := hall ⟨high.toNat, hh⟩ ⟨low.toNat, hl⟩
  rwa [UInt8.ofNat_toNat, UInt8.ofNat_toNat] at hpair

theorem parseHexBytes_eq_some {text : ByteString} {bytes : List UInt8} (h : parseHexBytes text = some bytes) :
    text = bytesToHexString bytes := by
  induction text using parseHexBytes.induct generalizing bytes with
  | case1 =>
      cases h
      rfl
  | case2 => cases h
  | case3 first second rest ih =>
      simp only [parseHexBytes, Option.bind_eq_bind, Option.bind_eq_some_iff] at h
      obtain ⟨high, hhigh, low, hlow, tail, htail, heq⟩ := h
      cases heq
      obtain ⟨hh, rfl⟩ := hexDigit_of_hexValue hhigh
      obtain ⟨hl, rfl⟩ := hexDigit_of_hexValue hlow
      obtain ⟨hdiv, hmod⟩ := nibbles hh hl
      rw [ih htail]
      simp only [bytesToHexString, List.flatMap_cons, hdiv, hmod]
      rfl

theorem parseSha256Hex_eq_some_iff {text : ByteString} {digest : Sha256Digest} :
    parseSha256Hex text = some digest ↔ text = sha256Hex digest := by
  constructor
  · intro h
    unfold parseSha256Hex at h
    split at h
    · cases h
    · split at h
      · cases h
      · rename_i hbytes
        split at h
        · cases h
          exact parseHexBytes_eq_some hbytes
        · cases h
  · rintro rfl
    exact parseSha256Hex_sha256Hex digest

theorem sha256Hex_injective {a b : Sha256Digest} (h : sha256Hex a = sha256Hex b) : a = b := by
  have ha := parseSha256Hex_sha256Hex a
  rw [h, parseSha256Hex_sha256Hex] at ha
  exact (Option.some.inj ha).symm

/-- The spelling of a digest ends where what follows it begins. -/
theorem sha256Hex_append_inj {a b : Sha256Digest} {s t : ByteString} :
    sha256Hex a ++ s = sha256Hex b ++ t ↔ a = b ∧ s = t := by
  constructor
  · intro h
    obtain ⟨hhex, hrest⟩ := List.append_inj h (by simp)
    exact ⟨sha256Hex_injective hhex, hrest⟩
  · rintro ⟨rfl, rfl⟩
    rfl

end CustomModels.Shared
