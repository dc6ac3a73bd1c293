import CustomModels.Lib.Blocks
import CustomModels.Lib.Digits
import CustomModels.Shared.Sha256

/-!
# The digest of data that arrives in chunks

PicoSHA2's `hash256_one_by_one`: what `Sha256` runs once over all its bytes and `Sha256File` over what each
read of the file has given.
-/

namespace CustomModels.Shared
open CustomModels.Lib

namespace Picosha2

/-- `data_length_digits_`: 16 bits in each of four words, the lowest digit first. -/
structure DataLength where
  digits : List Nat
  size : digits.length = 4
  below : ∀ digit ∈ digits, digit < 65536

/-- The loop of `add_to_data_length`; it breaks at a digit that does not overflow. -/
def handOn : (carry : Nat) → List Nat → List Nat
  | _, [] => []
  | carry, digit :: digits =>
      let sum := (digit + carry) % 2 ^ 32
      if 65536 ≤ sum then (sum &&& 65535) :: handOn (sum >>> 16) digits else sum :: digits

def addToDataLength (n : Nat) : List Nat → List Nat
  | [] => []
  | digit :: digits => handOn 0 ((digit + n % 2 ^ 32) % 2 ^ 32 :: digits)

/-- The loop of `write_data_bit_length`: three bits to the left over all digits. -/
def shiftDigits : (carry : Nat) → List Nat → List Nat
  | _, [] => []
  | carry, digit :: digits =>
      (((digit <<< 3) % 2 ^ 32 ||| carry) &&& 65535) :: shiftDigits ((digit >>> 13) &&& 65535) digits

/-- The bytes of the bit length, from the highest digit down. -/
def writeDataBitLength (length : DataLength) : List UInt8 :=
  (shiftDigits 0 length.digits).reverse.flatMap fun digit => [UInt8.ofNat (digit >>> 8), UInt8.ofNat digit]

theorem handOn_length {carry : Nat} {digits : List Nat} : (handOn carry digits).length = digits.length := by
  induction digits generalizing carry with
  | nil => rfl
  | cons digit digits ih =>
      simp only [handOn]
      split
      · simp [ih]
      · simp

theorem handOn_lt {carry : Nat} {digits : List Nat} (below : ∀ digit ∈ digits.tail, digit < 65536) :
    ∀ digit ∈ handOn carry digits, digit < 65536 := by
  induction digits generalizing carry with
  | nil => simp [handOn]
  | cons digit digits ih =>
      have rest : ∀ digit ∈ digits.tail, digit < 65536 := fun d h => below d (List.mem_of_mem_tail h)
      simp only [handOn]
      split
      · intro d h
        cases List.mem_cons.mp h with
        | inl h =>
            rw [h, Nat.and_two_pow_sub_one_eq_mod _ 16]
            omega
        | inr h => exact ih rest d h
      · intro d h
        cases List.mem_cons.mp h with
        | inl h => omega
        | inr h => exact below d h

namespace DataLength

def zero : DataLength := ⟨List.replicate 4 0, rfl, by simp⟩

def add (length : DataLength) (n : Nat) : DataLength where
  digits := addToDataLength n length.digits
  size := by
    obtain ⟨digits, size, below⟩ := length
    cases digits with
    | nil => exact size
    | cons digit digits => simpa [addToDataLength, handOn_length] using size
  below := by
    obtain ⟨digits, size, below⟩ := length
    cases digits with
    | nil => simp [addToDataLength]
    | cons digit digits => exact handOn_lt fun d h => below d (List.mem_cons_of_mem _ h)

end DataLength

/-- Between calls the buffer holds less than a block. -/
structure Hash256OneByOne where
  buffer : List UInt8
  dataLength : DataLength
  h : Words
  short : buffer.length < 64

namespace Hash256OneByOne

def init : Hash256OneByOne := ⟨[], .zero, initialMessageDigest, by decide⟩

def process (hasher : Hash256OneByOne) (chunk : List UInt8) : Hash256OneByOne :=
  let taken := absorb 64 hash256Block hasher.h (hasher.buffer ++ chunk)
  ⟨taken.2, hasher.dataLength.add chunk.length, taken.1, absorb_rest_lt⟩

/-- `std::fill` with zeros over `temp[first, last)`. -/
def clear (temp : List UInt8) (first last : Nat) : List UInt8 :=
  temp.take first ++ List.replicate (last - first) 0 ++ temp.drop last

/-- What `h_` holds after `finish`. The branch on 64 and more bytes in the buffer is dead. -/
def finish (hasher : Hash256OneByOne) : Words :=
  let remains := hasher.buffer.length
  let temp := (hasher.buffer ++ List.replicate (64 - remains) 0).set remains 0x80
  if 55 < remains then
    let temp := clear temp (remains + 1) 64
    let h := hash256Block hasher.h temp
    let temp := clear temp 0 60
    hash256Block h (temp.take 56 ++ writeDataBitLength hasher.dataLength)
  else
    let temp := clear temp (remains + 1) 60
    hash256Block hasher.h (temp.take 56 ++ writeDataBitLength hasher.dataLength)

def digest (hasher : Hash256OneByOne) : Sha256Digest := ⟨getHashBytes hasher.finish, rfl⟩

end Hash256OneByOne

end Picosha2

/-! ## Files -/

/-- What one `read` into the buffer of 64 KiB counts. -/
abbrev ReadBytes := { bytes : List UInt8 // bytes.length ≤ 64 * 1024 }

/-- An opened file, as its reads answer: the stream stays good as long as the buffer is filled, the last read ends at
the end of the file or breaks. -/
inductive FileStream where
  | full (bytes : ReadBytes) (rest : FileStream)
  | eof (bytes : ReadBytes)
  | bad (bytes : ReadBytes)

namespace FileStream

/-- The bytes of a file that can be read to its end. -/
def contents : FileStream → Option (List UInt8)
  | full bytes rest => rest.contents.map (bytes.1 ++ ·)
  | eof bytes => some bytes.1
  | bad _ => none

end FileStream

/-- The body of the loop of `Sha256File`. -/
def processRead (hasher : Picosha2.Hash256OneByOne) (bytes : ReadBytes) : Picosha2.Hash256OneByOne :=
  if 0 < bytes.1.length then hasher.process bytes.1 else hasher

def readStream (hasher : Picosha2.Hash256OneByOne) : FileStream → Option Picosha2.Hash256OneByOne
  | .full bytes rest => readStream (processRead hasher bytes) rest
  | .eof bytes => some (processRead hasher bytes)
  | .bad _ => none

/-- `none` for a file that does not open. -/
def sha256File : Option FileStream → Option Sha256Digest
  | none => none
  | some stream => (readStream .init stream).map (·.digest)

end CustomModels.Shared
