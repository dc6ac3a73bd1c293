import CustomModels.Lib.BigEndian
import CustomModels.Shared.Assets

/-!
# SHA-256

What `sha256.cpp` uses of the vendored PicoSHA2: the digest of a byte sequence and its hexadecimal
spelling. A `word_t` is masked to 32 bits wherever that shows, so it is a `UInt32` here.
-/

namespace CustomModels.Shared
open CustomModels.Lib

namespace Picosha2

def addConstant : List UInt32 :=
  [0x428a2f98, 0x71374491, 0xb5c0fbcf, 0xe9b5dba5, 0x3956c25b, 0x59f111f1, 0x923f82a4, 0xab1c5ed5,
   0xd807aa98, 0x12835b01, 0x243185be, 0x550c7dc3, 0x72be5d74, 0x80deb1fe, 0x9bdc06a7, 0xc19bf174,
   0xe49b69c1, 0xefbe4786, 0x0fc19dc6, 0x240ca1cc, 0x2de92c6f, 0x4a7484aa, 0x5cb0a9dc, 0x76f988da,
   0x983e5152, 0xa831c66d, 0xb00327c8, 0xbf597fc7, 0xc6e00bf3, 0xd5a79147, 0x06ca6351, 0x14292967,
   0x27b70a85, 0x2e1b2138, 0x4d2c6dfc, 0x53380d13, 0x650a7354, 0x766a0abb, 0x81c2c92e, 0x92722c85,
   0xa2bfe8a1, 0xa81a664b, 0xc24b8b70, 0xc76c51a3, 0xd192e819, 0xd6990624, 0xf40e3585, 0x106aa070,
   0x19a4c116, 0x1e376c08, 0x2748774c, 0x34b0bcb5, 0x391c0cb3, 0x4ed8aa4a, 0x5b9cca4f, 0x682e6ff3,
   0x748f82ee, 0x78a5636f, 0x84c87814, 0x8cc70208, 0x90befffa, 0xa4506ceb, 0xbef9a3f7, 0xc67178f2]

/-- The working variables `a` to `h`, and the message digest between blocks. -/
structure Words where
  a : UInt32
  b : UInt32
  c : UInt32
  d : UInt32
  e : UInt32
  f : UInt32
  g : UInt32
  h : UInt32

def initialMessageDigest : Words :=
  ⟨0x6a09e667, 0xbb67ae85, 0x3c6ef372, 0xa54ff53a, 0x510e527f, 0x9b05688c, 0x1f83d9ab, 0x5be0cd19⟩

def ch (x y z : UInt32) : UInt32 := (x &&& y) ^^^ (~~~x &&& z)

def maj (x y z : UInt32) : UInt32 := (x &&& y) ^^^ (x &&& z) ^^^ (y &&& z)

def rotr (x n : UInt32) : UInt32 := (x >>> n) ||| (x <<< (32 - n))

def bsig0 (x : UInt32) : UInt32 := rotr x 2 ^^^ rotr x 13 ^^^ rotr x 22

def bsig1 (x : UInt32) : UInt32 := rotr x 6 ^^^ rotr x 11 ^^^ rotr x 25

def ssig0 (x : UInt32) : UInt32 := rotr x 7 ^^^ rotr x 18 ^^^ (x >>> 3)

def ssig1 (x : UInt32) : UInt32 := rotr x 17 ^^^ rotr x 19 ^^^ (x >>> 10)

/-- The big-endian words of a block. -/
def blockWords : List UInt8 → List UInt32
  | b0 :: b1 :: b2 :: b3 :: rest => ofBe32 b0 b1 b2 b3 :: blockWords rest
  | _ => []

/-- `n` more words of the message schedule. The latest word stands first: `w[i - 2]` is at index 1. -/
def extendSchedule : Nat → List UInt32 → List UInt32
  | 0, w => w
  | n + 1, w =>
      extendSchedule n ((ssig1 (w.getD 1 0) + w.getD 6 0 + ssig0 (w.getD 14 0) + w.getD 15 0) :: w)

def round (s : Words) (constant word : UInt32) : Words :=
  let temp1 := s.h + bsig1 s.e + ch s.e s.f s.g + constant + word
  let temp2 := bsig0 s.a + maj s.a s.b s.c
  ⟨temp1 + temp2, s.a, s.b, s.c, s.d + temp1, s.e, s.f, s.g⟩

def hash256Block (digest : Words) (block : List UInt8) : Words :=
  let w := (extendSchedule 48 (blockWords block).reverse).reverse
  let s := (addConstant.zip w).foldl (fun s kw => round s kw.1 kw.2) digest
  ⟨digest.a + s.a, digest.b + s.b, digest.c + s.c, digest.d + s.d,
   digest.e + s.e, digest.f + s.f, digest.g + s.g, digest.h + s.h⟩

/-- What `finish` appends to the data: the bit 1, zeros up to 8 bytes short of a block, the bit length. -/
def padding (length : Nat) : List UInt8 :=
  0x80 :: List.replicate ((119 - length % 64) % 64) 0 ++ be64 (UInt64.ofNat (8 * length))

def hashBlocks : (blocks : Nat) → Words → List UInt8 → Words
  | 0, digest, _ => digest
  | blocks + 1, digest, data => hashBlocks blocks (hash256Block digest (data.take 64)) (data.drop 64)

def getHashBytes (s : Words) : List UInt8 :=
  be32 s.a ++ be32 s.b ++ be32 s.c ++ be32 s.d ++ be32 s.e ++ be32 s.f ++ be32 s.g ++ be32 s.h

def hash256 (data : List UInt8) : List UInt8 :=
  let padded := data ++ padding data.length
  getHashBytes (hashBlocks (padded.length / 64) initialMessageDigest padded)

/-- One lowercase hexadecimal digit. -/
def hexDigit (value : UInt8) : UInt8 := if value < 10 then 48 + value else 87 + value

/-- `bytes_to_hex_string`: every byte at width 2, filled with `0`. -/
def bytesToHexString (bytes : List UInt8) : ByteString :=
  bytes.flatMap fun byte => [hexDigit (byte / 16), hexDigit (byte % 16)]

end Picosha2

/-- `Sha256`, and `Sha256File` on a file that can be read to its end. -/
def sha256 (bytes : List UInt8) : Sha256Digest := ⟨Picosha2.hash256 bytes, rfl⟩

-- the message "abc"
example : (sha256 [97, 98, 99]).bytes =
    [0xba, 0x78, 0x16, 0xbf, 0x8f, 0x01, 0xcf, 0xea, 0x41, 0x41, 0x40, 0xde, 0x5d, 0xae, 0x22, 0x23,
     0xb0, 0x03, 0x61, 0xa3, 0x96, 0x17, 0x7a, 0x9c, 0xb4, 0x10, 0xff, 0x61, 0xf2, 0x00, 0x15, 0xad] := by
  decide +kernel

def sha256Hex (digest : Sha256Digest) : ByteString := Picosha2.bytesToHexString digest.bytes

/-- `HexValue`, `none` for the value -1. -/
def hexValue (value : UInt8) : Option UInt8 :=
  if 48 ≤ value && value ≤ 57 then some (value - 48)
  else if 97 ≤ value && value ≤ 102 then some (value - 97 + 10)
  else none

/-- The loop of `ParseSha256Hex`, two digits a turn. -/
def parseHexBytes : ByteString → Option (List UInt8)
  | [] => some []
  | [_] => none
  | first :: second :: rest => do
      let high ← hexValue first
      let low ← hexValue second
      let bytes ← parseHexBytes rest
      return (high <<< 4 ||| low) :: bytes

def parseSha256Hex (hex : ByteString) : Option Sha256Digest :=
  if hex.length ≠ kSha256Size * 2 then none
  else match parseHexBytes hex with
    | none => none
    | some bytes => if size : bytes.length = kSha256Size then some ⟨bytes, size⟩ else none

end CustomModels.Shared
