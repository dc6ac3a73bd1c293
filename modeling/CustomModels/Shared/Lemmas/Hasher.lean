import CustomModels.Shared.Hasher
import Mathlib.Tactic.Common

/-!
# The streamed digest

A hasher stands for the data that went through it: the full blocks are in its words, the rest in its buffer
and the length, modulo 2⁶⁴, in its digits. `finish` then hashes exactly the padding behind them.
-/

namespace CustomModels.Shared
open CustomModels.Lib

namespace Picosha2

/-! ## The length -/

theorem handOn_eq_ripple {carry digit : Nat} {digits : List Nat} (fits : digit + carry < 2 ^ 32)
    (below : ∀ d ∈ digits, d < 65536) : handOn carry (digit :: digits) = ripple 65536 carry (digit :: digits) := by
  induction digits generalizing carry digit with
  | nil =>
      simp only [handOn, ripple, Nat.mod_eq_of_lt fits, Nat.and_two_pow_sub_one_eq_mod _ 16]
  | cons next digits ih =>
      have low : (digit + carry) &&& 65535 = (digit + carry) % 65536 := Nat.and_two_pow_sub_one_eq_mod _ 16
      have high : (digit + carry) >>> 16 = (digit + carry) / 65536 := Nat.shiftRight_eq_div_pow _ 16
      have hnext := below next (by simp)
      rw [handOn, ripple]
      simp only [Nat.mod_eq_of_lt fits, low, high]
      rw [ih (by omega) fun d h => below d (by simp [h])]

/-- A chunk whose length wraps neither itself nor the lowest digit adds its length. -/
theorem ofDigits_add {length : DataLength} {n : Nat} (small : n ≤ 2 ^ 32 - 65536) :
    Nat.ofDigits 65536 (length.add n).digits ≡ Nat.ofDigits 65536 length.digits + n [MOD 65536 ^ 4] := by
  obtain ⟨digits, size, below⟩ := length
  cases digits with
  | nil => simp at size
  | cons digit digits =>
      have hdigit := below digit (by simp)
      have fits : digit + n + 0 < 2 ^ 32 := by omega
      have sum : (digit + n % 2 ^ 32) % 2 ^ 32 = digit + n := by omega
      simp only [DataLength.add, addToDataLength, sum]
      rw [handOn_eq_ripple fits fun d h => below d (by simp [h])]
      have value := @ofDigits_ripple 65536 0 ((digit + n) :: digits)
      have count : ((digit + n) :: digits).length = 4 := by simpa using size
      rw [count] at value
      have head : Nat.ofDigits 65536 ((digit + n) :: digits) + 0 = Nat.ofDigits 65536 (digit :: digits) + n := by
        rw [Nat.ofDigits_cons, Nat.ofDigits_cons]
        omega
      rwa [head] at value

theorem shiftDigits_eq_scale {carry : Nat} {digits : List Nat} (small : carry < 8)
    (below : ∀ d ∈ digits, d < 65536) : shiftDigits carry digits = scale 65536 8 carry digits := by
  induction digits generalizing carry with
  | nil => rfl
  | cons digit digits ih =>
      have hdigit := below digit (by simp)
      have wide : (digit <<< 3) % 2 ^ 32 = digit <<< 3 := by
        rw [Nat.shiftLeft_eq]
        omega
      have low : ((digit <<< 3) % 2 ^ 32 ||| carry) &&& 65535 = (digit * 8 + carry) % 65536 := by
        rw [wide, shiftLeft_or_of_lt small]
        exact Nat.and_two_pow_sub_one_eq_mod _ 16
      have high : (digit >>> 13) &&& 65535 = (digit * 8 + carry) / 65536 := by
        rw [Nat.and_two_pow_sub_one_eq_mod _ 16, Nat.shiftRight_eq_div_pow]
        omega
      rw [shiftDigits, scale, low, high, ih (by omega) fun d h => below d (by simp [h])]

/-- Four digits, the highest one first, are the eight bytes of their value. -/
theorem be64_ofDigits {d0 d1 d2 d3 : Nat} (h0 : d0 < 65536) (h1 : d1 < 65536) (h2 : d2 < 65536) (h3 : d3 < 65536) :
    [d3, d2, d1, d0].flatMap (fun digit => [UInt8.ofNat (digit >>> 8), UInt8.ofNat digit]) =
      be64 (UInt64.ofNat (Nat.ofDigits 65536 [d0, d1, d2, d3])) := by
  simp only [List.flatMap_cons, List.flatMap_nil, List.cons_append, List.nil_append, be64, be32,
    List.cons.injEq, and_true, ← UInt8.toNat_inj, UInt8.toNat_ofNat', UInt32.toNat_toUInt8, UInt32.toNat_shiftRight,
    UInt64.toNat_toUInt32, UInt64.toNat_shiftRight, UInt64.toNat_ofNat', Nat.shiftRight_eq_div_pow,
    Nat.ofDigits_cons, Nat.ofDigits_nil]
  simp only [UInt32.reduceToNat, UInt64.reduceToNat, Nat.reduceMod]
  omega

/-- What is written behind the zeros is the bit length, modulo 2⁶⁴. -/
theorem writeDataBitLength_eq {length : DataLength} {n : Nat}
    (stands : Nat.ofDigits 65536 length.digits ≡ n [MOD 65536 ^ 4]) :
    writeDataBitLength length = be64 (UInt64.ofNat (8 * n)) := by
  have value : Nat.ofDigits 65536 (scale 65536 8 0 length.digits) ≡ 8 * n [MOD 65536 ^ 4] := by
    have scaled := @ofDigits_scale 65536 8 0 length.digits
    rw [length.size] at scaled
    calc Nat.ofDigits 65536 (scale 65536 8 0 length.digits)
        ≡ Nat.ofDigits 65536 length.digits * 8 [MOD 65536 ^ 4] := scaled
      _ ≡ n * 8 [MOD 65536 ^ 4] := stands.mul_right 8
      _ = 8 * n := Nat.mul_comm n 8
  have below := @scale_lt 65536 8 0 length.digits _
  have size : (scale 65536 8 0 length.digits).length = 4 := by rw [scale_length, length.size]
  rw [writeDataBitLength, shiftDigits_eq_scale (by decide) length.below]
  match hs : scale 65536 8 0 length.digits, size with
  | [d0, d1, d2, d3], _ =>
      rw [hs] at below value
      have same : UInt64.ofNat (Nat.ofDigits 65536 [d0, d1, d2, d3]) = UInt64.ofNat (8 * n) := by
        rw [← UInt64.toNat_inj, UInt64.toNat_ofNat', UInt64.toNat_ofNat']
        exact value
      rw [← same, ← be64_ofDigits (below d0 (by simp)) (below d1 (by simp)) (below d2 (by simp)) (below d3 (by simp))]
      rfl

/-! ## The blocks -/

theorem absorb_eq_hashBlocks {digest : Words} {data : List UInt8} :
    (absorb 64 hash256Block digest data).1 = hashBlocks (data.length / 64) digest data := by
  induction digest, data using absorb.induct 64 hash256Block with
  | case1 digest data full ih =>
      have count : data.length / 64 = (data.drop 64).length / 64 + 1 := by
        simp only [List.length_drop]
        omega
      rw [absorb_of_le full, count, hashBlocks, ih]
  | case2 digest data short =>
      have below : data.length < 64 := by omega
      rw [absorb_of_lt below, Nat.div_eq_of_lt below]
      rfl

namespace Hash256OneByOne

/-- What has gone through the hasher. -/
structure Absorbed (hasher : Hash256OneByOne) (data : List UInt8) : Prop where
  blocks : absorb 64 hash256Block initialMessageDigest data = (hasher.h, hasher.buffer)
  length : Nat.ofDigits 65536 hasher.dataLength.digits ≡ data.length [MOD 65536 ^ 4]

theorem absorbed_init : Absorbed init [] where
  blocks := absorb_of_lt (by decide)
  length := by rfl

variable {hasher : Hash256OneByOne} {data chunk : List UInt8}

theorem Absorbed.process (h : Absorbed hasher data) (small : chunk.length ≤ 2 ^ 32 - 65536) :
    Absorbed (hasher.process chunk) (data ++ chunk) where
  blocks := by
    rw [absorb_append, h.blocks]
    rfl
  length := by
    rw [List.length_append]
    exact (ofDigits_add small).trans (h.length.add_right _)

theorem Absorbed.run {chunks : List (List UInt8)} (h : Absorbed hasher data)
    (small : ∀ chunk ∈ chunks, chunk.length ≤ 2 ^ 32 - 65536) :
    Absorbed (chunks.foldl Hash256OneByOne.process hasher) (data ++ chunks.flatten) := by
  induction chunks generalizing hasher data with
  | nil => simpa using h
  | cons chunk chunks ih =>
      rw [List.flatten_cons, ← List.append_assoc]
      exact ih (h.process (small chunk (by simp))) fun c hc => small c (by simp [hc])

/-! ## The padding -/

/-- The zeros of the padding fill the block of the rest, and a block more where they leave no room. -/
theorem padding_eq {remains : Nat} (held : data.length % 64 = remains) : padding data.length =
    0x80 :: List.replicate (if remains ≤ 55 then 55 - remains else 119 - remains) 0 ++
      be64 (UInt64.ofNat (8 * data.length)) := by
  have zeros : (119 - remains) % 64 = if remains ≤ 55 then 55 - remains else 119 - remains := by
    split <;> omega
  rw [padding, held, zeros]

/-- `temp` with the bit 1 behind the buffer. -/
theorem marked_eq (hasher : Hash256OneByOne) :
    (hasher.buffer ++ List.replicate (64 - hasher.buffer.length) 0).set hasher.buffer.length 0x80 =
      hasher.buffer ++ 0x80 :: List.replicate (63 - hasher.buffer.length) 0 := by
  have short := hasher.short
  obtain ⟨zeros, hzeros⟩ : ∃ zeros, 64 - hasher.buffer.length = zeros + 1 := ⟨63 - hasher.buffer.length, by omega⟩
  have rest : zeros = 63 - hasher.buffer.length := by omega
  rw [hzeros, List.set_append_right _ _ (Nat.le_refl _), Nat.sub_self, List.replicate_succ, List.set_cons_zero, rest]

theorem clear_marked {buffer : List UInt8} {zeros last : Nat} (room : buffer.length + 1 ≤ last)
    (inside : last ≤ buffer.length + 1 + zeros) :
    clear (buffer ++ 0x80 :: List.replicate zeros 0) (buffer.length + 1) last =
      buffer ++ 0x80 :: List.replicate zeros 0 := by
  have split : buffer ++ 0x80 :: List.replicate zeros 0 = (buffer ++ [0x80]) ++ List.replicate zeros 0 := by simp
  have size : (buffer ++ [(0x80 : UInt8)]).length = buffer.length + 1 := by simp
  have tail : (List.replicate zeros (0 : UInt8)).drop (last - (buffer.length + 1)) =
      List.replicate (zeros - (last - (buffer.length + 1))) 0 := List.drop_replicate
  have behind : ((buffer ++ [0x80]) ++ List.replicate zeros (0 : UInt8)).drop last =
      List.replicate (zeros - (last - (buffer.length + 1))) 0 := by
    rw [List.drop_append, List.drop_of_length_le (by omega), size, tail, List.nil_append]
  have total : last - (buffer.length + 1) + (zeros - (last - (buffer.length + 1))) = zeros := by omega
  rw [split, clear, behind, ← size, List.take_left, size, List.append_assoc, ← List.replicate_add, total]

theorem take_marked {buffer : List UInt8} {zeros count : Nat} (room : buffer.length + 1 ≤ count)
    (inside : count ≤ buffer.length + 1 + zeros) : (buffer ++ 0x80 :: List.replicate zeros (0 : UInt8)).take count =
      buffer ++ 0x80 :: List.replicate (count - (buffer.length + 1)) 0 := by
  obtain ⟨more, rfl⟩ := Nat.exists_eq_add_of_le room
  have least : min more zeros = more := by omega
  have rest : buffer.length + 1 + more - (buffer.length + 1) = more := by omega
  rw [rest]
  simp [List.take_append, List.take_of_length_le, Nat.add_assoc, Nat.add_comm 1 more, List.take_replicate, least]

theorem take_clear {temp : List UInt8} : (clear temp 0 60).take 56 = List.replicate 56 0 := by
  simp [clear]

/-- `finish` hashes the rest with the padding behind it. -/
theorem Absorbed.finish (h : Absorbed hasher data) :
    hasher.finish = (absorb 64 hash256Block hasher.h (hasher.buffer ++ padding data.length)).1 := by
  have short := hasher.short
  have held : data.length % 64 = hasher.buffer.length := by
    rw [← @absorb_rest_length _ _ 64 hash256Block initialMessageDigest data, h.blocks]
  have bits := writeDataBitLength_eq h.length
  rw [padding_eq held, Hash256OneByOne.finish, bits, marked_eq]
  cases Nat.lt_or_ge 55 hasher.buffer.length with
  | inl long =>
      have zeros : 119 - hasher.buffer.length = (63 - hasher.buffer.length) + 56 := by omega
      simp only [if_pos long, if_neg (Nat.not_le.mpr long)]
      have blocks : hasher.buffer ++ (0x80 :: List.replicate (63 - hasher.buffer.length + 56) 0 ++
          be64 (UInt64.ofNat (8 * data.length))) =
          (hasher.buffer ++ 0x80 :: List.replicate (63 - hasher.buffer.length) 0) ++
            (List.replicate 56 0 ++ be64 (UInt64.ofNat (8 * data.length))) := by
        rw [List.replicate_add]
        simp
      rw [clear_marked (by omega) (by omega), zeros, take_clear, blocks,
        absorb_block (by simp; omega), absorb_one (by simp)]
  | inr fits =>
      simp only [if_neg (Nat.not_lt.mpr fits), if_pos fits]
      have zeros : 56 - (hasher.buffer.length + 1) = 55 - hasher.buffer.length := by omega
      rw [clear_marked (by omega) (by omega), take_marked (by omega) (by omega), zeros, ← List.append_assoc,
        absorb_one (by simp; omega)]

theorem Absorbed.digest (h : Absorbed hasher data) : hasher.digest = sha256 data := by
  have all : hasher.finish = hashBlocks ((data ++ padding data.length).length / 64) initialMessageDigest
      (data ++ padding data.length) := by
    rw [← absorb_eq_hashBlocks, absorb_append, h.blocks, h.finish]
  have bytes : getHashBytes hasher.finish = hash256 data := by
    rw [all, hash256]
  simp only [Hash256OneByOne.digest, sha256, bytes]

end Hash256OneByOne

end Picosha2

/-! ## Files -/

open Picosha2 Hash256OneByOne

variable {hasher : Hash256OneByOne} {data : List UInt8}

/-- A read that counts nothing is skipped, which `process` would not notice. -/
theorem absorbed_processRead (h : Absorbed hasher data) (bytes : ReadBytes) :
    Absorbed (processRead hasher bytes) (data ++ bytes.1) := by
  rw [processRead]
  split
  · exact h.process (bytes.2.trans (by decide))
  · rename_i empty
    have none : bytes.1 = [] := List.length_eq_zero_iff.mp (by omega)
    rwa [none, List.append_nil]

theorem digest_readStream (h : Absorbed hasher data) (stream : FileStream) :
    (readStream hasher stream).map (·.digest) = stream.contents.map fun bytes => sha256 (data ++ bytes) := by
  induction stream generalizing hasher data with
  | full bytes rest ih =>
      rw [readStream, ih (absorbed_processRead h bytes), FileStream.contents, Option.map_map]
      congr
      funext more
      simp
  | eof bytes => simp [readStream, FileStream.contents, (absorbed_processRead h bytes).digest]
  | bad bytes => rfl

end CustomModels.Shared
