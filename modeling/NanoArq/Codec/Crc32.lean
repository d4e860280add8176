import NanoArq.Lib.ShiftRegister
import NanoArq.Model.Crc32

/-!
# `arq_crc32` is CRC-32, and detects bursts

The register of a CRC is `Lib.feed` on the bits of the buffer, each byte from its least
significant bit on (`bits`).

* `crc32Tab_get`: an entry of the table is the register after eight steps from its index.
* `arqCrc32Byte_eq`: a round of the table loop is eight steps of the register, because these
  are linear and the upper bits only move.
* `foldl_arqCrc32Byte`: the register after a buffer is `feed` on the buffer's bits.
-/

namespace NanoArq

open Lib

/-- The reflected polynomial of CRC-32. -/
def crc32Poly : BitVec 32 := 0xEDB88320#32

theorem crc32Step_toBitVec : Function.Semiconj UInt32.toBitVec crc32Step (bitStep crc32Poly) := by
  intro c
  have hlow : c &&& 1 = 1 ↔ c.toBitVec.getLsbD 0 = true := by
    rw [← UInt32.toBitVec_inj, UInt32.toBitVec_and]
    constructor
    · intro h
      simpa using congrArg (fun x => BitVec.getLsbD x 0) h
    · intro h
      rw [show UInt32.toBitVec 1 = 1#32 by rfl, BitVec.and_one_eq_setWidth_ofBool_getLsbD, h]
      rfl
  unfold crc32Step bitStep
  simp only [hlow]
  split
  · rw [UInt32.toBitVec_xor, UInt32.toBitVec_shiftRight]
    rfl
  · rw [UInt32.toBitVec_shiftRight]
    rfl

theorem crc32Byte_toBitVec (crc : UInt32) (p : UInt8) :
    (crc32Byte crc p).toBitVec =
      (bitStep crc32Poly)^[8] (crc.toBitVec ^^^ p.toBitVec.setWidth 32) := by
  unfold crc32Byte
  rw [(crc32Step_toBitVec.iterate_right 8).eq, UInt32.toBitVec_xor]
  rfl

/-- An entry of the table is the register after eight steps from its index. -/
theorem crc32Tab_get (i : Fin 256) :
    (crc32Tab.get i).toBitVec = (bitStep crc32Poly)^[8] (BitVec.ofNat 32 i) := by
  revert i
  decide +kernel

theorem low_eight (x : BitVec 32) (i : Nat) :
    (x &&& 0xFF#32).getLsbD i = (decide (i < 8) && x.getLsbD i) := by
  have hmask : (0xFF#32).getLsbD i = decide (i < 8) := by
    rw [BitVec.getLsbD_ofNat, show 0xFF = 2 ^ 8 - 1 by rfl, Nat.testBit_two_pow_sub_one]
    by_cases h : i < 8
    · simp [h, show i < 32 by omega]
    · simp [h]
  rw [BitVec.getLsbD_and, hmask, Bool.and_comm]

/-- A round of the table loop is eight steps of the register. -/
theorem arqCrc32Byte_eq (crc : UInt32) (p : UInt8) : arqCrc32Byte crc p = crc32Byte crc p := by
  rw [← UInt32.toBitVec_inj, crc32Byte_toBitVec]
  have hindex : BitVec.ofNat 32 (Fin.ofNat 256 ((crc ^^^ p.toUInt32) &&& 0xFF).toNat).val =
      (crc.toBitVec ^^^ p.toBitVec.setWidth 32) &&& 0xFF#32 := by
    have hand : ((crc ^^^ p.toUInt32) &&& 0xFF).toNat < 256 := by
      rw [UInt32.toNat_and]
      exact Nat.and_lt_two_pow _ (show 255 < 2 ^ 8 by decide)
    rw [Fin.val_ofNat, Nat.mod_eq_of_lt hand]
    exact BitVec.ofNat_toNat _ _
  have hshift : (crc.toBitVec ^^^ p.toBitVec.setWidth 32) >>> 8 = crc.toBitVec >>> 8 := by
    ext i hi
    simp
  have hsplit := @steps_split 32 crc32Poly 8 (crc.toBitVec ^^^ p.toBitVec.setWidth 32) _
    (low_eight _)
  unfold arqCrc32Byte
  rw [UInt32.toBitVec_xor, crc32Tab_get, UInt32.toBitVec_shiftRight, hindex, hsplit, hshift]
  rfl

/-- The table loop computes CRC-32. -/
theorem arqCrc32_bitwise (buf : List UInt8) : arqCrc32 buf = crc32Bitwise buf := by
  unfold arqCrc32 crc32Bitwise
  rw [show arqCrc32Byte = crc32Byte from funext₂ arqCrc32Byte_eq]

/-- `"hello"` -/
example : arqCrc32 [0x68, 0x65, 0x6C, 0x6C, 0x6F] = 0x3610A686 := by decide +kernel

/-! ## The bits of a buffer -/

/-- The bits of a byte, the least significant one first. -/
def byteBits (p : UInt8) : List Bool := (List.range 8).map p.toBitVec.getLsbD

/-- All bits of a buffer, in the order in which they reach the register. -/
def bits (buf : List UInt8) : List Bool := (List.range (buf.length * 8)).map (bitAt buf)

theorem bits_getElem? {buf : List UInt8} {i : Nat} (hi : i < buf.length * 8) :
    (bits buf)[i]? = some (bitAt buf i) := by
  simp [bits, hi]

theorem bitAt_add_eight (p : UInt8) (buf : List UInt8) (i : Nat) :
    bitAt (p :: buf) (8 + i) = bitAt buf i := by
  unfold bitAt
  rw [Nat.add_div_left i (by omega), Nat.add_mod_left, List.getD_cons_succ]

theorem bits_cons (p : UInt8) (buf : List UInt8) : bits (p :: buf) = byteBits p ++ bits buf := by
  have hfirst : (List.range 8).map (bitAt (p :: buf)) = byteBits p := rfl
  have hrest : bitAt (p :: buf) ∘ (8 + ·) = bitAt buf := funext (bitAt_add_eight p buf)
  unfold bits
  rw [List.length_cons, show (buf.length + 1) * 8 = 8 + buf.length * 8 by omega, List.range_add,
    List.map_append, List.map_map, hfirst, hrest]

theorem bits_injective {xs ys : List UInt8} (hlen : xs.length = ys.length)
    (h : bits xs = bits ys) : xs = ys := by
  induction xs generalizing ys with
  | nil => exact (List.length_eq_zero_iff.mp hlen.symm).symm
  | cons x xs ih =>
    obtain _ | ⟨y, ys⟩ := ys
    · simp at hlen
    · rw [bits_cons, bits_cons] at h
      obtain ⟨hbyte, hrest⟩ := List.append_inj h (by simp [byteBits])
      have hxy : x = y := by
        rw [← UInt8.toBitVec_inj]
        apply BitVec.eq_of_getLsbD_eq
        intro i hi
        exact List.map_inj_left.mp hbyte i (List.mem_range.mpr hi)
      rw [hxy, ih (by simpa using hlen) hrest]

theorem feed_byteBits (c : BitVec 32) (p : UInt8) :
    feed crc32Poly c (byteBits p) = (bitStep crc32Poly)^[8] (c ^^^ p.toBitVec.setWidth 32) := by
  have hpacked : packed 32 (byteBits p) = p.toBitVec.setWidth 32 := by
    ext i hi
    by_cases h8 : i < 8
    · simp [byteBits, h8]
    · simp [byteBits, h8, BitVec.getLsbD_of_ge p.toBitVec i (by omega)]
  rw [feed_eq_steps (by simp [byteBits]), hpacked]
  simp [byteBits]

/-- The register after a buffer is `feed` on the buffer's bits. -/
theorem foldl_arqCrc32Byte (buf : List UInt8) (crc : UInt32) :
    (buf.foldl arqCrc32Byte crc).toBitVec = feed crc32Poly crc.toBitVec (bits buf) := by
  induction buf generalizing crc with
  | nil => rfl
  | cons p buf ih =>
    rw [List.foldl_cons, ih, bits_cons, feed_append, feed_byteBits, arqCrc32Byte_eq,
      crc32Byte_toBitVec]

/-- Two buffers of one length that differ, and only inside `32` consecutive bits, have different
checksums. -/
theorem arqCrc32_burst {xs ys : List UInt8} (hlen : xs.length = ys.length) (hne : xs ≠ ys) (k : Nat)
    (hburst : ∀ i, bitAt xs i ≠ bitAt ys i → k ≤ i ∧ i < k + 32) : arqCrc32 xs ≠ arqCrc32 ys := by
  have hbits : bits xs ≠ bits ys := fun h => hne (bits_injective hlen h)
  have hlen' : (bits xs).length = (bits ys).length := by simp [bits, hlen]
  have hdiff : ∀ i, (bits xs)[i]? ≠ (bits ys)[i]? → k ≤ i ∧ i < k + 32 := by
    intro i hi
    by_cases hlt : i < xs.length * 8
    · rw [bits_getElem? hlt, bits_getElem? (hlen ▸ hlt)] at hi
      exact hburst i fun h => hi (by rw [h])
    · refine absurd ?_ hi
      simp [bits, hlt, ← hlen]
  have htop : crc32Poly.getLsbD (32 - 1) = true := by decide
  have hreg := feed_ne htop hlen' hbits hdiff 0xFFFFFFFF#32
  intro heq
  apply hreg
  have hsame := congrArg UInt32.toBitVec (UInt32.not_inj.mp heq)
  rw [foldl_arqCrc32Byte, foldl_arqCrc32Byte] at hsame
  exact hsame

/-- All `32` bits from bit `7` on differ. -/
theorem arqCrc32_burst_sample :
    arqCrc32 [0, 0, 0, 0, 0] ≠ arqCrc32 [0x80, 0xFF, 0xFF, 0xFF, 0x7F] := by
  have hlen : ([0, 0, 0, 0, 0] : List UInt8).length = [0x80, 0xFF, 0xFF, 0xFF, 0x7F].length := rfl
  refine arqCrc32_burst hlen (by decide) 7 ?_
  intro i
  by_cases hi : i < 40
  · revert i
    decide
  · intro hdiff
    refine absurd ?_ hdiff
    obtain ⟨j, rfl⟩ := Nat.exists_eq_add_of_le (Nat.not_lt.mp hi)
    simp only [show 40 + j = 8 + (8 + (8 + (8 + (8 + j)))) by omega, bitAt_add_eight]

end NanoArq
