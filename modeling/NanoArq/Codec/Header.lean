import NanoArq.Model.Frame
import Mathlib.Data.Nat.Bitwise
import Mathlib.Tactic.IntervalCases

/-!
# The frame header round trip

`arq__frame_hdr_read` recovers every header whose fields fit their wire widths from the twelve
bytes of `arq__frame_hdr_write` (`frameHdrRead_write`). The fields of twelve bits share bytes:
a byte is put together from two nibbles by `nibbles`, and taken apart by `toNat_shr4` and
`toNat_nibbles`.
-/

namespace NanoArq

open Lib

/-- Every field of the header fits its width on the wire. -/
structure FrameHdr.Fits (h : FrameHdr) : Prop where
  version : h.version < 256
  segLen : h.segLen < 256
  winSize : h.winSize < 256
  msgLen : h.msgLen < 256
  seqNum : h.seqNum < seqSpace
  segId : h.segId < seqSpace
  ackNum : h.ackNum < seqSpace
  curAckVec : h.curAckVec < seqSpace

/-! ## Byte order -/

theorem memBytes16_hton16 (littleEndian : Bool) (x : UInt16) :
    memBytes16 littleEndian (hton16 littleEndian x) = [(x >>> 8).toUInt8, x.toUInt8] := by
  cases littleEndian
  · rfl
  · simp only [memBytes16, hton16, if_true, List.cons.injEq, and_true]
    constructor <;>
    · apply UInt8.eq_of_toBitVec_eq
      ext i hi
      interval_cases i <;> simp

theorem memBytes32_hton32 (littleEndian : Bool) (x : UInt32) :
    memBytes32 littleEndian (hton32 littleEndian x) = be32Write x := by
  cases littleEndian
  · rfl
  · simp only [memBytes32, hton32, if_true, List.cons.injEq, and_true, be32Write]
    refine ⟨?_, ?_, ?_, ?_⟩ <;>
    · apply UInt8.eq_of_toBitVec_eq
      ext i hi
      interval_cases i <;> simp

/-- The four checksum bytes read back as the checksum. -/
theorem be32Read_write {m : Buf} {ofs : Nat} {c : UInt32} (h : slice m ofs 4 = be32Write c) :
    be32Read m ofs = c := by
  simp only [be32Write, slice_succ, slice_zero, List.cons.injEq, and_true] at h
  obtain ⟨h0, h1, h2, h3⟩ := h
  simp only [Nat.add_assoc, Nat.reduceAdd] at h1 h2 h3
  rw [be32Read, h0, h1, h2, h3]
  apply UInt32.eq_of_toBitVec_eq
  ext i hi
  interval_cases i <;> simp [-UInt32.toUInt32_toUInt8]

/-! ## Nibbles -/

@[simp] theorem toNat_hi8 (x : Nat) : (hi8 x).toNat = x / 256 % 256 := by
  simp [hi8]

@[simp] theorem toNat_lo8 (x : Nat) : (lo8 x).toNat = x % 256 := by
  simp [lo8]

theorem toNat_shr4 (a : UInt8) : (a >>> 4).toNat = a.toNat / 16 := by
  simp [Nat.shiftRight_eq_div_pow]

theorem toNat_and15 (a : UInt8) : (a &&& 0x0F).toNat = a.toNat % 16 := by
  simpa using Nat.and_two_pow_sub_one_eq_mod a.toNat 4

theorem toNat_nibbles (a : UInt8) {b : UInt8} (h : b.toNat < 16) :
    (a <<< 4 ||| b).toNat = a.toNat % 16 * 16 + b.toNat := by
  have hshl : (a <<< 4).toNat = (a.toNat % 16) <<< 4 := by
    simp [Nat.shiftLeft_eq]
    omega
  rw [UInt8.toNat_or, hshl, ← Nat.shiftLeft_add_eq_or_of_lt (by simpa using h), Nat.shiftLeft_eq]

/-- A field of twelve bits in the first three nibbles of two bytes. -/
theorem be16_high {x : Nat} (hx : x < seqSpace) {y : UInt8} (hy : y.toNat < 16) :
    be16 ((hi8 x <<< 4 ||| lo8 x >>> 4) >>> 4)
      ((hi8 x <<< 4 ||| lo8 x >>> 4) <<< 4 ||| (lo8 x <<< 4 ||| y) >>> 4) = x := by
  unfold seqSpace at hx
  have hlo : (lo8 x >>> 4).toNat < 16 := by
    rw [toNat_shr4, toNat_lo8]
    omega
  have hmid : ((lo8 x <<< 4 ||| y) >>> 4).toNat < 16 := by
    rw [toNat_shr4, toNat_nibbles _ hy, toNat_lo8]
    omega
  rw [be16, toNat_nibbles _ hmid, toNat_shr4, toNat_shr4, toNat_nibbles _ hlo, toNat_nibbles _ hy,
    toNat_shr4, toNat_hi8, toNat_lo8]
  omega

/-- A field of twelve bits in the last three nibbles of two bytes. -/
theorem be16_low {x : Nat} (hx : x < seqSpace) {y : UInt8} :
    be16 ((y <<< 4 ||| (hi8 x &&& 0x0F)) &&& 0x0F) (lo8 x) = x := by
  unfold seqSpace at hx
  have hhi : (hi8 x &&& 0x0F).toNat < 16 := by
    rw [toNat_and15]
    omega
  rw [be16, toNat_and15, toNat_nibbles _ hhi, toNat_and15, toNat_hi8, toNat_lo8]
  omega

/-! ## Headers -/

theorem flag_bit (f r a s : Bool) :
    let b := flagBit f 0 ||| flagBit r 1 ||| flagBit a 2 ||| flagBit s 3
    (b &&& ((1 : UInt8) <<< 0) != 0) = f ∧ (b &&& ((1 : UInt8) <<< 1) != 0) = r ∧
      (b &&& ((1 : UInt8) <<< 2) != 0) = a ∧ (b &&& ((1 : UInt8) <<< 3) != 0) = s := by
  revert f r a s
  decide

theorem length_frameHdrWrite (h : FrameHdr) : (frameHdrWrite h).length = frameHeaderSize := rfl

/-- `arq__frame_hdr_read` recovers the header that `arq__frame_hdr_write` wrote. -/
theorem frameHdrRead_write {m : Buf} {ofs : Nat} {h : FrameHdr} (hFits : h.Fits)
    (hm : slice m ofs frameHeaderSize = frameHdrWrite h) : frameHdrRead m ofs = h := by
  obtain ⟨hver, hseglen, hwin, hmsg, hseq, hsegid, hack, hvec⟩ := hFits
  simp only [frameHeaderSize, frameHdrWrite, slice_succ, slice_zero, List.cons.injEq, and_true,
    Nat.add_assoc, Nat.reduceAdd] at hm
  obtain ⟨h0, h1, h2, h3, h4, h5, h6, h7, h8, h9, h10, h11⟩ := hm
  obtain ⟨hfin, hrst, hackf, hsegf⟩ := flag_bit h.fin h.rst h.ack h.seg
  have hmsgHi : (UInt8.ofNat (h.msgLen / 16)).toNat = h.msgLen / 16 := by
    simp
    omega
  have hsegHi : (hi8 h.segId &&& 0x0F).toNat < 16 := by
    rw [toNat_and15]
    omega
  have hmsgLo : UInt8.ofNat (h.msgLen * 16) = UInt8.ofNat h.msgLen <<< 4 := by
    apply UInt8.toNat_inj.mp
    simp [Nat.shiftLeft_eq]
  have hmsgLen : ((lo8 h.seqNum <<< 4 ||| UInt8.ofNat (h.msgLen / 16)) <<< 4 |||
      (UInt8.ofNat h.msgLen <<< 4 ||| (hi8 h.segId &&& 0x0F)) >>> 4).toNat = h.msgLen := by
    have hlow : (UInt8.ofNat h.msgLen).toNat = h.msgLen := by simpa using hmsg
    have hhigh : (UInt8.ofNat (h.msgLen / 16)).toNat < 16 := by omega
    have hshr : ((UInt8.ofNat h.msgLen <<< 4 ||| (hi8 h.segId &&& 0x0F)) >>> 4).toNat =
        h.msgLen % 16 := by
      rw [toNat_shr4, toNat_nibbles _ hsegHi, hlow]
      omega
    rw [toNat_nibbles _ (by omega), toNat_nibbles _ hhigh, hshr, hmsgHi]
    omega
  have hack0 : (lo8 h.ackNum <<< 4) = lo8 h.ackNum <<< 4 ||| 0 := by simp
  have hvec0 : (hi8 h.curAckVec &&& 0x0F : UInt8) =
      ((0 : UInt8) <<< 4 ||| (hi8 h.curAckVec &&& 0x0F)) := by simp
  cases h with
  | mk version segLen winSize seqNum msgLen segId ackNum curAckVec rst fin ack seg =>
    simp only [frameHdrRead, h0, h1, h2, h3, h4, h5, h6, h7, h8, h9, h10, h11, FrameHdr.mk.injEq]
    refine ⟨?_, ?_, ?_, ?_, ?_, ?_, ?_, ?_, hrst, hfin, hackf, hsegf⟩
    · simpa using hver
    · simpa using hseglen
    · simpa using hwin
    · exact be16_high hseq (by dsimp only at hmsg hmsgHi; omega)
    · rw [hmsgLo]
      exact hmsgLen
    · rw [hmsgLo]
      exact be16_low hsegid
    · rw [hack0]
      exact be16_high hack (by simp)
    · rw [hvec0]
      exact be16_low hvec

/-- A header that was read has a twelve-bit ACK vector. -/
theorem frameHdrRead_curAckVec_lt (m : Buf) (ofs : Nat) :
    (frameHdrRead m ofs).curAckVec < seqSpace := by
  have hhi := toNat_and15 (m (ofs + 10))
  have hlo := (m (ofs + 11)).toNat_lt
  simp only [frameHdrRead, be16, seqSpace]
  omega

/-- A sequence number that was read has twelve bits. -/
theorem frameHdrRead_seqNum_lt (m : Buf) (ofs : Nat) : (frameHdrRead m ofs).seqNum < seqSpace := by
  have hhi := toNat_shr4 (m (ofs + 4))
  have hlt := (m (ofs + 4)).toNat_lt
  have hlo := (m (ofs + 4) <<< 4 ||| m (ofs + 5) >>> 4).toNat_lt
  simp only [frameHdrRead, be16, seqSpace]
  omega

end NanoArq
