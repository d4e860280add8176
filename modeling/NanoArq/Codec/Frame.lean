import NanoArq.Codec.Header
import NanoArq.Codec.Cobs

/-!
# The frame round trip

`encodeFrame` is the list of bytes that `arq__frame_write` leaves in its buffer. It does not
depend on what the buffer held before (`frameWrite_bytes`), ends in its only zero byte
(`encodeFrame_delimited`), and `arq__frame_read` recovers the header and the segment from it
(`frameRead_encode`), for every checksum function.
-/

namespace NanoArq

open Lib

/-- A header and a segment that fit the wire format together. -/
structure FrameFits (h : FrameHdr) (seg : List UInt8) : Prop where
  hdr : h.Fits
  length : seg.length = h.segLen
  segLen : h.segLen ≤ 238

/-- The bytes between the first and the last of a frame, before COBS. -/
def frameBody (checksum : Checksum) (h : FrameHdr) (seg : List UInt8) : List UInt8 :=
  frameHdrWrite h ++ seg ++ be32Write (checksum (frameHdrWrite h ++ seg))

/-- The bytes that `arq__frame_write` writes. -/
def encodeFrame (checksum : Checksum) (h : FrameHdr) (seg : List UInt8) : List UInt8 :=
  slice (frameWrite h seg checksum fun _ => 0).1 0 (frameLen h.segLen)

theorem frameLen_eq (n : Nat) : frameLen n = 18 + n := by
  unfold frameLen frameCobsOverhead frameHeaderSize
  omega

theorem length_be32Write (c : UInt32) : (be32Write c).length = 4 := rfl

@[simp] theorem length_encodeFrame (checksum : Checksum) (h : FrameHdr) (seg : List UInt8) :
    (encodeFrame checksum h seg).length = frameLen h.segLen := by
  simp [encodeFrame]

/-! ## Writing -/

/-- The buffer of `arq__frame_write` before `arq__cobs_encode`. -/
def frameRaw (checksum : Checksum) (h : FrameHdr) (seg : List UInt8) (m : Buf) : Buf :=
  let m := memcpy m 1 (frameHdrWrite h)
  let m := memcpy m (1 + frameHeaderSize) seg
  memcpy m (1 + frameHeaderSize + h.segLen)
    (be32Write (checksum (slice m 1 (frameHeaderSize + h.segLen))))

theorem frameWrite_eq (checksum : Checksum) (h : FrameHdr) (seg : List UInt8) (m : Buf) :
    frameWrite h seg checksum m =
      (cobsEncode (frameRaw checksum h seg m) (frameLen h.segLen), frameLen h.segLen) := rfl

theorem slice_frameRaw (checksum : Checksum) {h : FrameHdr} {seg : List UInt8}
    (hlen : seg.length = h.segLen) (m : Buf) :
    slice (frameRaw checksum h seg m) 1 (16 + h.segLen) = frameBody checksum h seg := by
  unfold frameRaw frameHeaderSize
  dsimp only
  generalize hm₂ : memcpy (memcpy m 1 (frameHdrWrite h)) (1 + 12) seg = m₂
  have hHdr : slice m₂ 1 12 = frameHdrWrite h := by
    rw [← hm₂, slice_memcpy_before _ _ le_rfl]
    exact slice_memcpy_self _ _ (frameHdrWrite h)
  have hSeg : slice m₂ (1 + 12) h.segLen = seg := by
    rw [← hm₂, ← hlen]
    exact slice_memcpy_self _ _ _
  have hBody : slice m₂ 1 (12 + h.segLen) = frameHdrWrite h ++ seg := by
    rw [slice_add, hHdr, hSeg]
  rw [hBody, show 16 + h.segLen = 12 + h.segLen + 4 by omega, slice_add,
    slice_memcpy_before _ _ (by omega), hBody, frameBody]
  congr 1
  rw [show 1 + (12 + h.segLen) = 1 + 12 + h.segLen by omega]
  exact slice_memcpy_self m₂ _ (be32Write _)

/-- A coded buffer is determined by the bytes that were coded. -/
theorem CobsCoded.unique {m₁ m₂ d₁ d₂ : Buf} {e : Nat} (h₁ : CobsCoded m₁ d₁ e)
    (h₂ : CobsCoded m₂ d₂ e) (heq : ∀ i, 0 < i → i < e → m₁ i = m₂ i) {i : Nat} (hi : i ≤ e) :
    d₁ i = d₂ i := by
  rcases Nat.lt_or_eq_of_le hi with hlt | rfl
  · by_cases hplace : i = 0 ∨ m₁ i = 0
    · obtain ⟨j, hj⟩ := NextZero.exists m₁ hlt
      have hj' : NextZero m₂ e i j := by
        refine ⟨hj.lt, hj.le, ?_, ?_⟩
        · intro k hik hkj
          rw [← heq k (by omega) (by have := hj.le; omega)]
          exact hj.between k hik hkj
        · rcases Nat.lt_or_eq_of_le hj.le with hje | hje
          · rcases hj.stop with h | h
            · exact Or.inl h
            · exact Or.inr ((heq j (by have := hj.lt; omega) hje).symm.trans h)
          · exact Or.inl hje
      have hplace' : i = 0 ∨ m₂ i = 0 := by
        rcases Nat.eq_zero_or_pos i with h0 | hpos
        · exact Or.inl h0
        · rw [← heq i hpos hlt]
          exact hplace
      apply UInt8.toNat_inj.mp
      rw [h₁.code i j hlt hplace hj, h₂.code i j hlt hplace' hj']
    · obtain ⟨hpos, hm⟩ := not_or.mp hplace
      have hm₂ : m₂ i ≠ 0 := by
        rw [← heq i (by omega) hlt]
        exact hm
      rw [h₁.data i (by omega) hlt hm, h₂.data i (by omega) hlt hm₂]
      exact heq i (by omega) hlt
  · rw [h₁.last, h₂.last]

section

variable {checksum : Checksum} {h : FrameHdr} {seg : List UInt8}

/-- A header and a segment that can be coded: the fields fit their widths, and the bytes of the
frame have a zero often enough. -/
structure WireFits (checksum : Checksum) (h : FrameHdr) (seg : List UInt8) : Prop where
  hdr : h.Fits
  length : seg.length = h.segLen
  gaps : ∀ m, GapsFit (frameRaw checksum h seg m) (17 + h.segLen)

theorem FrameFits.wire (hf : FrameFits h seg) : WireFits checksum h seg where
  hdr := hf.hdr
  length := hf.length
  gaps _ := .of_lt (by have := hf.segLen; omega)

theorem frameRaw_coded (hf : WireFits checksum h seg) (m : Buf) :
    CobsCoded (frameRaw checksum h seg m) (frameWrite h seg checksum m).1 (17 + h.segLen) := by
  have hlen : 18 + h.segLen - 1 = 17 + h.segLen := by omega
  rw [frameWrite_eq, frameLen_eq, ← hlen]
  refine cobsEncode_coded _ (by omega) ?_
  rw [hlen]
  exact hf.gaps m

/-- What `arq__frame_write` writes does not depend on the previous contents of the buffer. -/
theorem frameWrite_bytes (hf : WireFits checksum h seg) (m : Buf) :
    slice (frameWrite h seg checksum m).1 0 (frameLen h.segLen) = encodeFrame checksum h seg := by
  rw [encodeFrame, slice_eq_iff]
  intro i hi
  rw [frameLen_eq] at hi
  refine (frameRaw_coded hf m).unique (frameRaw_coded hf _) ?_ (by omega)
  intro k hpos hk
  have hbody := (slice_frameRaw checksum hf.length m).trans
    (slice_frameRaw checksum hf.length fun _ => 0).symm
  have := slice_eq_iff.mp hbody (k - 1) (by omega)
  rwa [show 1 + (k - 1) = k by omega] at this

/-- A frame ends in its only zero byte. -/
theorem encodeFrame_delimited (hf : FrameFits h seg) :
    ∃ bytes, encodeFrame checksum h seg = bytes ++ [0] ∧ ∀ b ∈ bytes, b ≠ 0 := by
  have hcoded := @frameRaw_coded checksum h seg hf.wire fun _ => 0
  refine ⟨slice (frameWrite h seg checksum fun _ => 0).1 0 (17 + h.segLen), ?_, ?_⟩
  · rw [encodeFrame, frameLen_eq, show 18 + h.segLen = 17 + h.segLen + 1 by omega, slice_add]
    simp [slice_succ, hcoded.last]
  · intro b hb
    obtain ⟨i, hi, rfl⟩ := List.getElem_of_mem hb
    rw [getElem_slice, Nat.zero_add]
    exact hcoded.ne_zero (by simpa using hi)

/-! ## Reading -/

/-- `arq__frame_read` of a buffer that starts with a written frame: the decoder terminates, and
the result is the header and the segment that were written. -/
theorem frameRead_encode (hf : WireFits checksum h seg) {m : Buf}
    (hm : slice m 0 (frameLen h.segLen) = encodeFrame checksum h seg) :
    (cobsDecodeGo (frameLen h.segLen - 1) (frameLen h.segLen - 1) m 0).2 =
        frameLen h.segLen - 1 ∧
      (frameRead m (frameLen h.segLen) checksum).result = .success ∧
      (frameRead m (frameLen h.segLen) checksum).hdr = h ∧
      (frameRead m (frameLen h.segLen) checksum).seg = seg := by
  have hcoded : CobsCoded (frameRaw checksum h seg fun _ => 0) m (frameLen h.segLen - 1) := by
    rw [frameLen_eq, show 18 + h.segLen - 1 = 17 + h.segLen by omega]
    refine (frameRaw_coded hf _).congr ?_
    intro i hi
    have := slice_eq_iff.mp hm i (by rw [frameLen_eq]; omega)
    simpa using this
  obtain ⟨hend, hdec⟩ := cobsDecode_coded hcoded
  have hbody : slice (cobsDecode m (frameLen h.segLen)) 1 (16 + h.segLen) =
      frameBody checksum h seg := by
    rw [← slice_frameRaw checksum hf.length fun _ => 0, slice_eq_iff]
    intro j hj
    exact hdec (1 + j) (by omega) (by rw [frameLen_eq]; omega)
  generalize hd : cobsDecode m (frameLen h.segLen) = d at hbody
  have hHdrSeg : slice d 1 (frameHeaderSize + h.segLen) = frameHdrWrite h ++ seg := by
    have htake := congrArg (List.take (12 + h.segLen)) hbody
    rw [take_slice _ _ (by omega), frameBody, List.take_left'] at htake
    · exact htake
    · simp [length_frameHdrWrite, frameHeaderSize, hf.length]
  have hHdr : slice d 1 frameHeaderSize = frameHdrWrite h := by
    have htake := congrArg (List.take frameHeaderSize) hHdrSeg
    rwa [take_slice _ _ (by omega), List.take_left' (length_frameHdrWrite h)] at htake
  have hSeg : slice d (1 + frameHeaderSize) h.segLen = seg := by
    have hdrop := congrArg (List.drop frameHeaderSize) hHdrSeg
    rwa [drop_slice, Nat.add_sub_cancel_left, List.drop_left' (length_frameHdrWrite h)] at hdrop
  have hSum : slice d (1 + frameHeaderSize + h.segLen) 4 =
      be32Write (checksum (frameHdrWrite h ++ seg)) := by
    have hdrop := congrArg (List.drop (12 + h.segLen)) hbody
    rw [drop_slice, frameBody, List.drop_left'] at hdrop
    · rw [show 16 + h.segLen - (12 + h.segLen) = 4 by omega] at hdrop
      rw [← hdrop, frameHeaderSize, Nat.add_assoc]
    · simp [length_frameHdrWrite, frameHeaderSize, hf.length]
  have hread : frameHdrRead d 1 = h := frameHdrRead_write hf.hdr hHdr
  refine ⟨hend, ?_, ?_, ?_⟩
  · simp only [frameRead, hd, hread, frameChecksumRead]
    rw [if_neg (by omega), be32Read_write hSum, hHdrSeg]
    simp
  · simp only [frameRead, hd, hread]
  · simp only [frameRead, FrameRead.seg, hd, hread, hSeg]

end

end NanoArq
