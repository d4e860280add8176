import NanoArq.Codec.Bounds
import NanoArq.Lib.Marks

/-!
# What the codec reads of its buffers

`arq__frame_read` of a marked frame depends on marked bytes only, provided the twelve bytes that
it takes for the header are marked, and `arq__frame_write` does not depend on what its buffer
held.
-/

namespace NanoArq

open Lib

variable {s : Mem Bool} {m m' : Buf}

/-! ## Reading -/

theorem cobsDecodeGo_agree {e : Nat} (hs : Marked s 0 e) :
    ∀ (fuel c : Nat) {m m' : Buf}, Agree s m m' →
      (cobsDecodeGo e fuel m c).2 = (cobsDecodeGo e fuel m' c).2 ∧
        Agree s (cobsDecodeGo e fuel m c).1 (cobsDecodeGo e fuel m' c).1 := by
  intro fuel
  induction fuel with
  | zero => exact fun _ _ _ h => ⟨rfl, h⟩
  | succ fuel ih =>
    intro c m m' h
    unfold cobsDecodeGo
    by_cases hc : c < e
    · have hcode : m c = m' c := h c (by simpa using hs c hc)
      rw [if_pos hc, if_pos hc, hcode]
      exact ih _ (h.update c 0)
    · rw [if_neg hc, if_neg hc]
      exact ⟨rfl, h⟩

theorem frameHdrRead_agree (h : Agree s m m') (hs : Marked s 1 frameHeaderSize) :
    frameHdrRead m 1 = frameHdrRead m' 1 :=
  frameHdrRead_congr fun j hj => h _ (hs j hj)

theorem be32Read_agree {ofs : Nat} (h : Agree s m m') (hs : Marked s ofs 4) :
    be32Read m ofs = be32Read m' ofs :=
  be32Read_congr fun j hj => h _ (hs j hj)

/-- What `arq__frame_read` returns, and the segment where there is one. -/
theorem frameRead_agree {len : Nat} (checksum : Checksum) (h : Agree s m m')
    (hlen : Marked s 0 len) (hhdr : Marked s 1 frameHeaderSize) :
    (frameRead m len checksum).result = (frameRead m' len checksum).result ∧
      (frameRead m len checksum).hdr = (frameRead m' len checksum).hdr ∧
      ((frameRead m len checksum).result = .success →
        (frameRead m len checksum).seg = (frameRead m' len checksum).seg) ∧
      Agree s (frameRead m len checksum).buf (frameRead m' len checksum).buf := by
  have hdec : Agree s (cobsDecode m len) (cobsDecode m' len) :=
    (cobsDecodeGo_agree (hlen.le (Nat.sub_le len 1)) _ _ h).2
  have hread : frameHdrRead (cobsDecode m len) 1 = frameHdrRead (cobsDecode m' len) 1 :=
    frameHdrRead_agree hdec hhdr
  have hpart : ∀ ofs n, ofs + n ≤ len → Marked s ofs n := by
    intro ofs n hle j hj
    simpa using hlen (ofs + j) (by omega)
  refine ⟨?_, hread, ?_, hdec⟩
  · simp only [frameRead]
    rw [hread]
    by_cases hlong : frameLen (frameHdrRead (cobsDecode m' len) 1).segLen > len
    · rw [frameChecksumRead, frameChecksumRead, if_pos hlong, if_pos hlong]
    · rw [frameLen_eq] at hlong
      have hword := be32Read_agree hdec
        (hpart (1 + frameHeaderSize + (frameHdrRead (cobsDecode m' len) 1).segLen) 4
          (by simp only [frameHeaderSize]; omega))
      have hbody := hdec.slice_eq
        (hpart 1 (frameHeaderSize + (frameHdrRead (cobsDecode m' len) 1).segLen)
          (by simp only [frameHeaderSize]; omega))
      rw [frameChecksumRead, frameChecksumRead, hword, hbody]
  · intro hok
    simp only [frameRead] at hok
    have hlong : ¬ frameLen (frameHdrRead (cobsDecode m len) 1).segLen > len := by
      intro hlong
      rw [frameChecksumRead, if_pos hlong] at hok
      cases hok
    rw [frameLen_eq] at hlong
    simp only [FrameRead.seg, frameRead]
    rw [← hread]
    exact hdec.slice_eq (hpart _ _ (by simp only [frameHeaderSize]; omega))

/-! ## Writing -/

/-- The encoder leaves two buffers equal that differ at most in the cell it patches next. -/
theorem cobsEncodeGo_agree :
    ∀ (n patch c : Nat) {m m' : Buf}, patch < c →
      (∀ i, i < c + n → i ≠ patch → m i = m' i) →
      (cobsEncodeGo m patch c n).2 = (cobsEncodeGo m' patch c n).2 ∧
        ∀ i, i < c + n → i ≠ (cobsEncodeGo m patch c n).2 →
          (cobsEncodeGo m patch c n).1 i = (cobsEncodeGo m' patch c n).1 i := by
  intro n
  induction n with
  | zero => exact fun _ _ _ _ _ h => ⟨rfl, h⟩
  | succ n ih =>
    intro patch c m m' hpatch h
    have hcell : m c = m' c := h c (by omega) (by omega)
    have hnext : c + (n + 1) = c + 1 + n := by omega
    unfold cobsEncodeGo
    by_cases hzero : m c = 0
    · rw [if_pos hzero, if_pos (hcell ▸ hzero), hnext]
      apply ih c (c + 1) (Nat.lt_succ_self c)
      intro i hi _
      by_cases hip : i = patch
      · rw [hip, Function.update_self, Function.update_self]
      · rw [Function.update_of_ne hip, Function.update_of_ne hip, h i (by omega) hip]
    · rw [if_neg hzero, if_neg (hcell ▸ hzero), hnext]
      exact ih patch (c + 1) (by omega) (fun i hi hip => h i (by omega) hip)

theorem cobsEncode_agree {len : Nat} (hlen : 2 ≤ len)
    (h : ∀ i, 0 < i → i < len - 1 → m i = m' i) :
    slice (cobsEncode m len) 0 len = slice (cobsEncode m' len) 0 len := by
  obtain ⟨hpatch, hcells⟩ := @cobsEncodeGo_agree (len - 2) 0 1 m m' Nat.zero_lt_one
    (fun i hi hne => h i (by omega) (by omega))
  rw [slice_eq_iff]
  intro j hj
  simp only [cobsEncode, Nat.zero_add, ← hpatch]
  by_cases hend : j = 1 + (len - 2)
  · rw [hend, Function.update_self, Function.update_self]
  · rw [Function.update_of_ne hend, Function.update_of_ne hend]
    by_cases hjp : j = (cobsEncodeGo m 0 1 (len - 2)).2
    · rw [hjp, Function.update_self, Function.update_self]
    · rw [Function.update_of_ne hjp, Function.update_of_ne hjp, hcells j (by omega) hjp]

theorem frameWrite_snd (hd : FrameHdr) (seg : List UInt8) (checksum : Checksum) (m : Buf) :
    (frameWrite hd seg checksum m).2 = frameLen hd.segLen := rfl

/-- The bytes of a frame are a function of its header and its segment. -/
theorem frameWrite_agree {hd : FrameHdr} {seg : List UInt8} (checksum : Checksum)
    (hseg : seg.length = hd.segLen) (m m' : Buf) :
    slice (frameWrite hd seg checksum m).1 0 (frameLen hd.segLen) =
      slice (frameWrite hd seg checksum m').1 0 (frameLen hd.segLen) := by
  have hnone : Agree (fun _ => false) m m' := fun _ h => absurd h Bool.false_ne_true
  have hhdr := hnone.memcpy 1 (frameHdrWrite hd)
  have hbody := hhdr.memcpy (1 + frameHeaderSize) seg
  rw [length_frameHdrWrite, hseg] at hbody
  have hmarked : Marked (paint (paint (fun _ => false) 1 frameHeaderSize) (1 + frameHeaderSize)
      hd.segLen) 1 (frameHeaderSize + hd.segLen) := by
    intro j hj
    by_cases hin : j < frameHeaderSize
    · exact paint_of_marked (paint_self _ _ _ j hin)
    · have hcell := paint_self (paint (fun _ => false) 1 frameHeaderSize) (1 + frameHeaderSize)
        hd.segLen (j - frameHeaderSize) (by omega)
      rwa [show 1 + frameHeaderSize + (j - frameHeaderSize) = 1 + j by omega] at hcell
  have hsum := hbody.slice_eq hmarked
  simp only [frameWrite]
  rw [hsum]
  have hall := hbody.memcpy (1 + frameHeaderSize + hd.segLen) (be32Write (checksum
    (slice (memcpy (memcpy m' 1 (frameHdrWrite hd)) (1 + frameHeaderSize) seg) 1
      (frameHeaderSize + hd.segLen))))
  apply cobsEncode_agree (by rw [frameLen_eq]; omega)
  intro i hpos hi
  apply hall
  rw [length_be32Write]
  rw [frameLen_eq] at hi
  by_cases hin : i < 1 + frameHeaderSize + hd.segLen
  · have hcell := hmarked (i - 1) (by omega)
    rw [Nat.add_sub_cancel' hpos] at hcell
    exact paint_of_marked hcell
  · have hcell := paint_self (paint (paint (fun _ => false) 1 frameHeaderSize)
      (1 + frameHeaderSize) hd.segLen) (1 + frameHeaderSize + hd.segLen) 4
      (i - (1 + frameHeaderSize + hd.segLen)) (by simp only [frameHeaderSize] at hin ⊢; omega)
    rwa [Nat.add_sub_cancel' (Nat.not_lt.mp hin)] at hcell

/-! ## Filling -/

theorem recvFrameFillGo_agree (src : List UInt8) :
    ∀ (dst : Nat) {s : Mem Bool} {m m' : Buf}, Agree s m m' →
      (recvFrameFillGo m dst src).2 = (recvFrameFillGo m' dst src).2 ∧
        Agree (paint s dst (recvFrameFillGo m dst src).2.1) (recvFrameFillGo m dst src).1
          (recvFrameFillGo m' dst src).1 := by
  induction src with
  | nil =>
    intro dst s m m' h
    refine ⟨rfl, ?_⟩
    rwa [recvFrameFillGo, recvFrameFillGo, paint_zero]
  | cons b src ih =>
    intro dst s m m' h
    have hwrite := h.write dst b
    unfold recvFrameFillGo
    by_cases hb : b = 0
    · rw [if_pos hb, if_pos hb]
      refine ⟨rfl, ?_⟩
      rw [paint_succ, paint_zero]
      exact hwrite
    · rw [if_neg hb, if_neg hb]
      obtain ⟨hcopied, hrest⟩ := ih (dst + 1) hwrite
      dsimp only
      rw [paint_succ, hcopied]
      rw [hcopied] at hrest
      exact ⟨rfl, hrest⟩

end NanoArq
