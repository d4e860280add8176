import NanoArq.Codec.Bounds
import NanoArq.Codec.Crc32
import NanoArq.Codec.Stream
import NanoArq.Rejected.Inert
import NanoArq.Sender.Poll

/-!
# Frames that are damaged on the way

A burst of errors, at most `32` bits long, hits a frame between `arq_backend_send_ptr_get` and
`arq_backend_recv_fill`. COBS spreads an error in one of its code bytes over the frame, so the
burst is one that spares these (`Burst.spared`), and the byte from which `arq__frame_read` learns
where the checksum is.

* `Burst.decoded`: what `arq__cobs_decode` makes of the damaged frame has its errors where the frame
  had them.
* `Burst.refused`: `arq__frame_read` finds the checksum wrong.
* `damaged_frame_refused`: the poll puts none of its bytes into the receive window.
-/

namespace NanoArq

open Lib

/-! ## Checksums -/

theorem arqCrc32_ne {xs ys : List UInt8} (hlen : xs.length = ys.length) (hne : xs ≠ ys) {k : Nat}
    (hburst : ∀ i, bitAt xs i ≠ bitAt ys i → k ≤ i ∧ i < k + 32) : arqCrc32 xs ≠ arqCrc32 ys := by
  intro heq
  have hreg := congrArg UInt32.toBitVec (UInt32.not_inj.mp heq)
  rw [foldl_arqCrc32Byte, foldl_arqCrc32Byte] at hreg
  refine @feed_ne 32 crc32Poly (by decide) _ _ (by simp [bits, hlen])
    (fun h => hne (bits_injective hlen h)) k ?_ _ hreg
  intro i hi
  refine hburst i fun hsame => hi ?_
  by_cases hlt : i < xs.length * 8
  · rw [bits_getElem? hlt, bits_getElem? (hlen ▸ hlt), hsame]
  · simp [bits, hlt, ← hlen]

/-- The four bytes of a checksum are read from four places. -/
theorem be32Read_inj {m m' : Buf} {ofs : Nat} (h : be32Read m ofs = be32Read m' ofs) :
    ∀ j, j < 4 → m (ofs + j) = m' (ofs + j) := by
  have hbits : ∀ m : Buf, be32Write (be32Read m ofs) = slice m ofs 4 := by
    intro m
    simp only [be32Write, be32Read, slice_succ, slice_zero, List.cons.injEq, and_true, Nat.add_assoc,
      Nat.reduceAdd]
    refine ⟨?_, ?_, ?_, ?_⟩ <;> apply UInt8.eq_of_toBitVec_eq <;> ext i hi <;>
      interval_cases i <;> simp
  rw [← slice_eq_iff, ← hbits, ← hbits, h]

/-! ## Damage -/

/-- Byte `i` of a list. -/
abbrev byteAt (x : List UInt8) (i : Nat) : UInt8 := x.getD i 0

/-- The bytes `w` are the frame of `h` and `seg` after a burst of errors. -/
structure Burst (h : FrameHdr) (seg w : List UInt8) : Prop where
  length : w.length = frameLen h.segLen
  differs : w ≠ encodeFrame arqCrc32 h seg
  bits : ∃ k, ∀ i, bitAt (encodeFrame arqCrc32 h seg) i ≠ bitAt w i → k ≤ i ∧ i < k + 32
  /-- The errors are in bytes that COBS does not replace, and none of these becomes a zero. -/
  spared : ∀ i, byteAt w i ≠ byteAt (encodeFrame arqCrc32 h seg) i →
    0 < i ∧ i ≠ 2 ∧ byteAt w i ≠ 0 ∧ byteAt (frameBody arqCrc32 h seg) (i - 1) ≠ 0
  /-- They are all before the checksum, or all in it. -/
  side : (∀ i, byteAt w i ≠ byteAt (encodeFrame arqCrc32 h seg) i → i < 13 + h.segLen) ∨
    ∀ i, byteAt w i ≠ byteAt (encodeFrame arqCrc32 h seg) i → 13 + h.segLen ≤ i

/-- The bytes of the frame before COBS, with the errors of `w`. -/
def burstRaw (h : FrameHdr) (seg w : List UInt8) : Buf := fun i =>
  if byteAt w i = byteAt (encodeFrame arqCrc32 h seg) i then frameRaw arqCrc32 h seg (fun _ => 0) i
  else byteAt w i

section

variable {h : FrameHdr} {seg w : List UInt8} {m : Buf}

theorem byteAt_slice (m : Buf) {i len : Nat} (hi : i < len) : byteAt (slice m 0 len) i = m i := by
  rw [byteAt, List.getD_eq_getElem?_getD, getElem?_slice m 0 hi, Nat.zero_add]
  rfl

theorem frameRaw_body (hf : FrameFits h seg) {i : Nat} (hpos : 0 < i) (hi : i < 17 + h.segLen) :
    frameRaw arqCrc32 h seg (fun _ => 0) i = byteAt (frameBody arqCrc32 h seg) (i - 1) := by
  rw [← slice_frameRaw arqCrc32 hf.length fun _ => 0, byteAt, List.getD_eq_getElem?_getD,
    getElem?_slice _ _ (by omega), Nat.add_sub_of_le hpos]
  rfl

theorem burstRaw_of_eq {i : Nat} (heq : byteAt w i = byteAt (encodeFrame arqCrc32 h seg) i) :
    burstRaw h seg w i = frameRaw arqCrc32 h seg (fun _ => 0) i := if_pos heq

theorem burstRaw_of_ne {i : Nat} (hne : byteAt w i ≠ byteAt (encodeFrame arqCrc32 h seg) i) :
    burstRaw h seg w i = byteAt w i := if_neg hne

/-- Errors are only in the bytes between the first and the last. -/
theorem Burst.address (hf : FrameFits h seg) (hb : Burst h seg w) {i : Nat}
    (hne : byteAt w i ≠ byteAt (encodeFrame arqCrc32 h seg) i) : 0 < i ∧ i < 17 + h.segLen := by
  obtain ⟨hpos, -, -, hbody⟩ := hb.spared i hne
  refine ⟨hpos, ?_⟩
  by_contra hge
  refine hbody ?_
  have hlen : (frameBody arqCrc32 h seg).length = 16 + h.segLen := by
    rw [← slice_frameRaw arqCrc32 hf.length fun _ => 0, length_slice]
  rw [byteAt, List.getD_eq_getElem?_getD, List.getElem?_eq_none (by omega)]
  rfl

/-- The errors leave the places of the zeros alone. -/
theorem Burst.zero_iff (hf : FrameFits h seg) (hb : Burst h seg w) {i : Nat} :
    burstRaw h seg w i = 0 ↔ frameRaw arqCrc32 h seg (fun _ => 0) i = 0 := by
  by_cases heq : byteAt w i = byteAt (encodeFrame arqCrc32 h seg) i
  · rw [burstRaw_of_eq heq]
  · obtain ⟨hpos, hlt⟩ := hb.address hf heq
    obtain ⟨-, -, hnz, hbody⟩ := hb.spared i heq
    rw [burstRaw_of_ne heq, frameRaw_body hf hpos hlt]
    exact iff_of_false hnz hbody

/-- The damaged frame is the coded form of a damaged body. -/
theorem Burst.coded (hf : FrameFits h seg) (hb : Burst h seg w)
    (hm : slice m 0 (frameLen h.segLen) = w) : CobsCoded (burstRaw h seg w) m (17 + h.segLen) := by
  have hcoded := @frameRaw_coded arqCrc32 h seg hf.wire fun _ => 0
  have hframe : ∀ i, i ≤ 17 + h.segLen →
      byteAt (encodeFrame arqCrc32 h seg) i = (frameWrite h seg arqCrc32 fun _ => 0).1 i := by
    intro i hi
    exact byteAt_slice _ (by rw [frameLen_eq]; omega)
  have hwire : ∀ i, i ≤ 17 + h.segLen → m i = byteAt w i := by
    intro i hi
    rw [← hm, byteAt_slice _ (by rw [frameLen_eq]; omega)]
  have hnext : ∀ {i j}, NextZero (burstRaw h seg w) (17 + h.segLen) i j →
      NextZero (frameRaw arqCrc32 h seg fun _ => 0) (17 + h.segLen) i j := by
    intro i j hj
    refine ⟨hj.lt, hj.le, fun k hik hkj => ?_, hj.stop.imp_right (hb.zero_iff hf).mp⟩
    exact mt (hb.zero_iff hf).mpr (hj.between k hik hkj)
  refine ⟨?_, ?_, ?_⟩
  · intro i hpos hi hne
    rw [hwire i hi.le]
    by_cases heq : byteAt w i = byteAt (encodeFrame arqCrc32 h seg) i
    · rw [burstRaw_of_eq heq] at hne ⊢
      rw [heq, hframe i hi.le]
      exact hcoded.data i hpos hi hne
    · rw [burstRaw_of_ne heq]
  · intro i j hi hplace hj
    have heq : byteAt w i = byteAt (encodeFrame arqCrc32 h seg) i := by
      by_contra hne
      obtain ⟨hpos, -, hnz, -⟩ := hb.spared i hne
      rcases hplace with h0 | h0
      · omega
      · rw [burstRaw_of_ne hne] at h0
        exact hnz h0
    rw [hwire i hi.le, heq, hframe i hi.le]
    exact hcoded.code i j hi (hplace.imp_right (hb.zero_iff hf).mp) (hnext hj)
  · have heq : byteAt w (17 + h.segLen) = byteAt (encodeFrame arqCrc32 h seg) (17 + h.segLen) := by
      by_contra hne
      have := hb.address hf hne
      omega
    rw [hwire _ le_rfl, heq, hframe _ le_rfl]
    exact hcoded.last

/-- Where the frame is damaged COBS had left its byte. -/
theorem Burst.frame_byte (hf : FrameFits h seg) (hb : Burst h seg w) {i : Nat}
    (hne : byteAt w i ≠ byteAt (encodeFrame arqCrc32 h seg) i) :
    byteAt (encodeFrame arqCrc32 h seg) i = frameRaw arqCrc32 h seg (fun _ => 0) i := by
  obtain ⟨hpos, hlt⟩ := hb.address hf hne
  obtain ⟨-, -, -, hbody⟩ := hb.spared i hne
  have hcoded := @frameRaw_coded arqCrc32 h seg hf.wire fun _ => 0
  rw [← frameRaw_body hf hpos hlt] at hbody
  rw [← hcoded.data i hpos hlt hbody]
  exact byteAt_slice _ (by rw [frameLen_eq]; omega)

theorem Burst.exists_error (hb : Burst h seg w) :
    ∃ i, byteAt w i ≠ byteAt (encodeFrame arqCrc32 h seg) i := by
  by_contra hnone
  push Not at hnone
  refine hb.differs (List.ext_getElem ?_ ?_)
  · rw [hb.length, length_encodeFrame]
  · intro i hi hi'
    have hbyte := hnone i
    rwa [byteAt, byteAt, List.getD_eq_getElem _ _ hi, List.getD_eq_getElem _ _ hi'] at hbyte

/-- What a frame holds before COBS: its checksum is that of its header and segment. -/
theorem frameRaw_checksum (checksum : Checksum) (hf : FrameFits h seg) (m : Buf) :
    (frameRaw checksum h seg m 2).toNat = h.segLen ∧
      be32Read (frameRaw checksum h seg m) (13 + h.segLen) =
        checksum (slice (frameRaw checksum h seg m) 1 (12 + h.segLen)) := by
  have hbody := slice_frameRaw checksum hf.length m
  have hhdrSeg : (frameHdrWrite h ++ seg).length = 12 + h.segLen := by
    rw [List.length_append, length_frameHdrWrite, frameHeaderSize, hf.length]
  have hdata : slice (frameRaw checksum h seg m) 1 (12 + h.segLen) = frameHdrWrite h ++ seg := by
    have htake := congrArg (List.take (12 + h.segLen)) hbody
    rwa [take_slice _ _ (by omega), frameBody, List.take_left' hhdrSeg] at htake
  have hsum : slice (frameRaw checksum h seg m) (13 + h.segLen) 4 =
      be32Write (checksum (frameHdrWrite h ++ seg)) := by
    have hdrop := congrArg (List.drop (12 + h.segLen)) hbody
    rwa [drop_slice, frameBody, List.drop_left' hhdrSeg,
      show 16 + h.segLen - (12 + h.segLen) = 4 by omega, ← Nat.add_assoc] at hdrop
  refine ⟨?_, ?_⟩
  · have hlen := congrArg (·[1]?) hdata
    rw [getElem?_slice _ _ (by omega)] at hlen
    have hsegLen := hf.segLen
    rw [Option.some.inj hlen]
    simp
    omega
  · rw [hdata, be32Read_write hsum]

theorem bitAt_slice (m : Buf) {ofs len i : Nat} (hi : i / 8 < len) :
    bitAt (slice m ofs len) i = (m (ofs + i / 8)).toBitVec.getLsbD (i % 8) := by
  unfold bitAt
  rw [List.getD_eq_getElem?_getD, getElem?_slice m ofs hi]
  rfl

/-- Errors before the checksum change the checksum of what is there. -/
theorem Burst.before (hf : FrameFits h seg) (hb : Burst h seg w)
    (hside : ∀ i, byteAt w i ≠ byteAt (encodeFrame arqCrc32 h seg) i → i < 13 + h.segLen) :
    arqCrc32 (slice (frameRaw arqCrc32 h seg fun _ => 0) 1 (12 + h.segLen)) ≠
      arqCrc32 (slice (burstRaw h seg w) 1 (12 + h.segLen)) := by
  obtain ⟨k, hk⟩ := hb.bits
  refine @arqCrc32_ne _ _ (by simp) ?_ (k - 8) ?_
  · intro heq
    obtain ⟨a, ha⟩ := hb.exists_error
    have hlt := hside a ha
    have hpos := (hb.address hf ha).1
    have hcell := slice_eq_iff.mp heq (a - 1) (by omega)
    rw [Nat.add_sub_of_le hpos, burstRaw_of_ne ha, ← hb.frame_byte hf ha] at hcell
    exact ha hcell.symm
  · intro i hi
    have hin : i / 8 < 12 + h.segLen := by
      by_contra hout
      refine hi ?_
      simp [bitAt, Nat.not_lt.mp hout]
    rw [bitAt_slice _ hin, bitAt_slice _ hin] at hi
    have hne : byteAt w (1 + i / 8) ≠ byteAt (encodeFrame arqCrc32 h seg) (1 + i / 8) := by
      intro heq
      rw [burstRaw_of_eq heq] at hi
      exact hi rfl
    rw [burstRaw_of_ne hne, ← hb.frame_byte hf hne] at hi
    have hbit := hk (8 + i) (by
      unfold bitAt
      rwa [show (8 + i) / 8 = 1 + i / 8 by omega, Nat.add_mod_left])
    omega

/-- Errors in the checksum change it. -/
theorem Burst.after (hf : FrameFits h seg) (hb : Burst h seg w)
    (hside : ∀ i, byteAt w i ≠ byteAt (encodeFrame arqCrc32 h seg) i → 13 + h.segLen ≤ i) :
    be32Read (burstRaw h seg w) (13 + h.segLen) ≠
      be32Read (frameRaw arqCrc32 h seg fun _ => 0) (13 + h.segLen) := by
  intro heq
  obtain ⟨a, ha⟩ := hb.exists_error
  have hge := hside a ha
  have hlt := (hb.address hf ha).2
  have hcell := be32Read_inj heq (a - (13 + h.segLen)) (by omega)
  rw [Nat.add_sub_of_le hge, burstRaw_of_ne ha, ← hb.frame_byte hf ha] at hcell
  exact ha hcell

/-- The checksum of a damaged frame is not the one it holds. -/
theorem Burst.mismatch (hf : FrameFits h seg) (hb : Burst h seg w) :
    be32Read (burstRaw h seg w) (13 + h.segLen) ≠
      arqCrc32 (slice (burstRaw h seg w) 1 (12 + h.segLen)) := by
  obtain ⟨-, hsum⟩ := frameRaw_checksum arqCrc32 hf fun _ => 0
  rcases hb.side with hbefore | hafter
  · have hword : be32Read (burstRaw h seg w) (13 + h.segLen) =
        be32Read (frameRaw arqCrc32 h seg fun _ => 0) (13 + h.segLen) := by
      apply be32Read_congr
      intro j hj
      apply burstRaw_of_eq
      by_contra hne
      have := hbefore _ hne
      omega
    rw [hword, hsum]
    exact hb.before hf hbefore
  · have hdata : slice (burstRaw h seg w) 1 (12 + h.segLen) =
        slice (frameRaw arqCrc32 h seg fun _ => 0) 1 (12 + h.segLen) := by
      rw [slice_eq_iff]
      intro j hj
      apply burstRaw_of_eq
      by_contra hne
      have := hafter _ hne
      omega
    rw [hdata, ← hsum]
    exact hb.after hf hafter

/-- What `arq__cobs_decode` makes of the damaged frame. -/
theorem Burst.decoded (hf : FrameFits h seg) (hb : Burst h seg w)
    (hm : slice m 0 (frameLen h.segLen) = w) {i : Nat} (hpos : 0 < i) (hi : i < 17 + h.segLen) :
    cobsDecode m (frameLen h.segLen) i = burstRaw h seg w i := by
  have hcoded := hb.coded hf hm
  have hlast : 17 + h.segLen = frameLen h.segLen - 1 := by
    rw [frameLen_eq]
    omega
  rw [hlast] at hcoded hi
  exact (cobsDecode_coded hcoded).2 i hpos hi

/-- `arq__frame_read` refuses a damaged frame. -/
theorem Burst.refused (hf : FrameFits h seg) (hb : Burst h seg w)
    (hm : slice m 0 (frameLen h.segLen) = w) :
    (frameRead m (frameLen h.segLen) arqCrc32).result = .errChecksum := by
  obtain ⟨hsegLen, -⟩ := frameRaw_checksum arqCrc32 hf fun _ => 0
  have hlen : (frameHdrRead (cobsDecode m (frameLen h.segLen)) 1).segLen = h.segLen := by
    have hspared : byteAt w 2 = byteAt (encodeFrame arqCrc32 h seg) 2 := by
      by_contra hne
      exact (hb.spared 2 hne).2.1 rfl
    change (cobsDecode m (frameLen h.segLen) 2).toNat = h.segLen
    rw [hb.decoded hf hm (by omega) (by omega), burstRaw_of_eq hspared, hsegLen]
  have hword : be32Read (cobsDecode m (frameLen h.segLen)) (13 + h.segLen) =
      be32Read (burstRaw h seg w) (13 + h.segLen) := by
    apply be32Read_congr
    intro j hj
    exact hb.decoded hf hm (by omega) (by omega)
  have hdata : slice (cobsDecode m (frameLen h.segLen)) 1 (12 + h.segLen) =
      slice (burstRaw h seg w) 1 (12 + h.segLen) := by
    rw [slice_eq_iff]
    intro j hj
    exact hb.decoded hf hm (by omega) (by omega)
  simp only [frameRead, hlen, frameChecksumRead, frameHeaderSize]
  rw [if_neg (lt_irrefl _), hword, hdata, if_pos (hb.mismatch hf)]

theorem byteAt_set (x : List UInt8) {i : Nat} (hi : i < x.length) (v : UInt8) (j : Nat) :
    byteAt (x.set i v) j = if j = i then v else byteAt x j := by
  rw [byteAt, byteAt, List.getD_eq_getElem?_getD, List.getD_eq_getElem?_getD, List.getElem?_set]
  by_cases hij : i = j
  · rw [if_pos hij, if_pos hi, if_pos hij.symm]
    rfl
  · rw [if_neg hij, if_neg (Ne.symm hij)]

/-- One damaged byte is a burst. -/
theorem Burst.of_byte {i : Nat} {v : UInt8} (hpos : 0 < i) (hlen : i ≠ 2)
    (hin : i < frameLen h.segLen) (hv : v ≠ 0) (hne : v ≠ byteAt (encodeFrame arqCrc32 h seg) i)
    (hbody : byteAt (frameBody arqCrc32 h seg) (i - 1) ≠ 0) :
    Burst h seg ((encodeFrame arqCrc32 h seg).set i v) := by
  have hbyte := byteAt_set (encodeFrame arqCrc32 h seg) (by rwa [length_encodeFrame]) v
  have herror : ∀ j, byteAt ((encodeFrame arqCrc32 h seg).set i v) j ≠
      byteAt (encodeFrame arqCrc32 h seg) j → j = i := by
    intro j hj
    by_contra hji
    rw [hbyte, if_neg hji] at hj
    exact hj rfl
  refine ⟨?_, ?_, ⟨8 * i, ?_⟩, ?_, ?_⟩
  · rw [List.length_set, length_encodeFrame]
  · intro heq
    have hsame := hbyte i
    rw [heq, if_pos rfl] at hsame
    exact hne hsame.symm
  · intro j hj
    have := herror (j / 8) fun heq =>
      hj (congrArg (fun c : UInt8 => c.toBitVec.getLsbD (j % 8)) heq.symm)
    omega
  · intro j hj
    obtain rfl := herror j hj
    rw [hbyte, if_pos rfl]
    exact ⟨hpos, hlen, hv, hbody⟩
  · by_cases hside : i < 13 + h.segLen
    · exact Or.inl fun j hj => by rw [herror j hj]; exact hside
    · exact Or.inr fun j hj => by rw [herror j hj]; exact Nat.not_lt.mp hside

end

/-! ## The poll -/

section

variable {arq : Arq} {h : FrameHdr} {seg w : List UInt8}

theorem Burst.bytes (hb : Burst h seg w) (hfull : FullFrame arq.recvFrame w) :
    arq.recvFrame.len = frameLen h.segLen ∧ slice arq.recvFrame.buf 0 (frameLen h.segLen) = w := by
  rw [← hb.length]
  exact ⟨hfull.len, hfull.bytes⟩

/-- The header of an intact frame. -/
theorem pollRh_intact (hf : FrameFits h seg)
    (hfull : FullFrame arq.recvFrame (encodeFrame arq.cfg.checksum h seg)) : pollRh arq = h := by
  have hread := hfull.read hf
  rw [pollRh, pollRead_of_full hfull.state]
  exact congrArg (fun r => r.2.1) hread

/-- The header of a damaged frame, when the errors are behind it. -/
theorem Burst.pollRh (hf : FrameFits h seg) (hb : Burst h seg w) (hfull : FullFrame arq.recvFrame w)
    (hhdr : ∀ i, i < 13 → byteAt w i = byteAt (encodeFrame arqCrc32 h seg) i) : pollRh arq = h := by
  obtain ⟨hlen, hbytes⟩ := hb.bytes hfull
  have hraw : slice (frameRaw arqCrc32 h seg fun _ => 0) 1 frameHeaderSize = frameHdrWrite h := by
    have htake := congrArg (List.take frameHeaderSize) (slice_frameRaw arqCrc32 hf.length fun _ => 0)
    rwa [take_slice _ _ (by unfold frameHeaderSize; omega), frameBody, List.append_assoc,
      List.take_left' (length_frameHdrWrite h)] at htake
  rw [NanoArq.pollRh, pollRead_of_full hfull.state]
  change frameHdrRead (cobsDecode arq.recvFrame.buf arq.recvFrame.len) 1 = h
  rw [hlen]
  refine frameHdrRead_write hf.hdr ?_
  rw [← hraw, slice_eq_iff]
  intro j hj
  unfold frameHeaderSize at hj
  rw [hb.decoded hf hbytes (by omega) (by omega), burstRaw_of_eq (hhdr _ (by omega))]

/-- The send side of a poll depends on the header that it has received. -/
theorem backendPoll_send_congr (b : Build) {f : RecvFrame} (dt : Nat)
    (hrh : NanoArq.pollRh { arq with recvFrame := f } = NanoArq.pollRh arq) :
    (backendPoll b { arq with recvFrame := f } dt).1.sendWnd = (backendPoll b arq dt).1.sendWnd ∧
      (backendPoll b { arq with recvFrame := f } dt).1.sendWndPtr =
        (backendPoll b arq dt).1.sendWndPtr := by
  have htimers : pollTimers { arq with recvFrame := f } dt = pollTimers arq dt := by
    rw [pollTimers, pollTimers, hrh]
  change (pollWork b { arq with recvFrame := f } dt).sendWnd = (pollWork b arq dt).sendWnd ∧
    (pollWork b { arq with recvFrame := f } dt).sendWndPtr = (pollWork b arq dt).sendWndPtr
  rw [pollWork_sendWnd, pollWork_sendWnd, pollWork_sendWndPtr, pollWork_sendWndPtr, htimers]
  exact ⟨rfl, rfl⟩

end

/-- **A damaged frame is refused.** The poll that finds it leaves the receive window as a poll
without a frame would. When no error is in the header the send side handles its ACK as if the frame
were intact. -/
theorem damaged_frame_refused (b : Build) (arq : Arq) (dt : Nat) (hsum : arq.cfg.checksum = arqCrc32)
    (h : FrameHdr) (seg w : List UInt8) (hf : FrameFits h seg) (hb : Burst h seg w)
    (hfull : FullFrame arq.recvFrame w) :
    (frameRead arq.recvFrame.buf arq.recvFrame.len arq.cfg.checksum).result = .errChecksum ∧
      (backendPoll b arq dt).1.recvWnd = (backendPoll b (emptyRecvFrame arq) dt).1.recvWnd ∧
      ((∀ i, i < 13 → byteAt w i = byteAt (encodeFrame arqCrc32 h seg) i) →
        ∀ f, FullFrame f (encodeFrame arqCrc32 h seg) →
          (backendPoll b { arq with recvFrame := f } dt).1.sendWnd = (backendPoll b arq dt).1.sendWnd ∧
            (backendPoll b { arq with recvFrame := f } dt).1.sendWndPtr =
              (backendPoll b arq dt).1.sendWndPtr) := by
  obtain ⟨hlen, hbytes⟩ := hb.bytes hfull
  have hresult : (frameRead arq.recvFrame.buf arq.recvFrame.len arq.cfg.checksum).result =
      .errChecksum := by
    rw [hlen, hsum]
    exact hb.refused hf hbytes
  have hrej : FrameRejected arq := by
    refine ⟨hfull.state, ?_⟩
    rw [hresult]
    decide
  refine ⟨hresult, ?_, ?_⟩
  · change (pollWork b arq dt).recvWnd = (pollWork b (emptyRecvFrame arq) dt).recvWnd
    rw [pollWork_rejected hrej, pollWork_empty]
    rfl
  · intro hhdr f hf'
    apply backendPoll_send_congr
    rw [← hsum] at hf'
    rw [hb.pollRh hf hfull hhdr]
    exact @pollRh_intact { arq with recvFrame := f } h seg hf hf'

/-- The header of a message of one byte that also acknowledges message `0`. -/
def damageSampleHdr : FrameHdr :=
  { frameHdrInit with segLen := 1, msgLen := 1, seg := true, ack := true, curAckVec := 1 }

/-- The frame of the byte `7`, which arrives as a `6`. -/
def damagedFrame : List UInt8 := (encodeFrame arqCrc32 damageSampleHdr [7]).set 13 6

/-- An instance with a message under way. -/
def awaitingArq : Arq :=
  [Call.send [5], .poll 0, .sendPtrGet, .sendPtrRelease].foldl (perform ⟨false⟩)
    (freshArq ⟨false⟩ { smallCfg 1 1 1 with checksum := arqCrc32 })

def damagedArq : Arq := perform ⟨false⟩ awaitingArq (.recvFill damagedFrame)

/-- The same instance when the frame arrives intact. -/
def intactArq : Arq :=
  perform ⟨false⟩ awaitingArq (.recvFill (encodeFrame arqCrc32 damageSampleHdr [7]))

/-- The segment of the damaged frame is not stored, and its ACK removes the message all the same. -/
theorem damaged_frame_refused_sample :
    ((frameRead damagedArq.recvFrame.buf damagedArq.recvFrame.len damagedArq.cfg.checksum).result =
        .errChecksum ∧
      (backendPoll ⟨false⟩ damagedArq 0).1.recvWnd =
        (backendPoll ⟨false⟩ (emptyRecvFrame damagedArq) 0).1.recvWnd ∧
      (backendPoll ⟨false⟩ { damagedArq with recvFrame := intactArq.recvFrame } 0).1.sendWnd =
        (backendPoll ⟨false⟩ damagedArq 0).1.sendWnd ∧
      (backendPoll ⟨false⟩ { damagedArq with recvFrame := intactArq.recvFrame } 0).1.sendWndPtr =
        (backendPoll ⟨false⟩ damagedArq 0).1.sendWndPtr) ∧
      damagedArq.sendWnd.w.size = 1 ∧ (backendPoll ⟨false⟩ damagedArq 0).1.sendWnd.w.size = 0 := by
  have hf : FrameFits damageSampleHdr [7] := by
    refine ⟨⟨?_, ?_, ?_, ?_, ?_, ?_, ?_, ?_⟩, rfl, ?_⟩ <;> decide
  have hb : Burst damageSampleHdr [7] damagedFrame := by
    apply @Burst.of_byte damageSampleHdr [7] 13 6
    · decide
    · decide
    · decide
    · decide
    · decide +kernel
    · decide +kernel
  have hfull : FullFrame damagedArq.recvFrame damagedFrame :=
    ⟨by decide +kernel, by decide +kernel, by decide +kernel⟩
  have hintact : FullFrame intactArq.recvFrame (encodeFrame arqCrc32 damageSampleHdr [7]) :=
    ⟨by decide +kernel, by decide +kernel, by decide +kernel⟩
  have hsum : damagedArq.cfg.checksum = arqCrc32 := by
    rw [damagedArq, perform_cfg]
    rfl
  obtain ⟨hresult, hwnd, hsend⟩ :=
    damaged_frame_refused ⟨false⟩ damagedArq 0 hsum damageSampleHdr [7] damagedFrame hf hb hfull
  obtain ⟨hsendWnd, hptr⟩ := hsend (by decide +kernel) intactArq.recvFrame hintact
  exact ⟨⟨hresult, hwnd, hsendWnd, hptr⟩, by decide +kernel, by decide +kernel⟩

end NanoArq
