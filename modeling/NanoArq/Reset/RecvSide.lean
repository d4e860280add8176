import NanoArq.Poll.SeatPoll
import NanoArq.Reset.Codec
import NanoArq.Reset.SendSide

/-!
# Two receive sides that differ in stale bytes

`RecvTwin` relates receive windows as `SendTwin` relates send windows, and `FrameTwin` relates
receive frames whose bytes so far are marked. A received segment marks the range `recvStored`, and
`recvReads` are the ranges that `arq__recv_wnd_recv` copies from.
-/

namespace NanoArq

open Lib

variable {s sf : Mem Bool} {rw rw' : RecvWnd} {rf rf' : RecvFrame}

def RecvTwin (s : Mem Bool) (rw rw' : RecvWnd) : Prop :=
  ∃ msg buf ack, rw' = { rw with w := rw.w.store msg buf, ack := ack } ∧
    WndAgree s rw.w msg buf ∧ EqBelow rw.w.cap rw.ack ack

/-! ## Frames -/

theorem recvWndStore_twin (h : RecvTwin s rw rw') (seq seg segCnt : Nat) (p : List UInt8)
    (interSegAck : Nat) {ofs n : Nat}
    (hrange : (ofs, n) = if (rw.w.msg (seq % rw.w.cap)).curAckVec.testBit seg then (0, 0)
      else ((wndSeg rw.w seq seg).1, p.length)) :
    RecvTwin (paint s ofs n) (recvWndStore rw seq seg segCnt p interSegAck).1
      (recvWndStore rw' seq seg segCnt p interSegAck).1 := by
  obtain ⟨msg, buf, ack, rfl, hw, hack⟩ := h
  have hslot := hw.at_slot seq
  have hseg := hw.wndSeg seq seg
  unfold recvWndStore
  dsimp only at hseg ⊢
  rw [hslot, hseg]
  by_cases hbit : (rw.w.msg (seq % rw.w.cap)).curAckVec.testBit seg = true
  · rw [if_pos hbit] at hrange
    cases hrange
    rw [if_pos hbit, if_pos hbit, paint_zero]
    exact ⟨msg, buf, _, rfl, hw, hack.update _ _⟩
  · rw [if_neg hbit] at hrange
    cases hrange
    rw [if_neg hbit, if_neg hbit]
    have hstored := hw.buf.memcpy (wndSeg rw.w seq seg).1 p
    by_cases hlast : seg = sub32 segCnt 1
    · rw [if_pos hlast, if_pos hlast]
      exact ⟨_, _, _, rfl, ⟨hw.cap_pos, hw.msg.update _ _, hstored⟩, hack.update _ _⟩
    · rw [if_neg hlast, if_neg hlast]
      exact ⟨_, _, _, rfl, ⟨hw.cap_pos, hw.msg.update _ _, hstored⟩, hack⟩

theorem recvWndSlide_twin (h : RecvTwin s rw rw') (seq : Nat) :
    (recvWndSlide rw seq = none ∧ recvWndSlide rw' seq = none) ∨
      ∃ x x', recvWndSlide rw seq = some x ∧ recvWndSlide rw' seq = some x' ∧ RecvTwin s x x' := by
  obtain ⟨msg, buf, ack, rfl, hw, hack⟩ := h
  have hnew : recvNewSize { rw with w := rw.w.store msg buf, ack := ack } seq =
      recvNewSize rw seq := rfl
  have hsame : ∀ size base, WndAgree s { rw.w with size := size, seq := base } msg buf :=
    fun _ _ => ⟨hw.cap_pos, hw.msg, hw.buf⟩
  unfold recvWndSlide
  rw [hnew]
  by_cases hbig : recvNewSize rw seq > rw.w.cap
  · rw [if_pos hbig, if_pos hbig]
    by_cases hfar : sub32 (recvNewSize rw seq) rw.slide > rw.w.cap
    · rw [if_pos hfar, if_pos hfar]
      exact Or.inl ⟨rfl, rfl⟩
    · rw [if_neg hfar, if_neg hfar]
      exact Or.inr ⟨_, _, rfl, rfl, msg, buf, ack, rfl, hsame _ _, hack⟩
  · rw [if_neg hbig, if_neg hbig]
    exact Or.inr ⟨_, _, rfl, rfl, msg, buf, ack, rfl, hsame _ _, hack⟩

theorem recvWndFrame_twin (h : RecvTwin s rw rw') (seq seg segCnt : Nat) (p : List UInt8)
    (interSegAck : Nat) :
    RecvTwin (paint s (recvStored rw seq seg p.length).1 (recvStored rw seq seg p.length).2)
      (recvWndFrame rw seq seg segCnt p interSegAck).1
      (recvWndFrame rw' seq seg segCnt p interSegAck).1 := by
  obtain ⟨hnone, hnone'⟩ | ⟨x, x', hsome, hsome', hx⟩ := recvWndSlide_twin h seq
  · rw [recvWndFrame, recvWndFrame, recvStored, hnone, hnone']
    exact h
  · rw [recvWndFrame, recvWndFrame, recvStored, hsome, hsome']
    exact recvWndStore_twin hx seq seg segCnt p interSegAck rfl

/-- A segment is stored at the same place. -/
theorem recvStored_twin (h : RecvTwin s rw rw') (seq seg n : Nat) :
    recvStored rw' seq seg n = recvStored rw seq seg n := by
  obtain ⟨hnone, hnone'⟩ | ⟨x, x', hsome, hsome', -⟩ := recvWndSlide_twin h seq
  · rw [recvStored_none hnone, recvStored_none hnone']
  · have hne : recvWndSlide rw seq ≠ none := by simp [hsome]
    have hne' : recvWndSlide rw' seq ≠ none := by simp [hsome']
    rw [recvStored_some hne, recvStored_some hne']
    obtain ⟨msg, buf, ack, rfl, hw, -⟩ := h
    simp only [hw.at_slot]

/-! ## Reading -/

/-- The window after `arq__recv_wnd_recv` has copied the last byte of the message at `idx`. -/
def recvHandedOver (rw : RecvWnd) (idx : Nat) : RecvWnd :=
  { rw with
    w := { rw.w with msg := Function.update rw.w.msg idx (msgEmpty rw.w.fullAckVec) }
    copyOfs := 0
    copySeq := (rw.copySeq + 1) % seqSpace
    slide := u16 (rw.slide + 1) }

/-- The ranges from which the loop of `arq__recv_wnd_recv` copies. -/
def recvReadsGo (base : Nat) : Nat → Nat → RecvWnd → Nat → List (Nat × Nat)
  | 0, _, _, _ => []
  | n + 1, i, rw, dstMax =>
    if dstMax = 0 then []
    else
      let idx := (base + i) % rw.w.cap
      let m := rw.w.msg idx
      let copyLen := min dstMax (sub32 m.len rw.copyOfs)
      if m.len = 0 then []
      else if m.curAckVec ≠ m.fullAckVec then []
      else
        let range := (idx * rw.w.msgLen + rw.copyOfs, copyLen)
        if rw.copyOfs + copyLen < m.len then [range]
        else range :: recvReadsGo base n (i + 1) (recvHandedOver rw idx) (dstMax - copyLen)

/-- The ranges from which `arq__recv_wnd_recv` copies, wherever in memory they lie. -/
def recvReads (rw : RecvWnd) (dstMax : Nat) : List (Nat × Nat) :=
  recvReadsGo rw.copySeq rw.w.size 0 rw dstMax

theorem recvWndRecvGo_reads (base : Nat) :
    ∀ (n i : Nat) (rw : RecvWnd) (dstMax : Nat), (recvWndRecvGo base n i rw dstMax).2 =
      (recvReadsGo base n i rw dstMax).flatMap fun r => slice rw.w.buf r.1 r.2 := by
  intro n
  induction n with
  | zero => exact fun _ _ _ => rfl
  | succ n ih =>
    intro i rw dstMax
    have hnext := ih (i + 1) (recvHandedOver rw ((base + i) % rw.w.cap))
    simp only [recvWndRecvGo, recvReadsGo]
    split_ifs
    · rfl
    · rfl
    · rfl
    · exact (List.append_nil _).symm
    · rw [List.flatMap_cons]
      exact congrArg _ (hnext _)

theorem recvWndRecvGo_twin (base : Nat) :
    ∀ (n i : Nat) {rw rw' : RecvWnd} (dstMax : Nat), RecvTwin s rw rw' →
      recvReadsGo base n i rw dstMax = recvReadsGo base n i rw' dstMax ∧
        RecvTwin s (recvWndRecvGo base n i rw dstMax).1 (recvWndRecvGo base n i rw' dstMax).1 := by
  intro n
  induction n with
  | zero => exact fun _ _ _ _ h => ⟨rfl, h⟩
  | succ n ih =>
    intro i rw rw' dstMax h
    obtain ⟨msg, buf, ack, rfl, hw, hack⟩ := h
    have hslot := hw.at_slot (base + i)
    have hself : RecvTwin s rw { rw with w := rw.w.store msg buf, ack := ack } :=
      ⟨msg, buf, ack, rfl, hw, hack⟩
    have hover : RecvTwin s (recvHandedOver rw ((base + i) % rw.w.cap))
        (recvHandedOver { rw with w := rw.w.store msg buf, ack := ack } ((base + i) % rw.w.cap)) :=
      ⟨_, _, ack, rfl, ⟨hw.cap_pos, hw.msg.update _ _, hw.buf⟩, hack⟩
    simp only [recvWndRecvGo, recvReadsGo, hslot]
    split_ifs
    · exact ⟨rfl, hself⟩
    · exact ⟨rfl, hself⟩
    · exact ⟨rfl, hself⟩
    · exact ⟨rfl, msg, buf, ack, rfl, hw, hack⟩
    · obtain ⟨hreads, hrest⟩ := ih (i + 1)
        (dstMax - min dstMax (sub32 (rw.w.msg ((base + i) % rw.w.cap)).len rw.copyOfs)) hover
      exact ⟨congrArg _ hreads, hrest⟩

theorem recvReads_twin (h : RecvTwin s rw rw') (dstMax : Nat) :
    recvReads rw' dstMax = recvReads rw dstMax := by
  obtain ⟨msg, buf, ack, rfl, hw, hack⟩ := h
  exact (recvWndRecvGo_twin rw.copySeq rw.w.size 0 dstMax
    (show RecvTwin s rw { rw with w := rw.w.store msg buf, ack := ack } from
      ⟨msg, buf, ack, rfl, hw, hack⟩)).1.symm

/-- Reading marked ranges gives the same bytes. -/
theorem recvWndRecv_twin (h : RecvTwin s rw rw') {dstMax : Nat}
    (hmarked : ∀ r ∈ recvReads rw dstMax, Marked s r.1 r.2) :
    (recvWndRecv rw dstMax).2 = (recvWndRecv rw' dstMax).2 ∧
      RecvTwin s (recvWndRecv rw dstMax).1 (recvWndRecv rw' dstMax).1 := by
  obtain ⟨msg, buf, ack, rfl, hw, hack⟩ := h
  obtain ⟨hreads, hrest⟩ := recvWndRecvGo_twin rw.copySeq rw.w.size 0 dstMax
    (show RecvTwin s rw { rw with w := rw.w.store msg buf, ack := ack } from
      ⟨msg, buf, ack, rfl, hw, hack⟩)
  refine ⟨?_, hrest⟩
  unfold recvWndRecv
  rw [recvWndRecvGo_reads, recvWndRecvGo_reads, ← hreads]
  apply List.flatMap_congr
  intro r hr
  exact hw.buf.slice_eq (hmarked r hr)

theorem recvWndPending_twin (h : RecvTwin s rw rw') : recvWndPending rw' = recvWndPending rw := by
  obtain ⟨msg, buf, ack, rfl, hw, -⟩ := h
  unfold recvWndPending
  dsimp only
  rw [hw.at_slot]

/-! ## Acknowledgements and timers -/

theorem recvWndAck_twin (h : RecvTwin s rw rw') :
    (recvWndAck rw).2 = (recvWndAck rw').2 ∧ RecvTwin s (recvWndAck rw).1 (recvWndAck rw').1 := by
  obtain ⟨msg, buf, ack, rfl, hw, hack⟩ := h
  unfold recvWndAck
  simp only [← hack.mod hw.cap_pos]
  cases (List.range rw.w.size).find? (fun i => rw.ack ((rw.w.seq + i) % rw.w.cap)) with
  | none => exact ⟨rfl, msg, buf, ack, rfl, hw, hack⟩
  | some i =>
    dsimp only
    rw [hw.at_slot]
    exact ⟨rfl, msg, buf, _, rfl, hw, hack.update _ _⟩

theorem recvPollAck_twin (h : RecvTwin s rw rw') (sh : FrameHdr) :
    (recvPollAck rw sh).2 = (recvPollAck rw' sh).2 ∧
      RecvTwin s (recvPollAck rw sh).1 (recvPollAck rw' sh).1 := by
  obtain ⟨hsame, hrest⟩ := recvWndAck_twin h
  rw [recvPollAck_recvWnd, recvPollAck_recvWnd]
  refine ⟨?_, hrest⟩
  unfold recvPollAck
  generalize recvWndAck rw = x at hsame ⊢
  generalize recvWndAck rw' = x' at hsame ⊢
  obtain ⟨y, o⟩ := x
  obtain ⟨y', o'⟩ := x'
  obtain rfl : o = o' := hsame
  cases o with
  | none => rfl
  | some a => rfl

theorem recvPollTimer_twin (h : RecvTwin s rw rw') (dt : Nat) :
    RecvTwin s (recvPollTimer rw dt) (recvPollTimer rw' dt) := by
  obtain ⟨msg, buf, ack, rfl, hw, hack⟩ := h
  unfold recvPollTimer
  by_cases hon : rw.interSegAckOn = true
  · rw [if_pos hon, if_pos hon]
    by_cases hout : subSat rw.interSegAck dt = 0
    · rw [if_pos hout, if_pos hout]
      exact ⟨msg, buf, _, rfl, hw, hack.update _ _⟩
    · rw [if_neg hout, if_neg hout]
      exact ⟨msg, buf, ack, rfl, hw, hack⟩
  · rw [if_neg hon, if_neg hon]
    exact ⟨msg, buf, ack, rfl, hw, hack⟩

/-! ## The receive frame -/

/-- Receive frames with the same marked bytes; what is accumulated so far is marked. -/
def FrameTwin (s : Mem Bool) (rf rf' : RecvFrame) : Prop :=
  ∃ buf, rf' = { rf with buf := buf } ∧ Agree s rf.buf buf ∧ Marked s 0 rf.len

theorem recvFrameFill_twin (h : FrameTwin sf rf rf') (src : List UInt8) :
    (recvFrameFill rf src).2 = (recvFrameFill rf' src).2 ∧
      FrameTwin (paint sf rf.len (recvFrameFill rf src).2) (recvFrameFill rf src).1
        (recvFrameFill rf' src).1 := by
  obtain ⟨buf, rfl, hbuf, hlen⟩ := h
  unfold recvFrameFill
  by_cases hfull : rf.state = .fullFramePresent
  · rw [if_pos hfull, if_pos hfull, paint_zero]
    exact ⟨rfl, buf, rfl, hbuf, hlen⟩
  · rw [if_neg hfull, if_neg hfull]
    obtain ⟨hcopied, hrest⟩ :=
      recvFrameFillGo_agree (src.take (sub32 rf.cap rf.len)) rf.len hbuf
    dsimp only
    rw [← hcopied]
    refine ⟨rfl, _, rfl, hrest, ?_⟩
    apply Marked.le _ (Nat.mod_le _ 65536)
    intro j hj
    rw [Nat.zero_add]
    by_cases hin : j < rf.len
    · have hold := hlen j hin
      rw [Nat.zero_add] at hold
      exact paint_of_marked hold
    · obtain ⟨k, rfl⟩ := Nat.exists_eq_add_of_le (Nat.not_lt.mp hin)
      exact paint_self _ _ _ k (by omega)

theorem recvPollFrame_twin (h : RecvTwin s rw rw') (hf : FrameTwin sf rf rf')
    (hhdr : rf.state = .fullFramePresent → Marked sf 1 frameHeaderSize) (checksum : Checksum)
    (rh : FrameHdr) (interSegAck : Nat) :
    RecvTwin (paint s (recvPollStored rw rf checksum).1 (recvPollStored rw rf checksum).2)
        (recvPollFrame rw rf checksum rh interSegAck).1
        (recvPollFrame rw' rf' checksum rh interSegAck).1 ∧
      FrameTwin sf (recvPollFrame rw rf checksum rh interSegAck).2.1
        (recvPollFrame rw' rf' checksum rh interSegAck).2.1 ∧
      (recvPollFrame rw rf checksum rh interSegAck).2.2 =
        (recvPollFrame rw' rf' checksum rh interSegAck).2.2 := by
  obtain ⟨buf, rfl, hbuf, hlen⟩ := hf
  unfold recvPollFrame recvPollStored
  by_cases hfull : rf.state = .fullFramePresent
  · rw [if_pos hfull, if_pos hfull]
    obtain ⟨hresult, hread, hseg, hdec⟩ := frameRead_agree checksum hbuf hlen (hhdr hfull)
    dsimp only
    rw [← hresult, ← hread]
    refine ⟨?_, ⟨_, rfl, hdec, fun j hj => absurd hj (Nat.not_lt_zero j)⟩, rfl⟩
    by_cases hdata : (frameRead rf.buf rf.len checksum).result = .success ∧
        (frameRead rf.buf rf.len checksum).hdr.seg = true
    · rw [if_pos ⟨hfull, hdata⟩, if_pos hdata, if_pos hdata, ← hseg hdata.1]
      exact recvWndFrame_twin h _ _ _ _ _
    · rw [if_neg (fun hall => hdata hall.2), if_neg hdata, if_neg hdata, paint_zero]
      exact h
  · rw [if_neg hfull, if_neg hfull, if_neg (fun hall => hfull hall.1), paint_zero]
    exact ⟨h, ⟨buf, rfl, hbuf, hlen⟩, rfl⟩

/-- A poll stores its segment at the same place. -/
theorem recvPollStored_twin (h : RecvTwin s rw rw') (hf : FrameTwin sf rf rf')
    (hhdr : rf.state = .fullFramePresent → Marked sf 1 frameHeaderSize) (checksum : Checksum) :
    recvPollStored rw' rf' checksum = recvPollStored rw rf checksum := by
  obtain ⟨buf, rfl, hbuf, hlen⟩ := hf
  unfold recvPollStored
  by_cases hfull : rf.state = .fullFramePresent
  · obtain ⟨hresult, hread, hseg, -⟩ := frameRead_agree checksum hbuf hlen (hhdr hfull)
    dsimp only
    rw [← hresult, ← hread]
    split_ifs with hdata
    · rw [← hseg hdata.2.1, recvStored_twin h]
    · rfl
  · rw [if_neg (fun hall => hfull hall.1), if_neg (fun hall => hfull hall.1)]

theorem recvPoll_twin (h : RecvTwin s rw rw') (hf : FrameTwin sf rf rf')
    (hhdr : rf.state = .fullFramePresent → Marked sf 1 frameHeaderSize) (checksum : Checksum)
    (sh : Option FrameHdr) (rh : FrameHdr) (dt interSegAck : Nat) {x x' : RecvPolled}
    (hx : x = recvPoll rw rf checksum sh rh dt interSegAck)
    (hx' : x' = recvPoll rw' rf' checksum sh rh dt interSegAck) :
    RecvTwin (paint s (recvPollStored rw rf checksum).1 (recvPollStored rw rf checksum).2)
        x.recvWnd x'.recvWnd ∧
      FrameTwin sf x.recvFrame x'.recvFrame ∧ x.sh = x'.sh ∧ x.rh = x'.rh ∧ x.emit = x'.emit := by
  subst hx hx'
  obtain ⟨hwnd, hframe, hread⟩ := recvPollFrame_twin h hf hhdr checksum rh interSegAck
  have htimer := recvPollTimer_twin hwnd dt
  cases sh with
  | none => exact ⟨htimer, hframe, rfl, hread, rfl⟩
  | some sh =>
    obtain ⟨hsent, hrest⟩ := recvPollAck_twin htimer sh
    exact ⟨hrest, hframe, congrArg some hsent, hread, congrArg FrameHdr.ack hsent⟩

end NanoArq
