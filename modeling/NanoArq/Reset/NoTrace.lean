import NanoArq.Reset.SeatTwin

/-!
# What a reset leaves behind

`arq_reset` clears the fields of an instance but neither its buffers nor the union of the
connection. The instance is followed with a mark on every cell of its buffers that is zero at the
reset or written after it. As long as no call reads a cell without a mark or leaves the buffer of the
receive window, `reset_leaves_no_trace` says that the outputs are those of a fresh instance. The header
of a frame that is too short to hold one reads such cells: `stale_header_acted_on`.
-/

namespace NanoArq

open Lib

/-- Every cell that holds zero is marked; those of the window's buffer end where it does. -/
def zeroMarks (arq : Arq) : Marks where
  sendBuf := fun i => decide (arq.sendWnd.w.buf i = 0)
  recvBuf := fun i => decide (i < recvBufLen arq.cfg ∧ arq.mem i = 0)
  frameBuf := fun i => decide (arq.recvFrame.buf i = 0)

def markedStep (b : Build) (x : MarkedArq) (c : Call) : MarkedArq where
  arq := seatPerform b x.arq c
  marks := marksAfter x.arq x.marks c

/-- A call reads marked cells only, and stays inside the buffer of the receive window. -/
def ReadsNew (x : MarkedArq) (c : Call) : Prop := ReadsMarked x c ∧ StaysInside x.arq c

instance (x : MarkedArq) (c : Call) : Decidable (ReadsNew x c) := inferInstanceAs (Decidable (_ ∧ _))

/-! ## After the reset -/

theorem wndRst_agree {cap msgLen segLen : Nat} {w w' : Wnd} (h : WndDims cap msgLen segLen w)
    (h' : WndDims cap msgLen segLen w') (hcap : 0 < u16 cap) {s : Mem Bool}
    (hbuf : Agree s w.buf w'.buf) :
    wndRst w' = (wndRst w).store (wndRst w').msg w'.buf ∧
      WndAgree s (wndRst w) (wndRst w').msg w'.buf := by
  have hempty : ∀ i, i < w.cap → (wndRst w).msg i = (wndRst w').msg i := by
    intro i hi
    have hi' : i < w'.cap := by
      rw [h'.cap_eq, ← h.cap_eq]
      exact hi
    rw [wndRst_msg w hi, wndRst_msg w' hi', h.full_eq, h'.full_eq]
  refine ⟨?_, ?_, hempty, hbuf⟩
  · have hcaps := h'.cap_eq.trans h.cap_eq.symm
    have hlens := h'.msgLen_eq.trans h.msgLen_eq.symm
    have hsegs := h'.segLen_eq.trans h.segLen_eq.symm
    have hfulls := h'.full_eq.trans h.full_eq.symm
    obtain ⟨msg, buf, seq, c, size, l, g, f⟩ := w'
    dsimp only at hcaps hlens hsegs hfulls
    subst hcaps hlens hsegs hfulls
    rfl
  · change 0 < w.cap
    rw [h.cap_eq]
    exact hcap

theorem zero_agree {buf : Buf} : Agree (fun i => decide (buf i = 0)) buf (fun _ => 0) :=
  fun _ h => of_decide_eq_true h

variable {b : Build} {cfg : Cfg}

/-- Right after the reset an instance differs from a fresh one in cells that are not zero. -/
theorem twin_fresh {arq : Arq} (h : ArraysSound cfg arq)
    (hfit : frameLen cfg.segmentLengthInBytes < 65536)
    (hsend : 0 < u16 cfg.sendWindowSizeInMessages) (hrecv : 0 < u16 cfg.recvWindowSizeInMessages) :
    Twin (zeroMarks (rstArq b arq)) (rstArq b arq) (freshSeat b cfg) := by
  have hsendDims := h.send
  have hrecvDims := h.recv.dims
  obtain ⟨hsendEq, hsendAgree⟩ := @wndRst_agree _ _ _ arq.sendWnd.w
    (initArq (zeroSeat cfg)).sendWnd.w hsendDims ⟨rfl, rfl, rfl, rfl⟩ hsend _ zero_agree
  have hzero : Agree (zeroMarks (rstArq b arq)).recvBuf arq.recvWnd.w.buf (fun _ => 0) :=
    fun _ hi => (of_decide_eq_true hi).2
  obtain ⟨hrecvEq, hrecvAgree⟩ := @wndRst_agree _ _ _ arq.recvWnd.w
    (initArq (zeroSeat cfg)).recvWnd.w hrecvDims ⟨rfl, rfl, rfl, rfl⟩ hrecv _ hzero
  have hframeCap : arq.recvFrame.cap = (initArq (zeroSeat cfg)).recvFrame.cap := by
    rw [h.recvCap]
    exact (u16_of_lt hfit).symm
  have htimers : EqBelow arq.sendWnd.w.cap (sendWndRst arq.sendWnd).rtx
      (freshArq b cfg).sendWnd.rtx := by
    intro i hi
    have hi' : i < (initArq (zeroSeat cfg)).sendWnd.w.cap := by
      rwa [hsendDims.cap_eq] at hi
    have hleft := foldl_update_const arq.sendWnd.w.cap 0 arq.sendWnd.rtx i
    have hright := foldl_update_const (initArq (zeroSeat cfg)).sendWnd.w.cap 0
      (initArq (zeroSeat cfg)).sendWnd.rtx i
    rw [if_pos hi] at hleft
    rw [if_pos hi'] at hright
    exact hleft.trans hright.symm
  have hacks : EqBelow arq.recvWnd.w.cap (recvWndRst arq.recvWnd).ack
      (freshArq b cfg).recvWnd.ack := by
    intro i hi
    have hi' : i < (initArq (zeroSeat cfg)).recvWnd.w.cap := by
      rwa [hrecvDims.cap_eq] at hi
    have hleft := foldl_update_const arq.recvWnd.w.cap false arq.recvWnd.ack i
    have hright := foldl_update_const (initArq (zeroSeat cfg)).recvWnd.w.cap false
      (initArq (zeroSeat cfg)).recvWnd.ack i
    rw [if_pos hi] at hleft
    rw [if_pos hi'] at hright
    exact hleft.trans hright.symm
  refine ⟨h.cfg_eq.symm, rfl, rfl, ?_, ?_, ?_, rfl, rfl, rfl, ?_⟩
  · exact ⟨_, _, _, congrArg (fun w => SendWnd.mk w (freshArq b cfg).sendWnd.rtx 0 false) hsendEq,
      hsendAgree, htimers⟩
  · exact ⟨_, _, _, congrArg (fun w => RecvWnd.mk w (freshArq b cfg).recvWnd.ack timeInfinity 0 false
      0 0 0) hrecvEq, hrecvAgree, hacks⟩
  · refine ⟨_, ?_, zero_agree, fun j hj => absurd hj (Nat.not_lt_zero j)⟩
    simp only [freshSeat, Arq.placed, freshArq, rstArq, recvFrameRst]
    rw [← hframeCap]
    rfl
  · refine ConnTwin.of_state rfl ?_ ?_
    · simp only [rstArq]
      split <;> exact fun h => ConnState.noConfusion h
    · simp only [rstArq]
      split <;> exact fun h => ConnState.noConfusion h

end NanoArq
