import NanoArq.Model.SeatMemory
import NanoArq.Poll.Outgoing
import NanoArq.Receiver.InSlot

/-!
# What a poll writes to the memory of the seat

A poll writes to the three arrays in this order: it decodes the frame received in place, copies its
segment to the range `recvPollStored`, and writes a frame of its own. The segment is the one write
that can leave its array.
-/

namespace NanoArq

open Lib

/-! ## The send frame -/

section

variable {b : Build} {arq : Arq} {dt : Nat}

/-- The frame of a poll fits the send frame. -/
theorem pollFrame_fits {cap msgLen segLen : Nat} (hdims : WndDims cap msgLen segLen arq.sendWnd.w)
    {hd : FrameHdr} {payload : List UInt8} (hframe : pollFrame (pollWork b arq dt) = some (hd, payload)) :
    frameLen hd.segLen ≤ frameLen segLen := by
  have htimers : SendRun arq.sendWnd (pollTimers arq dt) := .timers _ _ _
  have hwritten : hd.segLen ≤ (pollTimers arq dt).w.segLen := pollFrame_segLen hframe
  rw [(htimers.dims hdims).segLen_eq] at hwritten
  have hle := hwritten.trans (Nat.mod_le segLen 65536)
  rw [frameLen_eq, frameLen_eq]
  omega

/-- What a poll leaves of the send frame: the frame that it writes, or the one that was there. -/
theorem backendPoll_writes {cap msgLen segLen : Nat} (hdims : WndDims cap msgLen segLen arq.sendWnd.w)
    (hfit : frameLen segLen < 65536) :
    (pollFrame (pollWork b arq dt) = none ∧ (backendPoll b arq dt).1.sendFrame = arq.sendFrame) ∨
      ∃ hd payload, pollFrame (pollWork b arq dt) = some (hd, payload) ∧ sendFrameFree arq ∧
        frameLen hd.segLen ≤ frameLen segLen ∧
        (backendPoll b arq dt).1.sendFrame.len = frameLen hd.segLen ∧
        (backendPoll b arq dt).1.sendFrame.state = .free := by
  cases hframe : pollFrame (pollWork b arq dt) with
  | none =>
    rw [backendPoll_sendFrame, hframe]
    exact Or.inl ⟨rfl, rfl⟩
  | some p =>
    have hfree : sendFrameFree arq := by
      by_contra hbusy
      rw [pollFrame_busy hbusy] at hframe
      cases hframe
    have hle := pollFrame_fits hdims hframe
    rw [backendPoll_sendFrame, hframe]
    exact Or.inr ⟨p.1, p.2, rfl, hfree, hle, u16_of_lt (hle.trans_lt hfit), rfl⟩

end

/-! ## The segment -/

/-- Where `arq__recv_wnd_frame` copies a segment of `n` bytes to, and how many of them. -/
def recvStored (rw : RecvWnd) (seq seg n : Nat) : Nat × Nat :=
  match recvWndSlide rw seq with
  | none => (0, 0)
  | some rw =>
    if (rw.w.msg (seq % rw.w.cap)).curAckVec.testBit seg then (0, 0)
    else ((wndSeg rw.w seq seg).1, n)

/-- The range of the receive window's buffer to which a poll copies a segment. -/
def recvPollStored (rw : RecvWnd) (rf : RecvFrame) (checksum : Checksum) : Nat × Nat :=
  let r := frameRead rf.buf rf.len checksum
  if rf.state = .fullFramePresent ∧ r.result = .success ∧ r.hdr.seg then
    recvStored rw r.hdr.seqNum r.hdr.segId r.seg.length
  else (0, 0)

theorem recvStored_none {rw : RecvWnd} {seq : Nat} (h : recvWndSlide rw seq = none) (seg n : Nat) :
    recvStored rw seq seg n = (0, 0) := by
  rw [recvStored, h]

theorem recvStored_some {rw : RecvWnd} {seq : Nat} (h : recvWndSlide rw seq ≠ none) (seg n : Nat) :
    recvStored rw seq seg n =
      if (rw.w.msg (seq % rw.w.cap)).curAckVec.testBit seg then (0, 0)
      else (rw.w.msgLen * (seq % rw.w.cap) + rw.w.segLen * seg, n) := by
  obtain ⟨rw', hslide⟩ := Option.ne_none_iff_exists'.mp h
  have hw : rw'.w = { rw.w with seq := rw'.w.seq, size := rw'.w.size } :=
    congrArg RecvWnd.w (recvWndSlide_rest hslide)
  rw [recvStored, hslide]
  dsimp only [wndSeg]
  rw [hw]

/-- Where a segment goes does not depend on the bytes of the window. -/
theorem recvStored_buf (rw : RecvWnd) (seq seg n : Nat) (buf : Buf) :
    recvStored { rw with w := { rw.w with buf := buf } } seq seg n = recvStored rw seq seg n := by
  have hiff : recvWndSlide { rw with w := { rw.w with buf := buf } } seq = none ↔
      recvWndSlide rw seq = none := by
    unfold recvWndSlide
    rw [show recvNewSize { rw with w := { rw.w with buf := buf } } seq = recvNewSize rw seq from rfl]
    dsimp only
    split_ifs <;> simp
  by_cases hslide : recvWndSlide rw seq = none
  · rw [recvStored_none hslide, recvStored_none (hiff.mpr hslide)]
  · rw [recvStored_some hslide, recvStored_some (mt hiff.mp hslide)]

theorem recvWndFrame_buf (rw : RecvWnd) (seq seg segCnt : Nat) (p : List UInt8) (interSegAck : Nat) :
    (recvWndFrame rw seq seg segCnt p interSegAck).1.w.buf =
      memcpy rw.w.buf (recvStored rw seq seg p.length).1
        (p.take (recvStored rw seq seg p.length).2) := by
  rcases recvWndFrame_cases rw seq seg segCnt p interSegAck with
    ⟨hrefused, hbuf, -⟩ | ⟨htaken, hnew, hbuf, -⟩
  · have hnone : recvStored rw seq seg p.length = (0, 0) := by
      by_cases hslide : recvWndSlide rw seq = none
      · exact recvStored_none hslide _ _
      · rw [recvStored_some hslide, if_pos (hrefused.resolve_left hslide)]
    rw [hbuf, hnone, List.take_zero, memcpy_nil]
  · rw [hbuf, recvStored_some htaken, if_neg (by rw [hnew]; decide), List.take_length]

section

variable {b : Build} {arq : Arq} {dt : Nat}

/-- What a poll leaves in the buffer of its receive window. -/
theorem backendPoll_mem (b : Build) (arq : Arq) (dt : Nat) :
    ∃ p : List UInt8,
      p.length = (recvPollStored arq.recvWnd arq.recvFrame arq.cfg.checksum).2 ∧
      (backendPoll b arq dt).1.mem =
        memcpy arq.mem (recvPollStored arq.recvWnd arq.recvFrame arq.cfg.checksum).1 p := by
  have hbuf : (backendPoll b arq dt).1.mem = (recvPollFrame arq.recvWnd arq.recvFrame
      arq.cfg.checksum frameHdrInit arq.cfg.interSegmentTimeout).1.w.buf :=
    congrArg Wnd.buf (backendPoll_slots b arq dt)
  rw [hbuf]
  unfold recvPollFrame recvPollStored
  by_cases hfull : arq.recvFrame.state = .fullFramePresent
  · rw [if_pos hfull]
    dsimp only
    generalize frameRead arq.recvFrame.buf arq.recvFrame.len arq.cfg.checksum = r
    by_cases hdata : r.result = .success ∧ r.hdr.seg = true
    · rw [if_pos hdata, if_pos ⟨hfull, hdata⟩]
      refine ⟨_, ?_, recvWndFrame_buf ..⟩
      rw [List.length_take]
      apply Nat.min_eq_left
      unfold recvStored
      split
      · exact Nat.zero_le _
      · split
        · exact Nat.zero_le _
        · exact le_rfl
    · rw [if_neg hdata, if_neg (fun h => hdata h.2)]
      exact ⟨[], rfl, (memcpy_nil _ _).symm⟩
  · rw [if_neg hfull, if_neg (fun h => hfull h.1)]
    exact ⟨[], rfl, (memcpy_nil _ _).symm⟩

/-! ## Decoding -/

@[simp] theorem decoded_cfg (arq : Arq) : arq.decoded.cfg = arq.cfg := by
  unfold Arq.decoded
  split <;> rfl

@[simp] theorem decoded_sendFrame (arq : Arq) : arq.decoded.sendFrame = arq.sendFrame := by
  unfold Arq.decoded
  split <;> rfl

@[simp] theorem decoded_recvFrame (arq : Arq) : arq.decoded.recvFrame = arq.recvFrame := by
  unfold Arq.decoded
  split <;> rfl

@[simp] theorem decoded_sendWnd (arq : Arq) : arq.decoded.sendWnd = arq.sendWnd := by
  unfold Arq.decoded
  split <;> rfl

@[simp] theorem decoded_sendWndPtr (arq : Arq) : arq.decoded.sendWndPtr = arq.sendWndPtr := by
  unfold Arq.decoded
  split <;> rfl

@[simp] theorem decoded_conn (arq : Arq) : arq.decoded.conn = arq.conn := by
  unfold Arq.decoded
  split <;> rfl

theorem decoded_recvWnd (arq : Arq) :
    arq.decoded.recvWnd =
      { arq.recvWnd with w := { arq.recvWnd.w with buf := arq.decoded.mem } } := by
  unfold Arq.decoded
  split <;> rfl

/-- Decoding writes to the receive frame. -/
theorem decoded_mem_of_lt {a : Nat} (ha : a < recvFrameOfs arq.cfg) :
    arq.decoded.mem a = arq.mem a := by
  unfold Arq.decoded
  split
  · exact setTail_of_lt ha
  · rfl

theorem recvPollStored_decoded (arq : Arq) :
    recvPollStored arq.decoded.recvWnd arq.recvFrame arq.cfg.checksum =
      recvPollStored arq.recvWnd arq.recvFrame arq.cfg.checksum := by
  rw [decoded_recvWnd]
  unfold recvPollStored
  dsimp only
  rw [recvStored_buf]

/-! ## The poll -/

/-- The memory after a poll has stored the segment that it reads. -/
def storedMem (b : Build) (arq : Arq) (dt : Nat) : Buf := (backendPoll b arq.decoded dt).1.mem

theorem storedMem_eq (b : Build) (arq : Arq) (dt : Nat) :
    ∃ p : List UInt8,
      p.length = (recvPollStored arq.recvWnd arq.recvFrame arq.cfg.checksum).2 ∧
      storedMem b arq dt =
        memcpy arq.decoded.mem (recvPollStored arq.recvWnd arq.recvFrame arq.cfg.checksum).1 p := by
  have h := backendPoll_mem b arq.decoded dt
  rwa [decoded_recvFrame, decoded_cfg, recvPollStored_decoded] at h

theorem seatPoll_quiet (hframe : pollFrame (pollWork b arq.decoded dt) = none) :
    (seatPoll b arq dt).1 = (backendPoll b arq.decoded dt).1.placed (storedMem b arq dt) := by
  simp only [seatPoll, hframe]
  rfl

theorem seatPoll_writes {hd : FrameHdr} {payload : List UInt8}
    (hframe : pollFrame (pollWork b arq.decoded dt) = some (hd, payload)) :
    (seatPoll b arq dt).1 = (backendPoll b arq.decoded dt).1.placed
      (setTail (storedMem b arq dt) (recvBufLen arq.cfg) (frameWrite hd payload arq.cfg.checksum
        (tail (storedMem b arq dt) (recvBufLen arq.cfg))).1) := by
  simp only [seatPoll, hframe]
  rfl

theorem seatPoll_len (b : Build) (arq : Arq) (dt : Nat) :
    (seatPoll b arq dt).1.sendFrame.len = (backendPoll b arq.decoded dt).1.sendFrame.len := rfl

theorem seatPoll_state (b : Build) (arq : Arq) (dt : Nat) :
    (seatPoll b arq dt).1.sendFrame.state = (backendPoll b arq.decoded dt).1.sendFrame.state := rfl

@[simp] theorem seatPoll_cfg (b : Build) (arq : Arq) (dt : Nat) :
    (seatPoll b arq dt).1.cfg = arq.cfg := decoded_cfg arq

theorem seatPoll_seated (b : Build) (arq : Arq) (dt : Nat) : (seatPoll b arq dt).1.Seated :=
  placed_seated _ _

@[simp] theorem seatPerform_cfg (b : Build) (arq : Arq) (c : Call) :
    (seatPerform b arq c).cfg = arq.cfg := by
  cases c with
  | poll dt => exact seatPoll_cfg b arq dt
  | recvFill data => exact perform_cfg b arq (.recvFill data)
  | send | flush | recv | sendPtrGet | sendPtrRelease | connect | reset => exact perform_cfg b arq _

/-- Every call but a reset is a run of operations on the send window. -/
theorem seatPerform_sendRun (b : Build) (arq : Arq) {c : Call} (hreset : c ≠ .reset) :
    SendRun arq.sendWnd (seatPerform b arq c).sendWnd := by
  cases c with
  | poll dt =>
    have h := @perform_sendRun b arq.decoded (.poll dt) (by simp)
    rwa [decoded_sendWnd] at h
  | recvFill data => exact @perform_sendRun b arq (.recvFill data) hreset
  | send | flush | recv | sendPtrGet | sendPtrRelease | connect =>
    exact perform_sendRun b arq hreset
  | reset => exact absurd rfl hreset

/-- The calls that write to no array. -/
theorem seatPerform_eq {c : Call} (hpoll : ∀ dt, c ≠ .poll dt) (hfill : ∀ data, c ≠ .recvFill data) :
    seatPerform b arq c = perform b arq c := by
  cases c with
  | poll dt => exact absurd rfl (hpoll dt)
  | recvFill data => exact absurd rfl (hfill data)
  | send | flush | recv | sendPtrGet | sendPtrRelease | connect | reset => rfl

theorem seatPerform_seated (h : arq.Seated) (c : Call) : (seatPerform b arq c).Seated := by
  cases c with
  | poll dt => exact seatPoll_seated b arq dt
  | recvFill data => exact placed_seated _ _
  | send data =>
    simp only [seatPerform, perform, arqSend]
    split <;> exact ⟨h.sendFrame, h.recvFrame⟩
  | recv n =>
    simp only [seatPerform, perform, arqRecv]
    split
    · exact h
    · have hmem : (recvWndRecv arq.recvWnd n).1.w.buf = arq.mem := by
        rw [recvWndRecv_rest]
        rfl
      refine ⟨?_, ?_⟩
      · simp only [Arq.mem]
        rw [hmem]
        exact h.sendFrame
      · simp only [Arq.mem]
        rw [hmem]
        exact h.recvFrame
  | sendPtrGet =>
    simp only [seatPerform, perform, backendSendPtrGet]
    split <;> exact ⟨h.sendFrame, h.recvFrame⟩
  | sendPtrRelease =>
    simp only [seatPerform, perform, backendSendPtrRelease]
    split <;> exact ⟨h.sendFrame, h.recvFrame⟩
  | connect =>
    simp only [seatPerform, perform, arqConnect]
    split_ifs <;> exact ⟨h.sendFrame, h.recvFrame⟩
  | flush | reset => exact ⟨h.sendFrame, h.recvFrame⟩

end

/-! ## Every run -/

/-- What holds of an instance on one memory after any calls. -/
structure ArraysSound (cfg : Cfg) (arq : Arq) : Prop where
  seated : arq.Seated
  cfg_eq : arq.cfg = cfg
  send : WndDims cfg.sendWindowSizeInMessages
    (cfg.messageLengthInSegments * cfg.segmentLengthInBytes) cfg.segmentLengthInBytes arq.sendWnd.w
  recv : RecvBounded cfg.recvWindowSizeInMessages
    (cfg.messageLengthInSegments * cfg.segmentLengthInBytes) cfg.segmentLengthInBytes arq.recvWnd
  sendLen : arq.sendFrame.len ≤ frameLen cfg.segmentLengthInBytes
  recvLen : arq.recvFrame.len ≤ arq.recvFrame.cap
  recvCap : arq.recvFrame.cap = frameLen cfg.segmentLengthInBytes

section

variable {b : Build} {cfg : Cfg} {seat arq : Arq} {cap msgLen segLen : Nat} {rw : RecvWnd}

theorem frameBufLen_eq (hfit : frameLen cfg.segmentLengthInBytes < 65536) :
    frameBufLen cfg = frameLen cfg.segmentLengthInBytes := Nat.mod_eq_of_lt (by omega)

theorem RecvBounded.setBuf (h : RecvBounded cap msgLen segLen rw) (buf : Buf) :
    RecvBounded cap msgLen segLen { rw with w := { rw.w with buf := buf } } :=
  ⟨⟨h.dims.cap_eq, h.dims.msgLen_eq, h.dims.segLen_eq, h.dims.full_eq⟩, h.seq_lt, h.size_le,
    h.copySeq_lt, h.slide_lt⟩

theorem RecvBounded.rst (h : RecvBounded cap msgLen segLen rw) :
    RecvBounded cap msgLen segLen (recvWndRst rw) :=
  ⟨⟨h.dims.cap_eq, h.dims.msgLen_eq, h.dims.segLen_eq, h.dims.full_eq⟩, Nat.mod_lt 0 (by decide),
    Nat.zero_le _, Nat.mod_lt 0 (by decide), Nat.mod_lt 0 (by decide)⟩

theorem WndDims.rst {w : Wnd} (h : WndDims cap msgLen segLen w) :
    WndDims cap msgLen segLen (wndRst w) := ⟨h.cap_eq, h.msgLen_eq, h.segLen_eq, h.full_eq⟩

theorem seatPerform_recv (h : RecvBounded cap msgLen segLen arq.recvWnd) (c : Call) :
    RecvBounded cap msgLen segLen (seatPerform b arq c).recvWnd := by
  cases c with
  | poll dt =>
    have hrun := @perform_recvRun b arq.decoded (.poll dt) (by simp)
    rw [decoded_recvWnd] at hrun
    exact (hrun.keeps (h.setBuf _)).setBuf _
  | recvFill data =>
    exact ((@perform_recvRun b arq (.recvFill data) (by simp)).keeps h).setBuf _
  | reset => exact h.rst
  | send | flush | recv | sendPtrGet | sendPtrRelease | connect =>
    exact (perform_recvRun b arq (by simp)).keeps h

theorem seatPerform_send (h : WndDims cap msgLen segLen arq.sendWnd.w) (c : Call) :
    WndDims cap msgLen segLen (seatPerform b arq c).sendWnd.w := by
  by_cases hreset : c = .reset
  · subst hreset
    exact h.rst
  · exact (seatPerform_sendRun b arq hreset).dims h

theorem ArraysSound.sendLen_step (h : ArraysSound cfg arq)
    (hfit : frameLen cfg.segmentLengthInBytes < 65536) (c : Call) :
    (seatPerform b arq c).sendFrame.len ≤ frameLen cfg.segmentLengthInBytes := by
  cases c with
  | poll dt =>
    have hdims := h.send
    rw [← decoded_sendWnd] at hdims
    change (seatPoll b arq dt).1.sendFrame.len ≤ _
    rw [seatPoll_len]
    obtain ⟨-, hsame⟩ | ⟨hd, payload, -, -, hle, hlen, -⟩ :=
      @backendPoll_writes b arq.decoded dt _ _ _ hdims hfit
    · rw [hsame, decoded_sendFrame]
      exact h.sendLen
    · rw [hlen]
      exact hle
  | sendPtrGet =>
    have hlen := h.sendLen
    simp only [seatPerform, perform, backendSendPtrGet]
    split <;> exact hlen
  | sendPtrRelease =>
    simp only [seatPerform, perform, backendSendPtrRelease]
    split
    · exact h.sendLen
    · exact Nat.zero_le _
  | recvFill data =>
    have hsame := @perform_sendFrame b arq (.recvFill data) (by simp) (by simp) (by simp) (by simp)
    exact (congrArg SendFrame.len hsame).trans_le h.sendLen
  | reset => exact Nat.zero_le _
  | send | flush | recv | connect =>
    rw [seatPerform_eq (by simp) (by simp),
      perform_sendFrame (by simp) (by simp) (by simp) (by simp)]
    exact h.sendLen

theorem ArraysSound.recvLen_step (h : ArraysSound cfg arq) (c : Call) :
    (seatPerform b arq c).recvFrame.len ≤ (seatPerform b arq c).recvFrame.cap ∧
      (seatPerform b arq c).recvFrame.cap = frameLen cfg.segmentLengthInBytes := by
  have hcap := h.recvCap
  have hlen := h.recvLen
  cases c with
  | poll dt =>
    have hframe := pollWork_recvFrame b arq.decoded dt
    rw [decoded_recvFrame, decoded_cfg] at hframe
    change (pollWork b arq.decoded dt).recvFrame.len ≤ (pollWork b arq.decoded dt).recvFrame.cap ∧
      (pollWork b arq.decoded dt).recvFrame.cap = _
    rw [hframe]
    split
    · exact ⟨Nat.zero_le _, hcap⟩
    · exact ⟨hlen, hcap⟩
  | recvFill data =>
    have hfill := backendRecvFill_recvFrame arq data
    change (backendRecvFill arq data).1.recvFrame.len ≤ (backendRecvFill arq data).1.recvFrame.cap ∧
      (backendRecvFill arq data).1.recvFrame.cap = _
    rw [hfill]
    exact ⟨recvFrameFill_len_le hlen data, (recvFrameFill_cap _ _).trans hcap⟩
  | reset => exact ⟨Nat.zero_le _, hcap⟩
  | send | flush | recv | sendPtrGet | sendPtrRelease | connect =>
    rw [seatPerform_eq (by simp) (by simp), perform_recvFrame_eq (by simp) (by simp) (by simp)]
    exact ⟨hlen, hcap⟩

theorem ArraysSound.step (h : ArraysSound cfg arq) (hfit : frameLen cfg.segmentLengthInBytes < 65536)
    (c : Call) : ArraysSound cfg (seatPerform b arq c) :=
  ⟨seatPerform_seated h.seated c, (seatPerform_cfg b arq c).trans h.cfg_eq, seatPerform_send h.send c,
    seatPerform_recv h.recv c, h.sendLen_step hfit c, (h.recvLen_step c).1, (h.recvLen_step c).2⟩

theorem ArraysSound.start {arq₀ : Arq} (hinit : arqInit b cfg seat = .ok arq₀)
    (hfit : frameLen cfg.segmentLengthInBytes < 65536) (mem : Buf) :
    ArraysSound cfg (arq₀.placed mem) := by
  rw [arqInit_ok hinit]
  exact ⟨placed_seated _ _, rfl, ⟨rfl, rfl, rfl, rfl⟩, (recvWndOpen_bounded seat.recvWnd _ _ _).setBuf mem,
    Nat.zero_le _, Nat.zero_le _, u16_of_lt hfit⟩

end

end NanoArq
