import NanoArq.Codec.Accumulate
import NanoArq.Model.Instance

/-!
# What one poll reads and writes

`arq_backend_poll` runs three polls over one incoming and one outgoing header. `pollRh` is the
incoming header that all three see. The lemmas below give each component of the state after
a poll as a function of the state before it and `pollRh`; the other modules use these and do
not unfold `backendPoll`.
-/

namespace NanoArq

/-- The frame that a poll reads: present when the receive frame is complete. -/
def pollRead (arq : Arq) : Option FrameRead :=
  if arq.recvFrame.state = .fullFramePresent then
    some (frameRead arq.recvFrame.buf arq.recvFrame.len arq.cfg.checksum)
  else none

/-- The header `rh` with which a poll runs its three stages. -/
def pollRh (arq : Arq) : FrameHdr :=
  match pollRead arq with
  | some r => r.hdr
  | none => frameHdrInit

theorem pollRead_of_accumulating {arq : Arq} (h : arq.recvFrame.state = .accumulating) :
    pollRead arq = none := by
  rw [pollRead, h]
  rfl

theorem pollRead_of_full {arq : Arq} (h : arq.recvFrame.state = .fullFramePresent) :
    pollRead arq =
      some (frameRead arq.recvFrame.buf arq.recvFrame.len arq.cfg.checksum) := if_pos h

/-- A poll leaves the receive window alone or stores the data frame that it reads. -/
theorem recvPollFrame_induct {P : RecvWnd → Prop} {arq : Arq} (h : P arq.recvWnd)
    (hframe : ∀ r, pollRead arq = some r → r.result = .success → r.hdr.seg = true →
      P (recvWndFrame arq.recvWnd r.hdr.seqNum r.hdr.segId r.hdr.msgLen r.seg
        arq.cfg.interSegmentTimeout).1) :
    P (recvPollFrame arq.recvWnd arq.recvFrame arq.cfg.checksum frameHdrInit
      arq.cfg.interSegmentTimeout).1 := by
  unfold recvPollFrame
  dsimp only
  split_ifs with hfull hdata
  · exact hframe _ (pollRead_of_full hfull) hdata.1 hdata.2
  · exact h
  · exact h

/-! ## The receive frame -/

theorem recvPoll_recvFrame (rw : RecvWnd) (rf : RecvFrame) (checksum : Checksum)
    (sh : Option FrameHdr) (rh : FrameHdr) (dt interSegAck : Nat) :
    (recvPoll rw rf checksum sh rh dt interSegAck).recvFrame =
      (recvPollFrame rw rf checksum rh interSegAck).2.1 := by
  cases sh <;> rfl

theorem recvPoll_rh (rw : RecvWnd) (rf : RecvFrame) (checksum : Checksum)
    (sh : Option FrameHdr) (rh : FrameHdr) (dt interSegAck : Nat) :
    (recvPoll rw rf checksum sh rh dt interSegAck).rh =
      (recvPollFrame rw rf checksum rh interSegAck).2.2 := by
  cases sh <;> rfl

@[simp] theorem pollWork_rh (b : Build) (arq : Arq) (dt : Nat) :
    (pollWork b arq dt).rh = pollRh arq := by
  have h : (pollWork b arq dt).rh = (recvPollFrame arq.recvWnd arq.recvFrame arq.cfg.checksum
      frameHdrInit arq.cfg.interSegmentTimeout).2.2 := recvPoll_rh ..
  rw [h, recvPollFrame, pollRh, pollRead]
  split <;> rfl

theorem pollWork_recvFrame (b : Build) (arq : Arq) (dt : Nat) :
    (pollWork b arq dt).recvFrame =
      if arq.recvFrame.state = .fullFramePresent then
        recvFrameRst { arq.recvFrame with
          buf := (frameRead arq.recvFrame.buf arq.recvFrame.len arq.cfg.checksum).buf }
      else arq.recvFrame := by
  have h : (pollWork b arq dt).recvFrame = (recvPollFrame arq.recvWnd arq.recvFrame
      arq.cfg.checksum frameHdrInit arq.cfg.interSegmentTimeout).2.1 := recvPoll_recvFrame ..
  rw [h, recvPollFrame]
  split <;> rfl

@[simp] theorem backendPoll_cfg (b : Build) (arq : Arq) (dt : Nat) :
    (backendPoll b arq dt).1.cfg = arq.cfg := rfl

@[simp] theorem backendPoll_recvFrame (b : Build) (arq : Arq) (dt : Nat) :
    (backendPoll b arq dt).1.recvFrame = (pollWork b arq dt).recvFrame := rfl

theorem backendPoll_sendFrame (b : Build) (arq : Arq) (dt : Nat) :
    (backendPoll b arq dt).1.sendFrame =
      match pollFrame (pollWork b arq dt) with
      | some (h, seg) =>
        { arq.sendFrame with
          buf := (frameWrite h seg arq.cfg.checksum arq.sendFrame.buf).1
          len := u16 (frameWrite h seg arq.cfg.checksum arq.sendFrame.buf).2
          state := .free }
      | none => arq.sendFrame := rfl

/-- After a poll the receive frame accumulates again. -/
theorem backendPoll_accumulating (b : Build) (arq : Arq) (dt : Nat) :
    (backendPoll b arq dt).1.recvFrame.state = .accumulating := by
  rw [backendPoll_recvFrame, pollWork_recvFrame]
  split
  · rfl
  · rename_i h
    cases hs : arq.recvFrame.state with
    | accumulating => rfl
    | fullFramePresent => exact absurd hs h

/-- Only a poll, a get and a release touch the send frame. -/
theorem perform_sendFrame {b : Build} {arq : Arq} {c : Call} (hpoll : ∀ dt, c ≠ .poll dt)
    (hget : c ≠ .sendPtrGet) (hrelease : c ≠ .sendPtrRelease) (hreset : c ≠ .reset) :
    (perform b arq c).sendFrame = arq.sendFrame := by
  cases c <;> simp only [perform]
  case send => unfold arqSend; split <;> rfl
  case flush => rfl
  case recv => unfold arqRecv; split <;> rfl
  case poll dt => exact absurd rfl (hpoll dt)
  case sendPtrGet => exact absurd rfl hget
  case sendPtrRelease => exact absurd rfl hrelease
  case recvFill => simp only [backendRecvFill]; split <;> rfl
  case connect => unfold arqConnect; split_ifs <;> rfl
  case reset => exact absurd rfl hreset

/-- Only a poll and a fill touch the receive frame. -/
theorem perform_recvFrame_eq {b : Build} {arq : Arq} {c : Call} (hpoll : ∀ dt, c ≠ .poll dt)
    (hfill : ∀ data, c ≠ .recvFill data) (hreset : c ≠ .reset) :
    (perform b arq c).recvFrame = arq.recvFrame := by
  cases c <;> simp only [perform]
  case send => unfold arqSend; split <;> rfl
  case flush => rfl
  case recv => unfold arqRecv; split <;> rfl
  case poll dt => exact absurd rfl (hpoll dt)
  case sendPtrGet => unfold backendSendPtrGet; split <;> rfl
  case sendPtrRelease => unfold backendSendPtrRelease; split <;> rfl
  case recvFill data => exact absurd rfl (hfill data)
  case connect => unfold arqConnect; split_ifs <;> rfl
  case reset => exact absurd rfl hreset

@[simp] theorem backendRecvFill_recvFrame (arq : Arq) (data : List UInt8) :
    (backendRecvFill arq data).1.recvFrame = (recvFrameFill arq.recvFrame data).1 := by
  simp only [backendRecvFill]
  split <;> rfl

/-- What a call can do to the receive frame. -/
theorem perform_recvFrame (b : Build) (arq : Arq) (c : Call) :
    (perform b arq c).recvFrame = arq.recvFrame ∨
      (∃ f, f.cap = arq.recvFrame.cap ∧ (perform b arq c).recvFrame = recvFrameRst f) ∨
      ∃ data, c = .recvFill data ∧
        (perform b arq c).recvFrame = (recvFrameFill arq.recvFrame data).1 := by
  cases c with
  | poll dt =>
    simp only [perform]
    rw [backendPoll_recvFrame, pollWork_recvFrame]
    split
    · exact Or.inr (Or.inl ⟨{ arq.recvFrame with
        buf := (frameRead arq.recvFrame.buf arq.recvFrame.len arq.cfg.checksum).buf }, rfl, rfl⟩)
    · exact Or.inl rfl
  | recvFill data =>
    exact Or.inr (Or.inr ⟨data, rfl, backendRecvFill_recvFrame arq data⟩)
  | reset => exact Or.inr (Or.inl ⟨_, rfl, rfl⟩)
  | send | flush | recv | sendPtrGet | sendPtrRelease | connect =>
    exact Or.inl (perform_recvFrame_eq (by simp) (by simp) (by simp))

theorem perform_frameCap (b : Build) (arq : Arq) (c : Call) :
    (perform b arq c).recvFrame.cap = arq.recvFrame.cap := by
  obtain hsame | ⟨f, hcap, hrst⟩ | ⟨data, -, hfill⟩ := perform_recvFrame b arq c
  · rw [hsame]
  · rw [hrst]
    exact hcap
  · rw [hfill, recvFrameFill_cap]

/-- Only a poll, a connect and a reset concern the connection. -/
theorem perform_conn (b : Build) (arq : Arq) {c : Call} (hpoll : ∀ dt, c ≠ .poll dt)
    (hconnect : c ≠ .connect) (hreset : c ≠ .reset) : (perform b arq c).conn = arq.conn := by
  cases c <;> simp only [perform]
  case send => unfold arqSend; split <;> rfl
  case flush => rfl
  case recv => unfold arqRecv; split <;> rfl
  case poll dt => exact absurd rfl (hpoll dt)
  case sendPtrGet => unfold backendSendPtrGet; split <;> rfl
  case sendPtrRelease => unfold backendSendPtrRelease; split <;> rfl
  case recvFill => simp only [backendRecvFill]; split <;> rfl
  case connect => exact absurd rfl hconnect
  case reset => exact absurd rfl hreset

end NanoArq
