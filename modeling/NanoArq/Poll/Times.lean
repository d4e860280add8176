import NanoArq.Poll.Outgoing
import NanoArq.Receiver.Ops
import NanoArq.Sender.RtxBound

/-!
# Times are 32-bit values

The model counts time in natural numbers. Where the configuration holds values of `arq_time_t`, every
timer that runs does, too (`times_bounded`).
-/

namespace NanoArq

open Lib

/-- The times of the configuration are values of `arq_time_t`. -/
structure TimesFit (cfg : Cfg) : Prop where
  rstPeriod : cfg.connectionRstPeriod ≤ timeInfinity
  rtx : cfg.retransmissionTimeout ≤ timeInfinity
  tinygram : cfg.tinygramSendDelay ≤ timeInfinity
  interSegment : cfg.interSegmentTimeout ≤ timeInfinity

/-! ## The handshake -/

section

variable {b : Build} {cfg : Cfg} {dt : Nat} {rh : FrameHdr} {ctx : ConnCtx}

/-- The timer of a handshake under way is a value of `arq_time_t`. -/
def ConnTime (c : Conn) : Prop :=
  c.state = .rstSent ∨ c.state = .rstRecvd → c.u.tmr ≤ timeInfinity

theorem ConnTime.of_state {c : Conn} (hsent : c.state ≠ .rstSent) (hrecvd : c.state ≠ .rstRecvd) :
    ConnTime c := fun h => absurd h (by simp [hsent, hrecvd])

theorem connRetransmit_time {flags : FrameHdr → FrameHdr} {mark : ConnUnion → ConnUnion}
    (hperiod : cfg.connectionRstPeriod ≤ timeInfinity) (h : ConnTime ctx.conn) :
    ConnTime (connRetransmit cfg dt flags mark ctx).conn := by
  obtain ⟨-, heq⟩ | ⟨sh, -, -, -, hu, -⟩ := @connRetransmit_cases cfg dt ctx flags mark
  · rw [heq]
    exact fun hs => (Nat.sub_le _ _).trans (h hs)
  · intro _
    rw [hu]
    exact hperiod

theorem rstSent_time (hperiod : cfg.connectionRstPeriod ≤ timeInfinity) (h : ConnTime ctx.conn) :
    ConnTime (connPollStateRstSent cfg dt rh ctx).1.conn := by
  by_cases hdesync : rh.seg = true ∨ (rh.ack = true ∧ ¬ rh.rst = true)
  · unfold connPollStateRstSent
    rw [if_pos hdesync]
    exact .of_state (by simp) (by simp)
  · rw [connPollStateRstSent_eq hdesync]
    have hnote : ConnTime (connRstSentNote cfg dt rh ctx).conn := by
      unfold connRstSentNote
      split_ifs
      · exact h
      · exact h
      · exact h
      · exact connRetransmit_time hperiod h
    cases hsh : (connRstSentNote cfg dt rh ctx).sh with
    | none =>
      rw [rstSentAnswer_busy hsh]
      exact hnote
    | some sh =>
      rw [rstSentAnswer_free hsh]
      split
      · exact .of_state (by simp) (by simp)
      · exact hnote

theorem rstRecvd_time (hperiod : cfg.connectionRstPeriod ≤ timeInfinity) (h : ConnTime ctx.conn) :
    ConnTime (connPollStateRstRecvd cfg dt rh ctx).1.conn := by
  unfold connPollStateRstRecvd
  split_ifs
  · exact .of_state (by simp) (by simp)
  · exact .of_state (by simp) (by simp)
  · exact .of_state (by simp) (by simp)
  · exact connRetransmit_time hperiod h

theorem connPoll_time (hperiod : cfg.connectionRstPeriod ≤ timeInfinity) {c : Conn} (h : ConnTime c)
    (sh : Option FrameHdr) : ConnTime (connPoll b c sh rh dt cfg).conn := by
  unfold connPoll
  split
  · dsimp only
    by_cases hsent : c.state = .rstSent
    · rw [connPollGo_rstSent hsent]
      exact rstSent_time hperiod h
    · by_cases hrecvd : c.state = .rstRecvd
      · rw [connPollGo_rstRecvd hrecvd]
        exact rstRecvd_time hperiod h
      · by_cases hclosed : c.state = .closed
        · rw [connPollGo_closed hclosed]
          split_ifs
          · exact h
          · exact rstRecvd_time hperiod fun _ => Nat.zero_le _
          · exact h
        · rw [connPollGo_other hclosed hsent hrecvd]
          exact h
  · exact h

/-! ## The receive window -/

theorem recvWndFrame_time {rw : RecvWnd} {interSegAck : Nat} (h : rw.interSegAck ≤ timeInfinity)
    (hle : interSegAck ≤ timeInfinity) (seq seg segCnt : Nat) (p : List UInt8) :
    (recvWndFrame rw seq seg segCnt p interSegAck).1.interSegAck ≤ timeInfinity := by
  unfold recvWndFrame
  cases hslide : recvWndSlide rw seq with
  | none => exact h
  | some rw' =>
    have hsame : rw'.interSegAck = rw.interSegAck := by
      rw [recvWndSlide_rest hslide]
    unfold recvWndStore
    dsimp only
    split_ifs
    · exact hsame.le.trans h
    · exact hsame.le.trans h
    · exact hle

theorem pollReceived_time {arq : Arq} (h : arq.recvWnd.interSegAck ≤ timeInfinity)
    (hle : arq.cfg.interSegmentTimeout ≤ timeInfinity) (dt : Nat) :
    (pollReceived arq dt).interSegAck ≤ timeInfinity := by
  have hframe : (recvPollFrame arq.recvWnd arq.recvFrame arq.cfg.checksum frameHdrInit
      arq.cfg.interSegmentTimeout).1.interSegAck ≤ timeInfinity :=
    recvPollFrame_induct (P := fun rw => rw.interSegAck ≤ timeInfinity) h
      fun _ _ _ _ => recvWndFrame_time h hle _ _ _ _
  unfold pollReceived recvPollTimer
  generalize (recvPollFrame arq.recvWnd arq.recvFrame arq.cfg.checksum frameHdrInit
    arq.cfg.interSegmentTimeout).1 = rw at hframe ⊢
  split_ifs
  · exact Nat.zero_le _
  · dsimp only
    rw [subSat_eq]
    exact (Nat.sub_le _ _).trans hframe
  · exact hframe

/-! ## The instance -/

/-- Every timer of the instance that runs is a value of `arq_time_t`. -/
structure TimesBounded (cap : Nat) (arq : Arq) : Prop where
  send : RtxBounded cap timeInfinity arq.sendWnd
  recv : arq.recvWnd.interSegAck ≤ timeInfinity
  conn : ConnTime arq.conn

theorem rstArq_times {cap : Nat} {arq : Arq} (hcap : arq.sendWnd.w.cap = cap) :
    TimesBounded cap (rstArq b arq) := by
  refine ⟨.rst _ hcap, le_rfl, ?_⟩
  unfold rstArq
  dsimp only
  split <;> exact .of_state (by simp) (by simp)

theorem TimesBounded.perform {cap : Nat} {arq : Arq} (h : TimesBounded cap arq)
    (hfit : TimesFit arq.cfg) (hcap : arq.sendWnd.w.cap = cap) (c : Call) :
    TimesBounded cap (perform b arq c) := by
  have hsend := h.send.perform b hfit.rtx hfit.tinygram hcap c
  cases c with
  | reset => exact rstArq_times hcap
  | flush => exact ⟨hsend, h.recv, h.conn⟩
  | send data =>
    refine ⟨hsend, ?_, ?_⟩ <;> simp only [NanoArq.perform, arqSend] <;> split
    exacts [h.recv, h.recv, h.conn, h.conn]
  | recv n =>
    simp only [NanoArq.perform, arqRecv]
    split
    · exact h
    · refine ⟨h.send, ?_, h.conn⟩
      dsimp only
      rw [recvWndRecv_rest]
      exact h.recv
  | sendPtrGet =>
    refine ⟨hsend, ?_, ?_⟩ <;> simp only [NanoArq.perform, backendSendPtrGet] <;> split
    exacts [h.recv, h.recv, h.conn, h.conn]
  | sendPtrRelease =>
    refine ⟨hsend, ?_, ?_⟩ <;> simp only [NanoArq.perform, backendSendPtrRelease] <;> split
    exacts [h.recv, h.recv, h.conn, h.conn]
  | recvFill data =>
    refine ⟨hsend, ?_, ?_⟩ <;> simp only [NanoArq.perform, backendRecvFill] <;> split
    exacts [h.recv, h.recv, h.conn, h.conn]
  | poll dt =>
    refine ⟨hsend, ?_, ?_⟩
    · change (pollWork b arq dt).recvWnd.interSegAck ≤ timeInfinity
      have hreceived := pollReceived_time h.recv hfit.interSegment dt
      rw [pollWork_recvWnd]
      split
      · rw [recvPollAck_recvWnd, recvWndAck_w]
        exact hreceived
      · exact hreceived
    · change ConnTime (pollWork b arq dt).conn
      rw [(pollWork_conn b arq dt).1]
      exact connPoll_time hfit.rstPeriod h.conn _
  | connect =>
    refine ⟨hsend, ?_, ?_⟩
    · simp only [NanoArq.perform, arqConnect]
      split_ifs <;> exact h.recv
    · simp only [NanoArq.perform, arqConnect]
      split_ifs
      · exact h.conn
      · exact fun _ => Nat.zero_le _
      · exact h.conn

end

end NanoArq
