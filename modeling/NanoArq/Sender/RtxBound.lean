import NanoArq.Sender.Ops

/-!
# How far the timers of the send window can run

A retransmission timer is set to the retransmission timeout or to the tinygram delay, and runs down: no
call makes it exceed both.
-/

namespace NanoArq

open Lib

section

variable {cap bound : Nat} {sw : SendWnd}

/-- No timer of a send window of capacity `cap` exceeds `bound`. -/
structure RtxBounded (cap bound : Nat) (sw : SendWnd) : Prop where
  rtx : ∀ j, j < cap → sw.rtx j ≤ bound
  tiny : sw.tiny ≤ bound

theorem RtxBounded.update (h : RtxBounded cap bound sw) {idx t : Nat}
    (ht : t ≤ bound) : ∀ j, j < cap → Function.update sw.rtx idx t j ≤ bound := by
  intro j hj
  by_cases hidx : j = idx
  · rw [hidx, Function.update_self]
    exact ht
  · rw [Function.update_of_ne hidx]
    exact h.rtx j hj

theorem RtxBounded.send (h : RtxBounded cap bound sw) (data : List UInt8)
    {tiny : Nat} (htiny : tiny ≤ bound) : RtxBounded cap bound (sendWndSend sw data tiny).1 := by
  have hfill : ∀ (w : Wnd) (seq n : Nat), RtxBounded cap bound (sendWndFill { sw with w := w } seq n) := by
    intro w seq n
    obtain ⟨-, hfill, hrest⟩ := sendWndFill_spec { sw with w := w } seq n
    refine ⟨fun j hj => ?_, ?_⟩
    · rw [hfill]
      split
      · exact Nat.zero_le _
      · exact h.rtx j hj
    · rw [hrest]
      exact h.tiny
  unfold sendWndSend
  split
  · exact h
  · dsimp only
    split
    · exact ⟨(hfill _ _ _).update htiny, htiny⟩
    · exact ⟨(hfill _ _ _).rtx, (hfill _ _ _).tiny⟩

theorem RtxBounded.flush (h : RtxBounded cap bound sw) :
    RtxBounded cap bound (sendWndFlush sw) := by
  unfold sendWndFlush
  split
  · exact h
  · dsimp only
    split
    · exact ⟨h.update (Nat.zero_le _), h.tiny⟩
    · exact h

theorem RtxBounded.step (h : RtxBounded cap bound sw) (dt : Nat) :
    RtxBounded cap bound (sendWndStep sw dt) := by
  refine ⟨?_, ?_⟩
  · have hfold : ∀ (is : List Nat) (rtx : Nat → Nat), (∀ j, j < cap → rtx j ≤ bound) →
        ∀ j, j < cap → is.foldl (fun rtx i =>
          let idx := (sw.w.seq + i) % sw.w.cap
          Function.update rtx idx (subSat (rtx idx) dt)) rtx j ≤ bound := by
      intro is
      induction is with
      | nil =>
        intro rtx hrtx
        exact hrtx
      | cons i is ih =>
        intro rtx hrtx
        refine ih _ ?_
        intro j hj
        dsimp only
        by_cases hidx : j = (sw.w.seq + i) % sw.w.cap
        · subst hidx
          rw [Function.update_self, subSat_eq]
          exact (Nat.sub_le _ _).trans (hrtx _ hj)
        · rw [Function.update_of_ne hidx]
          exact hrtx j hj
    exact hfold _ _ h.rtx
  · unfold sendWndStep
    dsimp only
    split
    · rw [subSat_eq]
      exact (Nat.sub_le _ _).trans h.tiny
    · exact h.tiny

theorem RtxBounded.ack (h : RtxBounded cap bound sw) (seq vec : Nat) :
    RtxBounded cap bound (sendWndAck sw seq vec) := by
  unfold sendWndAck
  split
  · dsimp only
    split
    · exact ⟨h.update (Nat.zero_le _), h.tiny⟩
    · exact ⟨h.rtx, h.tiny⟩
  · exact h

theorem RtxBounded.timers (h : RtxBounded cap bound sw) (rh : FrameHdr)
    (dt : Nat) : RtxBounded cap bound (sendPollTimers sw rh dt) := by
  have hacked : RtxBounded cap bound (if rh.ack then sendWndAck sw rh.ackNum rh.curAckVec else sw) := by
    split
    · exact h.ack _ _
    · exact h
  unfold sendPollTimers
  generalize (if rh.ack then sendWndAck sw rh.ackNum rh.curAckVec else sw) = acked at hacked ⊢
  dsimp only
  split
  · exact ⟨(hacked.step dt).flush.rtx, (hacked.step dt).flush.tiny⟩
  · exact hacked.step dt

theorem RtxBounded.rst (sw : SendWnd) (hcap : sw.w.cap = cap) : RtxBounded cap bound (sendWndRst sw) := by
  refine ⟨fun j hj => ?_, Nat.zero_le _⟩
  rw [sendWndRst]
  dsimp only
  rw [foldl_update_const, if_pos (by omega)]
  exact Nat.zero_le _

/-- Every call keeps the timers within a bound on the two delays. -/
theorem RtxBounded.perform {arq : Arq} (h : RtxBounded cap bound arq.sendWnd) (b : Build)
    (hrtx : arq.cfg.retransmissionTimeout ≤ bound) (htiny : arq.cfg.tinygramSendDelay ≤ bound)
    (hcap : arq.sendWnd.w.cap = cap) (c : Call) : RtxBounded cap bound (perform b arq c).sendWnd := by
  cases c with
  | send data =>
    simp only [NanoArq.perform, arqSend]
    split
    · exact h
    · exact h.send data htiny
  | flush => exact h.flush
  | poll dt =>
    have htimers : RtxBounded cap bound (pollTimers arq dt) := h.timers _ _
    change RtxBounded cap bound (pollWork b arq dt).sendWnd
    rw [pollWork_sendWnd]
    split
    · exact ⟨htimers.update hrtx, htimers.tiny⟩
    · exact htimers
  | recv n =>
    simp only [NanoArq.perform, arqRecv]
    split <;> exact h
  | sendPtrGet =>
    simp only [NanoArq.perform, backendSendPtrGet]
    split <;> exact h
  | sendPtrRelease =>
    simp only [NanoArq.perform, backendSendPtrRelease]
    split <;> exact h
  | recvFill data =>
    simp only [NanoArq.perform, backendRecvFill]
    split <;> exact h
  | connect =>
    simp only [NanoArq.perform, arqConnect]
    split_ifs <;> exact h
  | reset => exact .rst _ hcap

end

end NanoArq
