import NanoArq.Sender.Genuine
import NanoArq.Sender.Progress
import NanoArq.Sender.Sweep

/-!
# A sweep of polls

`sweep_exact` is about `arq__send_poll` alone. Here the sweep is a part of `arq_backend_poll`: it may
begin with a poll that lets the timers run out or that notes an ACK.

* `ExactTargets`: every target vector names the segments that its message has, and no other.
* `poll_owed`: a poll sends the first segment that is owed after its timers, and owes the rest.
-/

namespace NanoArq

open Lib

/-- Every target vector names the segments that its message has. -/
def ExactTargets (d : Dims) (sw : SendWnd) (base : Nat) : Prop :=
  ∀ i, i < sw.w.size → (sw.w.msg ((base + i) % d.cap)).fullAckVec =
    vecOf d.segLen (sw.w.msg ((base + i) % d.cap)).len

section

variable {d : Dims} {sw : SendWnd} {arq : Arq} {base : Nat} {content : List UInt8} {dt i : Nat}

/-- The slot of the message at index `i`, as the sweep computes it. -/
theorem SendLayout.seqAt_slot (hl : SendLayout d sw.w base content) (i : Nat) :
    sw.w.seqAt i % sw.w.cap = (base + i) % d.cap := by
  rw [Wnd.seqAt, hl.shape.cap, Nat.mod_mod_of_dvd _ d.cap_dvd, hl.seq, Nat.add_comm, ring_mod d.cap_dvd]

theorem SendLayout.seqAt_eq (hl : SendLayout d sw.w base content) (i : Nat) :
    sw.w.seqAt i = (base + i) % seqSpace := by
  rw [Wnd.seqAt, hl.seq, Nat.add_mod_mod, Nat.add_comm]

theorem SendLayout.segsAt_eq (hl : SendLayout d sw.w base content) (i : Nat) :
    sw.w.segsAt (sw.w.seqAt i) = segCount d.segLen (sw.w.msg ((base + i) % d.cap)).len := by
  rw [Wnd.segsAt, Wnd.msgAt, hl.seqAt_slot, hl.shape.segLen]

theorem ExactTargets.sweepWnd (h : ExactTargets d sw base) (hl : SendLayout d sw.w base content) :
    SweepWnd sw := by
  refine ⟨by rw [hl.shape.cap]; exact d.cap_pos, by rw [hl.shape.cap]; exact d.cap_dvd,
    by rw [hl.shape.cap]; exact hl.size_le, fun i hi _ => ?_⟩
  obtain ⟨heq, hle⟩ := vecOf_eq (hl.len_bounds hi).2
  have htarget := h i hi
  rw [hl.segsAt_eq, Wnd.msgAt, hl.seqAt_slot, htarget, heq]
  have := Nat.pow_le_pow_right (show 0 < 2 by omega) (hle.trans d.segs_le)
  exact ⟨by omega, rfl⟩

/-- A pointer of a sweep is sound. -/
theorem Sweeping.pointerSound (h : Sweeping (pollTimers arq dt) arq.sendWndPtr)
    (hl : SendLayout d (pollTimers arq dt).w base content) (ht : ExactTargets d (pollTimers arq dt) base) :
    PointerSound arq dt := by
  intro hvalid
  obtain ⟨i, hi, hseq, -, -⟩ := h.ptr hvalid
  have hcap := hl.size_le
  refine ⟨fun haw => ?_, fun _ => ?_⟩
  · have hlt := haw.2
    rw [hseq, hl.seqAt_slot, hl.shape.segLen, ht i hi] at hlt
    exact lt_irrefl _ hlt
  · unfold inWindow
    rw [hseq, hl.seqAt_eq, hl.index_of_seq]
    · exact hi
    · have := Nat.le_of_dvd (by decide) d.cap_dvd
      omega

/-! ## The timers of a poll -/

theorem ExactTargets.timers (h : ExactTargets d arq.sendWnd base)
    (hl : SendLayout d arq.sendWnd.w base content) (dt : Nat) :
    ExactTargets d (pollTimers arq dt) (base + pollRetired arq) := by
  intro i hi
  obtain ⟨hsize, hl'⟩ := pollTimers_layout hl dt
  obtain ⟨-, -, -, hmsg⟩ := pollAcked_msgs hl
  obtain ⟨-, hacked⟩ := pollAcked_layout hl
  have hcap := hl.size_le
  have hold : (pollAcked arq).w.msg ((base + pollRetired arq + i) % d.cap) =
      pollMsgs arq ((base + (pollRetired arq + i)) % d.cap) := by
    rw [Nat.add_assoc]
    exact hmsg (pollRetired arq + i) (by omega) (by omega)
  rcases pollTimers_msg arq dt ((base + pollRetired arq + i) % d.cap) with hsame | hflushed
  · rw [hsame, hold, (pollMsgs_vectors _ _).1, pollMsgs_len]
    exact h (pollRetired arq + i) (by omega)
  · rw [hflushed]
    dsimp only
    rw [hacked.shape.segLen]
    rfl

theorem pollAcked_timers (arq : Arq) :
    (pollAcked arq).tiny = arq.sendWnd.tiny ∧ (pollAcked arq).tinyOn = arq.sendWnd.tinyOn := by
  unfold pollAcked
  split
  · obtain ⟨htiny, hon, -⟩ := sendWndAck_timers arq.sendWnd (pollRh arq).ackNum (pollRh arq).curAckVec
    exact ⟨htiny, hon⟩
  · exact ⟨rfl, rfl⟩

/-- The tinygram timer is off when it has run out. -/
theorem pollTimers_tinyOn (h : arq.sendWnd.tinyOn = true → arq.sendWnd.tiny ≤ dt) :
    (pollTimers arq dt).tinyOn = false := by
  obtain ⟨htiny, hon⟩ := pollAcked_timers arq
  rw [pollTimers_eq]
  split
  · rfl
  · rename_i hleft
    change (pollAcked arq).tinyOn = false
    rw [hon]
    by_contra htrue
    refine hleft ⟨?_, ?_⟩
    · change (pollAcked arq).tinyOn = true
      rw [hon]
      simpa using htrue
    · change (if (pollAcked arq).tinyOn then subSat (pollAcked arq).tiny dt else (pollAcked arq).tiny) = 0
      have hle := h (by simpa using htrue)
      rw [hon, htiny, if_pos (by simpa using htrue), subSat_eq]
      omega

/-- Every retransmission timer is off when it has run out. -/
theorem pollTimers_rtx (hl : SendLayout d arq.sendWnd.w base content) (hack : (pollRh arq).ack = false)
    (h : ∀ i, i < arq.sendWnd.w.size → arq.sendWnd.rtx ((base + i) % d.cap) ≤ dt)
    (hi : i < arq.sendWnd.w.size) : (pollTimers arq dt).rtx ((base + i) % d.cap) = 0 := by
  have hacked : pollAcked arq = arq.sendWnd := by
    rw [pollAcked, hack]
    rfl
  have hstep : (sendWndStep arq.sendWnd dt).rtx ((base + i) % d.cap) = 0 := by
    rw [sendWndStep_rtx hl dt hi]
    have := h i hi
    omega
  rw [pollTimers_eq, hacked]
  split
  · rcases sendWndFlush_rtx (sendWndStep arq.sendWnd dt) ((base + i) % d.cap) with hzero | hsame
    · exact hzero
    · exact hsame.trans hstep
  · exact hstep

/-- Time alone changes no message when the tinygram timer is off. -/
theorem pollTimers_w (hack : (pollRh arq).ack = false) (htiny : arq.sendWnd.tinyOn = false) :
    (pollTimers arq dt).w = arq.sendWnd.w := by
  have hacked : pollAcked arq = arq.sendWnd := by
    rw [pollAcked, hack]
    rfl
  rw [pollTimers_eq, hacked, if_neg]
  · rfl
  · rintro ⟨hon, -⟩
    change arq.sendWnd.tinyOn = true at hon
    rw [htiny] at hon
    cases hon

/-- What is not acknowledged of the first message is due when its timer is off. -/
theorem SendLive.due (h : SendLive d sw base content) (hpos : 0 < sw.w.size)
    (hrtx : sw.rtx (base % d.cap) = 0) {j : Nat}
    (hj : j < segCount d.segLen (sw.w.msg (base % d.cap)).len)
    (hzero : (sw.w.msg (base % d.cap)).curAckVec.testBit j = false) :
    (base % seqSpace, j) ∈ dueSegments sw := by
  have hseq : sw.w.seqAt 0 = base % seqSpace := h.layout.seqAt_eq 0
  have hslot : sw.w.seqAt 0 % sw.w.cap = base % d.cap := h.layout.seqAt_slot 0
  have hmsg : sw.w.msgAt (sw.w.seqAt 0) = sw.w.msg (base % d.cap) := congrArg sw.w.msg hslot
  refine List.mem_flatMap.mpr ⟨0, List.mem_range.mpr hpos, ?_⟩
  rw [if_pos, ← hseq]
  · refine List.mem_map_of_mem (List.mem_filter.mpr ⟨?_, ?_⟩)
    · rw [h.layout.segsAt_eq]
      exact List.mem_range'_1.mpr ⟨Nat.zero_le _, by simpa using hj⟩
    · rw [hmsg, hzero]
      rfl
  · refine ⟨by rw [hslot]; exact hrtx, ?_⟩
    rw [hmsg]
    exact h.head hpos

/-! ## One poll -/

/-- After its timers a poll does what `arq__send_poll` does when no time passes. -/
theorem perform_sendPoll (b : Build) (hfree : sendFrameFree arq) (htiny : (pollTimers arq dt).tinyOn = false) :
    let r := sendPoll (pollTimers arq dt) arq.sendWndPtr (some frameHdrInit) frameHdrInit 0
      arq.cfg.retransmissionTimeout
    (perform b arq (.poll dt)).sendWnd = r.1 ∧ (perform b arq (.poll dt)).sendWndPtr = r.2.1 := by
  have hstill := sendPollTimers_still htiny (show frameHdrInit.ack = false from rfl)
  dsimp only
  rw [sendPoll_sendWnd, sendPoll_sendWndPtr, hstill, Option.isSome_some, if_pos rfl]
  refine ⟨?_, ?_⟩
  · change (pollWork b arq dt).sendWnd = _
    rw [pollWork_sendWnd]
    simp only [hfree, true_and]
  · change (pollWork b arq dt).sendWndPtr = _
    rw [pollWork_sendWndPtr, if_pos hfree]

/-- What a poll does to the send window after its timers, and what it writes. -/
theorem poll_owed (b : Build) (h : Sweeping (pollTimers arq dt) arq.sendWndPtr)
    (hfree : sendFrameFree arq) (hrtx : 0 < arq.cfg.retransmissionTimeout) :
    let after := perform b arq (.poll dt)
    Sweeping after.sendWnd after.sendWndPtr ∧ after.sendWnd.w = (pollTimers arq dt).w ∧
      owed after.sendWnd after.sendWndPtr = (owed (pollTimers arq dt) arq.sendWndPtr).tail ∧
      (∀ s ∈ (owed (pollTimers arq dt) arq.sendWndPtr).head?,
        ∃ f, pollFrame (pollWork b arq dt) = some f ∧ f.1.seg = true ∧ f.1.seqNum = s.1 ∧ f.1.segId = s.2) ∧
      (owed (pollTimers arq dt) arq.sendWndPtr = [] → after.sendWndPtr.valid = false) := by
  obtain ⟨hsweep, hw, howed, hemits⟩ := sendPoll_owed h hrtx (show frameHdrInit.seg = false from rfl)
    (show frameHdrInit.ack = false from rfl)
  obtain ⟨hwnd, hptr⟩ := perform_sendPoll b hfree h.tinyOn
  have hstill := sendPollTimers_still h.tinyOn (show frameHdrInit.ack = false from rfl)
  have hnext : (perform b arq (.poll dt)).sendWndPtr =
      (sendWndPtrNext arq.sendWndPtr (pollTimers arq dt)).1 := by
    rw [hptr, sendPoll_sendWndPtr, hstill]
    rfl
  rw [sendEmits, sendPoll_sh, hstill, sendEmits_ptr rfl, ← hnext] at hemits
  dsimp only
  rw [← hwnd] at hw
  rw [← hwnd, ← hptr] at hsweep howed
  refine ⟨hsweep, hw, howed, fun s hs => ?_, fun hnone => ?_⟩
  · rw [Option.mem_def.mp hs] at hemits
    cases hvalid : (perform b arq (.poll dt)).sendWndPtr.valid with
    | false =>
      rw [hvalid] at hemits
      cases hemits
    | true =>
      rw [hnext] at hvalid
      obtain ⟨hdata, hall⟩ := pollFrame_data b arq dt
      obtain ⟨hd, payload, hframe, hseg⟩ := hdata ⟨hfree, hvalid⟩
      obtain ⟨-, -, hframeOf⟩ := hall hd payload hframe hseg
      rw [hnext, hvalid] at hemits
      have hhdr := Option.some.inj hemits
      refine ⟨_, hframe, hseg, ?_, ?_⟩
      · rw [hframeOf.seqNum]
        exact congrArg FrameHdr.seqNum hhdr
      · rw [hframeOf.segId]
        exact congrArg FrameHdr.segId hhdr
  · rw [hnone] at hemits
    cases hvalid : (perform b arq (.poll dt)).sendWndPtr.valid with
    | false => rfl
    | true =>
      rw [hvalid] at hemits
      cases hemits

end

end NanoArq
