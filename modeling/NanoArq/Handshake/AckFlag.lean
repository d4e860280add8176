import NanoArq.Poll.Outgoing
import NanoArq.Rejected.Ack
import NanoArq.Sender.Ops

/-!
# The ACK flag of the handshake

The frames of the handshake carry neither a segment nor an acknowledgement of one, but the RST/ACK
and the last ACK set the header's ACK flag, and `arq__send_poll` takes it for an acknowledgement of
message `0` with an empty vector.

* `handshake_frame_hdr`: what the connection alone lets a poll write.
* `handshake_frame_iff`: when such a frame leaves the messages and the retransmission timers of its
  receiver as they would be without it.
-/

namespace NanoArq

/-! ## What is sent -/

/-- A poll of `arq` finds an ACK to send for its receive window. -/
def AckPending (arq : Arq) (dt : Nat) : Prop :=
  (recvPollAck (pollReceived arq dt) frameHdrInit).2.ack = true

/-- The poll writes the frame `hd`, for the connection alone. -/
structure HandshakeFrame (b : Build) (arq : Arq) (dt : Nat) (hd : FrameHdr) : Prop where
  written : ∃ payload, pollFrame (pollWork b arq dt) = some (hd, payload)
  noSegment : hd.seg = false
  noAck : ¬ AckPending arq dt

theorem handshake_frame_hdr {b : Build} {arq : Arq} {dt : Nat} {hd : FrameHdr}
    (h : HandshakeFrame b arq dt hd) :
    hd = { frameHdrInit with rst := hd.rst, ack := hd.ack } := by
  obtain ⟨⟨payload, hframe⟩, hseg, hnoack⟩ := h
  have hlen := pollFrame_plain hframe hseg
  obtain ⟨n, r, a, rfl, -⟩ := pollFrame_hdr hframe
  have hack : (recvPollAck (pollReceived arq dt) frameHdrInit).2 = frameHdrInit := by
    unfold AckPending at hnoack
    obtain ⟨i, -, -, heq⟩ | ⟨-, heq⟩ := recvPollAck_cases (pollReceived arq dt) frameHdrInit
    · rw [heq] at hnoack
      exact absurd rfl hnoack
    · rw [heq]
      rfl
  have hsh : pollConnSh arq dt = frameHdrInit := by
    change (pollConnSh arq dt).seg = false at hseg
    unfold pollConnSh sendPollHdr at hseg ⊢
    rw [hack] at hseg ⊢
    split
    · rename_i hvalid
      rw [if_pos hvalid] at hseg
      cases hseg
    · rfl
  change n = 0 at hlen
  rw [hsh, hlen]
  rfl

/-! ## What it does -/

/-- The messages and the retransmission timers are the same. -/
def SendDataEq (sw sw' : SendWnd) : Prop := ∀ j, sw.w.msg j = sw'.w.msg j ∧ sw.rtx j = sw'.rtx j

/-- The send pointer leaves the message in slot `0` when it is moved. -/
def PtrLeavesFirst (sw : SendWnd) (sp : SendWndPtr) : Prop :=
  sp.valid = true ∧ ¬ ptrInside sp (sw.w.msg (sp.seq % sw.w.cap)) ∧ sp.seq % sw.w.cap = 0

/-- The window holds message `0`. -/
def HoldsFirst (w : Wnd) : Prop := w.size ≠ 0 ∧ w.seq = 0

/-- Nothing of message `0` is acknowledged, and after this poll its timer does not run, or the poll
starts it again. -/
def FirstUntouched (sw : SendWnd) (sp : SendWndPtr) (free : Prop) (dt : Nat) : Prop :=
  (sw.w.msg 0).curAckVec = 0 ∧
    ((quietWnd sw dt).rtx 0 = 0 ∨ free ∧ PtrLeavesFirst (quietWnd sw dt) sp)

section

variable {sw : SendWnd} {sp : SendWndPtr} {sh : Option FrameHdr} {rtx : Nat}

theorem ackInWnd_zero (w : Wnd) : ackInWnd w 0 ↔ HoldsFirst w := by
  unfold ackInWnd HoldsFirst
  omega

/-- What `arq__send_poll` does to the timers from the send pointer on. -/
theorem sendPollPtr_rtx (sw : SendWnd) (sp : SendWndPtr) (sh : Option FrameHdr) (rtx j : Nat) :
    (sendPollPtr sw sp sh rtx).1.rtx j =
      if sh.isSome = true ∧ sp.valid = true ∧ ¬ ptrInside sp (sw.w.msg (sp.seq % sw.w.cap)) ∧
          j = sp.seq % sw.w.cap then rtx
      else sw.rtx j := by
  unfold sendPollPtr
  cases sh with
  | none => rfl
  | some sh =>
    by_cases hleave : sp.valid = true ∧ ¬ ptrInside sp (sw.w.msg (sp.seq % sw.w.cap))
    · rw [sendWndPtrNext_leaves hleave.1 hleave.2]
      dsimp only
      rw [if_pos rfl]
      dsimp only
      by_cases hj : j = sp.seq % sw.w.cap
      · rw [hj, Function.update_self, if_pos ⟨rfl, hleave.1, hleave.2, rfl⟩]
      · rw [Function.update_of_ne hj, if_neg fun h => hj h.2.2.2]
    · have hstay := sendWndPtrNext_stays hleave
      dsimp only
      rw [hstay, if_neg PtrNextResult.noConfusion, if_neg fun h => hleave ⟨h.2.1, h.2.2.1⟩]

/-- Clearing the timer of slot `0` before the send pointer is used makes no difference to the timers
exactly when it does not run or the pointer starts it again. -/
theorem sendPollPtr_clearFirst :
    SendDataEq (sendPollPtr (clearTimer sw 0) sp sh rtx).1 (sendPollPtr sw sp sh rtx).1 ↔
      sw.rtx 0 = 0 ∨ sh.isSome = true ∧ PtrLeavesFirst sw sp := by
  have hmsg : ∀ j, (sendPollPtr (clearTimer sw 0) sp sh rtx).1.w.msg j =
      (sendPollPtr sw sp sh rtx).1.w.msg j := by
    intro j
    rw [sendPollPtr_w, sendPollPtr_w]
    rfl
  have hw : (clearTimer sw 0).w = sw.w := rfl
  have hcleared : (clearTimer sw 0).rtx = Function.update sw.rtx 0 0 := rfl
  constructor
  · intro h
    have hzero := (h 0).2
    rw [sendPollPtr_rtx, sendPollPtr_rtx, hw] at hzero
    by_cases hleave : sh.isSome = true ∧ sp.valid = true ∧
        ¬ ptrInside sp (sw.w.msg (sp.seq % sw.w.cap)) ∧ 0 = sp.seq % sw.w.cap
    · exact Or.inr ⟨hleave.1, hleave.2.1, hleave.2.2.1, hleave.2.2.2.symm⟩
    · rw [if_neg hleave, if_neg hleave] at hzero
      rw [hcleared, Function.update_self] at hzero
      exact Or.inl hzero.symm
  · intro h j
    refine ⟨hmsg j, ?_⟩
    rw [sendPollPtr_rtx, sendPollPtr_rtx, hw]
    by_cases hj : j = 0
    · obtain hrtx | ⟨hfree, hvalid, hout, hslot⟩ := h
      · rw [hj, hcleared, Function.update_self, hrtx]
      · have hleave : sh.isSome = true ∧ sp.valid = true ∧
            ¬ ptrInside sp (sw.w.msg (sp.seq % sw.w.cap)) ∧ j = sp.seq % sw.w.cap :=
          ⟨hfree, hvalid, hout, hj.trans hslot.symm⟩
        rw [if_pos hleave, if_pos hleave]
    · rw [hcleared, Function.update_of_ne hj]

/-- An empty ACK of message `0`, in a window that holds it. -/
theorem sendWndAck_zero (hin : HoldsFirst sw.w) (hfull : (sw.w.msg 0).fullAckVec ≠ 0) :
    (sendWndAck sw 0 0).w.msg = Function.update sw.w.msg 0 { sw.w.msg 0 with curAckVec := 0 } := by
  have hzero : 0 % sw.w.cap = 0 := Nat.zero_mod _
  have hfirst := sendWndRetire_first sw.w hin.1
    (Function.update sw.w.msg 0 { sw.w.msg 0 with curAckVec := 0 })
  rw [hin.2, hzero, Function.update_self, if_pos hfull.symm] at hfirst
  rw [sendWndAck, if_pos ((ackInWnd_zero sw.w).mpr hin)]
  dsimp only
  rw [hzero, hfirst]

end

/-- **Frames of the handshake and the send window.** Such a frame leaves the messages and the timers
of the peer as they would be without it exactly when it has no ACK flag, or the peer's window does
not hold message `0`, or the ACK finds nothing of it to undo. -/
theorem handshake_frame_iff {b : Build} {sender : Arq} {time : Nat} {hd : FrameHdr}
    (h : HandshakeFrame b sender time hd) (sw : SendWnd) (sp : SendWndPtr) (sh : Option FrameHdr)
    (dt rtx : Nat) (hsize : sw.w.size < 65536)
    (hfull : HoldsFirst sw.w → (sw.w.msg 0).fullAckVec ≠ 0) :
    SendDataEq (sendPoll sw sp sh hd dt rtx).1 (sendPoll sw sp sh frameHdrInit dt rtx).1 ↔
      (hd.ack = true → HoldsFirst sw.w → FirstUntouched sw sp (sh.isSome = true) dt) := by
  have hhd := handshake_frame_hdr h
  have hnum : hd.ackNum = 0 := by rw [hhd]; rfl
  have hvec : hd.curAckVec = 0 := by rw [hhd]; rfl
  have hquiet : sendPollTimers sw frameHdrInit dt = quietWnd sw dt := rfl
  rw [sendPoll_eq, sendPoll_eq, hquiet]
  by_cases hin : hd.ack = true ∧ HoldsFirst sw.w
  · obtain ⟨hack, hfirst⟩ := hin
    have hwnd := (ackInWnd_zero sw.w).mpr hfirst
    have htimers : sendPollTimers sw hd dt = quietWnd (sendWndAck sw 0 0) dt := by
      unfold quietWnd sendPollTimers
      rw [if_pos hack, hnum, hvec]
      rfl
    rw [htimers]
    by_cases hcur : (sw.w.msg 0).curAckVec = 0
    · have hzero : 0 % sw.w.cap = 0 := Nat.zero_mod _
      have hrepeats : AckRepeats sw.w 0 0 := by
        refine ⟨by rw [hfirst.2]; exact Nat.two_pow_pos 12, hsize, by rw [hzero, hcur], ?_⟩
        rw [hfirst.2, hzero, hcur]
        exact (hfull hfirst).symm
      have hclear := sendWndAck_repeats hwnd hrepeats
      rw [hzero, if_pos (hfull hfirst).symm] at hclear
      rw [hclear, quietWnd_clearTimer, sendPollPtr_clearFirst]
      exact ⟨fun heq _ _ => ⟨hcur, heq⟩, fun hcond => (hcond hack hfirst).2⟩
    · refine iff_of_false (fun heq => hcur ?_) fun hcond => hcur (hcond hack hfirst).1
      have hmsg := congrArg Msg.curAckVec (heq 0).1
      rw [sendPollPtr_w, sendPollPtr_w, (quietWnd_w _ dt).2, (quietWnd_w _ dt).2,
        sendWndAck_zero hfirst (hfull hfirst), Function.update_self] at hmsg
      exact hmsg.symm
  · have hnot : ¬ (hd.ack = true ∧ ackInWnd sw.w hd.ackNum) := by
      rw [hnum, ackInWnd_zero]
      exact hin
    rw [sendPollTimers_quiet dt hnot]
    exact iff_of_true (fun _ => ⟨rfl, rfl⟩) fun hack hfirst => absurd ⟨hack, hfirst⟩ hin

/-! ## A connection -/

section

variable (b : Build) (cfg : Cfg)

/-- An instance whose first RST waits in its send frame. -/
def askingArq : Arq := [Call.connect, .poll 0].foldl (perform b) (freshArq b cfg)

/-- Its peer, with the answer to that RST in its own send frame. -/
def answeringArq : Arq :=
  [Call.recvFill ((backendSendPtrGet (askingArq b cfg)).2.getD []), .poll 0].foldl (perform b)
    (freshArq b cfg)

/-- The first instance has noted the answer while its send frame was in use, and will send the last
ACK in its next poll. -/
def confirmingArq : Arq :=
  [Call.recvFill ((backendSendPtrGet (answeringArq b cfg)).2.getD []), .poll 0, .sendPtrGet,
    .sendPtrRelease].foldl (perform b) (askingArq b cfg)

/-- Meanwhile the peer has sent its first message. -/
def sendingArq : Arq :=
  [Call.sendPtrGet, .sendPtrRelease, .poll 0, .send [7], .poll 0, .sendPtrGet, .sendPtrRelease,
    .poll 0].foldl (perform b) (answeringArq b cfg)

end

/-- The last ACK of the handshake. -/
def lastAck : FrameHdr := { frameHdrInit with ack := true }

theorem lastAck_sent : HandshakeFrame ⟨true⟩ (confirmingArq ⟨true⟩ (smallCfg 1 1 1)) 0 lastAck := by
  refine ⟨⟨[], by decide +kernel⟩, rfl, ?_⟩
  unfold AckPending
  decide +kernel

/-- The peer has sent both segments of its first message and a second message waits: the poll that
handles the ACK also starts the timer which the ACK stops. -/
theorem handshake_frame_iff_sample :
    let peer := [Call.sendPtrGet, .sendPtrRelease, .poll 0, .send [7, 8, 9, 10, 11], .poll 0,
      .sendPtrGet, .sendPtrRelease, .poll 0, .sendPtrGet, .sendPtrRelease].foldl (perform ⟨true⟩)
        (answeringArq ⟨true⟩ (smallCfg 2 2 4))
    HandshakeFrame ⟨true⟩ (confirmingArq ⟨true⟩ (smallCfg 2 2 4)) 0 lastAck ∧
      HoldsFirst peer.sendWnd.w ∧
      SendDataEq
        (sendPoll peer.sendWnd peer.sendWndPtr (some frameHdrInit) lastAck 1 5).1
        (sendPoll peer.sendWnd peer.sendWndPtr (some frameHdrInit) frameHdrInit 1 5).1 := by
  have hsent : HandshakeFrame ⟨true⟩ (confirmingArq ⟨true⟩ (smallCfg 2 2 4)) 0 lastAck := by
    refine ⟨⟨[], by decide +kernel⟩, rfl, ?_⟩
    unfold AckPending
    decide +kernel
  refine ⟨hsent, by unfold HoldsFirst; decide +kernel, ?_⟩
  refine (handshake_frame_iff hsent _ _ (some frameHdrInit) 1 5 (by decide +kernel)
    fun _ => by decide +kernel).mpr ?_
  intro _ _
  refine ⟨by decide +kernel, Or.inr ⟨rfl, ?_⟩⟩
  unfold PtrLeavesFirst
  decide +kernel

/-- The ACK that completes the handshake stops the timer of a message that has just been sent. -/
theorem handshake_ack_stops_timer :
    HandshakeFrame ⟨true⟩ (confirmingArq ⟨true⟩ (smallCfg 1 1 1)) 0 lastAck ∧
      ¬ SendDataEq
        (sendPoll (sendingArq ⟨true⟩ (smallCfg 1 1 1)).sendWnd
          (sendingArq ⟨true⟩ (smallCfg 1 1 1)).sendWndPtr (some frameHdrInit) lastAck 1 5).1
        (sendPoll (sendingArq ⟨true⟩ (smallCfg 1 1 1)).sendWnd
          (sendingArq ⟨true⟩ (smallCfg 1 1 1)).sendWndPtr (some frameHdrInit) frameHdrInit 1 5).1 := by
  refine ⟨lastAck_sent, fun h => ?_⟩
  exact absurd (h 0).2 (by decide +kernel)

end NanoArq
