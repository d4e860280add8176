import NanoArq.Codec.Header
import NanoArq.Poll.Stages
import NanoArq.Sender.Layout

/-!
# The send side of a poll

`pollTimers` is the send window when `arq__send_poll` has handled the ACK, the timers and the
tinygram flush and turns to the send pointer. The lemmas say what a poll leaves of it, and
which data frame it writes: `pollFrame_data`.
-/

namespace NanoArq

open Lib

/-- The send window at the point of `arq__send_poll` where the send pointer is used. -/
def pollTimers (arq : Arq) (dt : Nat) : SendWnd := sendPollTimers arq.sendWnd (pollRh arq) dt

/-- The number of messages that the ACK of a received frame removes. -/
def pollRetired (arq : Arq) : Nat :=
  if (pollRh arq).ack then
    ackRetired arq.sendWnd.w (pollRh arq).ackNum (pollRh arq).curAckVec
  else 0

/-! ## Flush and timers -/

section

variable {d : Dims} {sw : SendWnd} {base : Nat} {content : List UInt8}

/-- The messages after a flush: the last one that holds bytes gets its exact ACK vector. -/
theorem sendWndFlush_msg (sw : SendWnd) (j : Nat) :
    (sendWndFlush sw).w.msg j =
      if sw.w.size ≠ 0 ∧ (sw.w.msg j).len ≠ 0 ∧ j = (sw.w.seq + sw.w.size - 1) % sw.w.cap then
        { sw.w.msg j with fullAckVec := ackVecOf (segCount sw.w.segLen (sw.w.msg j).len) }
      else sw.w.msg j := by
  unfold sendWndFlush
  by_cases hsize : sw.w.size = 0
  · simp [hsize]
  · rw [if_neg hsize]
    dsimp only
    by_cases hlen : (sw.w.msg ((sw.w.seq + sw.w.size - 1) % sw.w.cap)).len ≠ 0
    · rw [if_pos hlen]
      dsimp only
      by_cases hj : j = (sw.w.seq + sw.w.size - 1) % sw.w.cap
      · subst hj
        rw [Function.update_self, if_pos ⟨hsize, hlen, rfl⟩]
      · rw [Function.update_of_ne hj, if_neg (fun h => hj h.2.2)]
    · rw [if_neg hlen, if_neg]
      rintro ⟨-, h, rfl⟩
      exact hlen h

theorem sendWndFlush_w (sw : SendWnd) :
    (sendWndFlush sw).w = { sw.w with msg := (sendWndFlush sw).w.msg } := by
  unfold sendWndFlush
  split
  · rfl
  · dsimp only
    split <;> rfl

/-- A flush touches only the timer of the last message. -/
theorem sendWndFlush_rtx_of_ne (sw : SendWnd) {j : Nat}
    (hj : j ≠ (sw.w.seq + sw.w.size - 1) % sw.w.cap) : (sendWndFlush sw).rtx j = sw.rtx j := by
  unfold sendWndFlush
  split
  · rfl
  · dsimp only
    split
    · exact Function.update_of_ne hj ..
    · rfl

/-- Changing ACK vectors in the window does not change its layout. -/
theorem SendLayout.congr (hl : SendLayout d sw.w base content) {sw' : SendWnd}
    (hw : sw'.w = { sw.w with msg := sw'.w.msg })
    (hmsg : ∀ j, (sw'.w.msg j).len = (sw.w.msg j).len)
    (hidle : ∀ i, sw.w.size ≤ i → i < d.cap →
      sw'.w.msg ((base + i) % d.cap) = sw.w.msg ((base + i) % d.cap)) :
    SendLayout d sw'.w base content := by
  refine ⟨?_, ?_, ?_, hl.fits, ?_, ?_, ?_⟩
  · rw [hw]
    exact ⟨hl.shape.cap, hl.shape.msgLen, hl.shape.segLen, hl.shape.full⟩
  · rw [hw]
    exact hl.seq
  · rw [hw]
    exact hl.size
  · intro i hi
    rw [hw] at hi
    rw [hmsg, hl.len i hi]
  · rw [hw]
    exact hl.bytes
  · intro i hi hicap
    rw [hw] at hi
    rw [hidle i hi hicap, hl.idle i hi hicap]

/-- The slot of the last message, as the source computes it. -/
theorem SendLayout.last_slot (hl : SendLayout d sw.w base content) (hsize : sw.w.size ≠ 0) :
    (sw.w.seq + sw.w.size - 1) % sw.w.cap = (base + (sw.w.size - 1)) % d.cap := by
  rw [← hl.slot]
  congr 1
  omega

theorem sendWndFlush_layout (hl : SendLayout d sw.w base content) :
    SendLayout d (sendWndFlush sw).w base content := by
  refine hl.congr (sendWndFlush_w sw) ?_ ?_
  · intro j
    rw [sendWndFlush_msg]
    split <;> rfl
  · intro i hi hicap
    rw [sendWndFlush_msg, if_neg]
    rintro ⟨-, hlen, -⟩
    rw [hl.idle i hi hicap] at hlen
    exact hlen rfl

end

/-- The timers of the window's messages all advance by `dt`, each once. -/
theorem sendWndStep_rtx_eq {sw : SendWnd} (hsize : sw.w.size ≤ sw.w.cap) (dt j : Nat) :
    (sendWndStep sw dt).rtx j =
      if ∃ i < sw.w.size, (sw.w.seq + i) % sw.w.cap = j then sw.rtx j - dt else sw.rtx j := by
  have hfold : ∀ n, n ≤ sw.w.cap → ∀ j,
      (List.range n).foldl (fun rtx i =>
        let idx := (sw.w.seq + i) % sw.w.cap
        Function.update rtx idx (subSat (rtx idx) dt)) sw.rtx j =
      if ∃ i < n, (sw.w.seq + i) % sw.w.cap = j then sw.rtx j - dt else sw.rtx j := by
    intro n
    induction n with
    | zero =>
      intro _ j
      simp
    | succ n ih =>
      intro hn j
      rw [List.range_succ, List.foldl_append, List.foldl_cons, List.foldl_nil]
      dsimp only
      have hfresh : ¬ ∃ i < n, (sw.w.seq + i) % sw.w.cap = (sw.w.seq + n) % sw.w.cap := by
        rintro ⟨i, hi, heq⟩
        have := ring_inj (by omega) (by omega) heq
        omega
      rw [ih (by omega) ((sw.w.seq + n) % sw.w.cap), if_neg hfresh, subSat_eq]
      by_cases hj : j = (sw.w.seq + n) % sw.w.cap
      · rw [hj, Function.update_self, if_pos ⟨n, Nat.lt_succ_self n, rfl⟩]
      · rw [Function.update_of_ne hj, ih (by omega) j]
        congr 1
        apply propext
        constructor
        · rintro ⟨i, hi, heq⟩
          exact ⟨i, by omega, heq⟩
        · rintro ⟨i, hi, heq⟩
          refine ⟨i, ?_, heq⟩
          rcases Nat.lt_succ_iff_lt_or_eq.mp hi with hi | rfl
          · exact hi
          · exact absurd heq.symm hj
  exact hfold sw.w.size hsize j

theorem sendWndStep_rtx {d : Dims} {sw : SendWnd} {base : Nat} {content : List UInt8}
    (hl : SendLayout d sw.w base content) (dt : Nat) {i : Nat} (hi : i < sw.w.size) :
    (sendWndStep sw dt).rtx ((base + i) % d.cap) = sw.rtx ((base + i) % d.cap) - dt := by
  have hsize : sw.w.size ≤ sw.w.cap := by
    rw [hl.shape.cap]
    exact hl.size_le
  rw [sendWndStep_rtx_eq hsize, if_pos ⟨i, hi, hl.slot i⟩]

/-! ## The window after a poll -/

section

variable {d : Dims} {arq : Arq} {base : Nat} {content : List UInt8}

/-- The send window after the ACK of a poll. -/
def pollAcked (arq : Arq) : SendWnd :=
  if (pollRh arq).ack then sendWndAck arq.sendWnd (pollRh arq).ackNum (pollRh arq).curAckVec
  else arq.sendWnd

theorem pollTimers_eq (arq : Arq) (dt : Nat) :
    pollTimers arq dt =
      if (sendWndStep (pollAcked arq) dt).tinyOn ∧ (sendWndStep (pollAcked arq) dt).tiny = 0 then
        { sendWndFlush (sendWndStep (pollAcked arq) dt) with tinyOn := false }
      else sendWndStep (pollAcked arq) dt := rfl

theorem pollAcked_layout (hl : SendLayout d arq.sendWnd.w base content) :
    (pollAcked arq).w.size = arq.sendWnd.w.size - pollRetired arq ∧
      SendLayout d (pollAcked arq).w (base + pollRetired arq)
        (content.drop (pollRetired arq * d.msgLen)) := by
  unfold pollAcked pollRetired
  split
  · exact sendWndAck_layout hl _ _
  · exact ⟨rfl, by simpa using hl⟩

theorem pollRh_curAckVec_lt (arq : Arq) : (pollRh arq).curAckVec < seqSpace := by
  unfold pollRh pollRead
  by_cases h : arq.recvFrame.state = .fullFramePresent
  · rw [if_pos h]
    exact frameHdrRead_curAckVec_lt _ _
  · rw [if_neg h]
    decide

/-- The poll handles an ACK for a message in the window. -/
def pollAcks (arq : Arq) : Prop :=
  (pollRh arq).ack = true ∧ ackInWnd arq.sendWnd.w (pollRh arq).ackNum

instance (arq : Arq) : Decidable (pollAcks arq) := inferInstanceAs (Decidable (_ ∧ _))

/-- The messages of the window when the ACK of a poll has been noted and before complete ones
are removed. -/
def pollMsgs (arq : Arq) : Nat → Msg :=
  if pollAcks arq then ackedMsgs arq.sendWnd.w (pollRh arq).ackNum (pollRh arq).curAckVec
  else arq.sendWnd.w.msg

theorem pollMsgs_len (arq : Arq) (j : Nat) :
    (pollMsgs arq j).len = (arq.sendWnd.w.msg j).len := by
  unfold pollMsgs
  split
  · exact ackedMsgs_len _ _ _ _
  · rfl

theorem pollRetired_of_not {arq : Arq} (hin : ¬ pollAcks arq) : pollRetired arq = 0 := by
  unfold pollRetired ackRetired
  split_ifs with hack hwnd
  · exact absurd ⟨hack, hwnd⟩ hin
  · rfl
  · rfl

theorem pollAcked_of_not {arq : Arq} (hin : ¬ pollAcks arq) : pollAcked arq = arq.sendWnd := by
  unfold pollAcked
  split
  · rename_i hack
    exact if_neg fun h => hin ⟨hack, h⟩
  · rfl

/-- The ACK of a poll removes the complete messages at the front and keeps the others. -/
theorem pollAcked_msgs (hl : SendLayout d arq.sendWnd.w base content) :
    pollRetired arq ≤ arq.sendWnd.w.size ∧
      (∀ i, i < pollRetired arq → msgAcked arq.sendWnd.w (pollMsgs arq) i) ∧
      (pollAcks arq → pollRetired arq < arq.sendWnd.w.size →
        ¬ msgAcked arq.sendWnd.w (pollMsgs arq) (pollRetired arq)) ∧
      ∀ i, pollRetired arq ≤ i → i < d.cap →
        (pollAcked arq).w.msg ((base + i) % d.cap) = pollMsgs arq ((base + i) % d.cap) := by
  by_cases hin : pollAcks arq
  · obtain ⟨hr, hall, hstop, hmsg⟩ := sendWndAck_msgs hl (pollRh arq).curAckVec hin.2
    unfold pollRetired pollAcked pollMsgs
    rw [if_pos hin.1, if_pos hin.1, if_pos hin]
    refine ⟨hr, hall, fun _ => hstop, ?_⟩
    intro i hi hicap
    rw [hmsg i hicap, if_neg (Nat.not_lt.mpr hi)]
  · rw [pollRetired_of_not hin, pollAcked_of_not hin, pollMsgs, if_neg hin]
    exact ⟨Nat.zero_le _, fun i hi => absurd hi (Nat.not_lt_zero i), fun h => absurd h hin,
      fun _ _ _ => rfl⟩

/-- The timers leave a message alone or flush it. -/
theorem pollTimers_msg (arq : Arq) (dt j : Nat) :
    (pollTimers arq dt).w.msg j = (pollAcked arq).w.msg j ∨
      (pollTimers arq dt).w.msg j =
        { (pollAcked arq).w.msg j with
          fullAckVec :=
            ackVecOf (segCount (pollAcked arq).w.segLen ((pollAcked arq).w.msg j).len) } := by
  rw [pollTimers_eq]
  split
  · dsimp only
    rw [sendWndFlush_msg]
    split
    · exact Or.inr rfl
    · exact Or.inl rfl
  · exact Or.inl rfl

/-- The vectors of the messages that a poll leaves. -/
theorem pollTimers_curAckVec (hl : SendLayout d arq.sendWnd.w base content) (dt : Nat) {i : Nat}
    (hi : i < arq.sendWnd.w.size - pollRetired arq) :
    ((pollTimers arq dt).w.msg ((base + pollRetired arq + i) % d.cap)).curAckVec =
      (pollMsgs arq ((base + (pollRetired arq + i)) % d.cap)).curAckVec := by
  obtain ⟨-, -, -, hmsg⟩ := pollAcked_msgs hl
  have hcap := hl.size_le
  rw [← hmsg (pollRetired arq + i) (by omega) (by omega), Nat.add_assoc]
  rcases pollTimers_msg arq dt ((base + (pollRetired arq + i)) % d.cap) with h | h <;> rw [h]

theorem pollTimers_layout (hl : SendLayout d arq.sendWnd.w base content) (dt : Nat) :
    (pollTimers arq dt).w.size = arq.sendWnd.w.size - pollRetired arq ∧
      SendLayout d (pollTimers arq dt).w (base + pollRetired arq)
        (content.drop (pollRetired arq * d.msgLen)) := by
  obtain ⟨hsize, hacked⟩ := pollAcked_layout hl
  have hstep : SendLayout d (sendWndStep (pollAcked arq) dt).w (base + pollRetired arq)
      (content.drop (pollRetired arq * d.msgLen)) := hacked
  rw [pollTimers_eq]
  split
  · refine ⟨?_, sendWndFlush_layout hstep⟩
    dsimp only
    rw [sendWndFlush_w]
    exact hsize
  · exact ⟨hsize, hstep⟩

end

/-! ## Stages -/

theorem sendPoll_sendWnd (sw : SendWnd) (sp : SendWndPtr) (sh : Option FrameHdr) (rh : FrameHdr)
    (dt rtx : Nat) :
    (sendPoll sw sp sh rh dt rtx).1 =
      if sh.isSome ∧ (sendWndPtrNext sp (sendPollTimers sw rh dt)).2 = .completedMsg then
        { sendPollTimers sw rh dt with
          rtx := Function.update (sendPollTimers sw rh dt).rtx
            (sp.seq % (sendPollTimers sw rh dt).w.cap) rtx }
      else sendPollTimers sw rh dt := by
  cases sh with
  | none => simp [sendPoll]
  | some sh =>
    simp only [sendPoll, Option.isSome_some, true_and]

theorem sendPoll_sendWndPtr (sw : SendWnd) (sp : SendWndPtr) (sh : Option FrameHdr)
    (rh : FrameHdr) (dt rtx : Nat) :
    (sendPoll sw sp sh rh dt rtx).2.1 =
      if sh.isSome then (sendWndPtrNext sp (sendPollTimers sw rh dt)).1 else sp := by
  cases sh <;> rfl

theorem sendPoll_sh (sw : SendWnd) (sp : SendWndPtr) (sh : FrameHdr) (rh : FrameHdr)
    (dt rtx : Nat) :
    (sendPoll sw sp (some sh) rh dt rtx).2.2 =
      (some (sendPollHdr (sendPollTimers sw rh dt)
          (sendWndPtrNext sp (sendPollTimers sw rh dt)).1 sh),
        (sendPollHdr (sendPollTimers sw rh dt)
          (sendWndPtrNext sp (sendPollTimers sw rh dt)).1 sh).seg) := by
  simp only [sendPoll]
  split <;> rfl

/-- The header `arq__recv_poll` is given, in `arq_backend_poll`. -/
def pollSh (arq : Arq) : Option FrameHdr := if sendFrameFree arq then some frameHdrInit else none

/-- The receive poll of `arq_backend_poll`. -/
def pollRecv (arq : Arq) (dt : Nat) : RecvPolled :=
  recvPoll arq.recvWnd arq.recvFrame arq.cfg.checksum (pollSh arq) frameHdrInit dt
    arq.cfg.interSegmentTimeout

/-- It leaves the data fields of the outgoing header alone. -/
theorem pollRecv_sh (arq : Arq) (dt : Nat) :
    ((pollRecv arq dt).sh.isSome ↔ sendFrameFree arq) ∧
      ∀ sh, (pollRecv arq dt).sh = some sh → sh.seg = false := by
  unfold pollRecv pollSh recvPoll
  by_cases hfree : sendFrameFree arq
  · simp only [if_pos hfree, Option.isSome_some, true_iff, Option.some.injEq]
    refine ⟨hfree, ?_⟩
    rintro sh rfl
    unfold recvPollAck
    split <;> rfl
  · simp [hfree]

theorem pollWork_sendWnd (b : Build) (arq : Arq) (dt : Nat) :
    (pollWork b arq dt).sendWnd =
      if sendFrameFree arq ∧
          (sendWndPtrNext arq.sendWndPtr (pollTimers arq dt)).2 = .completedMsg then
        { pollTimers arq dt with
          rtx := Function.update (pollTimers arq dt).rtx
            (arq.sendWndPtr.seq % (pollTimers arq dt).w.cap) arq.cfg.retransmissionTimeout }
      else pollTimers arq dt := by
  have hrh : (pollRecv arq dt).rh = pollRh arq := pollWork_rh b arq dt
  have hsend : (pollWork b arq dt).sendWnd = (sendPoll arq.sendWnd arq.sendWndPtr
      (pollRecv arq dt).sh (pollRecv arq dt).rh dt arq.cfg.retransmissionTimeout).1 := rfl
  rw [hsend, sendPoll_sendWnd, hrh]
  simp only [(pollRecv_sh arq dt).1]
  rfl

theorem pollWork_sendWndPtr (b : Build) (arq : Arq) (dt : Nat) :
    (pollWork b arq dt).sendWndPtr =
      if sendFrameFree arq then (sendWndPtrNext arq.sendWndPtr (pollTimers arq dt)).1
      else arq.sendWndPtr := by
  have hrh : (pollRecv arq dt).rh = pollRh arq := pollWork_rh b arq dt
  have hsend : (pollWork b arq dt).sendWndPtr = (sendPoll arq.sendWnd arq.sendWndPtr
      (pollRecv arq dt).sh (pollRecv arq dt).rh dt arq.cfg.retransmissionTimeout).2.1 := rfl
  rw [hsend, sendPoll_sendWndPtr, hrh]
  simp only [(pollRecv_sh arq dt).1]
  rfl

theorem pollWork_sendWnd_w (b : Build) (arq : Arq) (dt : Nat) :
    (pollWork b arq dt).sendWnd.w = (pollTimers arq dt).w := by
  rw [pollWork_sendWnd]
  split <;> rfl

/-! ## The data frame of a poll -/

/-- The two headers differ in their connection flags only. -/
def FlagsOnly (sh sh' : Option FrameHdr) : Prop :=
  ∃ r a, sh' = sh.map fun h => { h with rst := r, ack := a }

theorem FlagsOnly.refl (sh : Option FrameHdr) : FlagsOnly sh sh := by
  cases sh with
  | none => exact ⟨false, false, rfl⟩
  | some h => exact ⟨h.rst, h.ack, rfl⟩

theorem FlagsOnly.trans {sh sh' sh'' : Option FrameHdr} (h : FlagsOnly sh sh')
    (h' : FlagsOnly sh' sh'') : FlagsOnly sh sh'' := by
  obtain ⟨r, a, rfl⟩ := h
  obtain ⟨r', a', rfl⟩ := h'
  exact ⟨r', a', by cases sh <;> rfl⟩

theorem connRetransmit_flags {cfg : Cfg} {dt : Nat} {flags : FrameHdr → FrameHdr}
    (hflags : ∀ h, FlagsOnly (some h) (some (flags h))) (mark : ConnUnion → ConnUnion)
    (ctx : ConnCtx) : FlagsOnly ctx.sh (connRetransmit cfg dt flags mark ctx).sh := by
  unfold connRetransmit
  cases hsh : ctx.sh with
  | none => simpa [hsh] using FlagsOnly.refl none
  | some sh =>
    dsimp only
    split
    · split <;> exact hflags sh
    · exact FlagsOnly.refl _

theorem connRstSentNote_flags (cfg : Cfg) (dt : Nat) (rh : FrameHdr) (ctx : ConnCtx) :
    FlagsOnly ctx.sh (connRstSentNote cfg dt rh ctx).sh := by
  unfold connRstSentNote
  split_ifs
  · exact FlagsOnly.refl _
  · exact FlagsOnly.refl _
  · exact FlagsOnly.refl _
  · exact connRetransmit_flags (fun h => ⟨true, h.ack, rfl⟩) _ _

theorem connPollState_flags (cfg : Cfg) (dt : Nat) (rh : FrameHdr) (ctx : ConnCtx) :
    FlagsOnly ctx.sh (connPollState cfg dt rh ctx).1.sh := by
  unfold connPollState
  split
  · unfold connPollStateClosed
    split_ifs <;> exact FlagsOnly.refl _
  · unfold connPollStateRstSent
    split
    · exact FlagsOnly.refl _
    · dsimp only
      have hnote := connRstSentNote_flags cfg dt rh ctx
      split
      · rename_i sh hsh
        split
        · rw [hsh] at hnote
          exact hnote.trans ⟨sh.rst, true, rfl⟩
        · exact hnote
      · exact hnote
  · unfold connPollStateRstRecvd
    split_ifs
    · exact FlagsOnly.refl _
    · exact FlagsOnly.refl _
    · exact FlagsOnly.refl _
    · exact connRetransmit_flags (fun h => ⟨true, true, rfl⟩) _ _
  · exact FlagsOnly.refl _

theorem connPoll_flags (b : Build) (conn : Conn) (sh : Option FrameHdr) (rh : FrameHdr)
    (dt : Nat) (cfg : Cfg) : FlagsOnly sh (connPoll b conn sh rh dt cfg).sh := by
  unfold connPoll
  split
  · simp only [connPollGo]
    have h₁ := connPollState_flags cfg dt rh
      { conn := conn, sh := sh, emit := false, event := .none }
    split
    · have h₂ := connPollState_flags cfg dt rh (connPollState cfg dt rh
        { conn := conn, sh := sh, emit := false, event := .none }).1
      split <;> exact h₁.trans h₂
    · exact h₁
  · exact FlagsOnly.refl _

/-- The data frame for the segment under the send pointer `p`. -/
structure DataFrame (sw : SendWnd) (p : SendWndPtr) (hd : FrameHdr) (payload : List UInt8) :
    Prop where
  seg : hd.seg = true
  seqNum : hd.seqNum = p.seq
  segId : hd.segId = p.seg
  msgLen : hd.msgLen = segCount sw.w.segLen (sw.w.msg (p.seq % sw.w.cap)).len
  segLen : hd.segLen = (wndSeg sw.w p.seq p.seg).2
  payload : payload = slice sw.w.buf (wndSeg sw.w p.seq p.seg).1 (wndSeg sw.w p.seq p.seg).2

/-- A poll writes a data frame exactly when the send frame is free and the send pointer is
valid after it, and then it is the frame for the segment under the pointer. -/
theorem pollFrame_data (b : Build) (arq : Arq) (dt : Nat) :
    (sendFrameFree arq ∧ (sendWndPtrNext arq.sendWndPtr (pollTimers arq dt)).1.valid = true →
      ∃ hd payload, pollFrame (pollWork b arq dt) = some (hd, payload) ∧ hd.seg = true) ∧
    ∀ hd payload, pollFrame (pollWork b arq dt) = some (hd, payload) → hd.seg = true →
      sendFrameFree arq ∧ (sendWndPtrNext arq.sendWndPtr (pollTimers arq dt)).1.valid = true ∧
        DataFrame (pollTimers arq dt)
          (sendWndPtrNext arq.sendWndPtr (pollTimers arq dt)).1 hd payload := by
  obtain ⟨hfree, hseg⟩ := pollRecv_sh arq dt
  have hrh : (pollRecv arq dt).rh = pollRh arq := pollWork_rh b arq dt
  have hw := pollWork_sendWnd_w b arq dt
  have hwork : (pollWork b arq dt).sh = (connPoll b arq.conn (sendPoll arq.sendWnd arq.sendWndPtr
      (pollRecv arq dt).sh (pollRecv arq dt).rh dt arq.cfg.retransmissionTimeout).2.2.1
      (pollRecv arq dt).rh dt arq.cfg).sh := rfl
  cases hsh : (pollRecv arq dt).sh with
  | none =>
    have hbusy : ¬ sendFrameFree arq := by
      rw [← hfree, hsh]
      simp
    have hnone : (pollWork b arq dt).sh = none := by
      obtain ⟨r, a, hflags⟩ := connPoll_flags b arq.conn none (pollRecv arq dt).rh dt arq.cfg
      rw [hwork, hsh]
      exact hflags
    refine ⟨fun h => absurd h.1 hbusy, ?_⟩
    intro hd payload hframe
    rw [pollFrame, hnone] at hframe
    cases hframe
  | some sh =>
    have hfree' : sendFrameFree arq := by
      rw [← hfree, hsh]
      rfl
    have hemit : ((pollRecv arq dt).emit || (sendPoll arq.sendWnd arq.sendWndPtr
        (pollRecv arq dt).sh (pollRecv arq dt).rh dt arq.cfg.retransmissionTimeout).2.2.2 ||
        (connPoll b arq.conn (sendPoll arq.sendWnd arq.sendWndPtr
          (pollRecv arq dt).sh (pollRecv arq dt).rh dt arq.cfg.retransmissionTimeout).2.2.1
          (pollRecv arq dt).rh dt arq.cfg).emit) = (pollWork b arq dt).emit := rfl
    rw [hsh, hrh, sendPoll_sh] at hwork hemit
    change (pollWork b arq dt).sh = (connPoll b arq.conn (some (sendPollHdr (pollTimers arq dt)
      (sendWndPtrNext arq.sendWndPtr (pollTimers arq dt)).1 sh)) (pollRh arq) dt arq.cfg).sh
      at hwork
    change (_ || (sendPollHdr (pollTimers arq dt)
      (sendWndPtrNext arq.sendWndPtr (pollTimers arq dt)).1 sh).seg || _) = _ at hemit
    generalize (sendWndPtrNext arq.sendWndPtr (pollTimers arq dt)).1 = p at *
    obtain ⟨r, a, hflags⟩ := connPoll_flags b arq.conn
      (some (sendPollHdr (pollTimers arq dt) p sh)) (pollRh arq) dt arq.cfg
    rw [hflags, Option.map_some] at hwork
    have hshseg := hseg sh hsh
    cases hvalid : p.valid with
    | false =>
      refine ⟨fun h => absurd h.2 (by simp), ?_⟩
      intro hd payload hframe hdseg
      exfalso
      simp only [pollFrame, hwork, sendPollHdr, hvalid, Bool.false_eq_true, if_false, hshseg] at hframe
      split at hframe
      · cases hframe
        simp at hdseg
      · cases hframe
    | true =>
      have hemit' : (pollWork b arq dt).emit = true := by
        rw [← hemit]
        simp [sendPollHdr, hvalid]
      simp only [pollFrame, hwork, hemit', sendPollHdr, hvalid, if_true, hw]
      refine ⟨fun _ => ⟨_, _, rfl, rfl⟩, ?_⟩
      intro hd payload hframe _
      cases hframe
      exact ⟨hfree', trivial, rfl, rfl, rfl, rfl, rfl, rfl⟩

end NanoArq
