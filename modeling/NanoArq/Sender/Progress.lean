import NanoArq.Sender.RtxBound

/-!
# The sender never goes silent

The retirement loop of `arq__send_wnd_ack` removes a message when its two ACK vectors are equal;
`arq__send_wnd_ptr_next` selects one when the first is numerically less than the second. A
message whose vector exceeds its target is neither removed nor selected, and blocks the window.
`AckFits` is the condition on an arriving ACK under which this does not happen, also after a later
flush has replaced the target.

* `SendLive.step`: what holds of all messages of the window, kept by every call.
* `sender_never_silent`: the oldest message can always be selected, and from every reachable
  state with data in the window two polls at most, no later than its timers run, separate the sender from a
  data frame.
-/

namespace NanoArq

open Lib

/-- `vec` is within the message's target and within its segments, and it names all segments only
if the target does. -/
def AckFits (segLen : Nat) (m : Msg) (vec : Nat) : Prop :=
  vec ≤ m.fullAckVec ∧ vec ≤ vecOf segLen m.len ∧
    (vec = vecOf segLen m.len → m.fullAckVec = vecOf segLen m.len)

instance (segLen : Nat) (m : Msg) (vec : Nat) : Decidable (AckFits segLen m vec) :=
  inferInstanceAs (Decidable (_ ∧ _))

/-- The ACK that the next poll will handle fits the message it names, if that is in the window. -/
def FittingAck (arq : Arq) : Prop :=
  (pollRh arq).ack = true → ackInWnd arq.sendWnd.w (pollRh arq).ackNum →
    AckFits arq.sendWnd.w.segLen
      (arq.sendWnd.w.msg ((pollRh arq).ackNum % arq.sendWnd.w.cap)) (pollRh arq).curAckVec

instance (arq : Arq) : Decidable (FittingAck arq) := inferInstanceAs (Decidable (_ → _ → _))

def FittingAcks (arq : Arq) : Call → Prop
  | .poll _ => FittingAck arq
  | _ => True

instance (arq : Arq) : (c : Call) → Decidable (FittingAcks arq c)
  | .poll _ => inferInstanceAs (Decidable (FittingAck arq))
  | .send _ | .flush | .recv _ | .sendPtrGet | .sendPtrRelease | .recvFill _ | .connect | .reset =>
    inferInstanceAs (Decidable True)

/-! ## Vectors and lengths -/

section

variable {d : Dims}

/-- A message that grows still fits its ACK. -/
theorem AckFits.grow {m m' : Msg} {vec : Nat} (h : AckFits d.segLen m vec)
    (hfull : m'.fullAckVec = m.fullAckVec) (hle : m.len ≤ m'.len) (hlen : m'.len ≤ d.msgLen) :
    AckFits d.segLen m' vec := by
  obtain ⟨h₁, h₂, h₃⟩ := h
  have hmono := vecOf_mono hle hlen
  refine ⟨hfull ▸ h₁, h₂.trans hmono, ?_⟩
  intro heq
  have hsame : vec = vecOf d.segLen m.len := by omega
  rw [hfull, h₃ hsame]
  omega

/-- A flushed message still fits its ACK. -/
theorem AckFits.flush {m : Msg} {vec : Nat} (h : AckFits d.segLen m vec) :
    AckFits d.segLen { m with fullAckVec := vecOf d.segLen m.len } vec :=
  ⟨h.2.1, h.2.1, fun _ => rfl⟩

/-- A message that was not complete is not complete after a flush. -/
theorem AckFits.flush_open {m : Msg} {vec : Nat} (h : AckFits d.segLen m vec)
    (hopen : vec < m.fullAckVec) : vec < vecOf d.segLen m.len := by
  obtain ⟨-, h₂, h₃⟩ := h
  rcases Nat.lt_or_eq_of_le h₂ with hlt | heq
  · exact hlt
  · rw [h₃ heq, ← heq] at hopen
    exact absurd hopen (lt_irrefl vec)

end

/-! ## The invariant -/

/-- Every message of the window fits the ACKs it has received, and the oldest is incomplete. -/
structure SendLive (d : Dims) (sw : SendWnd) (base : Nat) (content : List UInt8) : Prop where
  layout : SendLayout d sw.w base content
  fits : ∀ i, i < sw.w.size →
    AckFits d.segLen (sw.w.msg ((base + i) % d.cap)) (sw.w.msg ((base + i) % d.cap)).curAckVec
  head : 0 < sw.w.size →
    (sw.w.msg (base % d.cap)).curAckVec < (sw.w.msg (base % d.cap)).fullAckVec

section

variable {d : Dims} {sw : SendWnd} {arq : Arq} {base : Nat} {content : List UInt8}

theorem SendLive.send (hlive : SendLive d sw base content) (data : List UInt8) (tiny : Nat) :
    SendLive d (sendWndSend sw data tiny).1 base
      (content ++ data.take (sendWndSend sw data tiny).2) := by
  obtain ⟨hl, hfits, hhead⟩ := hlive
  by_cases hdata : data.length = 0
  · rw [sendWndSend_nil _ hdata]
    exact ⟨by simpa using hl, hfits, hhead⟩
  obtain ⟨htaken, t, full, rem, hs⟩ := sendWndSend_spec hl hdata tiny
  have hl' := hs.layout hl
  rw [htaken]
  generalize (sendWndSend sw data tiny).1 = sw' at hs hl' ⊢
  generalize data.take (sendTaken d content data) = taken at hs hl' ⊢
  have hsizeLe := hs.size_le
  -- The slots of new messages were empty.
  have hidle : ∀ i, sw.w.size ≤ i → i < d.cap →
      (sw'.w.msg ((base + i) % d.cap)).curAckVec = 0 ∧
        (sw'.w.msg ((base + i) % d.cap)).fullAckVec = d.full := by
    intro i hi hicap
    obtain ⟨hcur, hfull⟩ := hs.vectors hicap
    rw [hcur, hfull, hl.idle i hi hicap]
    exact ⟨rfl, rfl⟩
  refine ⟨hl', ?_, ?_⟩
  · intro i hi
    have hicap : i < d.cap := by omega
    obtain ⟨hpos', hle'⟩ := hl'.len_bounds hi
    by_cases hold : i < sw.w.size
    · obtain ⟨hcur, hfull⟩ := hs.vectors hicap
      rw [hcur]
      refine (hfits i hold).grow hfull ?_ hle'
      rw [hl.len i hold, hl'.len i hi, List.length_append]
      omega
    · obtain ⟨hcur, hfull⟩ := hidle i (by omega) hicap
      have := vecOf_pos hpos' hle'
      rw [hcur]
      exact ⟨Nat.zero_le _, Nat.zero_le _, by omega⟩
  · intro hpos
    by_cases hold : 0 < sw.w.size
    · obtain ⟨hcur, hfull⟩ := hs.vectors d.cap_pos
      rw [Nat.add_zero] at hcur hfull
      rw [hcur, hfull]
      exact hhead hold
    · obtain ⟨hcur, hfull⟩ := hidle 0 (by omega) d.cap_pos
      have := vecOf_pos d.msgLen_pos (le_refl d.msgLen)
      have := vecOf_le_full (le_refl d.msgLen)
      rw [Nat.add_zero] at hcur hfull
      omega

theorem SendLive.flush (hlive : SendLive d sw base content) :
    SendLive d (sendWndFlush sw) base content := by
  obtain ⟨hl, hfits, hhead⟩ := hlive
  have hsize : (sendWndFlush sw).w.size = sw.w.size := by
    rw [sendWndFlush_w]
  refine ⟨sendWndFlush_layout hl, ?_, ?_⟩ <;> rw [hsize]
  · intro i hi
    rw [sendWndFlush_msg]
    split
    · rw [hl.shape.segLen]
      exact (hfits i hi).flush
    · exact hfits i hi
  · intro hpos
    have hfit := hfits 0 hpos
    rw [Nat.add_zero] at hfit
    rw [sendWndFlush_msg]
    split
    · rw [hl.shape.segLen]
      exact hfit.flush_open (hhead hpos)
    · exact hhead hpos

/-- The ACK of a poll, when it fits. -/
theorem SendLive.ack (hlive : SendLive d arq.sendWnd base content) (hok : FittingAck arq) :
    SendLive d (pollAcked arq) (base + pollRetired arq)
      (content.drop (pollRetired arq * d.msgLen)) := by
  obtain ⟨hl, hfits, hhead⟩ := hlive
  obtain ⟨hr, -, hstop, hmsg⟩ := pollAcked_msgs hl
  obtain ⟨hsize, hlayout⟩ := pollAcked_layout hl
  have hcap := hl.size_le
  -- Before the complete messages are removed, all of them fit.
  have hnoted : ∀ i, i < arq.sendWnd.w.size →
      AckFits d.segLen (pollMsgs arq ((base + i) % d.cap))
        (pollMsgs arq ((base + i) % d.cap)).curAckVec := by
    intro i hi
    unfold pollMsgs
    split
    · rename_i hin
      have hfit := hok hin.1 hin.2
      rw [hl.shape.segLen] at hfit
      unfold ackedMsgs
      by_cases hj : (base + i) % d.cap = (pollRh arq).ackNum % arq.sendWnd.w.cap
      · rw [hj, Function.update_self]
        exact hfit
      · rw [Function.update_of_ne hj]
        exact hfits i hi
    · exact hfits i hi
  refine ⟨hlayout, ?_, ?_⟩
  · intro i hi
    rw [Nat.add_assoc, hmsg _ (by omega) (by omega)]
    exact hnoted _ (by omega)
  · intro hpos
    have hlt : pollRetired arq < arq.sendWnd.w.size := by omega
    rw [hmsg _ le_rfl (by omega)]
    by_cases hin : pollAcks arq
    · have hne := hstop hin hlt
      rw [msgAcked, hl.slot] at hne
      exact Nat.lt_of_le_of_ne (hnoted _ hlt).1 hne
    · rw [pollRetired_of_not hin, Nat.add_zero, pollMsgs, if_neg hin]
      exact hhead (by omega)

theorem SendLive.timers (hlive : SendLive d arq.sendWnd base content) (hok : FittingAck arq)
    (dt : Nat) :
    SendLive d (pollTimers arq dt) (base + pollRetired arq)
      (content.drop (pollRetired arq * d.msgLen)) := by
  obtain ⟨hl, hfits, hhead⟩ := hlive.ack hok
  have hstep : SendLive d (sendWndStep (pollAcked arq) dt) (base + pollRetired arq)
      (content.drop (pollRetired arq * d.msgLen)) := ⟨hl, hfits, hhead⟩
  rw [pollTimers_eq]
  split
  · obtain ⟨hl', hfits', hhead'⟩ := hstep.flush
    exact ⟨hl', hfits', hhead'⟩
  · exact hstep

/-- Every call keeps the invariant, as long as the ACKs fit. -/
theorem SendLive.step (b : Build) {h : SendHist}
    (hlive : SendLive d h.arq.sendWnd h.base h.content) (c : Call) (hok : FittingAcks h.arq c) :
    SendLive d (sendHistStep b h c).arq.sendWnd (sendHistStep b h c).base
      (sendHistStep b h c).content := by
  have hother : (∀ data, c ≠ .send data) → c ≠ .flush → (∀ dt, c ≠ .poll dt) → c ≠ .reset →
      SendLive d (perform b h.arq c).sendWnd h.base h.content := by
    intro hsend hflush hpoll hreset
    rw [(perform_sendWnd b h.arq hsend hflush hpoll hreset).1]
    exact hlive
  cases c with
  | send data =>
    simp only [sendHistStep, perform, arqSend]
    split
    · simpa using hlive
    · exact hlive.send data _
  | flush => exact hlive.flush
  | poll dt =>
    have hw : (sendHistStep b h (.poll dt)).arq.sendWnd.w = (pollTimers h.arq dt).w :=
      pollWork_sendWnd_w b h.arq dt
    have hbase : (sendHistStep b h (.poll dt)).base = h.base + pollRetired h.arq :=
      congrArg (h.base + ·) (poll_retired b hlive.layout dt).1
    obtain ⟨-, hfits, hhead⟩ := hlive.timers hok dt
    refine ⟨sendHistStep_layout b hlive.layout _, ?_, ?_⟩ <;> rw [hw, hbase]
    · exact hfits
    · exact hhead
  | reset =>
    have hsize : (sendHistStep b h .reset).arq.sendWnd.w.size = 0 := rfl
    refine ⟨sendHistStep_layout b hlive.layout _, ?_, ?_⟩
    · intro i hi
      rw [hsize] at hi
      exact absurd hi (Nat.not_lt_zero i)
    · intro hpos
      rw [hsize] at hpos
      exact absurd hpos (lt_irrefl 0)
  | recv | sendPtrGet | sendPtrRelease | recvFill | connect =>
    exact hother (by simp) (by simp) (by simp) (by simp)

end

/-- The invariant of a reachable instance. -/
def LiveArq (d : Dims) (arq : Arq) : Prop :=
  ∃ base content, SendLive d arq.sendWnd base content

theorem LiveArq.init {b : Build} {cfg : Cfg} {seat arq : Arq} {d : Dims}
    (hinit : arqInit b cfg seat = .ok arq) (hd : cfg.Has d cfg.sendWindowSizeInMessages) :
    LiveArq d arq := by
  have hsize : arq.sendWnd.w.size = 0 := by
    rw [arqInit_ok hinit]
    rfl
  refine ⟨0, [], arqInit_sendLayout hinit hd, ?_, ?_⟩
  · intro i hi
    rw [hsize] at hi
    exact absurd hi (Nat.not_lt_zero i)
  · intro hpos
    rw [hsize] at hpos
    exact absurd hpos (lt_irrefl 0)

theorem LiveArq.step {d : Dims} {arq : Arq} (b : Build) (hlive : LiveArq d arq) (c : Call)
    (hok : FittingAcks arq c) : LiveArq d (perform b arq c) := by
  obtain ⟨base, content, hlive⟩ := hlive
  have hstep := @SendLive.step d b ⟨arq, base, content, []⟩ hlive c hok
  rw [sendHistStep_arq] at hstep
  exact ⟨_, _, hstep⟩

/-! ## Two polls to a data frame -/

/-- The poll writes a data frame. -/
def EmitsData (b : Build) (arq : Arq) (dt : Nat) : Prop :=
  ∃ hd payload, pollFrame (pollWork b arq dt) = some (hd, payload) ∧ hd.seg = true

/-- The backend takes a frame that waits in the send frame, and gives the frame back. -/
def takeFrame (arq : Arq) : Arq := (backendSendPtrRelease (backendSendPtrGet arq).1).1

theorem takeFrame_spec (arq : Arq) :
    sendFrameFree (takeFrame arq) ∧ (takeFrame arq).sendWnd = arq.sendWnd ∧
      (takeFrame arq).sendWndPtr = arq.sendWndPtr ∧ (takeFrame arq).recvFrame = arq.recvFrame ∧
      (takeFrame arq).cfg = arq.cfg := by
  unfold takeFrame backendSendPtrGet backendSendPtrRelease sendFrameFree
  by_cases hlen : arq.sendFrame.len = 0
  · simp [hlen]
  · simp [hlen]

theorem sendWndFlush_rtx (sw : SendWnd) (j : Nat) :
    (sendWndFlush sw).rtx j = 0 ∨ (sendWndFlush sw).rtx j = sw.rtx j := by
  by_cases hj : j = (sw.w.seq + sw.w.size - 1) % sw.w.cap
  · unfold sendWndFlush
    split
    · exact Or.inr rfl
    · dsimp only
      split
      · rw [hj]
        exact Or.inl (Function.update_self _ _ _)
      · exact Or.inr rfl
  · exact Or.inr (sendWndFlush_rtx_of_ne sw hj)

section

variable {d : Dims} {sw : SendWnd} {arq : Arq} {base : Nat} {content : List UInt8}

theorem exists_upper (f : Nat → Nat) (n : Nat) : ∃ m, ∀ j, j < n → f j ≤ m := by
  induction n with
  | zero => exact ⟨0, fun j hj => absurd hj (Nat.not_lt_zero j)⟩
  | succ n ih =>
    obtain ⟨m, hm⟩ := ih
    refine ⟨max m (f n), ?_⟩
    intro j hj
    rcases Nat.lt_or_eq_of_le (Nat.lt_succ_iff.mp hj) with hlt | rfl
    · exact (hm j hlt).trans (Nat.le_max_left _ _)
    · exact Nat.le_max_right _ _

/-- After a time that no retransmission timer exceeds, all of them have run out. -/
theorem pollTimers_out (hl : SendLayout d arq.sendWnd.w base content) {dt : Nat}
    (hbound : RtxBounded d.cap dt arq.sendWnd) :
    ∀ i, i < (pollTimers arq dt).w.size →
      (pollTimers arq dt).rtx ((base + pollRetired arq + i) % d.cap) = 0 := by
  obtain ⟨hsize, hacked⟩ := pollAcked_layout hl
  obtain ⟨hsize', -⟩ := pollTimers_layout hl dt
  have hle : RtxBounded d.cap dt (pollAcked arq) := by
    unfold pollAcked
    split
    · exact hbound.ack _ _
    · exact hbound
  intro i hi
  have hstep : (sendWndStep (pollAcked arq) dt).rtx
      ((base + pollRetired arq + i) % d.cap) = 0 := by
    rw [sendWndStep_rtx hacked dt (by omega)]
    have := hle.rtx _ (Nat.mod_lt (base + pollRetired arq + i) d.cap_pos)
    omega
  rw [pollTimers_eq]
  split
  · dsimp only
    rcases sendWndFlush_rtx (sendWndStep (pollAcked arq) dt)
      ((base + pollRetired arq + i) % d.cap) with h | h
    · exact h
    · rw [h, hstep]
  · exact hstep

/-- When its timer has run out, the oldest message is selected, unless the pointer has just
completed it. -/
theorem SendLive.selects (hlive : SendLive d sw base content) (hpos : 0 < sw.w.size)
    (hrtx : sw.rtx (base % d.cap) = 0) {p : SendWndPtr} (hp : p.valid = false) :
    (sendWndPtrSearch p sw).valid = true := by
  obtain ⟨hl, -, hhead⟩ := hlive
  rcases sendWndPtrSearch_cases p sw with ⟨i, -, -, -, hres⟩ | ⟨hnone, -⟩
  · rw [hres]
    rfl
  · exfalso
    obtain ⟨hlen, -⟩ := hl.len_bounds hpos
    have hslot : (0 + sw.w.seq) % seqSpace % sw.w.cap = base % d.cap := by
      rw [hl.seq, hl.shape.cap, Nat.zero_add, Nat.mod_mod, Nat.mod_mod_of_dvd _ d.cap_dvd]
    apply hnone 0 hpos
    dsimp only [ptrSelects]
    rw [hslot]
    refine ⟨?_, hrtx, ?_, hhead hpos⟩
    · simp [hp]
    · simpa using hlen

theorem emitsData_of_valid {b : Build} {dt : Nat} (hfree : sendFrameFree arq)
    (hvalid : (sendWndPtrNext arq.sendWndPtr (pollTimers arq dt)).1.valid = true) :
    EmitsData b arq dt :=
  (pollFrame_data b arq dt).1 ⟨hfree, hvalid⟩

/-- A poll at once and another after a time that no timer exceeds lead to a data frame, or the ACK that was
waiting has emptied the window. -/
theorem SendLive.emits (b : Build) (hlive : SendLive d arq.sendWnd base content)
    (hok : FittingAck arq) (hfree : sendFrameFree arq) {dt₂ : Nat}
    (hbound : RtxBounded d.cap dt₂ arq.sendWnd) (hrtx : arq.cfg.retransmissionTimeout ≤ dt₂)
    (htiny : arq.cfg.tinygramSendDelay ≤ dt₂) (dt₁ : Nat) :
    EmitsData b arq dt₁ ∨ (backendPoll b arq dt₁).1.sendWnd.w.size = 0 ∨
      EmitsData b (takeFrame (backendPoll b arq dt₁).1) dt₂ := by
  obtain ⟨arq₂, harq₂⟩ : ∃ a, a = takeFrame (backendPoll b arq dt₁).1 := ⟨_, rfl⟩
  obtain ⟨hfree₂, hsw₂, hsp₂, hrf₂, -⟩ := takeFrame_spec (backendPoll b arq dt₁).1
  rw [← harq₂] at hfree₂ hsw₂ hsp₂ hrf₂
  have hw₂ : arq₂.sendWnd.w = (pollTimers arq dt₁).w := by
    rw [hsw₂]
    exact pollWork_sendWnd_w b arq dt₁
  have hlive₂ : SendLive d arq₂.sendWnd (base + pollRetired arq)
      (content.drop (pollRetired arq * d.msgLen)) := by
    obtain ⟨hl, hfits, hhead⟩ := hlive.timers hok dt₁
    rw [← hw₂] at hl hfits hhead
    exact ⟨hl, hfits, hhead⟩
  -- The second poll has no frame to read.
  have hrh₂ : pollRh arq₂ = frameHdrInit := by
    have hacc := backendPoll_accumulating b arq dt₁
    rw [← hrf₂] at hacc
    rw [pollRh, pollRead_of_accumulating hacc]
  have hnoack : ¬ pollAcks arq₂ := by
    intro hacks
    have := hacks.1
    rw [hrh₂] at this
    cases this
  have hbound₂ : RtxBounded d.cap dt₂ arq₂.sendWnd := by
    rw [hsw₂]
    exact hbound.perform b hrtx htiny hlive.layout.shape.cap (.poll dt₁)
  have hrtx₂ := pollTimers_out hlive₂.layout hbound₂
  rw [← harq₂]
  cases hvalid : (sendWndPtrNext arq.sendWndPtr (pollTimers arq dt₁)).1.valid with
  | true => exact Or.inl (emitsData_of_valid hfree hvalid)
  | false =>
    refine Or.inr ?_
    rcases Nat.eq_zero_or_pos arq₂.sendWnd.w.size with h0 | hpos
    · rw [hsw₂] at h0
      exact Or.inl h0
    · refine Or.inr (emitsData_of_valid hfree₂ ?_)
      have hp₂ : arq₂.sendWndPtr.valid = false := by
        have hptr : arq₂.sendWndPtr = (pollWork b arq dt₁).sendWndPtr := hsp₂
        rw [hptr, pollWork_sendWndPtr, if_pos hfree, hvalid]
      have htimers : SendLive d (pollTimers arq₂ dt₂) (base + pollRetired arq + pollRetired arq₂)
          ((content.drop (pollRetired arq * d.msgLen)).drop (pollRetired arq₂ * d.msgLen)) := by
        apply hlive₂.timers
        intro hack
        rw [hrh₂] at hack
        cases hack
      have hsize₂ := (pollTimers_layout hlive₂.layout dt₂).1
      rw [pollRetired_of_not hnoack] at htimers hrtx₂ hsize₂
      have hnext : (sendWndPtrNext arq₂.sendWndPtr (pollTimers arq₂ dt₂)).1 =
          sendWndPtrSearch arq₂.sendWndPtr (pollTimers arq₂ dt₂) := by
        unfold sendWndPtrNext
        rw [hp₂]
        rfl
      rw [hnext]
      exact htimers.selects (by omega) (by simpa using hrtx₂ 0 (by omega)) hp₂

end

/-! ## The theorem -/

/-- **The sender never goes silent**, in every run in which the ACKs fit the messages they name:
after a poll the oldest message can be selected, and from every state with data in the window two
polls, neither by more than the longer of the two delays, lead to a data frame, unless an ACK that was
waiting empties the window. -/
theorem sender_never_silent (b : Build) (cfg : Cfg) (seat arq₀ : Arq)
    (hinit : arqInit b cfg seat = .ok arq₀) (hcfg : cfg.SendRegular) (arq : Arq)
    (hrun : Run (perform b) FittingAcks arq₀ arq) (hok : FittingAck arq) :
    (∀ dt, let w := (backendPoll b arq dt).1.sendWnd.w
      w.size ≠ 0 →
        0 < (w.msg (w.seq % w.cap)).len ∧
          (w.msg (w.seq % w.cap)).curAckVec < (w.msg (w.seq % w.cap)).fullAckVec) ∧
      (arq.sendWnd.w.size ≠ 0 →
        ∃ dt₁ ≤ max cfg.retransmissionTimeout cfg.tinygramSendDelay,
        ∃ dt₂ ≤ max cfg.retransmissionTimeout cfg.tinygramSendDelay,
          EmitsData b (takeFrame arq) dt₁ ∨
            (backendPoll b (takeFrame arq) dt₁).1.sendWnd.w.size = 0 ∨
            EmitsData b (takeFrame (backendPoll b (takeFrame arq) dt₁).1) dt₂) := by
  obtain ⟨d, hd⟩ := hcfg.dims hinit
  obtain ⟨bound, hbound⟩ : ∃ m, m = max cfg.retransmissionTimeout cfg.tinygramSendDelay := ⟨_, rfl⟩
  have hrtx : cfg.retransmissionTimeout ≤ bound := hbound ▸ Nat.le_max_left _ _
  have htiny : cfg.tinygramSendDelay ≤ bound := hbound ▸ Nat.le_max_right _ _
  obtain ⟨⟨base, content, hlive⟩, hcfg, htimers⟩ :
      LiveArq d arq ∧ arq.cfg = cfg ∧ RtxBounded d.cap bound arq.sendWnd := by
    refine hrun.invariant (I := fun arq => LiveArq d arq ∧ arq.cfg = cfg ∧ RtxBounded d.cap bound arq.sendWnd)
      ⟨LiveArq.init hinit hd, ?_, ?_⟩ ?_
    · rw [arqInit_ok hinit]
      rfl
    · obtain ⟨_, _, hl⟩ := LiveArq.init hinit hd
      have hcap := hl.layout.shape.cap
      rw [arqInit_ok hinit] at hcap ⊢
      exact .rst _ hcap
    · rintro arq c ⟨hlive, hcfg, htimers⟩ hc
      refine ⟨hlive.step b c hc, (perform_cfg b arq c).trans hcfg, ?_⟩
      obtain ⟨base, content, hl⟩ := hlive
      rw [← hcfg] at hrtx htiny
      exact htimers.perform b hrtx htiny hl.layout.shape.cap c
  constructor
  · intro dt w hsize
    obtain ⟨base', content', hlive'⟩ := LiveArq.step b ⟨base, content, hlive⟩ (.poll dt) hok
    change SendLive d (backendPoll b arq dt).1.sendWnd _ _ at hlive'
    obtain ⟨hlen, -⟩ := hlive'.layout.len_bounds (Nat.pos_of_ne_zero hsize)
    have hslot := hlive'.layout.slot 0
    rw [Nat.add_zero, Nat.add_zero] at hslot
    change w.seq % w.cap = _ at hslot
    rw [hslot]
    exact ⟨hlen, hlive'.head (Nat.pos_of_ne_zero hsize)⟩
  · intro _
    obtain ⟨hfree, hsw, -, hrf, hcfg'⟩ := takeFrame_spec arq
    have hrh : pollRh (takeFrame arq) = pollRh arq := by
      unfold pollRh pollRead
      rw [hrf, hcfg']
    rw [← hsw] at hlive htimers
    rw [← hcfg, ← hcfg'] at hrtx htiny
    rw [← hbound]
    refine ⟨0, Nat.zero_le _, bound, le_rfl, hlive.emits b ?_ hfree htimers hrtx htiny 0⟩
    unfold FittingAck at hok ⊢
    rwa [hrh, hsw]

theorem sender_never_silent_sample :
    let arq := sampleCalls.foldl (perform ⟨false⟩) (freshArq ⟨false⟩ (smallCfg 1 2 4))
    ∃ dt₁ ≤ 5, ∃ dt₂ ≤ 5, EmitsData ⟨false⟩ (takeFrame arq) dt₁ ∨
      (backendPoll ⟨false⟩ (takeFrame arq) dt₁).1.sendWnd.w.size = 0 ∨
      EmitsData ⟨false⟩ (takeFrame (backendPoll ⟨false⟩ (takeFrame arq) dt₁).1) dt₂ :=
  (sender_never_silent ⟨false⟩ (smallCfg 1 2 4) (zeroSeat _) _ (arqInit_zeroSeat (by decide))
    ⟨⟨2, by decide, by decide⟩, by decide, by decide⟩ _ (Run.exec (by decide +kernel))
    (by decide +kernel)).2 (by decide +kernel)

/-- An ACK with all twelve bits set, for a message of one segment. -/
def oversizedAckCalls : List Call :=
  [.send [7], .flush, .poll 0, .sendPtrGet, .sendPtrRelease,
    .recvFill (ackBytes (smallCfg 1 1 1) 0 4095)]

/-- Its message is neither removed nor can it be selected. -/
theorem oversized_ack_blocks :
    ¬ ∀ (calls : List Call) (dt : Nat),
        let w := (backendPoll ⟨false⟩
          (calls.foldl (perform ⟨false⟩) (freshArq ⟨false⟩ (smallCfg 1 1 1))) dt).1.sendWnd.w
        w.size ≠ 0 →
          0 < (w.msg (w.seq % w.cap)).len ∧
            (w.msg (w.seq % w.cap)).curAckVec < (w.msg (w.seq % w.cap)).fullAckVec := by
  intro h
  exact absurd (h oversizedAckCalls 0 (by decide +kernel)).2 (by decide +kernel)

end NanoArq
