import NanoArq.Sender.Pointer

/-!
# ACKs without effect on the send window

`AckInert` says when an ACK leaves `arq__send_poll` to do what it does without one. Such an ACK
names a message outside the window, or it repeats the vector that the message has; it then still
clears the message's retransmission timer, which makes no difference where the timer runs out in
this poll anyway, or where the send pointer leaves the message and restarts the timer.
-/

namespace NanoArq

open Lib

/-- The send window after a poll of length `dt` that brings no ACK, before the send pointer is
used. -/
def quietWnd (sw : SendWnd) (dt : Nat) : SendWnd := sendPollTimers sw frameHdrInit dt

/-- The retransmission timer in slot `idx` is cleared. -/
def clearTimer (sw : SendWnd) (idx : Nat) : SendWnd :=
  { sw with rtx := Function.update sw.rtx idx 0 }

/-- The ACK repeats the vector of its message, and the first message is not complete. -/
structure AckRepeats (w : Wnd) (seq vec : Nat) : Prop where
  seqFits : w.seq < seqSpace
  sizeFits : w.size < 65536
  cur : (w.msg (seq % w.cap)).curAckVec = vec
  head : (w.msg (w.seq % w.cap)).curAckVec ≠ (w.msg (w.seq % w.cap)).fullAckVec

/-- The send pointer leaves the message in slot `idx` in this poll, which restarts its timer, and
clearing the timer before makes no message the first one that is selected. -/
def TimerRestarted (sw : SendWnd) (sp : SendWndPtr) (idx : Nat) : Prop :=
  sp.valid = true ∧ ¬ ptrInside sp (sw.w.msg (sp.seq % sw.w.cap)) ∧ sp.seq % sw.w.cap = idx ∧
    ∀ i, i < sw.w.size → ptrSelects sp (clearTimer sw idx) i → ∃ k, k ≤ i ∧ ptrSelects sp sw k

/-- The ACK in the header `rh` has no effect on a send poll which may write a frame when `free`. -/
def AckInert (sw : SendWnd) (sp : SendWndPtr) (free : Prop) (rh : FrameHdr) (dt : Nat) : Prop :=
  rh.ack = true → ackInWnd sw.w rh.ackNum →
    AckRepeats sw.w rh.ackNum rh.curAckVec ∧
      (rh.curAckVec = (sw.w.msg (rh.ackNum % sw.w.cap)).fullAckVec ∨
        (quietWnd sw dt).rtx (rh.ackNum % sw.w.cap) = 0 ∨
        (free ∧ TimerRestarted (quietWnd sw dt) sp (rh.ackNum % sw.w.cap)))

/-! ## The timers -/

section

variable {sw : SendWnd} {dt : Nat}

theorem sendWndStep_clearTimer (sw : SendWnd) (dt idx : Nat) :
    sendWndStep (clearTimer sw idx) dt = clearTimer (sendWndStep sw dt) idx := by
  have hfold : ∀ n,
      (List.range n).foldl (fun rtx i =>
        let idx := (sw.w.seq + i) % sw.w.cap
        Function.update rtx idx (subSat (rtx idx) dt)) (Function.update sw.rtx idx 0) =
      Function.update ((List.range n).foldl (fun rtx i =>
        let idx := (sw.w.seq + i) % sw.w.cap
        Function.update rtx idx (subSat (rtx idx) dt)) sw.rtx) idx 0 := by
    intro n
    induction n with
    | zero => rfl
    | succ n ih =>
      rw [List.range_succ, List.foldl_append, List.foldl_append, ih]
      simp only [List.foldl_cons, List.foldl_nil, subSat_eq]
      by_cases h : (sw.w.seq + n) % sw.w.cap = idx
      · rw [h, Function.update_self, Function.update_idem, Function.update_idem, Nat.zero_sub]
      · rw [Function.update_of_ne h, Function.update_comm h]
  unfold sendWndStep clearTimer
  dsimp only
  rw [hfold]

theorem sendWndFlush_clearTimer (sw : SendWnd) (idx : Nat) :
    sendWndFlush (clearTimer sw idx) = clearTimer (sendWndFlush sw) idx := by
  unfold sendWndFlush clearTimer
  dsimp only
  split
  · rfl
  · split
    · by_cases h : (sw.w.seq + sw.w.size - 1) % sw.w.cap = idx
      · rw [h]
      · rw [Function.update_comm h]
    · rfl

theorem quietWnd_eq (sw : SendWnd) (dt : Nat) :
    quietWnd sw dt =
      if (sendWndStep sw dt).tinyOn ∧ (sendWndStep sw dt).tiny = 0 then
        { sendWndFlush (sendWndStep sw dt) with tinyOn := false }
      else sendWndStep sw dt := rfl

theorem quietWnd_clearTimer (sw : SendWnd) (dt idx : Nat) :
    quietWnd (clearTimer sw idx) dt = clearTimer (quietWnd sw dt) idx := by
  rw [quietWnd_eq, quietWnd_eq, sendWndStep_clearTimer]
  split
  · rename_i h
    have h' : (sendWndStep sw dt).tinyOn ∧ (sendWndStep sw dt).tiny = 0 := h
    rw [if_pos h', sendWndFlush_clearTimer]
    rfl
  · rename_i h
    have h' : ¬ ((sendWndStep sw dt).tinyOn ∧ (sendWndStep sw dt).tiny = 0) := h
    rw [if_neg h']

/-- The timers leave the ACK vectors and the extent of the window alone. -/
theorem quietWnd_w (sw : SendWnd) (dt : Nat) :
    (quietWnd sw dt).w = { sw.w with msg := (quietWnd sw dt).w.msg } ∧
      ∀ j, ((quietWnd sw dt).w.msg j).curAckVec = (sw.w.msg j).curAckVec := by
  rw [quietWnd_eq]
  split
  · dsimp only
    refine ⟨sendWndFlush_w _, ?_⟩
    intro j
    rw [sendWndFlush_msg]
    split <;> rfl
  · exact ⟨rfl, fun _ => rfl⟩

/-! ## The ACK -/

theorem sendWndRetire_bounds (w : Wnd) :
    ∀ (n i : Nat) (msg : Nat → Msg),
      i ≤ (sendWndRetire w n i msg).2 ∧ (sendWndRetire w n i msg).2 ≤ i + n := by
  intro n
  induction n with
  | zero =>
    intro i msg
    exact ⟨le_rfl, le_rfl⟩
  | succ n ih =>
    intro i msg
    unfold sendWndRetire
    dsimp only
    split
    · exact ⟨le_rfl, Nat.le_add_right _ _⟩
    · have := ih (i + 1) (Function.update msg ((w.seq + i) % w.cap) (msgEmpty w.fullAckVec))
      omega

/-- No message is removed exactly when the first one is not complete. -/
theorem sendWndRetire_first (w : Wnd) {n : Nat} (hn : n ≠ 0) (msg : Nat → Msg) :
    if (msg (w.seq % w.cap)).curAckVec ≠ (msg (w.seq % w.cap)).fullAckVec then
      sendWndRetire w n 0 msg = (msg, 0)
    else 1 ≤ (sendWndRetire w n 0 msg).2 := by
  obtain ⟨m, rfl⟩ := Nat.exists_eq_succ_of_ne_zero hn
  split
  · rename_i h
    unfold sendWndRetire
    dsimp only
    rw [Nat.add_zero, if_pos h]
  · rename_i h
    unfold sendWndRetire
    dsimp only
    rw [Nat.add_zero, if_neg h]
    exact (sendWndRetire_bounds w m 1 _).1

/-- An ACK that repeats what the window knows clears at most a timer. -/
theorem sendWndAck_repeats {seq vec : Nat} (hin : ackInWnd sw.w seq)
    (h : AckRepeats sw.w seq vec) :
    sendWndAck sw seq vec =
      if vec ≠ (sw.w.msg (seq % sw.w.cap)).fullAckVec then clearTimer sw (seq % sw.w.cap)
      else sw := by
  obtain ⟨hseq, hsize, hcur, hhead⟩ := h
  have hmsg : Function.update sw.w.msg (seq % sw.w.cap)
      { sw.w.msg (seq % sw.w.cap) with curAckVec := vec } = sw.w.msg := by
    rw [← hcur]
    exact Function.update_eq_self _ _
  have hne : sw.w.size ≠ 0 := fun h => hin (Or.inl h)
  have hretire := sendWndRetire_first sw.w hne sw.w.msg
  rw [if_pos hhead] at hretire
  have hw : { sw.w with
      msg := sw.w.msg
      size := u16 (sub32 sw.w.size 0)
      seq := (sw.w.seq + 0) % seqSpace } = sw.w := by
    rw [sub32_of_le (Nat.zero_le _), Nat.sub_zero, u16_of_lt hsize, Nat.add_zero,
      Nat.mod_eq_of_lt hseq]
  rw [sendWndAck, if_pos hin]
  dsimp only
  rw [hmsg, hretire]
  dsimp only
  rw [hw]
  split
  · rfl
  · rfl

/-- An ACK in the window that leaves the messages and the extent of the window as they are repeats
what the window knows. -/
theorem AckRepeats.of_eq {seq vec : Nat} (hin : ackInWnd sw.w seq)
    (hseq : (sendWndAck sw seq vec).w.seq = sw.w.seq)
    (hsize : (sendWndAck sw seq vec).w.size = sw.w.size)
    (hcur : ∀ j, ((sendWndAck sw seq vec).w.msg j).curAckVec = (sw.w.msg j).curAckVec) :
    AckRepeats sw.w seq vec := by
  have hne : sw.w.size ≠ 0 := fun h => hin (Or.inl h)
  rw [sendWndAck, if_pos hin] at hseq hsize hcur
  dsimp only at hseq hsize hcur
  obtain ⟨msg', hmsg'⟩ : ∃ msg', msg' = Function.update sw.w.msg (seq % sw.w.cap)
      { sw.w.msg (seq % sw.w.cap) with curAckVec := vec } := ⟨_, rfl⟩
  rw [← hmsg'] at hseq hsize hcur
  have hbounds := sendWndRetire_bounds sw.w sw.w.size 0 msg'
  have hfirst := sendWndRetire_first sw.w hne msg'
  have hfits : sw.w.size < 65536 := by
    rw [← hsize]
    exact Nat.mod_lt _ (by decide)
  have hnone : (sendWndRetire sw.w sw.w.size 0 msg').2 = 0 := by
    rw [sub32_of_le (by omega), u16_of_lt (by omega)] at hsize
    omega
  have hhead : (msg' (sw.w.seq % sw.w.cap)).curAckVec ≠ (msg' (sw.w.seq % sw.w.cap)).fullAckVec := by
    intro h
    rw [if_neg (not_not_intro h), hnone] at hfirst
    omega
  rw [if_pos hhead] at hfirst
  rw [hfirst] at hseq hcur
  dsimp only at hseq hcur
  have hvec := hcur (seq % sw.w.cap)
  rw [hmsg', Function.update_self] at hvec
  have hsame : msg' = sw.w.msg := by
    rw [hmsg', show vec = (sw.w.msg (seq % sw.w.cap)).curAckVec from hvec]
    exact Function.update_eq_self _ _
  refine ⟨?_, hfits, hvec.symm, by rwa [hsame] at hhead⟩
  rw [← hseq]
  exact Nat.mod_lt _ (by decide)

/-! ## The send pointer -/

section

variable {sp : SendWndPtr} {idx : Nat}

/-- Clearing a timer lets at most the messages in its slot be selected. -/
theorem ptrSelects_clearTimer {i : Nat} :
    (ptrSelects sp sw i → ptrSelects sp (clearTimer sw idx) i) ∧
      (ptrSelects sp (clearTimer sw idx) i →
        (i + sw.w.seq) % seqSpace % sw.w.cap ≠ idx → ptrSelects sp sw i) := by
  unfold ptrSelects clearTimer
  dsimp only
  constructor
  · rintro ⟨hother, hrtx, hopen⟩
    refine ⟨hother, ?_, hopen⟩
    by_cases h : (i + sw.w.seq) % seqSpace % sw.w.cap = idx
    · rw [h, Function.update_self]
    · rwa [Function.update_of_ne h]
  · rintro ⟨hother, hrtx, hopen⟩ h
    rw [Function.update_of_ne h] at hrtx
    exact ⟨hother, hrtx, hopen⟩

/-- The search finds the same message with the timer cleared exactly when no message in its slot
comes first. -/
theorem sendWndPtrSearch_clearTimer (hrtx : sw.rtx idx ≠ 0) :
    sendWndPtrSearch sp (clearTimer sw idx) = sendWndPtrSearch sp sw ↔
      ∀ i, i < sw.w.size → ptrSelects sp (clearTimer sw idx) i →
        ∃ k, k ≤ i ∧ ptrSelects sp sw k := by
  have hslot : ∀ i, ptrSelects sp sw i → (i + sw.w.seq) % seqSpace % sw.w.cap ≠ idx := by
    rintro i ⟨-, hzero, -⟩ h
    dsimp only at hzero
    rw [h] at hzero
    exact hrtx hzero
  constructor
  · intro heq i hi hsel
    rcases sendWndPtrSearch_cases sp (clearTimer sw idx) with
      ⟨k, hk, hselk, hfirst, hres⟩ | ⟨hnone, -⟩
    · -- What the search finds is selected without the clearing, for it has another slot.
      have hki : k ≤ i := Nat.not_lt.mp fun h => hfirst i h hsel
      refine ⟨k, hki, ptrSelects_clearTimer.2 hselk ?_⟩
      rcases sendWndPtrSearch_cases sp sw with ⟨k', -, hselk', -, hres'⟩ | ⟨-, hres'⟩
      · rw [hres, hres'] at heq
        have hseq := congrArg SendWndPtr.seq heq
        have hlt : ∀ k, (k + sw.w.seq) % seqSpace < 65536 := fun k =>
          Nat.lt_trans (Nat.mod_lt _ (by decide)) (show seqSpace < 65536 by decide)
        have hseq' : (k + sw.w.seq) % seqSpace = (k' + sw.w.seq) % seqSpace := by
          have : u16 ((k + sw.w.seq) % seqSpace) = u16 ((k' + sw.w.seq) % seqSpace) := hseq
          rwa [u16_of_lt (hlt k), u16_of_lt (hlt k')] at this
        rw [hseq']
        exact hslot k' hselk'
      · rw [hres, hres'] at heq
        cases congrArg SendWndPtr.valid heq
    · exact absurd hsel (hnone i hi)
  · intro h
    rcases sendWndPtrSearch_cases sp (clearTimer sw idx) with
      ⟨i, hi, hsel, hfirst, hres⟩ | ⟨hnone, hres⟩
    · obtain ⟨k, hki, hselk⟩ := h i hi hsel
      have hk : k = i := by
        by_contra hne
        exact hfirst k (by omega) (ptrSelects_clearTimer.1 hselk)
      subst hk
      rcases sendWndPtrSearch_cases sp sw with ⟨k', hk', hselk', hfirst', hres'⟩ | ⟨hnone', -⟩
      · have h₁ := Nat.not_lt.mp fun h => hfirst' k h hselk
        have h₂ := Nat.not_lt.mp fun h => hfirst k' h (ptrSelects_clearTimer.1 hselk')
        rw [hres, hres', show k' = k by omega]
        rfl
      · exact absurd hselk (hnone' k hi)
    · rcases sendWndPtrSearch_cases sp sw with ⟨k', hk', hselk', -⟩ | ⟨-, hres'⟩
      · exact absurd (ptrSelects_clearTimer.1 hselk') (hnone k' hk')
      · rw [hres, hres']

/-! ## The poll -/

/-- `arq__send_poll` from the send pointer on. -/
def sendPollPtr (sw : SendWnd) (sp : SendWndPtr) (sh : Option FrameHdr) (rtx : Nat) :
    SendWnd × SendWndPtr × Option FrameHdr × Bool :=
  match sh with
  | none => (sw, sp, none, false)
  | some sh =>
    let r := sendWndPtrNext sp sw
    let sw :=
      if r.2 = .completedMsg then
        { sw with rtx := Function.update sw.rtx (sp.seq % sw.w.cap) rtx }
      else sw
    let sh := sendPollHdr sw r.1 sh
    (sw, r.1, some sh, sh.seg)

theorem sendPoll_eq (sw : SendWnd) (sp : SendWndPtr) (sh : Option FrameHdr) (rh : FrameHdr)
    (dt rtx : Nat) :
    sendPoll sw sp sh rh dt rtx = sendPollPtr (sendPollTimers sw rh dt) sp sh rtx := rfl

theorem sendPollPtr_w (sw : SendWnd) (sp : SendWndPtr) (sh : Option FrameHdr) (rtx : Nat) :
    (sendPollPtr sw sp sh rtx).1.w = sw.w := by
  unfold sendPollPtr
  cases sh with
  | none => rfl
  | some sh =>
    dsimp only
    split <;> rfl

/-- The pointer leaves its message when the segments of that message are used up. -/
theorem sendWndPtrNext_leaves (hv : sp.valid = true)
    (hin : ¬ ptrInside sp (sw.w.msg (sp.seq % sw.w.cap))) :
    sendWndPtrNext sp sw =
      (sendWndPtrSearch { sp with seg := ptrAdvance sp (sw.w.msg (sp.seq % sw.w.cap)) } sw,
        .completedMsg) := by
  rw [sendWndPtrNext, if_pos hv]
  exact if_neg hin

theorem sendWndPtrNext_stays (h : ¬ (sp.valid = true ∧
    ¬ ptrInside sp (sw.w.msg (sp.seq % sw.w.cap)))) :
    (sendWndPtrNext sp sw).2 = .insideMsg := by
  unfold sendWndPtrNext
  split
  · rename_i hv
    dsimp only
    rw [if_pos (by_contra fun hin => h ⟨hv, hin⟩)]
  · rfl

/-- Clearing a running timer before the send pointer is used makes no difference exactly when the
pointer restarts it. -/
theorem sendPollPtr_clearTimer (hrtx : sw.rtx idx ≠ 0) (sh : Option FrameHdr) (rtx : Nat) :
    (sh.isSome = true ∧ TimerRestarted sw sp idx →
        sendPollPtr (clearTimer sw idx) sp sh rtx = sendPollPtr sw sp sh rtx) ∧
      ((sendPollPtr (clearTimer sw idx) sp sh rtx).1 = (sendPollPtr sw sp sh rtx).1 →
        (sendPollPtr (clearTimer sw idx) sp sh rtx).2.1 = (sendPollPtr sw sp sh rtx).2.1 →
        sh.isSome = true ∧ TimerRestarted sw sp idx) := by
  have hcleared : (clearTimer sw idx).rtx idx = 0 := Function.update_self ..
  cases sh with
  | none =>
    refine ⟨fun h => absurd h.1 (by decide), ?_⟩
    intro hsw _
    have := congrFun (congrArg SendWnd.rtx hsw) idx
    exact absurd (this.symm.trans hcleared) hrtx
  | some sh =>
    by_cases hleave : sp.valid = true ∧ ¬ ptrInside sp (sw.w.msg (sp.seq % sw.w.cap))
    · obtain ⟨hv, hin⟩ := hleave
      have hnext := sendWndPtrNext_leaves hv hin
      have hnext' : sendWndPtrNext sp (clearTimer sw idx) = _ := sendWndPtrNext_leaves hv hin
      unfold sendPollPtr
      dsimp only
      rw [hnext, hnext']
      dsimp only
      rw [if_pos rfl, if_pos rfl]
      constructor
      · rintro ⟨-, -, -, hslot, hfirst⟩
        have hsearch : sendWndPtrSearch
            { sp with seg := ptrAdvance sp (sw.w.msg (sp.seq % sw.w.cap)) } (clearTimer sw idx) =
            sendWndPtrSearch { sp with seg := ptrAdvance sp (sw.w.msg (sp.seq % sw.w.cap)) } sw :=
          (sendWndPtrSearch_clearTimer hrtx).mpr hfirst
        have htimer : Function.update (clearTimer sw idx).rtx (sp.seq % sw.w.cap) rtx =
            Function.update sw.rtx (sp.seq % sw.w.cap) rtx := by
          rw [hslot]
          exact Function.update_idem ..
        change ({ sw with rtx := Function.update (clearTimer sw idx).rtx (sp.seq % sw.w.cap) rtx },
          _, _, _) = _
        rw [htimer]
        exact congrArg (fun p => (_, p, some (sendPollHdr _ p sh), (sendPollHdr _ p sh).seg)) hsearch
      · intro hsw hp
        have hfirst := (sendWndPtrSearch_clearTimer hrtx).mp hp
        refine ⟨rfl, hv, hin, ?_, hfirst⟩
        by_contra hslot
        have hat : Function.update (clearTimer sw idx).rtx (sp.seq % sw.w.cap) rtx idx =
            Function.update sw.rtx (sp.seq % sw.w.cap) rtx idx :=
          congrFun (congrArg SendWnd.rtx hsw) idx
        rw [Function.update_of_ne (Ne.symm hslot), Function.update_of_ne (Ne.symm hslot),
          hcleared] at hat
        exact hrtx hat.symm
    · refine ⟨fun h => absurd ⟨h.2.1, h.2.2.1⟩ hleave, ?_⟩
      intro hsw _
      have hstay := sendWndPtrNext_stays hleave
      have hstay' : (sendWndPtrNext sp (clearTimer sw idx)).2 = .insideMsg :=
        sendWndPtrNext_stays hleave
      unfold sendPollPtr at hsw
      dsimp only at hsw
      rw [hstay, hstay', if_neg (by decide), if_neg (by decide)] at hsw
      have := congrFun (congrArg SendWnd.rtx hsw) idx
      exact absurd (this.symm.trans hcleared) hrtx

end

end

theorem sendPollTimers_quiet {sw : SendWnd} {rh : FrameHdr} (dt : Nat)
    (h : ¬ (rh.ack = true ∧ ackInWnd sw.w rh.ackNum)) :
    sendPollTimers sw rh dt = quietWnd sw dt := by
  have hack : (if rh.ack then sendWndAck sw rh.ackNum rh.curAckVec else sw) = sw := by
    split
    · rename_i hack
      exact if_neg fun hin => h ⟨hack, hin⟩
    · rfl
  unfold quietWnd sendPollTimers
  rw [hack]
  rfl

/-- **An ACK has no effect on the send side exactly when it is inert.** -/
theorem sendPoll_inert (sw : SendWnd) (sp : SendWndPtr) (sh : Option FrameHdr) (rh : FrameHdr)
    (dt rtx : Nat) :
    (AckInert sw sp (sh.isSome = true) rh dt →
        sendPoll sw sp sh rh dt rtx = sendPoll sw sp sh frameHdrInit dt rtx) ∧
      ((sendPoll sw sp sh rh dt rtx).1 = (sendPoll sw sp sh frameHdrInit dt rtx).1 →
        (sendPoll sw sp sh rh dt rtx).2.1 = (sendPoll sw sp sh frameHdrInit dt rtx).2.1 →
        AckInert sw sp (sh.isSome = true) rh dt) := by
  have hquiet : sendPollTimers sw frameHdrInit dt = quietWnd sw dt := rfl
  rw [sendPoll_eq, sendPoll_eq, hquiet]
  by_cases hin : rh.ack = true ∧ ackInWnd sw.w rh.ackNum
  · obtain ⟨hack, hwnd⟩ := hin
    have htimers : sendPollTimers sw rh dt =
        quietWnd (sendWndAck sw rh.ackNum rh.curAckVec) dt := by
      unfold quietWnd sendPollTimers
      rw [if_pos hack]
      rfl
    rw [htimers]
    constructor
    · intro h
      obtain ⟨hrep, heffect⟩ := h hack hwnd
      rw [sendWndAck_repeats hwnd hrep]
      split
      · rename_i hne
        rw [quietWnd_clearTimer]
        by_cases hrtx : (quietWnd sw dt).rtx (rh.ackNum % sw.w.cap) = 0
        · have hsame : clearTimer (quietWnd sw dt) (rh.ackNum % sw.w.cap) = quietWnd sw dt := by
            unfold clearTimer
            rw [← hrtx, Function.update_eq_self]
          rw [hsame]
        · rcases heffect with hfull | hzero | hrestart
          · exact absurd hfull hne
          · exact absurd hzero hrtx
          · exact (sendPollPtr_clearTimer hrtx sh rtx).1 hrestart
      · rfl
    · intro hsw hp _ _
      have hw : (quietWnd (sendWndAck sw rh.ackNum rh.curAckVec) dt).w = (quietWnd sw dt).w := by
        rw [← sendPollPtr_w _ sp sh rtx, hsw, sendPollPtr_w]
      obtain ⟨hext, hcur⟩ := quietWnd_w (sendWndAck sw rh.ackNum rh.curAckVec) dt
      obtain ⟨hext', hcur'⟩ := quietWnd_w sw dt
      have hrep : AckRepeats sw.w rh.ackNum rh.curAckVec := by
        refine .of_eq hwnd ?_ ?_ ?_
        · have := congrArg Wnd.seq hw
          rwa [hext, hext'] at this
        · have := congrArg Wnd.size hw
          rwa [hext, hext'] at this
        · intro j
          rw [← hcur, ← hcur', hw]
      refine ⟨hrep, ?_⟩
      rw [sendWndAck_repeats hwnd hrep] at hsw hp
      by_cases hfull : rh.curAckVec = (sw.w.msg (rh.ackNum % sw.w.cap)).fullAckVec
      · exact Or.inl hfull
      · rw [if_pos hfull, quietWnd_clearTimer] at hsw hp
        by_cases hrtx : (quietWnd sw dt).rtx (rh.ackNum % sw.w.cap) = 0
        · exact Or.inr (Or.inl hrtx)
        · exact Or.inr (Or.inr ((sendPollPtr_clearTimer hrtx sh rtx).2 hsw hp))
  · rw [sendPollTimers_quiet dt hin]
    exact ⟨fun _ => rfl, fun _ _ hack hwnd => absurd ⟨hack, hwnd⟩ hin⟩

end NanoArq
