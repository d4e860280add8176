import NanoArq.Lib.Marks
import NanoArq.Sender.Ops

/-!
# Two send windows that differ in stale bytes

`SendTwin s sw sw'`: the windows differ only in bytes of their buffers that `s` does not mark, and
in entries of the model's arrays behind their ends. Every operation of the send side keeps the
relation and has the same result on both; `sendMarks` are the marks after `arq__send_wnd_send`.
-/

namespace NanoArq

open Lib

variable {s : Mem Bool}

/-- The message array and the buffer of a window, replaced. -/
abbrev Wnd.store (w : Wnd) (msg : Nat → Msg) (buf : Buf) : Wnd := { w with msg := msg, buf := buf }

/-- The storage `msg`, `buf` stands for that of `w`. -/
structure WndAgree (s : Mem Bool) (w : Wnd) (msg : Nat → Msg) (buf : Buf) : Prop where
  cap_pos : 0 < w.cap
  msg : EqBelow w.cap w.msg msg
  buf : Agree s w.buf buf

def SendTwin (s : Mem Bool) (sw sw' : SendWnd) : Prop :=
  ∃ msg buf rtx, sw' = { sw with w := sw.w.store msg buf, rtx := rtx } ∧
    WndAgree s sw.w msg buf ∧ EqBelow sw.w.cap sw.rtx rtx

theorem WndAgree.at_slot {w : Wnd} {msg : Nat → Msg} {buf : Buf} (h : WndAgree s w msg buf)
    (n : Nat) : msg (n % w.cap) = w.msg (n % w.cap) := (h.msg.mod h.cap_pos n).symm

/-- The segments of the windows lie at the same place. -/
theorem WndAgree.wndSeg {w : Wnd} {msg : Nat → Msg} {buf : Buf} (h : WndAgree s w msg buf)
    (seq seg : Nat) : wndSeg (w.store msg buf) seq seg = wndSeg w seq seg := by
  unfold NanoArq.wndSeg Wnd.store
  dsimp only
  rw [h.at_slot]

section

variable {sw sw' : SendWnd}

theorem SendTwin.set_tinyOn (h : SendTwin s sw sw') (on : Bool) :
    SendTwin s { sw with tinyOn := on } { sw' with tinyOn := on } := by
  obtain ⟨msg, buf, rtx, rfl, hw, hrtx⟩ := h
  exact ⟨msg, buf, rtx, rfl, hw, hrtx⟩

theorem SendTwin.set_rtx (h : SendTwin s sw sw') (i t : Nat) :
    SendTwin s { sw with rtx := Function.update sw.rtx i t }
      { sw' with rtx := Function.update sw'.rtx i t } := by
  obtain ⟨msg, buf, rtx, rfl, hw, hrtx⟩ := h
  exact ⟨msg, buf, _, rfl, hw, hrtx.update i t⟩

/-! ## Sending -/

/-- The number of bytes that `arq__send_wnd_send` takes of `n`. -/
def sendFit (w : Wnd) (n : Nat) : Nat := min n (sub32 (w.cap * w.msgLen) (sendHeld w))

/-- Where it copies the first of them. -/
def sendCursor (w : Wnd) : Nat := sendFirst w * w.msgLen + (w.msg (sendFirst w)).len

/-- How many of them it copies before it wraps. -/
def sendUnwrapped (w : Wnd) (n : Nat) : Nat :=
  min (sendFit w n) (sub32 (w.cap * w.msgLen) (sendCursor w))

/-- The marks after the copies of `arq__send_wnd_send`. -/
def sendMarks (s : Mem Bool) (w : Wnd) (n : Nat) : Mem Bool :=
  paint (paint s (sendCursor w) (sendUnwrapped w n)) 0 (sendFit w n - sendUnwrapped w n)

/-- The buffer after these copies. -/
def sendCopied (w : Wnd) (buf : Buf) (data : List UInt8) : Buf :=
  memcpy (memcpy buf (sendCursor w) (data.take (sendUnwrapped w data.length))) 0
    ((data.drop (sendUnwrapped w data.length)).take
      (sendFit w data.length - sendUnwrapped w data.length))

theorem sendCopied_agree {w : Wnd} {buf buf' : Buf} (h : Agree s buf buf') (data : List UInt8) :
    Agree (sendMarks s w data.length) (sendCopied w buf data) (sendCopied w buf' data) := by
  have hfit : sendFit w data.length ≤ data.length := Nat.min_le_left _ _
  have hunwrapped : sendUnwrapped w data.length ≤ sendFit w data.length := Nat.min_le_left _ _
  have hfirst := h.memcpy (sendCursor w) (data.take (sendUnwrapped w data.length))
  rw [List.length_take, Nat.min_eq_left (by omega)] at hfirst
  have hsecond := hfirst.memcpy 0 ((data.drop (sendUnwrapped w data.length)).take
    (sendFit w data.length - sendUnwrapped w data.length))
  rwa [List.length_take, List.length_drop, Nat.min_eq_left (by omega)] at hsecond

theorem sendWndFill_twin (h : SendTwin s sw sw') (seq n : Nat) :
    SendTwin s (sendWndFill sw seq n) (sendWndFill sw' seq n) := by
  refine foldl_keeps ?_ _ h
  rintro x y i ⟨msg, buf, rtx, rfl, hw, hrtx⟩
  have hmsg : EqBelow x.w.cap
      (Function.update x.w.msg ((seq + i) % x.w.cap)
        { x.w.msg ((seq + i) % x.w.cap) with len := x.w.msgLen })
      (Function.update msg ((seq + i) % x.w.cap)
        { msg ((seq + i) % x.w.cap) with len := x.w.msgLen }) := by
    rw [hw.at_slot]
    exact hw.msg.update _ _
  exact ⟨_, _, _, rfl, ⟨hw.cap_pos, hmsg, hw.buf⟩, hrtx.update _ _⟩

/-- The end of `arq__send_wnd_send`, from the window `sw` in which the bytes are copied and the
complete messages have their lengths; `idx` is the slot of the last message. -/
def sendFinish (sw : SendWnd) (idx size₀ rem size tiny : Nat) : SendWnd :=
  let msg :=
    if rem ≠ 0 then Function.update sw.w.msg idx { sw.w.msg idx with len := u16 rem }
    else sw.w.msg
  let tinyOn := decide (rem > 0)
  if tinyOn ∧ size > size₀ then
    { w := { sw.w with msg := msg, size := size }
      rtx := Function.update sw.rtx idx tiny
      tiny := tiny
      tinyOn := tinyOn }
  else { sw with w := { sw.w with msg := msg, size := size }, tinyOn := tinyOn }

theorem sendFinish_twin (h : SendTwin s sw sw') {idx : Nat} (hidx : idx < sw.w.cap)
    (size₀ rem size tiny : Nat) :
    SendTwin s (sendFinish sw idx size₀ rem size tiny) (sendFinish sw' idx size₀ rem size tiny) := by
  obtain ⟨msg, buf, rtx, rfl, hw, hrtx⟩ := h
  have hmsg : EqBelow sw.w.cap
      (if rem ≠ 0 then Function.update sw.w.msg idx { sw.w.msg idx with len := u16 rem }
      else sw.w.msg)
      (if rem ≠ 0 then Function.update msg idx { msg idx with len := u16 rem } else msg) := by
    split
    · rw [hw.msg idx hidx]
      exact hw.msg.update _ _
    · exact hw.msg
  unfold sendFinish
  dsimp only [Wnd.store]
  split
  · exact ⟨_, _, _, rfl, ⟨hw.cap_pos, hmsg, hw.buf⟩, hrtx.update _ _⟩
  · exact ⟨_, _, _, rfl, ⟨hw.cap_pos, hmsg, hw.buf⟩, hrtx⟩

/-- `arq__send_wnd_send` in two steps. -/
theorem sendWndSend_steps (sw : SendWnd) {data : List UInt8} (hdata : data.length ≠ 0)
    (tiny : Nat) {total size : Nat}
    (htotal : total = (sw.w.msg (sendFirst sw.w)).len + sendFit sw.w data.length)
    (hsize : size =
      u16 ((sendHeld sw.w + sendFit sw.w data.length + sw.w.msgLen - 1) / sw.w.msgLen)) :
    sendWndSend sw data tiny =
      (sendFinish
        (sendWndFill { sw with w := { sw.w with buf := sendCopied sw.w sw.w.buf data } }
          (sw.w.seq + subSat sw.w.size 1) (total / sw.w.msgLen))
        (sub32 (sw.w.seq + size) 1 % sw.w.cap) sw.w.size
        (total - total / sw.w.msgLen * sw.w.msgLen) size tiny,
        sendFit sw.w data.length) := by
  subst htotal hsize
  rw [sendWndSend, if_neg hdata, sendFinish]
  dsimp only
  apply Prod.ext
  · rw [apply_ite Prod.fst]
    rfl
  · rw [apply_ite Prod.snd, ite_self]
    rfl

/-- The measures of the window that decide where `arq__send_wnd_send` copies to. -/
theorem WndAgree.send_marks {w : Wnd} {msg : Nat → Msg} {buf : Buf} (h : WndAgree s w msg buf) :
    sendHeld (w.store msg buf) = sendHeld w ∧ sendCursor (w.store msg buf) = sendCursor w ∧
      (msg (sendFirst w)).len = (w.msg (sendFirst w)).len := by
  have hfirst : msg (sendFirst w) = w.msg (sendFirst w) := h.at_slot _
  unfold sendHeld sendCursor
  change subSat w.size 1 * w.msgLen + (msg (sendFirst w)).len = _ ∧
    sendFirst w * w.msgLen + (msg (sendFirst w)).len = _ ∧ _
  rw [hfirst]
  exact ⟨rfl, rfl, rfl⟩

theorem sendWndSend_twin (h : SendTwin s sw sw') (data : List UInt8) (tiny : Nat) :
    (sendWndSend sw data tiny).2 = (sendWndSend sw' data tiny).2 ∧
      SendTwin (sendMarks s sw.w data.length) (sendWndSend sw data tiny).1
        (sendWndSend sw' data tiny).1 := by
  obtain ⟨msg, buf, rtx, rfl, hw, hrtx⟩ := h
  obtain ⟨hheld, hcursor, hlen⟩ := hw.send_marks
  have hfit : sendFit (sw.w.store msg buf) data.length = sendFit sw.w data.length := by
    rw [sendFit, hheld]
    rfl
  have hunwrapped : sendUnwrapped (sw.w.store msg buf) data.length =
      sendUnwrapped sw.w data.length := by
    rw [sendUnwrapped, hfit, hcursor]
    rfl
  have hcopied : ∀ m, sendCopied (sw.w.store msg buf) m data = sendCopied sw.w m data := by
    intro m
    rw [sendCopied, hfit, hunwrapped, hcursor, sendCopied]
  by_cases hdata : data.length = 0
  · have hmarks : sendMarks s sw.w data.length = s := by
      have hzero : sendFit sw.w 0 = 0 := Nat.zero_min _
      rw [hdata, sendMarks, sendUnwrapped, hzero, Nat.zero_min, paint_zero, paint_zero]
    rw [sendWndSend_nil _ hdata, sendWndSend_nil _ hdata, hmarks]
    exact ⟨rfl, msg, buf, rtx, rfl, hw, hrtx⟩
  · obtain ⟨total, htotal⟩ : ∃ total, total =
        (sw.w.msg (sendFirst sw.w)).len + sendFit sw.w data.length := ⟨_, rfl⟩
    obtain ⟨size, hsize⟩ : ∃ size, size = u16 ((sendHeld sw.w + sendFit sw.w data.length +
        sw.w.msgLen - 1) / sw.w.msgLen) := ⟨_, rfl⟩
    have htotal' : total = (msg (sendFirst sw.w)).len +
        sendFit (sw.w.store msg buf) data.length := by rw [htotal, hfit, hlen]
    have hsize' : size = u16 ((sendHeld (sw.w.store msg buf) +
        sendFit (sw.w.store msg buf) data.length + sw.w.msgLen - 1) / sw.w.msgLen) := by
      rw [hsize, hheld, hfit]
    have hright := @sendWndSend_steps { sw with w := sw.w.store msg buf, rtx := rtx } data hdata tiny
      total size htotal' hsize'
    rw [hright, sendWndSend_steps sw hdata tiny htotal hsize]
    dsimp only
    rw [hfit, hcopied]
    have hcap : (sendWndFill { sw with w := { sw.w with buf := sendCopied sw.w sw.w.buf data } }
        (sw.w.seq + subSat sw.w.size 1) (total / sw.w.msgLen)).w.cap = sw.w.cap := by
      rw [(sendWndFill_spec _ _ _).2.2]
    refine ⟨rfl, sendFinish_twin (sendWndFill_twin ?_ _ _) ?_ _ _ _ _⟩
    · exact ⟨msg, _, rtx, rfl, ⟨hw.cap_pos, hw.msg, sendCopied_agree hw.buf data⟩, hrtx⟩
    · rw [hcap]
      exact Nat.mod_lt _ hw.cap_pos

/-! ## Acknowledgements, flush and timers -/

theorem sendWndRetire_twin {w : Wnd} {msg₀ : Nat → Msg} {buf : Buf} (hw : WndAgree s w msg₀ buf) :
    ∀ (n i : Nat) {msg msg' : Nat → Msg}, EqBelow w.cap msg msg' →
      (sendWndRetire w n i msg).2 = (sendWndRetire (w.store msg₀ buf) n i msg').2 ∧
        EqBelow w.cap (sendWndRetire w n i msg).1
          (sendWndRetire (w.store msg₀ buf) n i msg').1 := by
  intro n
  induction n with
  | zero => exact fun _ _ _ h => ⟨rfl, h⟩
  | succ n ih =>
    intro i msg msg' h
    have hslot := h.mod hw.cap_pos (w.seq + i)
    unfold sendWndRetire
    dsimp only [Wnd.store]
    rw [← hslot]
    split
    · exact ⟨rfl, h⟩
    · exact ih (i + 1) (h.update _ _)

theorem sendWndAck_twin (h : SendTwin s sw sw') (seq vec : Nat) :
    SendTwin s (sendWndAck sw seq vec) (sendWndAck sw' seq vec) := by
  obtain ⟨msg, buf, rtx, rfl, hw, hrtx⟩ := h
  by_cases hin : ackInWnd sw.w seq
  · have hin' : ackInWnd (sw.w.store msg buf) seq := hin
    have hslot := hw.at_slot seq
    have hnoted : EqBelow sw.w.cap
        (Function.update sw.w.msg (seq % sw.w.cap) { sw.w.msg (seq % sw.w.cap) with curAckVec := vec })
        (Function.update msg (seq % sw.w.cap) { msg (seq % sw.w.cap) with curAckVec := vec }) := by
      rw [hslot]
      exact hw.msg.update _ _
    obtain ⟨hstop, hleft⟩ := sendWndRetire_twin hw sw.w.size 0 hnoted
    have hstarted : EqBelow sw.w.cap
        (if vec ≠ (sw.w.msg (seq % sw.w.cap)).fullAckVec then
          Function.update sw.rtx (seq % sw.w.cap) 0 else sw.rtx)
        (if vec ≠ (msg (seq % sw.w.cap)).fullAckVec then
          Function.update rtx (seq % sw.w.cap) 0 else rtx) := by
      rw [hslot]
      split
      · exact hrtx.update _ _
      · exact hrtx
    unfold sendWndAck
    rw [if_pos hin, if_pos hin']
    dsimp only [Wnd.store] at hstop hleft ⊢
    rw [← hstop]
    exact ⟨_, _, _, rfl, ⟨hw.cap_pos, hleft, hw.buf⟩, hstarted⟩
  · have hin' : ¬ ackInWnd (sw.w.store msg buf) seq := hin
    unfold sendWndAck
    rw [if_neg hin, if_neg hin']
    exact ⟨msg, buf, rtx, rfl, hw, hrtx⟩

theorem sendWndFlush_twin (h : SendTwin s sw sw') :
    SendTwin s (sendWndFlush sw) (sendWndFlush sw') := by
  obtain ⟨msg, buf, rtx, rfl, hw, hrtx⟩ := h
  have hslot := hw.at_slot (sw.w.seq + sw.w.size - 1)
  unfold sendWndFlush
  dsimp only [Wnd.store]
  rw [hslot]
  by_cases hsize : sw.w.size = 0
  · rw [if_pos hsize, if_pos hsize]
    exact ⟨msg, buf, rtx, rfl, hw, hrtx⟩
  · rw [if_neg hsize, if_neg hsize]
    by_cases hlen : (sw.w.msg ((sw.w.seq + sw.w.size - 1) % sw.w.cap)).len ≠ 0
    · rw [if_pos hlen, if_pos hlen]
      exact ⟨_, _, _, rfl, ⟨hw.cap_pos, hw.msg.update _ _, hw.buf⟩, hrtx.update _ _⟩
    · rw [if_neg hlen, if_neg hlen]
      exact ⟨msg, buf, rtx, rfl, hw, hrtx⟩

theorem sendWndStep_twin (h : SendTwin s sw sw') (dt : Nat) :
    SendTwin s (sendWndStep sw dt) (sendWndStep sw' dt) := by
  obtain ⟨msg, buf, rtx, rfl, hw, hrtx⟩ := h
  have hstep : ∀ (f g : Nat → Nat) (i : Nat), EqBelow sw.w.cap f g →
      EqBelow sw.w.cap
        (Function.update f ((sw.w.seq + i) % sw.w.cap) (subSat (f ((sw.w.seq + i) % sw.w.cap)) dt))
        (Function.update g ((sw.w.seq + i) % sw.w.cap)
          (subSat (g ((sw.w.seq + i) % sw.w.cap)) dt)) := by
    intro f g i hfg
    rw [← hfg.mod hw.cap_pos]
    exact hfg.update _ _
  exact ⟨msg, buf, _, rfl, hw, foldl_keeps hstep _ hrtx⟩

theorem sendPollTimers_twin (h : SendTwin s sw sw') (rh : FrameHdr) (dt : Nat) :
    SendTwin s (sendPollTimers sw rh dt) (sendPollTimers sw' rh dt) := by
  have hacked : SendTwin s (if rh.ack then sendWndAck sw rh.ackNum rh.curAckVec else sw)
      (if rh.ack then sendWndAck sw' rh.ackNum rh.curAckVec else sw') := by
    split
    · exact sendWndAck_twin h _ _
    · exact h
  have hflush : ∀ {x x' : SendWnd}, SendTwin s x x' →
      SendTwin s
        (if x.tinyOn ∧ x.tiny = 0 then { sendWndFlush x with tinyOn := false } else x)
        (if x'.tinyOn ∧ x'.tiny = 0 then { sendWndFlush x' with tinyOn := false } else x') := by
    intro x x' hx
    have hclear := (sendWndFlush_twin hx).set_tinyOn false
    have htiny : x'.tiny = x.tiny ∧ x'.tinyOn = x.tinyOn := by
      obtain ⟨msg, buf, rtx, rfl, -⟩ := hx
      exact ⟨rfl, rfl⟩
    rw [htiny.1, htiny.2]
    split
    · exact hclear
    · exact hx
  exact hflush (sendWndStep_twin hacked dt)

/-! ## The send pointer -/

theorem sendWndPtrSearch_twin (h : SendTwin s sw sw') (sp : SendWndPtr) :
    sendWndPtrSearch sp sw' = sendWndPtrSearch sp sw := by
  obtain ⟨msg, buf, rtx, rfl, hw, hrtx⟩ := h
  have hselects : ∀ i, ptrSelects sp { sw with w := sw.w.store msg buf, rtx := rtx } i ↔
      ptrSelects sp sw i := by
    intro i
    unfold ptrSelects
    dsimp only [Wnd.store]
    rw [hw.at_slot, ← hrtx.mod hw.cap_pos]
  unfold sendWndPtrSearch
  simp only [hselects, hw.at_slot]

theorem sendWndPtrNext_twin (h : SendTwin s sw sw') (sp : SendWndPtr) :
    sendWndPtrNext sp sw' = sendWndPtrNext sp sw := by
  unfold sendWndPtrNext
  dsimp only
  rw [sendWndPtrSearch_twin h, sendWndPtrSearch_twin h]
  obtain ⟨msg, buf, rtx, rfl, hw, hrtx⟩ := h
  dsimp only [Wnd.store]
  simp only [hw.at_slot]

theorem sendPoll_twin (h : SendTwin s sw sw') (sp : SendWndPtr) (sh : Option FrameHdr)
    (rh : FrameHdr) (dt rtx : Nat) :
    SendTwin s (sendPoll sw sp sh rh dt rtx).1 (sendPoll sw' sp sh rh dt rtx).1 ∧
      (sendPoll sw sp sh rh dt rtx).2 = (sendPoll sw' sp sh rh dt rtx).2 := by
  have htimers := sendPollTimers_twin h rh dt
  have hnext := sendWndPtrNext_twin htimers sp
  have hcap : (sendPollTimers sw' rh dt).w.cap = (sendPollTimers sw rh dt).w.cap := by
    obtain ⟨_, _, _, heq, -⟩ := htimers
    rw [heq]
  have hhdr : ∀ p sh, sendPollHdr (sendPollTimers sw' rh dt) p sh =
      sendPollHdr (sendPollTimers sw rh dt) p sh := by
    obtain ⟨msg, buf, rtx', heq, hw, -⟩ := htimers
    intro p sh
    rw [heq]
    unfold sendPollHdr
    dsimp only [Wnd.store]
    rw [hw.at_slot]
  refine ⟨?_, Prod.ext ?_ ?_⟩
  · rw [sendPoll_sendWnd, sendPoll_sendWnd, hnext, hcap]
    split
    · exact htimers.set_rtx _ _
    · exact htimers
  · rw [sendPoll_sendWndPtr, sendPoll_sendWndPtr, hnext]
  · cases sh with
    | none => rfl
    | some sh => rw [sendPoll_sh, sendPoll_sh, hnext, hhdr]

/-- The message timers run alike. -/
theorem SendTwin.timer (h : SendTwin s sw sw') (i : Nat) :
    sw'.rtx ((sw'.w.seq + i) % sw'.w.cap) = sw.rtx ((sw.w.seq + i) % sw.w.cap) := by
  obtain ⟨msg, buf, rtx, rfl, hw, hrtx⟩ := h
  exact (hrtx.mod hw.cap_pos _).symm

end

end NanoArq
