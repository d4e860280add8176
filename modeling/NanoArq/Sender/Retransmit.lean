import NanoArq.Sender.AckExact

/-!
# Retransmission timers

When the send pointer leaves a message, `arq__send_poll` starts its retransmission timer. Until the
timer runs out, `arq__send_wnd_ptr_next` does not select the message.

`arq__send_wnd_send` clears the timer of the last message of the window if that message has full
length, even when the window is full and no byte is taken, and `arq__send_wnd_flush` clears it in any
case. `TimerKept` excludes such calls while the timer runs.

* `MsgWaits`: what a message that waits for its timeout looks like, kept by every operation.
* `no_early_retransmission`: in a run of `TimerKept` calls no message is transmitted again before
  its timeout, unless an ACK for it arrives.
-/

namespace NanoArq

open Lib

/-! ## Sending -/

/-- The slot of the last message of the window. -/
def lastSlot (w : Wnd) : Nat := (w.seq + w.size - 1) % w.cap

/-- The end of `arq__send_wnd_send`: the last message gets its length and the tinygram timer. -/
def sendTail (sw : SendWnd) (tiny origSize idx rem size : Nat) : SendWnd :=
  let w := sendLast sw.w idx rem size
  if decide (rem > 0) ∧ size > origSize then
    { w := w, rtx := Function.update sw.rtx idx tiny, tiny := tiny, tinyOn := decide (rem > 0) }
  else { sw with w := w, tinyOn := decide (rem > 0) }

/-- What `arq__send_wnd_send` makes of a window: it appends to message `t` first, completes `full`
messages, and leaves `rem` bytes for one more. -/
structure SendParts (sw sw' : SendWnd) (t full rem : Nat) : Prop where
  first : t = sw.w.size - 1
  grows : sw.w.size ≠ 0 → 0 < full ∨ rem ≠ 0
  full_pos : sw.w.size ≠ 0 → (sw.w.msg ((sw.w.seq + t) % sw.w.cap)).len = sw.w.msgLen → 0 < full
  rem_lt : rem < sw.w.msgLen
  size : sw'.w.size = t + full + if rem = 0 then 0 else 1
  room : sw'.w.size ≤ sw.w.cap
  rest : sw'.w = { sw.w with buf := sw'.w.buf, msg := sw'.w.msg, size := sw'.w.size }
  msg : ∀ i, i < sw.w.cap → sw'.w.msg ((sw.w.seq + i) % sw.w.cap) =
    if t ≤ i ∧ i < t + full then
      { sw.w.msg ((sw.w.seq + i) % sw.w.cap) with len := sw.w.msgLen }
    else if i = t + full ∧ rem ≠ 0 then { sw.w.msg ((sw.w.seq + i) % sw.w.cap) with len := rem }
    else sw.w.msg ((sw.w.seq + i) % sw.w.cap)
  rtx : ∀ i, i < t → sw'.rtx ((sw.w.seq + i) % sw.w.cap) = sw.rtx ((sw.w.seq + i) % sw.w.cap)
  tinyOn : sw'.tinyOn = decide (rem > 0)

/-- What `arq__send_wnd_send` leaves of the messages that were in the window: only the last one and
its timer change, and its length not if it is full. -/
structure SendKeeps (sw sw' : SendWnd) : Prop where
  rest : sw'.w = { sw.w with buf := sw'.w.buf, msg := sw'.w.msg, size := sw'.w.size }
  grows : sw.w.size ≤ sw'.w.size
  kept : ∀ i, i + 1 < sw.w.size →
    sw'.w.msg ((sw.w.seq + i) % sw.w.cap) = sw.w.msg ((sw.w.seq + i) % sw.w.cap) ∧
      sw'.rtx ((sw.w.seq + i) % sw.w.cap) = sw.rtx ((sw.w.seq + i) % sw.w.cap)
  last : sw.w.size ≠ 0 → (sw.w.msg (lastSlot sw.w)).len = sw.w.msgLen →
    sw'.w.msg (lastSlot sw.w) = sw.w.msg (lastSlot sw.w)
  last_pos : sw'.w.size ≠ 0 → 0 < (sw'.w.msg (lastSlot sw'.w)).len
  tinyOn : sw'.tinyOn = true → sw'.w.size ≠ 0 → (sw'.w.msg (lastSlot sw'.w)).len < sw'.w.msgLen

section

variable {cap msgLen segLen : Nat} {sw : SendWnd}

theorem sendWndSend_tail {data : List UInt8} (hdata : data.length ≠ 0) (tiny : Nat)
    {taken held size L : Nat} (hL : L = sw.w.msgLen)
    (htaken : taken = min data.length (sub32 (sw.w.cap * L) (sendHeld sw.w)))
    (hheld : held = (sw.w.msg (sendFirst sw.w)).len + taken)
    (hsize : size = u16 ((sendHeld sw.w + taken + L - 1) / L)) :
    ∃ buf, (sendWndSend sw data tiny).1 =
      sendTail (sendWndFill { sw with w := { sw.w with buf := buf } }
        (sw.w.seq + subSat sw.w.size 1) (held / L)) tiny sw.w.size
        (sub32 (sw.w.seq + size) 1 % sw.w.cap) (held - held / L * L) size := by
  subst hsize hheld htaken hL
  rw [sendWndSend, if_neg hdata]
  dsimp only
  split
  · rename_i h
    exact ⟨_, (if_pos h).symm⟩
  · rename_i h
    exact ⟨_, (if_neg h).symm⟩

theorem sendTail_rtx (sw : SendWnd) (tiny origSize idx rem size : Nat) {j : Nat}
    (hj : rem ≠ 0 → j ≠ idx) : (sendTail sw tiny origSize idx rem size).rtx j = sw.rtx j := by
  unfold sendTail
  dsimp only
  split
  · rename_i h
    refine Function.update_of_ne (hj ?_) ..
    have hpos := of_decide_eq_true h.1
    omega
  · rfl

theorem sendTail_w (sw : SendWnd) (tiny origSize idx rem size : Nat) :
    (sendTail sw tiny origSize idx rem size).w = sendLast sw.w idx rem size ∧
      (sendTail sw tiny origSize idx rem size).tinyOn = decide (rem > 0) := by
  unfold sendTail
  dsimp only
  split <;> exact ⟨rfl, rfl⟩

theorem lastSlot_eq {w : Wnd} (hsize : w.size ≠ 0) :
    lastSlot w = (w.seq + (w.size - 1)) % w.cap := by
  unfold lastSlot
  congr 1
  omega

/-- The sums of `arq__send_wnd_send`: counted from message `t`, the bytes that the window holds and
those it takes are `full` messages and `rem` bytes. -/
structure SendSums (w : Wnd) (t full rem size : Nat) : Prop where
  first : t = w.size - 1
  held : (w.msg ((w.seq + t) % w.cap)).len ≤ full * w.msgLen + rem
  rem_lt : rem < w.msgLen
  count : size = t + full + if rem = 0 then 0 else 1
  room : size ≤ w.cap

theorem sendSums_size {cap L t held size : Nat} (hL : 0 < L) (hcap : cap < 65536)
    (hfits : t * L + held ≤ cap * L) (hsize : size = u16 ((t * L + held + L - 1) / L)) :
    size = t + held / L + (if held % L = 0 then 0 else 1) ∧ size ≤ cap := by
  have hsplit : t * L + held = (t + held / L) * L + held % L := by
    have := Nat.div_add_mod' held L
    rw [Nat.add_mul]
    omega
  have hroom : segCount L (t * L + held) ≤ cap := (segCount_le hL).mpr hfits
  rw [← segCount, u16_of_lt (by omega)] at hsize
  refine ⟨?_, hsize ▸ hroom⟩
  rw [hsize, hsplit]
  exact segCount_mul_add hL _ (Nat.mod_lt _ hL)

theorem SendBounded.sums (h : SendBounded cap msgLen segLen sw) (hcap : 0 < u16 cap)
    (hL : 0 < sw.w.msgLen) {data : List UInt8} (hdata : data.length ≠ 0) (tiny : Nat) :
    ∃ t full rem size buf, SendSums sw.w t full rem size ∧
      (sendWndSend sw data tiny).1 =
        sendTail (sendWndFill { sw with w := { sw.w with buf := buf } } (sw.w.seq + t) full) tiny
          sw.w.size (sub32 (sw.w.seq + size) 1 % sw.w.cap) rem size := by
  have hcapEq : sw.w.cap = u16 cap := h.dims.cap_eq
  have hcapLt : u16 cap < 65536 := Nat.mod_lt _ (by decide)
  have hheldLe := h.held_le (by omega)
  obtain ⟨taken, htaken⟩ : ∃ taken,
    taken = min data.length (sub32 (sw.w.cap * sw.w.msgLen) (sendHeld sw.w)) := ⟨_, rfl⟩
  obtain ⟨held, hheld⟩ : ∃ held, held = (sw.w.msg (sendFirst sw.w)).len + taken := ⟨_, rfl⟩
  obtain ⟨buf, heq⟩ := sendWndSend_tail hdata tiny rfl htaken hheld rfl
  have hsum : sendHeld sw.w + taken = (sw.w.size - 1) * sw.w.msgLen + held := by
    rw [sendHeld, subSat_eq, hheld, Nat.add_assoc]
  rw [sub32_of_le hheldLe] at htaken
  rw [subSat_eq, hsum] at heq
  obtain ⟨hsize, hroom⟩ := sendSums_size hL (show sw.w.cap < 65536 by omega)
    (show (sw.w.size - 1) * sw.w.msgLen + held ≤ sw.w.cap * sw.w.msgLen by omega) rfl
  have hdiv := Nat.div_add_mod' held sw.w.msgLen
  rw [show held - held / sw.w.msgLen * sw.w.msgLen = held % sw.w.msgLen by omega] at heq
  refine ⟨_, _, _, _, buf, ⟨rfl, ?_, Nat.mod_lt _ hL, hsize, hroom⟩, heq⟩
  rw [hdiv, hheld, sendFirst, subSat_eq]
  exact Nat.le_add_right _ _

section

variable {t full rem size i : Nat}

/-- The slots of the completed messages. -/
theorem SendSums.filled (hs : SendSums sw.w t full rem size) (hi : i < sw.w.cap) :
    (∃ i' < full, (sw.w.seq + t + i') % sw.w.cap = (sw.w.seq + i) % sw.w.cap) ↔
      t ≤ i ∧ i < t + full := by
  have hsize := hs.count
  have hroom := hs.room
  constructor
  · rintro ⟨i', hi', hslot⟩
    rw [Nat.add_assoc] at hslot
    have := ring_inj (by split at hsize <;> omega) hi hslot
    omega
  · rintro ⟨hti, hif⟩
    exact ⟨i - t, by omega, by rw [Nat.add_assoc, Nat.add_sub_cancel' hti]⟩

/-- The slot of the message behind the completed ones. -/
theorem SendSums.behind (hs : SendSums sw.w t full rem size) (hi : i < sw.w.cap) (h0 : rem ≠ 0) :
    (sw.w.seq + i) % sw.w.cap = sub32 (sw.w.seq + size) 1 % sw.w.cap ↔ i = t + full := by
  have hsize := hs.count
  have hroom := hs.room
  rw [if_neg h0] at hsize
  rw [sub32_of_le (by omega), show sw.w.seq + size - 1 = sw.w.seq + (t + full) by omega]
  exact ⟨ring_inj hi (by omega), fun h => by rw [h]⟩

theorem SendSums.msg (hs : SendSums sw.w t full rem size) (buf : Nat → UInt8)
    (hL : sw.w.msgLen < 65536) (hi : i < sw.w.cap) :
    (sendLast (sendWndFill { sw with w := { sw.w with buf := buf } } (sw.w.seq + t) full).w
      (sub32 (sw.w.seq + size) 1 % sw.w.cap) rem size).msg ((sw.w.seq + i) % sw.w.cap) =
    if t ≤ i ∧ i < t + full then
      { sw.w.msg ((sw.w.seq + i) % sw.w.cap) with len := sw.w.msgLen }
    else if i = t + full ∧ rem ≠ 0 then { sw.w.msg ((sw.w.seq + i) % sw.w.cap) with len := rem }
    else sw.w.msg ((sw.w.seq + i) % sw.w.cap) := by
  obtain ⟨hmsg, -⟩ := sendWndFill_spec { sw with w := { sw.w with buf := buf } }
    (sw.w.seq + t) full
  have hrem := hs.rem_lt
  rw [sendLast]
  dsimp only
  by_cases h0 : rem ≠ 0
  · rw [if_pos h0]
    by_cases hil : i = t + full
    · rw [(hs.behind hi h0).mpr hil, Function.update_self, ← (hs.behind hi h0).mpr hil, hmsg,
        if_neg (by rw [hs.filled hi]; omega), if_neg (by omega), if_pos ⟨hil, h0⟩,
        u16_of_lt (by omega)]
    · rw [Function.update_of_ne (mt (hs.behind hi h0).mp hil), hmsg]
      simp only [hs.filled hi, hil, false_and, if_false]
  · rw [if_neg h0, hmsg]
    simp only [hs.filled hi, h0, and_false, if_false]

theorem SendSums.rtx (hs : SendSums sw.w t full rem size) (buf : Nat → UInt8) (tiny : Nat)
    (hi : i < t) :
    (sendTail (sendWndFill { sw with w := { sw.w with buf := buf } } (sw.w.seq + t) full) tiny
      sw.w.size (sub32 (sw.w.seq + size) 1 % sw.w.cap) rem size).rtx
      ((sw.w.seq + i) % sw.w.cap) = sw.rtx ((sw.w.seq + i) % sw.w.cap) := by
  obtain ⟨-, hrtx, -⟩ := sendWndFill_spec { sw with w := { sw.w with buf := buf } }
    (sw.w.seq + t) full
  have hsize := hs.count
  have hroom := hs.room
  have hicap : i < sw.w.cap := by
    have := hs.first
    split at hsize <;> omega
  rw [sendTail_rtx, hrtx, if_neg]
  · rw [hs.filled hicap]
    omega
  · intro h0 hslot
    have := (hs.behind hicap h0).mp hslot
    omega

end

theorem SendBounded.parts (h : SendBounded cap msgLen segLen sw) (hcap : 0 < u16 cap)
    (hL : 0 < sw.w.msgLen) (hlast : sw.w.size ≠ 0 → 0 < (sw.w.msg (lastSlot sw.w)).len)
    {data : List UInt8} (hdata : data.length ≠ 0) (tiny : Nat) :
    ∃ t full rem, SendParts sw (sendWndSend sw data tiny).1 t full rem := by
  have hLlt : sw.w.msgLen < 65536 := by
    rw [h.dims.msgLen_eq]
    exact Nat.mod_lt _ (by decide)
  obtain ⟨t, full, rem, size, buf, hs, heq⟩ := h.sums hcap hL hdata tiny
  obtain ⟨-, -, hrest⟩ := sendWndFill_spec { sw with w := { sw.w with buf := buf } }
    (sw.w.seq + t) full
  obtain ⟨hw, htiny⟩ := sendTail_w
    (sendWndFill { sw with w := { sw.w with buf := buf } } (sw.w.seq + t) full) tiny sw.w.size
    (sub32 (sw.w.seq + size) 1 % sw.w.cap) rem size
  rw [← heq] at hw htiny
  have hheld := hs.held
  refine ⟨t, full, rem, hs.first, ?_, ?_, hs.rem_lt, ?_, ?_, ?_, ?_, ?_, htiny⟩
  · intro h0
    have := hlast h0
    rw [lastSlot_eq h0, ← hs.first] at this
    by_contra hnone
    obtain ⟨hfull, hzero⟩ := not_or.mp hnone
    rw [show full = 0 by omega] at hheld
    omega
  · intro _ hfullLen
    by_contra hnone
    have hrem := hs.rem_lt
    rw [show full = 0 by omega] at hheld
    omega
  · rw [hw]
    exact hs.count
  · rw [hw]
    exact hs.room
  · rw [hw, sendLast, hrest]
  · intro i hi
    rw [hw]
    exact hs.msg buf hLlt hi
  · intro i hi
    rw [heq]
    exact hs.rtx buf tiny hi

theorem SendParts.keeps {sw' : SendWnd} {t full rem : Nat} (hs : SendParts sw sw' t full rem) :
    SendKeeps sw sw' := by
  obtain ⟨hfirst, hgrows, hfull, hrem, hsize, hroom, hrest, hmsg, hrtx, htiny⟩ := hs
  have hlast : sw'.w.size ≠ 0 → (sw'.w.msg (lastSlot sw'.w)).len =
      if rem = 0 then sw.w.msgLen else rem := by
    intro h0
    rw [lastSlot_eq h0, hrest]
    dsimp only
    rw [hmsg _ (by omega)]
    split at hsize
    · rename_i hzero
      rw [if_pos (by omega), if_pos hzero]
    · rename_i hzero
      rw [if_neg (by omega), if_pos (by omega), if_neg hzero]
  refine ⟨hrest, ?_, ?_, ?_, ?_, ?_⟩
  · by_cases h0 : sw.w.size = 0
    · omega
    · have := hgrows h0
      split at hsize <;> omega
  · intro i hi
    have hicap : i < sw.w.cap := by split at hsize <;> omega
    rw [hmsg i hicap, if_neg (by omega), if_neg (by omega)]
    exact ⟨rfl, hrtx i (by omega)⟩
  · intro h0 hlen
    rw [lastSlot_eq h0, ← hfirst] at hlen ⊢
    have hpos := hfull h0 hlen
    rw [hmsg t (by split at hsize <;> omega), if_pos (by omega), ← hlen]
  · intro h0
    rw [hlast h0]
    split <;> omega
  · intro hon h0
    rw [htiny] at hon
    have hpos := of_decide_eq_true hon
    rw [hlast h0, if_neg (by omega), hrest]
    exact hrem

theorem SendBounded.keeps (h : SendBounded cap msgLen segLen sw) (hcap : 0 < u16 cap)
    (hlast : sw.w.size ≠ 0 → 0 < (sw.w.msg (lastSlot sw.w)).len)
    (htiny : sw.tinyOn = true → sw.w.size ≠ 0 → (sw.w.msg (lastSlot sw.w)).len < sw.w.msgLen)
    (data : List UInt8) (tiny : Nat) : SendKeeps sw (sendWndSend sw data tiny).1 := by
  by_cases hdata : data.length = 0
  · rw [sendWndSend_nil sw hdata]
    exact ⟨rfl, le_rfl, fun _ _ => ⟨rfl, rfl⟩, fun _ _ => rfl, hlast, htiny⟩
  by_cases hL : 0 < sw.w.msgLen
  · obtain ⟨t, full, rem, hs⟩ := h.parts hcap hL hlast hdata tiny
    exact hs.keeps
  · -- Messages of zero bytes: the window stays empty.
    have hzero : sw.w.msgLen = 0 := Nat.eq_zero_of_not_pos hL
    have hempty : sw.w.size = 0 := by
      by_contra h0
      have hcapPos : 0 < sw.w.cap := h.dims.cap_eq ▸ hcap
      have hle := h.len_le (lastSlot sw.w) (Nat.mod_lt _ hcapPos)
      have := hlast h0
      omega
    obtain ⟨buf, idx, hw⟩ := sendWndSend_wnd sw hdata tiny rfl rfl rfl
    obtain ⟨hrest, -⟩ := sendLast_spec sw buf (sw.w.seq + subSat sw.w.size 1)
      (((sw.w.msg (sendFirst sw.w)).len +
        min data.length (sub32 (sw.w.cap * sw.w.msgLen) (sendHeld sw.w))) / sw.w.msgLen) idx _ _
    rw [← hw] at hrest
    have hsize : (sendWndSend sw data tiny).1.w.size = 0 := by
      rw [hrest, hzero, Nat.div_zero]
      rfl
    refine ⟨?_, ?_, ?_, ?_, fun h0 => absurd hsize h0, fun _ h0 => absurd hsize h0⟩
    · rw [hrest]
    · omega
    · intro i hi
      omega
    · intro h0
      exact absurd hempty h0

end

/-! ## The last message -/

/-- The last message of the window holds bytes, and fewer than a full one while the tinygram timer
runs. -/
structure SendEnds (cap msgLen segLen : Nat) (sw : SendWnd) : Prop where
  bounded : SendBounded cap msgLen segLen sw
  last_pos : sw.w.size ≠ 0 → 0 < (sw.w.msg (lastSlot sw.w)).len
  tinyOn : sw.tinyOn = true → sw.w.size ≠ 0 → (sw.w.msg (lastSlot sw.w)).len < sw.w.msgLen

section

variable {cap msgLen segLen : Nat} {sw sw' : SendWnd}

theorem SendEnds.of_len (h : SendEnds cap msgLen segLen sw)
    (hbounded : SendBounded cap msgLen segLen sw') (hsize : sw'.w.size ≠ 0 → sw.w.size ≠ 0)
    (hlen : sw'.w.size ≠ 0 →
      (sw'.w.msg (lastSlot sw'.w)).len = (sw.w.msg (lastSlot sw.w)).len)
    (hon : sw'.tinyOn = true → sw.tinyOn = true) : SendEnds cap msgLen segLen sw' := by
  refine ⟨hbounded, ?_, ?_⟩
  · intro h0
    rw [hlen h0]
    exact h.last_pos (hsize h0)
  · intro ht h0
    rw [hlen h0, hbounded.dims.msgLen_eq, ← h.bounded.dims.msgLen_eq]
    exact h.tinyOn (hon ht) (hsize h0)

/-- An ACK removes messages from the front, so that the last one stays where it is. -/
theorem AckHandled.last {seq vec n : Nat} (hn : AckHandled sw seq vec sw' n)
    (hsize : sw.w.size ≤ sw.w.cap) (hdvd : sw.w.cap ∣ seqSpace) (h0 : sw'.w.size ≠ 0) :
    lastSlot sw'.w = lastSlot sw.w ∧
      (sw'.w.msg (lastSlot sw'.w)).len = (sw.w.msg (lastSlot sw.w)).len := by
  have hsize' : sw'.w.size = sw.w.size - n := by rw [hn.rest]
  have hslot : lastSlot sw'.w = lastSlot sw.w := by
    rw [lastSlot_eq h0, lastSlot_eq (by omega), hsize', hn.rest]
    dsimp only
    rw [ring_mod hdvd]
    congr 1
    omega
  refine ⟨hslot, ?_⟩
  rw [hslot, lastSlot_eq (by omega), hn.msg _ (by omega), if_neg (by omega), ackedMsgs_len]

theorem sendWndFlush_tinyOn (sw : SendWnd) : (sendWndFlush sw).tinyOn = sw.tinyOn := by
  unfold sendWndFlush
  split
  · rfl
  · dsimp only
    split <;> rfl

theorem SendEnds.step (h : SendEnds cap msgLen segLen sw) (hcap : 0 < u16 cap)
    (hdvd : u16 cap ∣ seqSpace) (op : SendOp) : SendEnds cap msgLen segLen (sendOpStep sw op) := by
  have hbounded := h.bounded.step hcap op
  cases op with
  | send data tiny =>
    have hkeeps := h.bounded.keeps hcap h.last_pos h.tinyOn data tiny
    exact ⟨hbounded, hkeeps.last_pos, hkeeps.tinyOn⟩
  | ack seq vec =>
    rw [sendOpStep] at hbounded ⊢
    by_cases hin : ackInWnd sw.w seq
    · have hcapEq := h.bounded.dims.cap_eq
      have hcapLt : u16 cap < 65536 := Nat.mod_lt _ (by decide)
      obtain ⟨n, hn⟩ := @ack_handled sw seq vec h.bounded.size_le (by omega) hin
      refine h.of_len hbounded ?_ ?_ ?_
      · rw [hn.rest]
        dsimp only
        omega
      · intro h0
        exact (hn.last h.bounded.size_le (by rwa [hcapEq]) h0).2
      · rw [hn.rest]
        exact id
    · rw [sendWndAck, if_neg hin]
      exact h
  | flush =>
    rw [sendOpStep] at hbounded ⊢
    refine h.of_len hbounded ?_ ?_ ?_
    · rw [sendWndFlush_w]
      exact id
    · intro _
      rw [lastSlot, sendWndFlush_w]
      dsimp only
      rw [← lastSlot, sendWndFlush_msg]
      split <;> rfl
    · rw [sendWndFlush_tinyOn]
      exact id
  | step | sent =>
    exact h.of_len hbounded id (fun _ => rfl) id
  | tinyOff =>
    refine h.of_len hbounded id (fun _ => rfl) ?_
    intro hon
    cases hon

end

/-! ## Messages that wait -/

/-- Not all segments of the message are acknowledged. -/
def Unacked (w : Wnd) (m : Msg) : Prop :=
  m.curAckVec < m.fullAckVec ∨ m.curAckVec < vecOf w.segLen m.len

instance (w : Wnd) (m : Msg) : Decidable (Unacked w m) := inferInstanceAs (Decidable (_ ∨ _))

/-- The message in `slot` is a full one, and its timer, set to `timeout`, has run for at most `e`,
unless it is acknowledged. -/
def MsgWaits (sw : SendWnd) (timeout e slot : Nat) : Prop :=
  (sw.w.msg slot).len = sw.w.msgLen ∧
    (Unacked sw.w (sw.w.msg slot) → timeout ≤ sw.rtx slot + e)

/-- The last message of the window is a full one that waits for its acknowledgement. -/
def LastWaits (sw : SendWnd) : Prop :=
  sw.w.size ≠ 0 ∧ (sw.w.msg (lastSlot sw.w)).len = sw.w.msgLen ∧ sw.rtx (lastSlot sw.w) ≠ 0 ∧
    Unacked sw.w (sw.w.msg (lastSlot sw.w))

instance (sw : SendWnd) : Decidable (LastWaits sw) := inferInstanceAs (Decidable (_ ∧ _))

section

variable {cap msgLen segLen timeout e : Nat} {sw sw' : SendWnd}

/-- A message whose timer has not run out yet is acknowledged if it is the last one and does not
wait. -/
theorem MsgWaits.acked (h : MsgWaits sw timeout e (lastSlot sw.w)) (hsize : sw.w.size ≠ 0)
    (he : e < timeout) (hnot : ¬ LastWaits sw) : ¬ Unacked sw.w (sw.w.msg (lastSlot sw.w)) := by
  intro hun
  refine hnot ⟨hsize, h.1, ?_, hun⟩
  have := h.2 hun
  omega

theorem SendKeeps.waits (hs : SendKeeps sw sw') (hnot : ¬ LastWaits sw) {i : Nat}
    (hi : i < sw.w.size) (he : e < timeout)
    (h : MsgWaits sw timeout e ((sw.w.seq + i) % sw.w.cap)) :
    MsgWaits sw' timeout e ((sw.w.seq + i) % sw.w.cap) := by
  have hsegLen : sw'.w.segLen = sw.w.segLen ∧ sw'.w.msgLen = sw.w.msgLen := by
    rw [hs.rest]
    exact ⟨rfl, rfl⟩
  by_cases hlast : i + 1 < sw.w.size
  · obtain ⟨hmsg, hrtx⟩ := hs.kept i hlast
    unfold MsgWaits Unacked
    rw [hmsg, hrtx, hsegLen.1, hsegLen.2]
    exact h
  · have h0 : sw.w.size ≠ 0 := by omega
    rw [show i = sw.w.size - 1 by omega, ← lastSlot_eq h0] at h ⊢
    have hmsg := hs.last h0 h.1
    have hacked := h.acked h0 he hnot
    unfold MsgWaits Unacked
    rw [hmsg, hsegLen.1, hsegLen.2]
    exact ⟨h.1, fun hun => absurd hun hacked⟩

/-- A flush leaves a message alone that is not the last one, or is acknowledged. -/
theorem MsgWaits.flush {slot : Nat} (h : MsgWaits sw timeout e slot)
    (hlast : slot = lastSlot sw.w → ¬ Unacked sw.w (sw.w.msg slot)) :
    MsgWaits (sendWndFlush sw) timeout e slot := by
  have hmsg := sendWndFlush_msg sw slot
  unfold MsgWaits Unacked
  rw [sendWndFlush_w]
  dsimp only
  by_cases hslot : slot = lastSlot sw.w
  · have hacked := hlast hslot
    unfold Unacked at hacked
    rw [hmsg]
    split
    · refine ⟨h.1, ?_⟩
      rintro (hun | hun)
      · exact absurd (Or.inr hun) hacked
      · exact absurd (Or.inr hun) hacked
    · exact ⟨h.1, fun hun => absurd hun hacked⟩
  · rw [hmsg, if_neg (fun hc => hslot hc.2.2), sendWndFlush_rtx_of_ne sw hslot]
    exact h

theorem MsgWaits.step (hsize : sw.w.size ≤ sw.w.cap) {i : Nat} (hi : i < sw.w.size)
    (h : MsgWaits sw timeout e ((sw.w.seq + i) % sw.w.cap)) (dt : Nat) :
    MsgWaits (sendWndStep sw dt) timeout (e + dt) ((sw.w.seq + i) % sw.w.cap) := by
  refine ⟨h.1, ?_⟩
  intro hun
  have := h.2 hun
  rw [sendWndStep_rtx_eq hsize, if_pos ⟨i, hi, rfl⟩]
  omega

/-- A message that an ACK does not name is left alone while it stays in the window. -/
theorem AckHandled.waits {seq vec n : Nat} (hn : AckHandled sw seq vec sw' n) {i : Nat}
    (hi : i < sw.w.cap) (hni : n ≤ i) (hslot : (sw.w.seq + i) % sw.w.cap ≠ seq % sw.w.cap)
    (h : MsgWaits sw timeout e ((sw.w.seq + i) % sw.w.cap)) :
    MsgWaits sw' timeout e ((sw.w.seq + i) % sw.w.cap) := by
  have hsegLen : sw'.w.segLen = sw.w.segLen ∧ sw'.w.msgLen = sw.w.msgLen := by
    rw [hn.rest]
    exact ⟨rfl, rfl⟩
  have hrtx : sw'.rtx ((sw.w.seq + i) % sw.w.cap) = sw.rtx ((sw.w.seq + i) % sw.w.cap) := by
    rw [hn.rtx]
    split
    · exact Function.update_of_ne hslot ..
    · rfl
  unfold MsgWaits Unacked
  rw [hn.msg i hi, if_neg (by omega), ackedMsgs, Function.update_of_ne hslot, hrtx, hsegLen.1,
    hsegLen.2]
  exact h

end

/-! ## A poll -/

section

variable {cap msgLen segLen timeout e : Nat} {arq : Arq}

/-- The window `w'` is `w` without its first `n` messages. -/
structure WndAdvanced (w w' : Wnd) (n : Nat) : Prop where
  le_size : n ≤ w.size
  rest : w' = { w with msg := w'.msg, size := w.size - n, seq := (w.seq + n) % seqSpace }

theorem WndAdvanced.msgs {w w' w'' : Wnd} {n : Nat} (h : WndAdvanced w w' n)
    (hw : w'' = { w' with msg := w''.msg }) : WndAdvanced w w'' n := by
  refine ⟨h.le_size, ?_⟩
  rw [hw, h.rest]

theorem pollAcked_waits (h : SendEnds cap msgLen segLen arq.sendWnd) (hcap : 0 < u16 cap)
    (hdvd : u16 cap ∣ seqSpace) (timeout : Nat) :
    SendEnds cap msgLen segLen (pollAcked arq) ∧
      ∃ n, WndAdvanced arq.sendWnd.w (pollAcked arq).w n ∧
        ∀ i e, n ≤ i → i < arq.sendWnd.w.size →
          ¬ (pollAcks arq ∧ i = (pollRh arq).ackNum - arq.sendWnd.w.seq) →
          MsgWaits arq.sendWnd timeout e ((arq.sendWnd.w.seq + i) % arq.sendWnd.w.cap) →
          MsgWaits (pollAcked arq) timeout e ((arq.sendWnd.w.seq + i) % arq.sendWnd.w.cap) := by
  have hsizeLe := h.bounded.size_le
  by_cases hin : pollAcks arq
  · have hcapEq := h.bounded.dims.cap_eq
    have hcapLt : u16 cap < 65536 := Nat.mod_lt _ (by decide)
    have heq : pollAcked arq =
        sendWndAck arq.sendWnd (pollRh arq).ackNum (pollRh arq).curAckVec := if_pos hin.1
    have hends := h.step hcap hdvd (.ack (pollRh arq).ackNum (pollRh arq).curAckVec)
    obtain ⟨n, hn⟩ := @ack_handled arq.sendWnd (pollRh arq).ackNum (pollRh arq).curAckVec hsizeLe
      (by omega) hin.2
    rw [heq]
    refine ⟨hends, n, ⟨hn.le_size, by rw [hn.rest]⟩, ?_⟩
    intro i e hni hi hother hwaits
    refine hn.waits (by omega) hni ?_ hwaits
    have hwnd := hin.2
    unfold ackInWnd at hwnd
    intro hslot
    rw [show (pollRh arq).ackNum = arq.sendWnd.w.seq + ((pollRh arq).ackNum - arq.sendWnd.w.seq) by
      omega] at hslot
    exact hother ⟨hin, ring_inj (by omega) (by omega) hslot⟩
  · rw [pollAcked_of_not hin]
    refine ⟨h, 0, ⟨Nat.zero_le _, ?_⟩, fun _ _ _ _ _ hwaits => hwaits⟩
    rw [Nat.add_zero, Nat.mod_eq_of_lt h.bounded.seq_lt]
    rfl

/-- A message for which no ACK arrives goes on waiting while it stays in the window. -/
theorem pollTimers_waits (h : SendEnds cap msgLen segLen arq.sendWnd) (hcap : 0 < u16 cap)
    (hdvd : u16 cap ∣ seqSpace) (timeout dt : Nat) :
    ∃ n, WndAdvanced arq.sendWnd.w (pollTimers arq dt).w n ∧
      ∀ i e, n ≤ i → i < arq.sendWnd.w.size →
        ¬ (pollAcks arq ∧ i = (pollRh arq).ackNum - arq.sendWnd.w.seq) →
        MsgWaits arq.sendWnd timeout e ((arq.sendWnd.w.seq + i) % arq.sendWnd.w.cap) →
        MsgWaits (pollTimers arq dt) timeout (e + dt)
          ((arq.sendWnd.w.seq + i) % arq.sendWnd.w.cap) := by
  obtain ⟨hends, n, hadv, hacked⟩ := pollAcked_waits h hcap hdvd timeout
  have hstepEnds := hends.step hcap hdvd (.step dt)
  rw [sendOpStep] at hstepEnds
  have hstep : ∀ i e, n ≤ i → i < arq.sendWnd.w.size →
      ¬ (pollAcks arq ∧ i = (pollRh arq).ackNum - arq.sendWnd.w.seq) →
      MsgWaits arq.sendWnd timeout e ((arq.sendWnd.w.seq + i) % arq.sendWnd.w.cap) →
      MsgWaits (sendWndStep (pollAcked arq) dt) timeout (e + dt)
        ((arq.sendWnd.w.seq + i) % arq.sendWnd.w.cap) := by
    intro i e hni hi hother hwaits
    have hslot : ((pollAcked arq).w.seq + (i - n)) % (pollAcked arq).w.cap =
        (arq.sendWnd.w.seq + i) % arq.sendWnd.w.cap := by
      rw [hadv.rest]
      dsimp only
      rw [ring_mod (h.bounded.dims.cap_eq ▸ hdvd)]
      congr 1
      omega
    have hsize : (pollAcked arq).w.size = arq.sendWnd.w.size - n := by rw [hadv.rest]
    have := hacked i e hni hi hother hwaits
    rw [← hslot] at this ⊢
    exact this.step hends.bounded.size_le (by omega) dt
  rw [pollTimers_eq]
  split
  · rename_i htiny
    refine ⟨n, hadv.msgs (sendWndFlush_w _), ?_⟩
    · intro i e hni hi hother hwaits
      have hwait := hstep i e hni hi hother hwaits
      refine hwait.flush ?_
      intro hlast
      have hsize : (sendWndStep (pollAcked arq) dt).w.size ≠ 0 := by
        change (pollAcked arq).w.size ≠ 0
        rw [hadv.rest]
        dsimp only
        omega
      have hlt := hstepEnds.tinyOn htiny.1 hsize
      rw [← hlast, hwait.1] at hlt
      exact absurd hlt (lt_irrefl _)
  · exact ⟨n, hadv, hstep⟩

end

/-- The message under a valid pointer was under it before, or its timer is out and it is not the one
that was. -/
theorem sendWndPtrNext_valid {p : SendWndPtr} {sw : SendWnd}
    (hvalid : (sendWndPtrNext p sw).1.valid = true) :
    (p.valid = true ∧ (sendWndPtrNext p sw).2 = .insideMsg ∧
        (sendWndPtrNext p sw).1.seq = p.seq) ∨
      (sendWndPtrNext p sw).1.seq < seqSpace ∧
        ¬ (p.valid = true ∧ p.seq = (sendWndPtrNext p sw).1.seq) ∧
        sw.rtx ((sendWndPtrNext p sw).1.seq % sw.w.cap) = 0 ∧
        (sw.w.msg ((sendWndPtrNext p sw).1.seq % sw.w.cap)).curAckVec <
          (sw.w.msg ((sendWndPtrNext p sw).1.seq % sw.w.cap)).fullAckVec := by
  have hsearch : ∀ p' : SendWndPtr, (sendWndPtrSearch p' sw).valid = true →
      (sendWndPtrSearch p' sw).seq < seqSpace ∧
        ¬ (p'.valid = true ∧ p'.seq = (sendWndPtrSearch p' sw).seq) ∧
        sw.rtx ((sendWndPtrSearch p' sw).seq % sw.w.cap) = 0 ∧
        (sw.w.msg ((sendWndPtrSearch p' sw).seq % sw.w.cap)).curAckVec <
          (sw.w.msg ((sendWndPtrSearch p' sw).seq % sw.w.cap)).fullAckVec := by
    intro p' hp'
    obtain ⟨i, -, ⟨hother, hrtx, -, hopen⟩, -, hres⟩ | ⟨-, hres⟩ := sendWndPtrSearch_cases p' sw
    · have hlt : (i + sw.w.seq) % seqSpace < seqSpace := Nat.mod_lt _ (by decide)
      have hseq : (sendWndPtrSearch p' sw).seq = (i + sw.w.seq) % seqSpace := by
        rw [hres]
        exact u16_of_lt (Nat.lt_trans hlt (by decide))
      rw [hseq]
      exact ⟨hlt, hother, hrtx, hopen⟩
    · rw [hres] at hp'
      cases hp'
  unfold sendWndPtrNext at hvalid ⊢
  split
  · rename_i hp
    rw [if_pos hp] at hvalid
    dsimp only at hvalid ⊢
    split
    · exact Or.inl ⟨hp, rfl, rfl⟩
    · rename_i hin
      rw [if_neg hin] at hvalid
      exact Or.inr (hsearch _ hvalid)
  · rename_i hp
    rw [if_neg hp] at hvalid
    exact Or.inr (hsearch p hvalid)

/-- The timer of a slot that a poll sets is as good as any. -/
theorem MsgWaits.sent (b : Build) {arq : Arq} {dt e slot : Nat}
    (h : MsgWaits (pollTimers arq dt) arq.cfg.retransmissionTimeout e slot) :
    MsgWaits (pollWork b arq dt).sendWnd arq.cfg.retransmissionTimeout e slot := by
  rw [pollWork_sendWnd]
  split
  · refine ⟨h.1, ?_⟩
    intro hun
    dsimp only
    by_cases hslot : slot = arq.sendWndPtr.seq % (pollTimers arq dt).w.cap
    · rw [hslot, Function.update_self]
      exact Nat.le_add_right _ _
    · rw [Function.update_of_ne hslot]
      exact h.2 hun
  · exact h

/-! ## Runs -/

/-- A call that leaves the timer of the last message alone while it waits for its
acknowledgement. -/
def TimerKept (arq : Arq) : Call → Prop
  | .send data => arq.needPoll = true ∨ data = [] ∨ ¬ LastWaits arq.sendWnd
  | .flush => ¬ LastWaits arq.sendWnd
  | _ => True

instance (arq : Arq) : (c : Call) → Decidable (TimerKept arq c)
  | .send _ => inferInstanceAs (Decidable (_ ∨ _))
  | .flush => inferInstanceAs (Decidable (¬ _))
  | .poll _ | .recv _ | .sendPtrGet | .sendPtrRelease | .recvFill _ | .connect | .reset =>
    inferInstanceAs (Decidable True)

/-- An instance, the number of messages that have left its window, and for each message the time the
polls have run since its timer was set, unless an ACK for it has arrived. -/
structure RtxHist where
  arq : Arq
  base : Nat
  waited : Nat → Option Nat

def RtxHist.start (arq : Arq) : RtxHist := { arq := arq, base := 0, waited := fun _ => none }

/-- The next poll sets the timer of message `k`, a full one whose segments have all been
transmitted; `base` is the number of the window's first message. -/
def StartsTimer (arq : Arq) (dt base k : Nat) : Prop :=
  sendFrameFree arq ∧
    (sendWndPtrNext arq.sendWndPtr (pollTimers arq dt)).2 = .completedMsg ∧
    inWindow (pollTimers arq dt).w arq.sendWndPtr.seq ∧
    k = base + wndIndex (pollTimers arq dt).w arq.sendWndPtr.seq ∧
    ((pollTimers arq dt).w.msg (arq.sendWndPtr.seq % (pollTimers arq dt).w.cap)).len =
      (pollTimers arq dt).w.msgLen

instance (arq : Arq) (dt base k : Nat) : Decidable (StartsTimer arq dt base k) :=
  inferInstanceAs (Decidable (_ ∧ _))

/-- The next poll handles an ACK for message `k`. -/
def AckArrives (h : RtxHist) (k : Nat) : Prop :=
  pollAcks h.arq ∧ k = h.base + ((pollRh h.arq).ackNum - h.arq.sendWnd.w.seq)

instance (h : RtxHist) (k : Nat) : Decidable (AckArrives h k) :=
  inferInstanceAs (Decidable (_ ∧ _))

def rtxHistStep (b : Build) (h : RtxHist) (c : Call) : RtxHist :=
  let arq := perform b h.arq c
  match c with
  | .poll dt =>
    let base := h.base + (h.arq.sendWnd.w.size - arq.sendWnd.w.size)
    { arq := arq
      base := base
      waited := fun k =>
        if StartsTimer h.arq dt base k then some 0
        else if AckArrives h k then none
        else (h.waited k).map (· + dt) }
  | .reset => .start arq
  | _ => { h with arq := arq }

@[simp] theorem rtxHistStep_arq (b : Build) (h : RtxHist) (c : Call) :
    (rtxHistStep b h c).arq = perform b h.arq c := by
  cases c <;> rfl

/-- The messages whose timer is running have waited as long as recorded, and the send pointer is on
none of them. -/
structure RtxSound (timeout : Nat) (h : RtxHist) : Prop where
  seq : h.arq.sendWnd.w.seq = h.base % seqSpace
  ptr : h.arq.sendWndPtr.valid = true → h.arq.sendWndPtr.seq < seqSpace
  lt : ∀ k e, h.waited k = some e → k < h.base + h.arq.sendWnd.w.size
  waits : ∀ k e, h.waited k = some e → e < timeout → h.base ≤ k →
    MsgWaits h.arq.sendWnd timeout e (k % h.arq.sendWnd.w.cap)
  away : ∀ k e, h.waited k = some e → e < timeout → h.base ≤ k →
    ¬ (h.arq.sendWndPtr.valid = true ∧ h.arq.sendWndPtr.seq = k % seqSpace)

section

variable {b : Build} {cap msgLen segLen timeout : Nat} {h : RtxHist}

theorem RtxSound.slot (hs : RtxSound timeout h) (hdvd : h.arq.sendWnd.w.cap ∣ seqSpace) {k : Nat}
    (hk : h.base ≤ k) :
    (h.arq.sendWnd.w.seq + (k - h.base)) % h.arq.sendWnd.w.cap = k % h.arq.sendWnd.w.cap := by
  rw [hs.seq, ring_mod hdvd]
  congr 1
  omega

/-- A change of the window between two polls. -/
theorem RtxSound.window (hs : RtxSound timeout h) {arq : Arq}
    (hseq : arq.sendWnd.w.seq = h.arq.sendWnd.w.seq) (hcap : arq.sendWnd.w.cap = h.arq.sendWnd.w.cap)
    (hgrows : h.arq.sendWnd.w.size ≤ arq.sendWnd.w.size) (hptr : arq.sendWndPtr = h.arq.sendWndPtr)
    (hwaits : ∀ k e, h.base ≤ k → k < h.base + h.arq.sendWnd.w.size → e < timeout →
      MsgWaits h.arq.sendWnd timeout e (k % h.arq.sendWnd.w.cap) →
      MsgWaits arq.sendWnd timeout e (k % h.arq.sendWnd.w.cap)) :
    RtxSound timeout { h with arq := arq } := by
  refine ⟨hseq.trans hs.seq, ?_, ?_, ?_, ?_⟩
  · intro hvalid
    dsimp only at hvalid ⊢
    rw [hptr] at hvalid ⊢
    exact hs.ptr hvalid
  · intro k e hk
    have := hs.lt k e hk
    dsimp only
    omega
  · intro k e hk he hbase
    dsimp only
    rw [hcap]
    exact hwaits k e hbase (hs.lt k e hk) he (hs.waits k e hk he hbase)
  · intro k e hk he hbase
    dsimp only
    rw [hptr]
    exact hs.away k e hk he hbase

theorem wndIndex_mod {w : Wnd} {base seq : Nat} (hbase : w.seq = base % seqSpace)
    (hseq : seq < seqSpace) : (base + wndIndex w seq) % seqSpace = seq := by
  unfold wndIndex
  rw [hbase, Nat.add_mod_mod]
  unfold seqSpace at *
  omega

/-- The number and the slot of the message under the send pointer. -/
theorem startsTimer_msg {arq : Arq} {dt base k : Nat} (hst : StartsTimer arq dt base k)
    (hseq : (pollTimers arq dt).w.seq = base % seqSpace)
    (hdvd : (pollTimers arq dt).w.cap ∣ seqSpace) (hptr : arq.sendWndPtr.seq < seqSpace) :
    k % seqSpace = arq.sendWndPtr.seq ∧
      k % (pollTimers arq dt).w.cap = arq.sendWndPtr.seq % (pollTimers arq dt).w.cap := by
  obtain ⟨-, -, -, rfl, -⟩ := hst
  have hmod := wndIndex_mod hseq hptr
  refine ⟨hmod, ?_⟩
  rw [← Nat.mod_mod_of_dvd (base + _) hdvd, hmod]

/-- What a poll does to a sound history: `n` messages leave the window at its front. A time recorded
behind the poll is that of a timer which the poll starts, or of one that was running. -/
structure RtxPolled (b : Build) (h : RtxHist) (dt n : Nat) : Prop where
  base : (rtxHistStep b h (.poll dt)).base = h.base + n
  size : (pollTimers h.arq dt).w.size + n = h.arq.sendWnd.w.size
  cap : (pollTimers h.arq dt).w.cap = h.arq.sendWnd.w.cap
  seq : (pollTimers h.arq dt).w.seq = (h.base + n) % seqSpace
  recorded : ∀ k e, (rtxHistStep b h (.poll dt)).waited k = some e →
    StartsTimer h.arq dt (h.base + n) k ∨
      ¬ AckArrives h k ∧ ∃ e₀, h.waited k = some e₀ ∧ e = e₀ + dt
  waits : ∀ k e₀, h.waited k = some e₀ → ¬ AckArrives h k →
    e₀ + dt < h.arq.cfg.retransmissionTimeout → h.base + n ≤ k →
    MsgWaits (pollTimers h.arq dt) h.arq.cfg.retransmissionTimeout (e₀ + dt)
      (k % h.arq.sendWnd.w.cap)

theorem rtxHistStep_recorded {dt k e : Nat}
    (hk : (rtxHistStep b h (.poll dt)).waited k = some e) :
    StartsTimer h.arq dt (rtxHistStep b h (.poll dt)).base k ∨
      ¬ AckArrives h k ∧ ∃ e₀, h.waited k = some e₀ ∧ e = e₀ + dt := by
  change (if StartsTimer h.arq dt _ k then some 0
    else if AckArrives h k then none else (h.waited k).map (· + dt)) = some e at hk
  split_ifs at hk with hst hack
  · exact Or.inl hst
  · obtain ⟨e₀, he₀, rfl⟩ := Option.map_eq_some_iff.mp hk
    exact Or.inr ⟨hack, e₀, he₀, rfl⟩

theorem RtxSound.polled (hs : RtxSound h.arq.cfg.retransmissionTimeout h)
    (hends : SendEnds cap msgLen segLen h.arq.sendWnd) (hcap : 0 < u16 cap)
    (hdvd : u16 cap ∣ seqSpace) (dt : Nat) : ∃ n, RtxPolled b h dt n := by
  obtain ⟨n, hadv, hwaits⟩ :=
    pollTimers_waits hends hcap hdvd h.arq.cfg.retransmissionTimeout dt
  have hn := hadv.le_size
  have hsize : (pollTimers h.arq dt).w.size = h.arq.sendWnd.w.size - n := by rw [hadv.rest]
  have hcapDvd : h.arq.sendWnd.w.cap ∣ seqSpace := hends.bounded.dims.cap_eq ▸ hdvd
  have hbase : (rtxHistStep b h (.poll dt)).base = h.base + n := by
    change h.base + (_ - (pollWork b h.arq dt).sendWnd.w.size) = _
    rw [pollWork_sendWnd_w, hsize]
    omega
  refine ⟨n, hbase, by omega, by rw [hadv.rest], ?_, ?_, ?_⟩
  · rw [hadv.rest]
    dsimp only
    rw [hs.seq, Nat.mod_add_mod]
  · intro k e hk
    rw [← hbase]
    exact rtxHistStep_recorded hk
  · intro k e₀ hk hack he hle
    have hlt := hs.lt k e₀ hk
    have hold := hs.waits k e₀ hk (by omega) (by omega)
    rw [← hs.slot hcapDvd (show h.base ≤ k by omega)] at hold ⊢
    refine hwaits (k - h.base) e₀ (by omega) (by omega) ?_ hold
    rintro ⟨hin, hidx⟩
    exact hack ⟨hin, by omega⟩

/-- The message whose timer a poll starts is the one under the send pointer. -/
theorem RtxPolled.started {dt n k : Nat} (hp : RtxPolled b h dt n) (hs : RtxSound timeout h)
    (hdvd : h.arq.sendWnd.w.cap ∣ seqSpace) (hst : StartsTimer h.arq dt (h.base + n) k) :
    h.arq.sendWndPtr.valid = true ∧ k % seqSpace = h.arq.sendWndPtr.seq ∧
      k % h.arq.sendWnd.w.cap = h.arq.sendWndPtr.seq % h.arq.sendWnd.w.cap := by
  have hvalid := sendWndPtrNext_completed hst.2.1
  have hmsg := startsTimer_msg hst hp.seq (by rwa [hp.cap]) (hs.ptr hvalid)
  rw [hp.cap] at hmsg
  exact ⟨hvalid, hmsg⟩

theorem RtxSound.poll_ptr (hs : RtxSound timeout h) (dt : Nat)
    (hvalid : (pollWork b h.arq dt).sendWndPtr.valid = true) :
    (pollWork b h.arq dt).sendWndPtr.seq < seqSpace := by
  rw [pollWork_sendWndPtr] at hvalid ⊢
  split at hvalid
  · rename_i hfree
    rw [if_pos hfree]
    obtain ⟨hp, -, hsame⟩ | ⟨hlt, -⟩ := sendWndPtrNext_valid hvalid
    · rw [hsame]
      exact hs.ptr hp
    · exact hlt
  · rename_i hfree
    rw [if_neg hfree]
    exact hs.ptr hvalid

theorem RtxPolled.lt {dt n k e : Nat} (hp : RtxPolled b h dt n) (hs : RtxSound timeout h)
    (hk : (rtxHistStep b h (.poll dt)).waited k = some e) :
    k < h.base + n + (pollTimers h.arq dt).w.size := by
  have hsize := hp.size
  obtain ⟨-, -, hin, hidx, -⟩ | ⟨-, e₀, he₀, -⟩ := hp.recorded k e hk
  · unfold inWindow at hin
    omega
  · have := hs.lt k e₀ he₀
    omega

/-- Behind the poll, a message waits if its timer has just been started or if it waited before. -/
theorem RtxPolled.msgWaits {dt n k e : Nat} (hp : RtxPolled b h dt n) (hs : RtxSound timeout h)
    (hdvd : h.arq.sendWnd.w.cap ∣ seqSpace)
    (hk : (rtxHistStep b h (.poll dt)).waited k = some e)
    (he : e < h.arq.cfg.retransmissionTimeout) (hle : h.base + n ≤ k) :
    MsgWaits (pollWork b h.arq dt).sendWnd h.arq.cfg.retransmissionTimeout e
      (k % h.arq.sendWnd.w.cap) := by
  obtain hst | ⟨hack, e₀, he₀, rfl⟩ := hp.recorded k e hk
  · obtain ⟨-, -, hslot⟩ := hp.started hs hdvd hst
    obtain ⟨hfree, hdone, -, -, hlen⟩ := hst
    rw [hp.cap] at hlen
    rw [pollWork_sendWnd, if_pos ⟨hfree, hdone⟩, hslot]
    refine ⟨hlen, ?_⟩
    intro _
    dsimp only
    rw [hp.cap, Function.update_self]
    exact Nat.le_add_right _ _
  · exact (hp.waits k e₀ he₀ hack he hle).sent b

/-- The send pointer leaves the message whose timer it starts, and moves to no message that waits. -/
theorem RtxPolled.away {dt n k e : Nat} (hp : RtxPolled b h dt n)
    (hs : RtxSound h.arq.cfg.retransmissionTimeout h) (hdvd : h.arq.sendWnd.w.cap ∣ seqSpace)
    (hk : (rtxHistStep b h (.poll dt)).waited k = some e)
    (he : e < h.arq.cfg.retransmissionTimeout) (hle : h.base + n ≤ k) :
    ¬ ((pollWork b h.arq dt).sendWndPtr.valid = true ∧
      (pollWork b h.arq dt).sendWndPtr.seq = k % seqSpace) := by
  rw [pollWork_sendWndPtr]
  obtain hst | ⟨hack, e₀, he₀, rfl⟩ := hp.recorded k e hk
  · obtain ⟨hvalidOld, hnum, -⟩ := hp.started hs hdvd hst
    rw [if_pos hst.1]
    rintro ⟨hvalid, hon⟩
    obtain ⟨-, hinside, -⟩ | ⟨-, hother, -⟩ := sendWndPtrNext_valid hvalid
    · rw [hst.2.1] at hinside
      cases hinside
    · exact hother ⟨hvalidOld, by rw [hon, hnum]⟩
  · have haway := hs.away k e₀ he₀ (by omega) (by omega)
    split
    · rintro ⟨hvalid, hon⟩
      obtain ⟨hvalidOld, -, hsame⟩ | ⟨-, -, hrtx, hopen⟩ := sendWndPtrNext_valid hvalid
      · exact haway ⟨hvalidOld, by rw [← hsame, hon]⟩
      · rw [hon, Nat.mod_mod_of_dvd _ (by rwa [hp.cap]), hp.cap] at hrtx hopen
        have := (hp.waits k e₀ he₀ hack he hle).2 (Or.inl hopen)
        omega
    · exact haway

theorem RtxSound.poll (hs : RtxSound h.arq.cfg.retransmissionTimeout h)
    (hends : SendEnds cap msgLen segLen h.arq.sendWnd) (hcap : 0 < u16 cap)
    (hdvd : u16 cap ∣ seqSpace) (dt : Nat) :
    RtxSound h.arq.cfg.retransmissionTimeout (rtxHistStep b h (.poll dt)) := by
  obtain ⟨n, hp⟩ := hs.polled (b := b) hends hcap hdvd dt
  have hcapDvd : h.arq.sendWnd.w.cap ∣ seqSpace := hends.bounded.dims.cap_eq ▸ hdvd
  have hw : (perform b h.arq (.poll dt)).sendWnd.w = (pollTimers h.arq dt).w :=
    pollWork_sendWnd_w b h.arq dt
  refine ⟨?_, ?_, ?_, ?_, ?_⟩
  · rw [rtxHistStep_arq, hw, hp.base]
    exact hp.seq
  · rw [rtxHistStep_arq]
    exact hs.poll_ptr (b := b) dt
  · intro k e hk
    rw [rtxHistStep_arq, hw, hp.base]
    exact hp.lt hs hk
  · intro k e hk he hle
    rw [hp.base] at hle
    rw [rtxHistStep_arq, hw, hp.cap]
    exact hp.msgWaits hs hcapDvd hk he hle
  · intro k e hk he hle
    rw [hp.base] at hle
    rw [rtxHistStep_arq]
    exact hp.away hs hcapDvd hk he hle

theorem RtxSound.send (hs : RtxSound timeout h) (hends : SendEnds cap msgLen segLen h.arq.sendWnd)
    (hcap : 0 < u16 cap) (hdvd : u16 cap ∣ seqSpace) {data : List UInt8}
    (hc : TimerKept h.arq (.send data)) : RtxSound timeout (rtxHistStep b h (.send data)) := by
  have hcapDvd : h.arq.sendWnd.w.cap ∣ seqSpace := hends.bounded.dims.cap_eq ▸ hdvd
  change RtxSound timeout { h with arq := (arqSend h.arq data).1 }
  unfold arqSend
  split
  · exact hs
  · rename_i hpoll
    dsimp only
    obtain hneed | rfl | hnot := hc
    · exact absurd hneed hpoll
    · rw [sendWndSend_nil _ rfl]
      exact hs
    · have hkeeps := hends.bounded.keeps hcap hends.last_pos hends.tinyOn data
        h.arq.cfg.tinygramSendDelay
      refine hs.window ?_ ?_ hkeeps.grows rfl ?_
      · rw [hkeeps.rest]
      · rw [hkeeps.rest]
      · intro k e hbase hlt he hwaits
        rw [← hs.slot hcapDvd hbase] at hwaits ⊢
        exact hkeeps.waits hnot (by omega) he hwaits

theorem RtxSound.flush (hs : RtxSound timeout h) (hc : TimerKept h.arq .flush) :
    RtxSound timeout (rtxHistStep b h .flush) := by
  change RtxSound timeout { h with arq := (arqFlush h.arq).1 }
  refine hs.window ?_ ?_ ?_ rfl ?_
  · simp only [arqFlush]
    rw [sendWndFlush_w]
  · simp only [arqFlush]
    rw [sendWndFlush_w]
  · simp only [arqFlush]
    rw [sendWndFlush_w]
  · intro k e hbase hlt he hwaits
    refine hwaits.flush ?_
    intro hlast
    rw [hlast] at hwaits ⊢
    exact hwaits.acked (by omega) he hc

theorem RtxSound.step (hs : RtxSound h.arq.cfg.retransmissionTimeout h)
    (hends : SendEnds cap msgLen segLen h.arq.sendWnd) (hcap : 0 < u16 cap)
    (hdvd : u16 cap ∣ seqSpace) {c : Call} (hc : TimerKept h.arq c) :
    RtxSound h.arq.cfg.retransmissionTimeout (rtxHistStep b h c) := by
  have hother : (∀ data, c ≠ .send data) → c ≠ .flush → (∀ dt, c ≠ .poll dt) → c ≠ .reset →
      RtxSound h.arq.cfg.retransmissionTimeout { h with arq := perform b h.arq c } := by
    intro hsend hflush hpoll hreset
    obtain ⟨hw, hptr⟩ := perform_sendWnd b h.arq hsend hflush hpoll hreset
    refine hs.window ?_ ?_ ?_ hptr ?_
    · rw [hw]
    · rw [hw]
    · rw [hw]
    · intro k e _ _ _ hwaits
      rwa [hw]
  cases c with
  | send data => exact hs.send hends hcap hdvd hc
  | flush => exact hs.flush hc
  | poll dt => exact hs.poll hends hcap hdvd dt
  | reset =>
    refine ⟨rfl, ?_, ?_, ?_, ?_⟩
    · intro hvalid
      cases hvalid
    · intro k e hk
      cases hk
    · intro k e hk
      cases hk
    · intro k e hk
      cases hk
  | recv | sendPtrGet | sendPtrRelease | recvFill | connect =>
    exact hother (by simp) (by simp) (by simp) (by simp)

end

/-! ## The theorem -/

/-- The histories of an instance, the calls of which satisfy `ok`. -/
abbrev RtxRun (b : Build) (ok : Arq → Call → Prop) (arq₀ : Arq) (h : RtxHist) : Prop :=
  Run (rtxHistStep b) (fun h c => ok h.arq c) (.start arq₀) h

section

variable {b : Build} {cfg : Cfg} {seat arq₀ : Arq} {h : RtxHist}

theorem RtxRun.arq {ok : Arq → Call → Prop} (hrun : RtxRun b ok arq₀ h) :
    Run (perform b) (fun _ _ => True) arq₀ h.arq := by
  refine Run.map RtxHist.arq ?_ hrun
  intro h c _
  rw [rtxHistStep_arq]
  exact .next .start c trivial

theorem instance_sendEnds (hinit : arqInit b cfg seat = .ok arq₀)
    (hcap : ∃ k, k ≤ 11 ∧ cfg.sendWindowSizeInMessages = 2 ^ k) {arq : Arq}
    (hrun : Run (perform b) (fun _ _ => True) arq₀ arq) :
    0 < u16 cfg.sendWindowSizeInMessages ∧ u16 cfg.sendWindowSizeInMessages ∣ seqSpace ∧
      SendEnds cfg.sendWindowSizeInMessages
        (cfg.messageLengthInSegments * cfg.segmentLengthInBytes) cfg.segmentLengthInBytes
        arq.sendWnd := by
  obtain ⟨hle, hdvd⟩ := pow_window hcap
  have hpos := (checkCfg_pos (arqInit_check hinit)).2.2.1
  have hfits : u16 cfg.sendWindowSizeInMessages = cfg.sendWindowSizeInMessages :=
    u16_of_lt (by omega)
  obtain ⟨seat', hsend⟩ := instance_sendRun hinit hrun
  rw [← hfits] at hpos hdvd
  refine ⟨hpos, hdvd, Run.invariant ?_ ?_ hsend⟩
  · exact ⟨sendWndOpen_bounded _ _ _ _, fun h0 => absurd rfl h0, fun _ h0 => absurd rfl h0⟩
  · intro sw op hsw _
    exact hsw.step hpos hdvd op

theorem rtxSound_run (hinit : arqInit b cfg seat = .ok arq₀)
    (hcap : ∃ k, k ≤ 11 ∧ cfg.sendWindowSizeInMessages = 2 ^ k)
    (hrun : RtxRun b TimerKept arq₀ h) : RtxSound cfg.retransmissionTimeout h := by
  have hcfg₀ : arq₀.cfg = cfg := by
    rw [arqInit_ok hinit]
    rfl
  induction hrun with
  | start =>
    refine ⟨?_, ?_, ?_, ?_, ?_⟩
    · change arq₀.sendWnd.w.seq = 0
      rw [arqInit_ok hinit]
      rfl
    · change arq₀.sendWndPtr.valid = true → _
      rw [arqInit_ok hinit]
      intro hvalid
      cases hvalid
    · intro k e hk
      cases hk
    · intro k e hk
      cases hk
    · intro k e hk
      cases hk
  | @next h hrun c hc ih =>
    have harq := RtxRun.arq hrun
    obtain ⟨hpos, hdvd, hends⟩ := instance_sendEnds hinit hcap harq
    have hcfg : h.arq.cfg = cfg := (run_cfg harq).trans hcfg₀
    rw [← hcfg] at ih ⊢
    exact ih.step hends hpos hdvd hc

end

/-- **No premature retransmission.** While no call of `arq_send` or `arq_flush` finds the last message
of the window waiting, a poll transmits no segment of a message whose timer, set when the last segment
of it was transmitted, would still be running after the poll, unless it handles an ACK for it. -/
theorem no_early_retransmission (b : Build) (cfg : Cfg) (seat arq₀ : Arq)
    (hinit : arqInit b cfg seat = .ok arq₀)
    (hcap : ∃ k, k ≤ 11 ∧ cfg.sendWindowSizeInMessages = 2 ^ k) (h : RtxHist)
    (hrun : RtxRun b TimerKept arq₀ h) (k e dt : Nat) (hwaited : h.waited k = some e)
    (he : e + dt < cfg.retransmissionTimeout) (hack : ¬ AckArrives h k) :
    ∀ s ∈ transmitted (pollWork b h.arq dt) (rtxHistStep b h (.poll dt)).base, s.msg ≠ k := by
  have hcfg : h.arq.cfg = cfg := by
    rw [run_cfg hrun.arq, arqInit_ok hinit]
    rfl
  obtain ⟨hpos, hdvd, hends⟩ := instance_sendEnds hinit hcap hrun.arq
  have hs := rtxSound_run hinit hcap hrun
  rw [← hcfg] at hs he
  have hs' := @RtxSound.poll b _ _ _ h hs hends hpos hdvd dt
  obtain ⟨e', hwaited', he'⟩ : ∃ e', (rtxHistStep b h (.poll dt)).waited k = some e' ∧
      e' < h.arq.cfg.retransmissionTimeout := by
    change ∃ e', (if StartsTimer h.arq dt _ k then some 0 else if AckArrives h k then none
      else (h.waited k).map (· + dt)) = some e' ∧ _
    by_cases hst : StartsTimer h.arq dt (rtxHistStep b h (.poll dt)).base k
    · exact ⟨0, if_pos hst, by omega⟩
    · refine ⟨e + dt, ?_, he⟩
      rw [hwaited, if_neg hack]
      exact if_neg hst
  rintro s hmem rfl
  obtain ⟨hd, payload, hframe, hseg, -, hsent⟩ := mem_transmitted.mp hmem
  obtain ⟨hfree, hvalid, hdata⟩ := (pollFrame_data b h.arq dt).2 hd payload hframe hseg
  have hptr : (rtxHistStep b h (.poll dt)).arq.sendWndPtr =
      (sendWndPtrNext h.arq.sendWndPtr (pollTimers h.arq dt)).1 := by
    have := pollWork_sendWndPtr b h.arq dt
    rw [if_pos hfree] at this
    exact this
  have hmsg : s.msg = (rtxHistStep b h (.poll dt)).base +
      wndIndex (rtxHistStep b h (.poll dt)).arq.sendWnd.w hd.seqNum := by
    rw [hsent]
    rfl
  refine hs'.away s.msg e' hwaited' he' ?_ ⟨?_, ?_⟩
  · omega
  · rw [hptr]
    exact hvalid
  · have hlt := hs'.ptr (by rw [hptr]; exact hvalid)
    rw [hmsg, hdata.seqNum, ← hptr, wndIndex_mod hs'.seq hlt]

/-- Two messages are queued and the first is transmitted. While its timer runs, a third one is sent
and flushed. -/
def rtxBusyCalls : List Call :=
  [.send [7, 8], .poll 0, .sendPtrGet, .sendPtrRelease, .poll 0, .send [9], .sendPtrGet,
    .sendPtrRelease, .flush, .poll 1]

theorem no_early_retransmission_sample :
    let h := rtxBusyCalls.foldl (rtxHistStep ⟨false⟩)
      (.start (freshArq ⟨false⟩ (smallCfg 1 1 4)))
    h.waited 0 = some 1 ∧ h.arq.sendWnd.w.size = 3 ∧
      ∀ s ∈ transmitted (pollWork ⟨false⟩ h.arq 3) (rtxHistStep ⟨false⟩ h (.poll 3)).base,
        s.msg ≠ 0 :=
  ⟨by decide +kernel, by decide +kernel,
    no_early_retransmission ⟨false⟩ (smallCfg 1 1 4) (zeroSeat _) _ (arqInit_zeroSeat rfl)
      ⟨2, by decide, rfl⟩ _ (.exec (by decide +kernel)) 0 1 3 (by decide +kernel) (by decide)
      (by decide +kernel)⟩

/-- A message is transmitted, and the frame behind it is free again. -/
def rtxSampleCalls : List Call := [.send [7], .poll 0, .sendPtrGet, .sendPtrRelease, .poll 0]

/-- A call of `arq_send` that takes no byte, because the window is full, makes the next poll transmit
the message again. -/
theorem full_window_send_retransmits :
    let h := rtxSampleCalls.foldl (rtxHistStep ⟨false⟩)
      (.start (freshArq ⟨false⟩ (smallCfg 1 1 1)))
    RtxRun ⟨false⟩ (fun _ _ => True) (freshArq ⟨false⟩ (smallCfg 1 1 1)) h ∧
      h.waited 0 = some 0 ∧ (arqSend h.arq [8]).2 = (.okCompleted, 0) ∧
      (rtxHistStep ⟨false⟩ h (.send [8])).waited 0 = some 0 ∧
      ¬ AckArrives (rtxHistStep ⟨false⟩ h (.send [8])) 0 ∧
      0 + 0 < (smallCfg 1 1 1).retransmissionTimeout ∧
      { msg := 0, seg := 0, payload := [7] } ∈
        transmitted (pollWork ⟨false⟩ (rtxHistStep ⟨false⟩ h (.send [8])).arq 0) 0 :=
  ⟨.exec (by decide +kernel), by decide +kernel⟩

end NanoArq
