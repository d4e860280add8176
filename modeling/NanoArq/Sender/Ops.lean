import NanoArq.Sender.History

/-!
# Runs of a send window

`SendOp` is what can happen to a send window: `arq__send_wnd_send`, `_ack`, `_flush`, `_step`, and the
two fields that `arq__send_poll` writes itself. The window of an instance only ever changes by such
operations (`instance_sendRun`).

`SendBounded` is the invariant that needs nothing but a capacity that fits its field.
-/

namespace NanoArq

open Lib

/-! ## Operations -/

inductive SendOp where
  | send (data : List UInt8) (tiny : Nat)
  | ack (seq vec : Nat)
  | flush
  | step (dt : Nat)
  /-- `arq__send_poll` starts the retransmission timer of a slot. -/
  | sent (slot rtx : Nat)
  /-- `arq__send_poll` switches the tinygram timer off. -/
  | tinyOff

def sendOpStep (sw : SendWnd) : SendOp → SendWnd
  | .send data tiny => (sendWndSend sw data tiny).1
  | .ack seq vec => sendWndAck sw seq vec
  | .flush => sendWndFlush sw
  | .step dt => sendWndStep sw dt
  | .sent slot rtx => { sw with rtx := Function.update sw.rtx slot rtx }
  | .tinyOff => { sw with tinyOn := false }

/-- The states of the window after any operations. -/
abbrev SendRun (sw₀ sw : SendWnd) : Prop := Run sendOpStep (fun _ _ => True) sw₀ sw

theorem SendRun.next {sw₀ sw : SendWnd} (h : SendRun sw₀ sw) (op : SendOp) :
    SendRun sw₀ (sendOpStep sw op) := Run.next h op trivial

/-- A send window that was initialised and reset, on memory that holds `seat`. -/
def sendWndOpen (seat : SendWnd) (cap msgLen segLen : Nat) : SendWnd :=
  sendWndRst { seat with w := wndInit seat.w cap msgLen segLen }

/-! ## Dimensions -/

/-- The window was initialised with these dimensions. -/
structure WndDims (cap msgLen segLen : Nat) (w : Wnd) : Prop where
  cap_eq : w.cap = u16 cap
  msgLen_eq : w.msgLen = u16 msgLen
  segLen_eq : w.segLen = u16 segLen
  full_eq : w.fullAckVec = ackVecOf (msgLen / segLen)

theorem WndDims.congr {cap msgLen segLen : Nat} {w w' : Wnd} (h : WndDims cap msgLen segLen w)
    (hcap : w'.cap = w.cap) (hmsg : w'.msgLen = w.msgLen) (hseg : w'.segLen = w.segLen)
    (hfull : w'.fullAckVec = w.fullAckVec) : WndDims cap msgLen segLen w' :=
  ⟨hcap.trans h.cap_eq, hmsg.trans h.msgLen_eq, hseg.trans h.segLen_eq, hfull.trans h.full_eq⟩

/-- Initialising a window again that has the same dimensions already only resets it. -/
theorem WndDims.init {cap msgLen segLen : Nat} {w : Wnd} (h : WndDims cap msgLen segLen w) :
    wndInit w cap msgLen segLen = wndRst w := by
  unfold wndInit
  rw [← h.cap_eq, ← h.msgLen_eq, ← h.segLen_eq, ← h.full_eq]

theorem wndRst_wndRst (w : Wnd) : wndRst (wndRst w) = wndRst w := by
  have hmsg : (wndRst (wndRst w)).msg = (wndRst w).msg := by
    funext j
    simp only [wndRst, foldl_update_const]
    split <;> rfl
  have hrest : wndRst (wndRst w) = { wndRst w with msg := (wndRst (wndRst w)).msg } := rfl
  rw [hrest, hmsg]

/-! ## One operation -/

/-- The index of the message that `arq__send_wnd_send` appends to first. -/
def sendFirst (w : Wnd) : Nat := (w.seq + subSat w.size 1) % w.cap

/-- The bytes in the window before a call of `arq__send_wnd_send`, as it computes them. -/
def sendHeld (w : Wnd) : Nat := subSat w.size 1 * w.msgLen + (w.msg (sendFirst w)).len

/-- The end of `arq__send_wnd_send`: the last message gets its length. -/
def sendLast (w : Wnd) (idx rem size : Nat) : Wnd :=
  { w with
    msg := if rem ≠ 0 then Function.update w.msg idx { w.msg idx with len := u16 rem } else w.msg
    size := size }

theorem sendWndSend_wnd (sw : SendWnd) {data : List UInt8} (hdata : data.length ≠ 0) (tiny : Nat)
    {taken held L : Nat} (hL : L = sw.w.msgLen)
    (htaken : taken = min data.length (sub32 (sw.w.cap * L) (sendHeld sw.w)))
    (hheld : held = (sw.w.msg (sendFirst sw.w)).len + taken) :
    ∃ buf idx, (sendWndSend sw data tiny).1.w =
      sendLast (sendWndFill { sw with w := { sw.w with buf := buf } }
        (sw.w.seq + subSat sw.w.size 1) (held / L)).w idx (held - held / L * L)
        (u16 ((sendHeld sw.w + taken + L - 1) / L)) := by
  subst hheld htaken hL
  rw [sendWndSend, if_neg hdata]
  dsimp only
  split <;> exact ⟨_, _, rfl⟩

/-- The messages only change their lengths. -/
theorem sendLast_spec (sw : SendWnd) (buf : Buf) (seq n idx rem size : Nat) :
    let w := sendLast (sendWndFill { sw with w := { sw.w with buf := buf } } seq n).w idx rem size
    w = { sw.w with buf := buf, msg := w.msg, size := size } ∧
      ∀ j, w.msg j = { sw.w.msg j with len := (w.msg j).len } ∧
        ((w.msg j).len = (sw.w.msg j).len ∨ (w.msg j).len = sw.w.msgLen ∨ (w.msg j).len = u16 rem) := by
  obtain ⟨hmsg, -, hrest⟩ := sendWndFill_spec { sw with w := { sw.w with buf := buf } } seq n
  generalize sendWndFill { sw with w := { sw.w with buf := buf } } seq n = sw1 at hmsg hrest
  have hfill : ∀ j, sw1.w.msg j = { sw.w.msg j with len := (sw1.w.msg j).len } ∧
      ((sw1.w.msg j).len = (sw.w.msg j).len ∨ (sw1.w.msg j).len = sw.w.msgLen) := by
    intro j
    rw [hmsg]
    split
    · exact ⟨rfl, Or.inr rfl⟩
    · exact ⟨rfl, Or.inl rfl⟩
  refine ⟨?_, ?_⟩
  · rw [hrest]
    rfl
  · intro j
    obtain ⟨hsame, hlen⟩ := hfill j
    simp only [sendLast]
    split
    · by_cases hj : j = idx
      · subst hj
        rw [Function.update_self, hsame]
        exact ⟨rfl, Or.inr (Or.inr rfl)⟩
      · rw [Function.update_of_ne hj]
        exact ⟨hsame, hlen.imp_right Or.inl⟩
    · exact ⟨hsame, hlen.imp_right Or.inl⟩

theorem sendWndRetire_msg (w : Wnd) (j : Nat) :
    ∀ (n i : Nat) (msg : Nat → Msg), (sendWndRetire w n i msg).1 j = msg j ∨
      (sendWndRetire w n i msg).1 j = msgEmpty w.fullAckVec := by
  intro n
  induction n with
  | zero => exact fun _ _ => Or.inl rfl
  | succ n ih =>
    intro i msg
    simp only [sendWndRetire]
    split
    · exact Or.inl rfl
    · obtain h | h := ih (i + 1)
        (Function.update msg ((w.seq + i) % w.cap) (msgEmpty w.fullAckVec))
      · by_cases hj : j = (w.seq + i) % w.cap
        · rw [h, hj, Function.update_self]
          exact Or.inr rfl
        · rw [h, Function.update_of_ne hj]
          exact Or.inl rfl
      · exact Or.inr h

/-- An operation leaves the dimensions of the window alone. -/
theorem sendOpStep_dims {cap msgLen segLen : Nat} {sw : SendWnd} (h : WndDims cap msgLen segLen sw.w)
    (op : SendOp) : WndDims cap msgLen segLen (sendOpStep sw op).w := by
  cases op with
  | send data tiny =>
    rw [sendOpStep]
    by_cases hdata : data.length = 0
    · rw [sendWndSend_nil sw hdata]
      exact h
    · obtain ⟨buf, idx, heq⟩ := sendWndSend_wnd sw hdata tiny rfl rfl rfl
      obtain ⟨hrest, -⟩ := sendLast_spec sw buf (sw.w.seq + subSat sw.w.size 1)
        (((sw.w.msg (sendFirst sw.w)).len +
          min data.length (sub32 (sw.w.cap * sw.w.msgLen) (sendHeld sw.w))) / sw.w.msgLen) idx _ _
      rw [heq, hrest]
      exact h.congr rfl rfl rfl rfl
  | ack seq vec =>
    rw [sendOpStep, sendWndAck]
    split
    · exact h.congr rfl rfl rfl rfl
    · exact h
  | flush =>
    rw [sendOpStep, sendWndFlush_w]
    exact h.congr rfl rfl rfl rfl
  | step | sent | tinyOff => exact h

/-- Where an operation takes the target of a message from. -/
theorem sendOpStep_target (sw : SendWnd) (op : SendOp) (j : Nat) :
    ((sendOpStep sw op).w.msg j).fullAckVec = (sw.w.msg j).fullAckVec ∨
      ((sendOpStep sw op).w.msg j).fullAckVec = sw.w.fullAckVec ∨
      ((sw.w.msg j).len ≠ 0 ∧ ((sendOpStep sw op).w.msg j).fullAckVec =
        ackVecOf (segCount sw.w.segLen (sw.w.msg j).len)) := by
  cases op with
  | send data tiny =>
    rw [sendOpStep]
    by_cases hdata : data.length = 0
    · rw [sendWndSend_nil sw hdata]
      exact Or.inl rfl
    · obtain ⟨buf, idx, heq⟩ := sendWndSend_wnd sw hdata tiny rfl rfl rfl
      obtain ⟨-, hmsg⟩ := sendLast_spec sw buf (sw.w.seq + subSat sw.w.size 1)
        (((sw.w.msg (sendFirst sw.w)).len +
          min data.length (sub32 (sw.w.cap * sw.w.msgLen) (sendHeld sw.w))) / sw.w.msgLen) idx _ _
      rw [heq, (hmsg j).1]
      exact Or.inl rfl
  | ack seq vec =>
    rw [sendOpStep, sendWndAck]
    split
    · dsimp only
      obtain h | h := sendWndRetire_msg sw.w j sw.w.size 0 (ackedMsgs sw.w seq vec)
      · refine Or.inl ?_
        change ((sendWndRetire sw.w sw.w.size 0 (ackedMsgs sw.w seq vec)).1 j).fullAckVec = _
        rw [h]
        unfold ackedMsgs
        by_cases hjs : j = seq % sw.w.cap
        · rw [hjs, Function.update_self]
        · rw [Function.update_of_ne hjs]
      · refine Or.inr (Or.inl ?_)
        change ((sendWndRetire sw.w sw.w.size 0 (ackedMsgs sw.w seq vec)).1 j).fullAckVec = _
        rw [h]
        rfl
    · exact Or.inl rfl
  | flush =>
    rw [sendOpStep, sendWndFlush_msg]
    split
    · rename_i h
      exact Or.inr (Or.inr ⟨h.2.1, rfl⟩)
    · exact Or.inl rfl
  | step | sent | tinyOff => exact Or.inl rfl

theorem SendRun.dims {cap msgLen segLen : Nat} {sw₀ sw : SendWnd} (hrun : SendRun sw₀ sw)
    (h : WndDims cap msgLen segLen sw₀.w) : WndDims cap msgLen segLen sw.w := by
  induction hrun with
  | start => exact h
  | next _ op _ ih => exact sendOpStep_dims ih op

/-! ## Bounds -/

structure SendBounded (cap msgLen segLen : Nat) (sw : SendWnd) : Prop where
  dims : WndDims cap msgLen segLen sw.w
  seq_lt : sw.w.seq < seqSpace
  size_le : sw.w.size ≤ sw.w.cap
  len_le : ∀ j, j < sw.w.cap → (sw.w.msg j).len ≤ sw.w.msgLen

section

variable {cap msgLen segLen : Nat} {sw : SendWnd}

theorem sendWndOpen_bounded (seat : SendWnd) (cap msgLen segLen : Nat) :
    SendBounded cap msgLen segLen (sendWndOpen seat cap msgLen segLen) := by
  refine ⟨⟨rfl, rfl, rfl, rfl⟩, ?_, Nat.zero_le _, ?_⟩
  · change 0 < seqSpace
    decide
  · intro j hj
    have hmsg : (sendWndOpen seat cap msgLen segLen).w.msg j = msgEmpty _ := wndRst_msg _ hj
    rw [hmsg]
    exact Nat.zero_le _

/-- In the windows of the code no target is empty. -/
theorem sendRun_target {cap segs segLen : Nat} {seat sw : SendWnd} (hsegs : 0 < segs)
    (hlen : 0 < segLen) (hsmall : segLen < 65536)
    (hrun : SendRun (sendWndOpen seat cap (segs * segLen) segLen) sw) :
    ∀ j, j < sw.w.cap → (sw.w.msg j).fullAckVec ≠ 0 := by
  have hodd : ∀ n, 0 < n → ackVecOf n ≠ 0 := by
    intro n hn
    obtain ⟨m, rfl⟩ := Nat.exists_eq_succ_of_ne_zero hn.ne'
    have hpow : 2 ^ (m + 1) = 2 * 2 ^ m := Nat.pow_succ'
    have := Nat.two_pow_pos m
    unfold ackVecOf u16
    rw [Nat.succ_eq_add_one, hpow]
    omega
  induction hrun with
  | start =>
    intro j hj
    have hmsg : (sendWndOpen seat cap (segs * segLen) segLen).w.msg j =
        msgEmpty (ackVecOf (segs * segLen / segLen)) := wndRst_msg _ hj
    rw [hmsg, Nat.mul_div_cancel _ hlen]
    exact hodd segs hsegs
  | @next sw hrun op _ ih =>
    have hdims := SendRun.dims hrun (sendWndOpen_bounded seat cap (segs * segLen) segLen).dims
    intro j hj
    rw [(sendOpStep_dims hdims op).cap_eq, ← hdims.cap_eq] at hj
    obtain hkept | hreset | ⟨hne, hflushed⟩ := sendOpStep_target sw op j
    · rw [hkept]
      exact ih j hj
    · rw [hreset, hdims.full_eq, Nat.mul_div_cancel _ hlen]
      exact hodd segs hsegs
    · rw [hflushed, hdims.segLen_eq, u16_of_lt hsmall]
      apply hodd
      rw [lt_segCount hlen]
      omega

theorem SendBounded.held_le (h : SendBounded cap msgLen segLen sw) (hcap : 0 < sw.w.cap) :
    sendHeld sw.w ≤ sw.w.cap * sw.w.msgLen := by
  have hlen : (sw.w.msg (sendFirst sw.w)).len ≤ sw.w.msgLen := h.len_le _ (Nat.mod_lt _ hcap)
  have hmul := Nat.mul_le_mul_right sw.w.msgLen (show subSat sw.w.size 1 + 1 ≤ sw.w.cap by
    have := h.size_le
    rw [subSat_eq]
    omega)
  rw [Nat.add_mul, Nat.one_mul] at hmul
  unfold sendHeld
  omega

theorem SendBounded.send (h : SendBounded cap msgLen segLen sw) (hcap : 0 < u16 cap)
    (data : List UInt8) (tiny : Nat) :
    SendBounded cap msgLen segLen (sendWndSend sw data tiny).1 := by
  by_cases hdata : data.length = 0
  · rw [sendWndSend_nil sw hdata]
    exact h
  obtain ⟨buf, idx, hw⟩ := sendWndSend_wnd sw hdata tiny rfl rfl rfl
  obtain ⟨hrest, hmsg⟩ := sendLast_spec sw buf (sw.w.seq + subSat sw.w.size 1)
    (((sw.w.msg (sendFirst sw.w)).len +
      min data.length (sub32 (sw.w.cap * sw.w.msgLen) (sendHeld sw.w))) / sw.w.msgLen) idx _ _
  have hcapEq : sw.w.cap = u16 cap := h.dims.cap_eq
  have hheld := h.held_le (by omega)
  rw [← hw] at hrest hmsg
  generalize hsw' : (sendWndSend sw data tiny).1 = sw' at *
  have hsize : sw'.w.size ≤ sw.w.cap := by
    rw [hrest]
    dsimp only
    refine (Nat.mod_le _ _).trans ?_
    rcases Nat.eq_zero_or_pos sw.w.msgLen with h0 | hpos
    · rw [h0]
      simp
    · rw [← segCount, segCount_le hpos, sub32_of_le hheld]
      omega
  refine ⟨?_, ?_, ?_, ?_⟩
  · refine h.dims.congr ?_ ?_ ?_ ?_ <;> rw [hrest]
  · rw [hrest]
    exact h.seq_lt
  · rw [hrest]
    rwa [hrest] at hsize
  · intro j hj
    have hsame : sw'.w.cap = sw.w.cap ∧ sw'.w.msgLen = sw.w.msgLen := by
      rw [hrest]
      exact ⟨rfl, rfl⟩
    rw [hsame.1] at hj
    rw [hsame.2]
    obtain h' | h' | h' := (hmsg j).2
    · rw [h']
      exact h.len_le j hj
    · exact h'.le
    · rw [h']
      refine (Nat.mod_le _ _).trans ?_
      rcases Nat.eq_zero_or_pos sw.w.msgLen with h0 | hpos
      · have hfirst : (sw.w.msg (sendFirst sw.w)).len ≤ sw.w.msgLen :=
          h.len_le _ (Nat.mod_lt _ (by omega))
        rw [h0, Nat.mul_zero] at hheld ⊢
        rw [sub32_of_le hheld]
        omega
      · generalize (sw.w.msg (sendFirst sw.w)).len + _ = held
        have hmod := Nat.mod_lt held hpos
        have hdiv := Nat.div_add_mod' held sw.w.msgLen
        omega

theorem SendBounded.ack (h : SendBounded cap msgLen segLen sw) (seq vec : Nat) :
    SendBounded cap msgLen segLen (sendWndAck sw seq vec) := by
  unfold sendWndAck
  split
  · dsimp only
    obtain ⟨-, hle, -⟩ := sendWndRetire_spec sw.w sw.w.size 0 (ackedMsgs sw.w seq vec)
      (by have := h.size_le; omega)
    refine ⟨h.dims.congr rfl rfl rfl rfl, Nat.mod_lt _ (by decide), ?_, ?_⟩
    · refine (Nat.mod_le _ _).trans (le_trans ?_ h.size_le)
      change sub32 sw.w.size (sendWndRetire sw.w sw.w.size 0 (ackedMsgs sw.w seq vec)).2 ≤ _
      rw [sub32_of_le (by omega)]
      exact Nat.sub_le _ _
    · intro j hj
      obtain h' | h' := sendWndRetire_msg sw.w j sw.w.size 0 (ackedMsgs sw.w seq vec)
      · have hlen := h.len_le j hj
        rw [← ackedMsgs_len sw.w seq vec j, ← h'] at hlen
        exact hlen
      · have hlen : ((sendWndRetire sw.w sw.w.size 0 (ackedMsgs sw.w seq vec)).1 j).len = 0 := by
          rw [h']
          rfl
        exact hlen.le.trans (Nat.zero_le _)
  · exact h

theorem SendBounded.flush (h : SendBounded cap msgLen segLen sw) :
    SendBounded cap msgLen segLen (sendWndFlush sw) := by
  refine ⟨?_, ?_, ?_, ?_⟩
  · refine h.dims.congr ?_ ?_ ?_ ?_ <;> rw [sendWndFlush_w]
  · rw [sendWndFlush_w]
    exact h.seq_lt
  · rw [sendWndFlush_w]
    exact h.size_le
  · intro j hj
    rw [sendWndFlush_w] at hj ⊢
    dsimp only
    rw [sendWndFlush_msg]
    split
    · exact h.len_le j hj
    · exact h.len_le j hj

theorem SendBounded.step (h : SendBounded cap msgLen segLen sw) (hcap : 0 < u16 cap)
    (op : SendOp) : SendBounded cap msgLen segLen (sendOpStep sw op) := by
  cases op with
  | send data tiny => exact h.send hcap data tiny
  | ack seq vec => exact h.ack seq vec
  | flush => exact h.flush
  | step | sent | tinyOff => exact ⟨h.dims, h.seq_lt, h.size_le, h.len_le⟩

theorem SendRun.bounded {seat : SendWnd} (hcap : 0 < u16 cap)
    (hrun : SendRun (sendWndOpen seat cap msgLen segLen) sw) : SendBounded cap msgLen segLen sw := by
  refine Run.invariant ?_ ?_ hrun
  · exact sendWndOpen_bounded seat cap msgLen segLen
  · intro s op hs _
    exact hs.step hcap op

end

/-! ## One message after the other -/

/-- A window that has sent `n` messages and holds none. -/
structure Drained (cap n : Nat) (sw : SendWnd) : Prop where
  dims : WndDims cap 1 1 sw.w
  seq_eq : sw.w.seq = n % seqSpace
  size_eq : sw.w.size = 0
  msg_eq : ∀ j, j < cap → sw.w.msg j = msgEmpty 1

theorem Drained.round {cap n : Nat} (hcap : 0 < cap) (hlt : cap < 65536) {sw : SendWnd}
    (h : Drained cap n sw) :
    Drained cap (n + 1) (sendWndAck (sendWndSend sw [0] 0).1 (n % seqSpace) 1) := by
  obtain ⟨⟨hcapEq, hmsgLen, hsegLen, hfull⟩, hseq, hsize, hmsg⟩ := h
  rw [u16_of_lt hlt] at hcapEq
  have hslot : sw.w.seq % cap < cap := Nat.mod_lt _ hcap
  have hidx := hmsg _ hslot
  have hone : u16 1 = 1 := rfl
  rw [hone] at hmsgLen hsegLen
  have hsent : (sendWndSend sw [0] 0).1.w = { sw.w with
      buf := (sendWndSend sw [0] 0).1.w.buf
      msg := Function.update sw.w.msg (sw.w.seq % cap) { msgEmpty 1 with len := 1 }
      size := 1 } := by
    have hroom : min 1 (sub32 cap 0) = 1 := by
      rw [sub32_of_le (Nat.zero_le _)]
      omega
    simp [sendWndSend, sendWndFill, hsize, hcapEq, hmsgLen, hidx, hroom, msgEmpty, hone]
  generalize (sendWndSend sw [0] 0).1 = sent at hsent ⊢
  have hin : ackInWnd sent.w (n % seqSpace) := by
    rw [hsent, ackInWnd]
    dsimp only
    omega
  have hacked : (sendWndAck sent (n % seqSpace) 1).w = { sent.w with
      msg := Function.update sw.w.msg (sw.w.seq % cap) (msgEmpty 1)
      size := 0
      seq := (n + 1) % seqSpace } := by
    rw [sendWndAck, if_pos hin, hsent]
    simp [sendWndRetire, hcapEq, hseq, hfull, msgEmpty, sub32, u16, ackVecOf]
  refine ⟨?_, ?_, ?_, ?_⟩
  · rw [hacked, hsent]
    exact ⟨hcapEq.trans (u16_of_lt hlt).symm, hmsgLen, hsegLen, hfull⟩
  · rw [hacked]
  · rw [hacked]
  · intro j hj
    rw [hacked]
    by_cases hjs : j = sw.w.seq % cap
    · rw [hjs]
      exact Function.update_self ..
    · exact (Function.update_of_ne hjs ..).trans (hmsg j hj)

/-- A window gets there with messages of one byte that are each acknowledged before the next one. -/
theorem drained_rounds (seat : SendWnd) {cap : Nat} (hcap : 0 < cap) (hlt : cap < 65536) (n : Nat) :
    ∃ sw, SendRun (sendWndOpen seat cap 1 1) sw ∧ Drained cap n sw := by
  induction n with
  | zero =>
    refine ⟨_, .start, ⟨rfl, rfl, rfl, rfl⟩, rfl, rfl, ?_⟩
    intro j hj
    rw [← u16_of_lt hlt] at hj
    exact wndRst_msg _ hj
  | succ n ih =>
    obtain ⟨sw, hrun, hsw⟩ := ih
    exact ⟨_, (hrun.next (.send [0] 0)).next (.ack (n % seqSpace) 1), hsw.round hcap hlt⟩

/-- Two messages in a window that held none. -/
theorem Drained.two {cap n : Nat} (hcap : 2 ≤ cap) (hlt : cap < 65536) {sw : SendWnd}
    (h : Drained cap n sw) (x y : UInt8) :
    (sendWndSend sw [x, y] 0).1.w.seq = n % seqSpace ∧ (sendWndSend sw [x, y] 0).1.w.size = 2 ∧
      (sendWndSend sw [x, y] 0).1.w.cap = cap ∧
      ∀ j, j < cap → (sendWndSend sw [x, y] 0).1.w.msg j =
        if j = n % seqSpace % cap ∨ j = (n % seqSpace + 1) % cap then { msgEmpty 1 with len := 1 }
        else msgEmpty 1 := by
  obtain ⟨⟨hcapEq, hmsgLen, hsegLen, hfull⟩, hseq, hsize, hmsg⟩ := h
  rw [u16_of_lt hlt] at hcapEq
  have hone : u16 1 = 1 := rfl
  have htwo : u16 2 = 2 := rfl
  rw [hone] at hmsgLen hsegLen
  have hidx := hmsg (n % seqSpace % cap) (Nat.mod_lt _ (by omega))
  have hidx' := hmsg ((n % seqSpace + 1) % cap) (Nat.mod_lt _ (by omega))
  have hroom : min 2 (sub32 cap 0) = 2 := by
    rw [sub32_of_le (Nat.zero_le _)]
    omega
  have hne : (n % seqSpace + 1) % cap ≠ n % seqSpace % cap := fun heq => by
    have := @ring_inj cap (n % seqSpace) 1 0 (by omega) (by omega) heq
    omega
  have hsent : (sendWndSend sw [x, y] 0).1.w = { sw.w with
      buf := (sendWndSend sw [x, y] 0).1.w.buf
      msg := Function.update (Function.update sw.w.msg (n % seqSpace % cap)
        { msgEmpty 1 with len := 1 }) ((n % seqSpace + 1) % cap) { msgEmpty 1 with len := 1 }
      size := 2 } := by
    simp [sendWndSend, sendWndFill, List.range_succ, hseq, hsize, hcapEq, hmsgLen, hidx, hidx', hroom,
      msgEmpty, htwo, hne]
  rw [hsent]
  refine ⟨hseq, rfl, hcapEq, ?_⟩
  intro j hj
  dsimp only
  by_cases hj' : j = (n % seqSpace + 1) % cap
  · rw [hj', Function.update_self, if_pos (Or.inr rfl)]
  · rw [Function.update_of_ne hj']
    by_cases hj'' : j = n % seqSpace % cap
    · rw [hj'', Function.update_self, if_pos (Or.inl rfl)]
    · rw [Function.update_of_ne hj'', hmsg j hj, if_neg (by omega)]

/-! ## The window of an instance -/

theorem SendRun.timers (sw : SendWnd) (rh : FrameHdr) (dt : Nat) :
    SendRun sw (sendPollTimers sw rh dt) := by
  have hack : SendRun sw (if rh.ack then sendWndAck sw rh.ackNum rh.curAckVec else sw) := by
    split
    · exact SendRun.next .start (.ack rh.ackNum rh.curAckVec)
    · exact .start
  unfold sendPollTimers
  generalize (if rh.ack then sendWndAck sw rh.ackNum rh.curAckVec else sw) = acked at hack ⊢
  have hstep := hack.next (.step dt)
  dsimp only
  split
  · exact (hstep.next .flush).next .tinyOff
  · exact hstep

/-- Every call but a reset is a run of operations on the send window. -/
theorem perform_sendRun (b : Build) (arq : Arq) {c : Call} (hreset : c ≠ .reset) :
    SendRun arq.sendWnd (perform b arq c).sendWnd := by
  cases c with
  | send data =>
    simp only [perform, arqSend]
    split
    · exact .start
    · exact SendRun.next .start (.send data arq.cfg.tinygramSendDelay)
  | flush => exact SendRun.next .start .flush
  | poll dt =>
    have htimers : SendRun arq.sendWnd (pollTimers arq dt) := .timers _ _ _
    change SendRun arq.sendWnd (pollWork b arq dt).sendWnd
    rw [pollWork_sendWnd]
    split
    · exact htimers.next (.sent _ _)
    · exact htimers
  | reset => exact absurd rfl hreset
  | recv | sendPtrGet | sendPtrRelease | recvFill | connect =>
    rw [(perform_sendWnd b arq (by simp) (by simp) (by simp) (by simp)).1]
    exact .start

theorem run_cfg {b : Build} {ok : Arq → Call → Prop} {arq₀ arq : Arq}
    (hrun : Run (perform b) ok arq₀ arq) : arq.cfg = arq₀.cfg := by
  induction hrun with
  | start => rfl
  | next _ c _ ih => rw [perform_cfg, ih]

/-- Resetting a window that has these dimensions opens it again. -/
theorem sendWndOpen_reset {cap msgLen segLen : Nat} {sw : SendWnd}
    (h : WndDims cap msgLen segLen sw.w) : sendWndOpen sw cap msgLen segLen = sendWndRst sw := by
  rw [sendWndOpen, h.init]
  simp only [sendWndRst, wndRst_wndRst]
  rfl

/-- The send window of an instance is the result of a run since the window was last reset. -/
theorem instance_sendRun {b : Build} {cfg : Cfg} {seat arq₀ arq : Arq}
    (hinit : arqInit b cfg seat = .ok arq₀) (hrun : Run (perform b) (fun _ _ => True) arq₀ arq) :
    ∃ seat, SendRun (sendWndOpen seat cfg.sendWindowSizeInMessages
      (cfg.messageLengthInSegments * cfg.segmentLengthInBytes) cfg.segmentLengthInBytes)
      arq.sendWnd := by
  induction hrun with
  | start =>
    rw [arqInit_ok hinit]
    exact ⟨seat.sendWnd, .start⟩
  | @next arq _ c _ ih =>
    obtain ⟨seat', ih⟩ := ih
    by_cases hc : c = .reset
    · subst hc
      refine ⟨arq.sendWnd, ?_⟩
      rw [sendWndOpen_reset (ih.dims ⟨rfl, rfl, rfl, rfl⟩)]
      exact .start
    · exact ⟨seat', Run.trans ih (perform_sendRun b arq hc)⟩

end NanoArq
