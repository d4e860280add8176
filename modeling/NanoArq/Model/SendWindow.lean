import NanoArq.Model.Frame

/-!
# Message windows and the send side

`arq__wnd_t`, the send window `arq__send_wnd_t` with its retransmission and tinygram timers,
the send pointer `arq__send_wnd_ptr_t`, and `arq__send_poll`.

Every loop of the source over the messages of a window is a fold over `List.range` or the
first index found in it, so that the index `i` of the C text stays visible. The test and the
move of the send pointer inside its message are `ptrAdvance` and `ptrInside`, since the rest
of the development refers to them.

A function that finds messages by number has the slot of a number as its last argument. Left out,
it is that of the source, `n % w.cap`. `NanoArq.Slots` puts a table in its place.
-/

namespace NanoArq

open Lib

/-- `arq__msg_t` -/
structure Msg where
  len : Nat
  curAckVec : Nat
  fullAckVec : Nat
deriving DecidableEq, Repr

/-- `arq__wnd_t` -/
structure Wnd where
  msg : Nat → Msg
  buf : Buf
  seq : Nat
  cap : Nat
  size : Nat
  msgLen : Nat
  segLen : Nat
  fullAckVec : Nat

/-- The ACK vector with the bits of `n` segments set, as the source computes it. -/
def ackVecOf (n : Nat) : Nat :=
  -- `(1 << n) - 1` of the source is undefined for `n` from the width of `int` on.
  u16 (2 ^ n - 1)

/-- The number of segments that `len` bytes occupy. -/
def segCount (segLen len : Nat) : Nat := (len + segLen - 1) / segLen

/-- The value to which every operation that empties a slot resets it. -/
def msgEmpty (full : Nat) : Msg where
  len := 0
  curAckVec := 0
  fullAckVec := full

/-- `arq__wnd_rst` -/
def wndRst (w : Wnd) : Wnd :=
  { w with
    size := 0
    seq := 0
    msg := (List.range w.cap).foldl
      (fun msg i => Function.update msg i (msgEmpty w.fullAckVec)) w.msg }

/-- `arq__wnd_init` -/
def wndInit (w : Wnd) (wndCap msgLen segLen : Nat) : Wnd :=
  wndRst { w with
    cap := u16 wndCap
    msgLen := u16 msgLen
    segLen := u16 segLen
    fullAckVec := ackVecOf (msgLen / segLen) }

/-- `arq__wnd_seg`: the offset of the segment in the window's buffer, and its length. -/
def wndSeg (w : Wnd) (seq seg : Nat)
    (slot : Wnd → Nat → Nat := fun w n => n % w.cap) : Nat × Nat :=
  -- A capacity of zero (a window of a multiple of 65536 messages) is a division by zero in the source.
  let idx := slot w seq
  (w.msgLen * idx + w.segLen * seg, min w.segLen (sub32 (w.msg idx).len (w.segLen * seg)))

/-! ## The send window -/

/-- `arq__send_wnd_t` -/
structure SendWnd where
  w : Wnd
  rtx : Nat → Nat
  tiny : Nat
  tinyOn : Bool

/-- `arq__send_wnd_rst` -/
def sendWndRst (sw : SendWnd) : SendWnd :=
  { w := wndRst sw.w
    rtx := (List.range sw.w.cap).foldl (fun rtx i => Function.update rtx i 0) sw.rtx
    tiny := 0
    tinyOn := false }

/-- The loop of `arq__send_wnd_send` over the `n` messages that the call completes. -/
def sendWndFill (sw : SendWnd) (seq n : Nat)
    (slot : Wnd → Nat → Nat := fun w n => n % w.cap) : SendWnd :=
  (List.range n).foldl
    (fun sw i =>
      let idx := slot sw.w (seq + i)
      { sw with
        rtx := Function.update sw.rtx idx 0
        w := { sw.w with
          msg := Function.update sw.w.msg idx { sw.w.msg idx with len := sw.w.msgLen } } })
    sw

/-- `arq__send_wnd_send`: the new window and the number of bytes taken from `data`. -/
def sendWndSend (sw : SendWnd) (data : List UInt8) (tiny : Nat)
    (slot : Wnd → Nat → Nat := fun w n => n % w.cap) : SendWnd × Nat :=
  if data.length = 0 then (sw, 0)
  else
    let seq := sw.w.seq + subSat sw.w.size 1
    let msgIdx := slot sw.w seq
    let lastMsgLen := (sw.w.msg msgIdx).len
    let wndSizeInBytes := subSat sw.w.size 1 * sw.w.msgLen + lastMsgLen
    let wndCapInBytes := sw.w.cap * sw.w.msgLen
    let len := min data.length (sub32 wndCapInBytes wndSizeInBytes)
    let curByteIdx := msgIdx * sw.w.msgLen + lastMsgLen
    let preWrapCopyLen := min len (sub32 wndCapInBytes curByteIdx)
    let buf := memcpy sw.w.buf curByteIdx (data.take preWrapCopyLen)
    let buf := memcpy buf 0 ((data.drop preWrapCopyLen).take (len - preWrapCopyLen))
    let fullMsgCnt := (lastMsgLen + len) / sw.w.msgLen
    let sw1 := sendWndFill { sw with w := { sw.w with buf := buf } } seq fullMsgCnt slot
    let bytesRem := (lastMsgLen + len) - fullMsgCnt * sw.w.msgLen
    let size := u16 ((wndSizeInBytes + len + sw.w.msgLen - 1) / sw.w.msgLen)
    let lastIdx := slot sw.w (sub32 (sw.w.seq + size) 1)
    let msg :=
      if bytesRem ≠ 0 then
        Function.update sw1.w.msg lastIdx { sw1.w.msg lastIdx with len := u16 bytesRem }
      else sw1.w.msg
    let tinyOn := decide (bytesRem > 0)
    if tinyOn ∧ size > sw.w.size then
      ({ w := { sw1.w with msg := msg, size := size }
         rtx := Function.update sw1.rtx lastIdx tiny
         tiny := tiny
         tinyOn := tinyOn }, len)
    else
      ({ sw1 with w := { sw1.w with msg := msg, size := size }, tinyOn := tinyOn }, len)

/-- The retirement loop of `arq__send_wnd_ack`, from message `i` of the window on with `n`
messages left: the messages and the index at which the loop stops. -/
def sendWndRetire (w : Wnd) (n i : Nat) (msg : Nat → Msg)
    (slot : Wnd → Nat → Nat := fun w n => n % w.cap) : (Nat → Msg) × Nat :=
  match n with
  | 0 => (msg, i)
  | n + 1 =>
    let idx := slot w (w.seq + i)
    if (msg idx).curAckVec ≠ (msg idx).fullAckVec then (msg, i)
    else sendWndRetire w n (i + 1) (Function.update msg idx (msgEmpty w.fullAckVec)) slot

/-- The window test of `arq__send_wnd_ack`. -/
def ackInWnd (w : Wnd) (seq : Nat) : Prop :=
  ¬ (w.size = 0 ∨ w.seq > seq ∨ w.seq + w.size - 1 < seq)

instance (w : Wnd) (seq : Nat) : Decidable (ackInWnd w seq) :=
  inferInstanceAs (Decidable (¬ _))

/-- `arq__send_wnd_ack` -/
def sendWndAck (sw : SendWnd) (seq curAckVec : Nat)
    (slot : Wnd → Nat → Nat := fun w n => n % w.cap) : SendWnd :=
  if ackInWnd sw.w seq then
    let idx := slot sw.w seq
    let m : Msg := { sw.w.msg idx with curAckVec := curAckVec }
    let rtx := if m.curAckVec ≠ m.fullAckVec then Function.update sw.rtx idx 0 else sw.rtx
    let r := sendWndRetire sw.w sw.w.size 0 (Function.update sw.w.msg idx m) slot
    { sw with
      rtx := rtx
      w := { sw.w with
        msg := r.1
        size := u16 (sub32 sw.w.size r.2)
        seq := (sw.w.seq + r.2) % seqSpace } }
  else sw

/-- `arq__send_wnd_flush` -/
def sendWndFlush (sw : SendWnd)
    (slot : Wnd → Nat → Nat := fun w n => n % w.cap) : SendWnd :=
  if sw.w.size = 0 then sw
  else
    let idx := slot sw.w (sw.w.seq + sw.w.size - 1)
    let m := sw.w.msg idx
    if m.len ≠ 0 then
      let segs := segCount sw.w.segLen m.len
      { sw with
        rtx := Function.update sw.rtx idx 0
        w := { sw.w with msg := Function.update sw.w.msg idx { m with fullAckVec := ackVecOf segs } } }
    else sw

/-- `arq__send_wnd_step` -/
def sendWndStep (sw : SendWnd) (dt : Nat)
    (slot : Wnd → Nat → Nat := fun w n => n % w.cap) : SendWnd :=
  { sw with
    rtx := (List.range sw.w.size).foldl
      (fun rtx i =>
        let idx := slot sw.w (sw.w.seq + i)
        Function.update rtx idx (subSat (rtx idx) dt)) sw.rtx
    tiny := if sw.tinyOn then subSat sw.tiny dt else sw.tiny }

/-! ## The send pointer -/

/-- `arq__send_wnd_ptr_t` -/
structure SendWndPtr where
  seq : Nat
  seg : Nat
  valid : Bool
deriving DecidableEq, Repr

/-- `arq__send_wnd_ptr_rst` -/
def sendWndPtrRst : SendWndPtr where
  seq := 0
  seg := 0
  valid := false

/-- `arq__send_wnd_ptr_next_result_t` -/
inductive PtrNextResult where
  | insideMsg
  | completedMsg
deriving DecidableEq, Repr

/-- The segment to which `arq__send_wnd_ptr_next` moves a valid pointer first: the next one
of message `m` that is not acknowledged. -/
def ptrAdvance (p : SendWndPtr) (m : Msg) : Nat :=
  u16 (p.seg + u16 (1 + ctz (not32 (m.curAckVec / 2 ^ (p.seg + 1)))))

/-- The test with which `arq__send_wnd_ptr_next` keeps a valid pointer inside its message. -/
def ptrInside (p : SendWndPtr) (m : Msg) : Prop := 2 ^ ptrAdvance p m - 1 < m.fullAckVec

instance (p : SendWndPtr) (m : Msg) : Decidable (ptrInside p m) :=
  inferInstanceAs (Decidable (_ < _))

/-- The message at index `i` of the window is one the search of `arq__send_wnd_ptr_next`
stops at. -/
def ptrSelects (p : SendWndPtr) (sw : SendWnd) (i : Nat)
    (slot : Wnd → Nat → Nat := fun w n => n % w.cap) : Prop :=
  let seq := (i + sw.w.seq) % seqSpace
  let m := sw.w.msg (slot sw.w seq)
  ¬ (p.valid ∧ p.seq = seq) ∧
    sw.rtx (slot sw.w seq) = 0 ∧ m.len > 0 ∧ m.curAckVec < m.fullAckVec

instance (p : SendWndPtr) (sw : SendWnd) (i : Nat) (slot : Wnd → Nat → Nat) :
    Decidable (ptrSelects p sw i slot) :=
  inferInstanceAs (Decidable (_ ∧ _))

/-- The search of `arq__send_wnd_ptr_next` for a message to send. -/
def sendWndPtrSearch (p : SendWndPtr) (sw : SendWnd)
    (slot : Wnd → Nat → Nat := fun w n => n % w.cap) : SendWndPtr :=
  match (List.range sw.w.size).find? (fun i => ptrSelects p sw i slot) with
  | some i =>
    let seq := (i + sw.w.seq) % seqSpace
    { seq := u16 seq
      seg := u16 (ctz (not32 (sw.w.msg (slot sw.w seq)).curAckVec))
      valid := true }
  | none => { p with valid := false }

/-- `arq__send_wnd_ptr_next` -/
def sendWndPtrNext (p : SendWndPtr) (sw : SendWnd)
    (slot : Wnd → Nat → Nat := fun w n => n % w.cap) : SendWndPtr × PtrNextResult :=
  if p.valid then
    let m := sw.w.msg (slot sw.w p.seq)
    let p' := { p with seg := ptrAdvance p m }
    if ptrInside p m then (p', .insideMsg) else (sendWndPtrSearch p' sw slot, .completedMsg)
  else (sendWndPtrSearch p sw slot, .insideMsg)

/-! ## The send frame and the send poll -/

/-- `arq__send_frame_state_t` -/
inductive SendFrameState where
  | free
  | held
  | released
deriving DecidableEq, Repr

/-- `arq__send_frame_t` -/
structure SendFrame where
  buf : Buf
  state : SendFrameState
  cap : Nat
  len : Nat

/-- `arq__send_frame_init` -/
def sendFrameInit (f : SendFrame) (cap : Nat) : SendFrame := { f with cap := u16 cap }

/-- `arq__send_frame_rst` -/
def sendFrameRst (f : SendFrame) : SendFrame := { f with len := 0, state := .free }

/-- The part of `arq__send_poll` before the send pointer is used: ACK, timers, tinygram. -/
def sendPollTimers (sw : SendWnd) (rh : FrameHdr) (dt : Nat) : SendWnd :=
  let sw := if rh.ack then sendWndAck sw rh.ackNum rh.curAckVec else sw
  let sw := sendWndStep sw dt
  if sw.tinyOn ∧ sw.tiny = 0 then { sendWndFlush sw with tinyOn := false } else sw

/-- The header that `arq__send_poll` fills in for the segment under the send pointer. -/
def sendPollHdr (sw : SendWnd) (sp : SendWndPtr) (sh : FrameHdr) : FrameHdr :=
  if sp.valid then
    { sh with
      msgLen := segCount sw.w.segLen (sw.w.msg (sp.seq % sw.w.cap)).len
      seqNum := sp.seq
      segId := sp.seg
      seg := true }
  else sh

/-- `arq__send_poll`; `sh` is `none` where the source passes a null header. The last component
is the result. -/
def sendPoll (sw : SendWnd) (sp : SendWndPtr) (sh : Option FrameHdr) (rh : FrameHdr)
    (dt rtx : Nat) : SendWnd × SendWndPtr × Option FrameHdr × Bool :=
  let sw := sendPollTimers sw rh dt
  match sh with
  | none => (sw, sp, none, false)
  | some sh =>
    let r := sendWndPtrNext sp sw
    let sw :=
      if r.2 = .completedMsg then
        { sw with rtx := Function.update sw.rtx (sp.seq % sw.w.cap) rtx }
      else sw
    let sh := sendPollHdr sw r.1 sh
    (sw, r.1, some sh, sh.seg)

end NanoArq
