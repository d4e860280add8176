import NanoArq.Model.SendWindow

/-!
# The receive side

The receive window `arq__recv_wnd_t` and `arq__recv_poll`.

`arq__recv_wnd_frame` slides the window lazily: reading counts the messages handed to the
application in `slide`, and only a frame that no longer fits moves the base `w.seq`. The two
parts of the function are separate definitions, `recvWndSlide` and `recvWndStore`.
-/

namespace NanoArq

open Lib

/-- `arq__recv_wnd_t` -/
structure RecvWnd where
  w : Wnd
  ack : Nat → Bool
  interSegAck : Nat
  interSegAckSeq : Nat
  interSegAckOn : Bool
  copySeq : Nat
  copyOfs : Nat
  slide : Nat

/-- `arq__recv_wnd_rst` -/
def recvWndRst (rw : RecvWnd) : RecvWnd :=
  { w := wndRst rw.w
    copySeq := 0
    copyOfs := 0
    slide := 0
    interSegAckOn := false
    interSegAck := timeInfinity
    interSegAckSeq := 0
    ack := (List.range rw.w.cap).foldl (fun ack i => Function.update ack i false) rw.ack }

/-! ## Frames -/

/-- `new_size` in `arq__recv_wnd_frame`: the size at which the window reaches `seq`. -/
def recvNewSize (rw : RecvWnd) (seq : Nat) : Nat :=
  (sub32 seq rw.w.seq + 1) % 4294967296 % seqSpace

/-- The first part of `arq__recv_wnd_frame`: make room for `seq`, or refuse it. -/
def recvWndSlide (rw : RecvWnd) (seq : Nat) : Option RecvWnd :=
  let newSize := recvNewSize rw seq
  if newSize > rw.w.cap then
    if sub32 newSize rw.slide > rw.w.cap then none
    else some { rw with
      w := { rw.w with
        size := u16 (sub32 newSize rw.slide)
        seq := (rw.w.seq + rw.slide) % seqSpace }
      slide := 0 }
  else some { rw with w := { rw.w with size := u16 (max rw.w.size newSize) } }

/-- The second part of `arq__recv_wnd_frame`: store the segment, or flag the ACK of one that
is already there. -/
def recvWndStore (rw : RecvWnd) (seq seg segCnt : Nat) (p : List UInt8) (interSegAck : Nat)
    (slot : Wnd → Nat → Nat := fun w n => n % w.cap) : RecvWnd × Nat :=
  let idx := slot rw.w seq
  let m := rw.w.msg idx
  if m.curAckVec.testBit seg then ({ rw with ack := Function.update rw.ack idx true }, 0)
  else
    let m' : Msg :=
      { fullAckVec := ackVecOf segCnt
        curAckVec := u16 (m.curAckVec ||| 2 ^ seg)
        len := u16 (m.len + p.length) }
    let w :=
      { rw.w with
        -- Nothing bounds `seg` here: the bytes may land behind the window, see `seatPoll`.
        buf := memcpy rw.w.buf (wndSeg rw.w seq seg slot).1 p
        msg := Function.update rw.w.msg idx m' }
    if seg = sub32 segCnt 1 then
      ({ rw with w := w, ack := Function.update rw.ack idx true, interSegAckOn := false }, p.length)
    else
      ({ rw with
          w := w
          interSegAck := interSegAck
          interSegAckSeq := seq
          interSegAckOn := true }, p.length)

/-- `arq__recv_wnd_frame`: the new window and the number of bytes stored. -/
def recvWndFrame (rw : RecvWnd) (seq seg segCnt : Nat) (p : List UInt8) (interSegAck : Nat)
    (slot : Wnd → Nat → Nat := fun w n => n % w.cap) : RecvWnd × Nat :=
  match recvWndSlide rw seq with
  | none => (rw, 0)
  | some rw => recvWndStore rw seq seg segCnt p interSegAck slot

/-! ## Reading -/

/-- `arq__recv_wnd_pending` -/
def recvWndPending (rw : RecvWnd) : Bool :=
  if rw.w.size ≠ 0 then
    let m := rw.w.msg (rw.w.seq % rw.w.cap)
    decide (m.curAckVec = m.fullAckVec)
  else false

/-- The loop of `arq__recv_wnd_recv` from index `i` on, with `n` messages of the window
left: the new window and the bytes copied to `dst`. -/
def recvWndRecvGo (base n i : Nat) (rw : RecvWnd) (dstMax : Nat)
    (slot : Wnd → Nat → Nat := fun w n => n % w.cap) : RecvWnd × List UInt8 :=
  match n with
  | 0 => (rw, [])
  | n + 1 =>
    if dstMax = 0 then (rw, [])
    else
      let idx := slot rw.w (base + i)
      let m := rw.w.msg idx
      let copyLen := min dstMax (sub32 m.len rw.copyOfs)
      if m.len = 0 then (rw, [])
      else if m.curAckVec ≠ m.fullAckVec then (rw, [])
      else
        let bytes := slice rw.w.buf (idx * rw.w.msgLen + rw.copyOfs) copyLen
        if rw.copyOfs + copyLen < m.len then
          ({ rw with copyOfs := u16 (rw.copyOfs + copyLen) }, bytes)
        else
          let rw :=
            { rw with
              w := { rw.w with msg := Function.update rw.w.msg idx (msgEmpty rw.w.fullAckVec) }
              copyOfs := 0
              copySeq := (rw.copySeq + 1) % seqSpace
              slide := u16 (rw.slide + 1) }
          let r := recvWndRecvGo base n (i + 1) rw (dstMax - copyLen) slot
          (r.1, bytes ++ r.2)

/-- `arq__recv_wnd_recv`: the new window and the bytes copied. -/
def recvWndRecv (rw : RecvWnd) (dstMax : Nat)
    (slot : Wnd → Nat → Nat := fun w n => n % w.cap) : RecvWnd × List UInt8 :=
  recvWndRecvGo rw.copySeq rw.w.size 0 rw dstMax slot

/-! ## Acknowledgements and the receive poll -/

/-- `arq__recv_wnd_ack`: the sequence number and ACK vector reported, if any. -/
def recvWndAck (rw : RecvWnd)
    (slot : Wnd → Nat → Nat := fun w n => n % w.cap) : RecvWnd × Option (Nat × Nat) :=
  match (List.range rw.w.size).find? (fun i => rw.ack (slot rw.w (rw.w.seq + i))) with
  | some i =>
    let idx := slot rw.w (rw.w.seq + i)
    ({ rw with ack := Function.update rw.ack idx false },
      some ((rw.w.seq + i) % seqSpace, (rw.w.msg idx).curAckVec))
  | none => (rw, none)

/-- The inter-segment timer of `arq__recv_poll`. -/
def recvPollTimer (rw : RecvWnd) (dt : Nat) : RecvWnd :=
  if rw.interSegAckOn then
    if subSat rw.interSegAck dt = 0 then
      { rw with
        interSegAck := 0
        interSegAckOn := false
        ack := Function.update rw.ack (rw.interSegAckSeq % rw.w.cap) true }
    else { rw with interSegAck := subSat rw.interSegAck dt }
  else rw

/-- The handling of a received frame in `arq__recv_poll`: the window, the receive frame and the
header `rh` that the later stages of the poll see. -/
def recvPollFrame (rw : RecvWnd) (rf : RecvFrame) (checksum : Checksum) (rh : FrameHdr)
    (interSegAck : Nat) : RecvWnd × RecvFrame × FrameHdr :=
  if rf.state = .fullFramePresent then
    let r := frameRead rf.buf rf.len checksum
    let rw :=
      if r.result = .success ∧ r.hdr.seg then
        (recvWndFrame rw r.hdr.seqNum r.hdr.segId r.hdr.msgLen r.seg interSegAck).1
      else rw
    (rw, recvFrameRst { rf with buf := r.buf }, r.hdr)
  else (rw, rf, rh)

/-- The ACK part of `arq__recv_poll`. -/
def recvPollAck (rw : RecvWnd) (sh : FrameHdr) : RecvWnd × FrameHdr :=
  match recvWndAck rw with
  | (rw, some (seq, vec)) => (rw, { sh with ack := true, ackNum := seq, curAckVec := vec })
  | (rw, none) => (rw, { sh with ack := false })

/-- What `arq__recv_poll` leaves behind, with its result `emit`. -/
structure RecvPolled where
  recvWnd : RecvWnd
  recvFrame : RecvFrame
  sh : Option FrameHdr
  rh : FrameHdr
  emit : Bool

/-- `arq__recv_poll`; `sh` is `none` where the source passes a null header. -/
def recvPoll (rw : RecvWnd) (rf : RecvFrame) (checksum : Checksum) (sh : Option FrameHdr)
    (rh : FrameHdr) (dt interSegAck : Nat) : RecvPolled :=
  let r := recvPollFrame rw rf checksum rh interSegAck
  let rw := recvPollTimer r.1 dt
  match sh with
  | none => { recvWnd := rw, recvFrame := r.2.1, sh := none, rh := r.2.2, emit := false }
  | some sh =>
    let a := recvPollAck rw sh
    { recvWnd := a.1, recvFrame := r.2.1, sh := some a.2, rh := r.2.2, emit := a.2.ack }

end NanoArq
