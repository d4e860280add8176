import NanoArq.Model.RecvWindow
import NanoArq.Model.Connection

/-!
# The instance and its API

`arq_t`, `arq_init`, `arq_reset` and the frontend and backend calls, for valid pointer
arguments. Assertions are compiled out (`ARQ_ASSERTS_ENABLED == 0`).

`arq_backend_poll` is split at the point where it writes its frame: `pollWork` runs the three
polls, `pollFrame` is the header and the segment it passes to `arq__frame_write`, and
`backendPoll` writes them.
-/

namespace NanoArq

open Lib

/-- `arq_t` -/
structure Arq where
  cfg : Cfg
  sendWnd : SendWnd
  sendWndPtr : SendWndPtr
  sendFrame : SendFrame
  recvWnd : RecvWnd
  recvFrame : RecvFrame
  needPoll : Bool
  conn : Conn

/-! ## Initialisation -/

/-- `arq__init`; the argument holds whatever the seat held before. -/
def initArq (arq : Arq) : Arq :=
  let cfg := arq.cfg
  let msgLen := cfg.messageLengthInSegments * cfg.segmentLengthInBytes
  { arq with
    sendWnd := { arq.sendWnd with
      w := wndInit arq.sendWnd.w cfg.sendWindowSizeInMessages msgLen cfg.segmentLengthInBytes }
    sendFrame := sendFrameInit arq.sendFrame (frameLen cfg.segmentLengthInBytes)
    recvWnd := { arq.recvWnd with
      w := wndInit arq.recvWnd.w cfg.recvWindowSizeInMessages msgLen cfg.segmentLengthInBytes }
    recvFrame := recvFrameInit arq.recvFrame (frameLen cfg.segmentLengthInBytes) }

/-- `arq__rst` -/
def rstArq (b : Build) (arq : Arq) : Arq :=
  { arq with
    sendWnd := sendWndRst arq.sendWnd
    sendWndPtr := sendWndPtrRst
    sendFrame := sendFrameRst arq.sendFrame
    recvWnd := recvWndRst arq.recvWnd
    recvFrame := recvFrameRst arq.recvFrame
    needPoll := false
    conn := { arq.conn with state := if b.useConnections then .closed else .established } }

/-- `arq_init` on a seat that is large enough and holds `seat`. -/
def arqInit (b : Build) (cfg : Cfg) (seat : Arq) : Except Err Arq :=
  if checkCfg cfg = .okCompleted then .ok (rstArq b (initArq { seat with cfg := cfg }))
  else .error (checkCfg cfg)

/-- A seat of zero bytes. -/
def zeroSeat (cfg : Cfg) : Arq where
  cfg := cfg
  sendWnd :=
    { w := ⟨fun _ => msgEmpty 0, fun _ => 0, 0, 0, 0, 0, 0, 0⟩
      rtx := fun _ => 0
      tiny := 0
      tinyOn := false }
  sendWndPtr := sendWndPtrRst
  sendFrame := ⟨fun _ => 0, .free, 0, 0⟩
  recvWnd :=
    { w := ⟨fun _ => msgEmpty 0, fun _ => 0, 0, 0, 0, 0, 0, 0⟩
      ack := fun _ => false
      interSegAck := 0
      interSegAckSeq := 0
      interSegAckOn := false
      copySeq := 0
      copyOfs := 0
      slide := 0 }
  recvFrame := ⟨fun _ => 0, .accumulating, 0, 0⟩
  needPoll := false
  conn := ⟨.closed, ⟨0, 0, false, false⟩⟩

/-- The instance that `arq_init` makes of a seat of zero bytes. -/
def freshArq (b : Build) (cfg : Cfg) : Arq := rstArq b (initArq (zeroSeat cfg))

theorem arqInit_zeroSeat {b : Build} {cfg : Cfg} (h : checkCfg cfg = .okCompleted) :
    arqInit b cfg (zeroSeat cfg) = .ok (freshArq b cfg) := if_pos h

/-- A configuration for examples, with the sum of the bytes as the checksum. -/
def smallCfg (segLen msgLen cap : Nat) : Cfg where
  segmentLengthInBytes := segLen
  messageLengthInSegments := msgLen
  sendWindowSizeInMessages := cap
  recvWindowSizeInMessages := cap
  connectionRstAttempts := 3
  connectionRstPeriod := 10
  retransmissionTimeout := 5
  tinygramSendDelay := 3
  interSegmentTimeout := 4
  checksum := fun bytes => UInt32.ofNat (bytes.map UInt8.toNat).sum

/-- `arq_reset` -/
def arqReset (b : Build) (arq : Arq) : Arq × Err := (rstArq b arq, .okCompleted)

/-! ## The frontend -/

/-- `arq_connect` -/
def arqConnect (b : Build) (arq : Arq) : Arq × Err :=
  if b.useConnections then
    if arq.conn.state ≠ .closed then (arq, .errNotDisconnected)
    else
      ({ arq with
          conn := { state := .rstSent
                    u := { cnt := 0, tmr := 0, rstAck := false, simultaneous := false } } },
        .okPollRequired)
  else (arq, .okCompleted)

/-- `arq_recv`: the bytes copied and `out_recv_size` are the last component. -/
def arqRecv (arq : Arq) (recvMax : Nat) : Arq × Err × List UInt8 :=
  if arq.needPoll then (arq, .errPollRequired, [])
  else
    let r := recvWndRecv arq.recvWnd recvMax
    ({ arq with recvWnd := r.1 }, .okCompleted, r.2)

/-- `arq_send`: the last component is `out_sent_size`. -/
def arqSend (arq : Arq) (data : List UInt8) : Arq × Err × Nat :=
  if arq.needPoll then (arq, .errPollRequired, 0)
  else
    let r := sendWndSend arq.sendWnd data arq.cfg.tinygramSendDelay
    ({ arq with sendWnd := r.1 }, .okCompleted, r.2)

/-- `arq_flush` -/
def arqFlush (arq : Arq) : Arq × Err :=
  ({ arq with sendWnd := sendWndFlush arq.sendWnd }, .okCompleted)

/-! ## The backend -/

/-- `arq__next_poll` -/
def nextPoll (b : Build) (sw : SendWnd) (rw : RecvWnd) (c : Conn) : Nat :=
  let np := (List.range sw.w.size).foldl
    (fun np i =>
      let t := sw.rtx ((sw.w.seq + i) % sw.w.cap)
      if t > 0 then min np t else np) timeInfinity
  let np := if sw.tinyOn ∧ sw.tiny > 0 then min np sw.tiny else np
  let np := if rw.interSegAckOn ∧ rw.interSegAck > 0 then min np rw.interSegAck else np
  if b.useConnections then min np (connNextPoll c) else np

/-- The send frame is free, so that a poll may write a frame. -/
def sendFrameFree (arq : Arq) : Prop := arq.sendFrame.len = 0 ∧ arq.sendFrame.state ≠ .held

instance (arq : Arq) : Decidable (sendFrameFree arq) :=
  inferInstanceAs (Decidable (_ ∧ _))

/-- The state of `arq_backend_poll` after its three polls. -/
structure Polled where
  recvWnd : RecvWnd
  recvFrame : RecvFrame
  sendWnd : SendWnd
  sendWndPtr : SendWndPtr
  conn : Conn
  event : Event
  rh : FrameHdr
  sh : Option FrameHdr
  emit : Bool

/-- `arq_backend_poll` up to the point where it writes a frame. -/
def pollWork (b : Build) (arq : Arq) (dt : Nat) : Polled :=
  let sh := if sendFrameFree arq then some frameHdrInit else none
  let r := recvPoll arq.recvWnd arq.recvFrame arq.cfg.checksum sh frameHdrInit dt
    arq.cfg.interSegmentTimeout
  let s := sendPoll arq.sendWnd arq.sendWndPtr r.sh r.rh dt arq.cfg.retransmissionTimeout
  let c := connPoll b arq.conn s.2.2.1 r.rh dt arq.cfg
  { recvWnd := r.recvWnd
    recvFrame := r.recvFrame
    sendWnd := s.1
    sendWndPtr := s.2.1
    conn := c.conn
    event := c.event
    rh := r.rh
    sh := c.sh
    emit := r.emit || s.2.2.2 || c.emit }

/-- The header and the segment that `arq_backend_poll` passes to `arq__frame_write`. -/
def pollFrame (p : Polled) : Option (FrameHdr × List UInt8) :=
  match p.sh with
  | some sh =>
    if p.emit then
      if sh.seg then
        let s := wndSeg p.sendWnd.w sh.seqNum sh.segId
        some ({ sh with segLen := s.2 }, slice p.sendWnd.w.buf s.1 s.2)
      else some (sh, [])
    else none
  | none => none

/-- The outputs of `arq_backend_poll`. -/
structure PollOut where
  event : Event
  sendReady : Bool
  recvReady : Bool
  nextPoll : Nat
deriving DecidableEq, Repr

/-- `arq_backend_poll`, which always returns `okCompleted`. -/
def backendPoll (b : Build) (arq : Arq) (dt : Nat) : Arq × PollOut :=
  let p := pollWork b arq dt
  let sendFrame : SendFrame :=
    match pollFrame p with
    | some (h, seg) =>
      let r := frameWrite h seg arq.cfg.checksum arq.sendFrame.buf
      { arq.sendFrame with buf := r.1, len := u16 r.2, state := .free }
    | none => arq.sendFrame
  ({ arq with
      sendWnd := p.sendWnd
      sendWndPtr := p.sendWndPtr
      sendFrame := sendFrame
      recvWnd := p.recvWnd
      recvFrame := p.recvFrame
      needPoll := false
      conn := p.conn },
    { event := p.event
      sendReady := decide (sendFrame.len > 0)
      recvReady := recvWndPending p.recvWnd
      nextPoll := nextPoll b p.sendWnd p.recvWnd p.conn })

/-- `arq_backend_send_ptr_get`, which always returns `okCompleted`: the bytes exposed, if any. -/
def backendSendPtrGet (arq : Arq) : Arq × Option (List UInt8) :=
  if arq.sendFrame.len ≠ 0 then
    ({ arq with sendFrame := { arq.sendFrame with state := .held } },
      some (slice arq.sendFrame.buf 0 arq.sendFrame.len))
  else ({ arq with sendFrame := { arq.sendFrame with state := .free } }, none)

/-- `arq_backend_send_ptr_release` -/
def backendSendPtrRelease (arq : Arq) : Arq × Err :=
  if arq.sendFrame.state ≠ .held then (arq, .errSendPtrNotHeld)
  else
    ({ arq with
        sendFrame := { arq.sendFrame with len := 0, state := .released }
        needPoll := true }, .okPollRequired)

/-- `arq_backend_recv_fill`: the last component is `out_recv_size`. -/
def backendRecvFill (arq : Arq) (data : List UInt8) : Arq × Err × Nat :=
  let r := recvFrameFill arq.recvFrame data
  if r.1.state = .fullFramePresent then
    ({ arq with recvFrame := r.1, needPoll := true }, .okPollRequired, r.2)
  else ({ arq with recvFrame := r.1 }, .okCompleted, r.2)

/-! ## Calls -/

/-- A call of the API on one instance. -/
inductive Call where
  | send (data : List UInt8)
  | flush
  | recv (recvMax : Nat)
  | poll (dt : Nat)
  | sendPtrGet
  | sendPtrRelease
  | recvFill (data : List UInt8)
  | connect
  | reset
deriving DecidableEq

/-- The instance after a call. -/
def perform (b : Build) (arq : Arq) : Call → Arq
  | .send data => (arqSend arq data).1
  | .flush => (arqFlush arq).1
  | .recv recvMax => (arqRecv arq recvMax).1
  | .poll dt => (backendPoll b arq dt).1
  | .sendPtrGet => (backendSendPtrGet arq).1
  | .sendPtrRelease => (backendSendPtrRelease arq).1
  | .recvFill data => (backendRecvFill arq data).1
  | .connect => (arqConnect b arq).1
  | .reset => (arqReset b arq).1

end NanoArq
