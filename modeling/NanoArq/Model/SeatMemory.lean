import NanoArq.Model.Seat

/-!
# One memory for three arrays

`arq__alloc` places `recv_wnd.w.buf`, `send_frame.buf` and `recv_frame.buf` one directly behind the
other, so a byte that is written behind the end of one lands in the next. Here the three are one
memory, seen from three addresses; address zero is the first byte of `recv_wnd.w.buf`. `seatPoll` and
`seatPerform` are the calls on that memory: what they write to one array, the others see.
-/

namespace NanoArq

open Lib

/-- Bytes that `arq__alloc` requests for `recv_wnd.w.buf`. -/
def recvBufLen (cfg : Cfg) : Nat :=
  u32 (cfg.recvWindowSizeInMessages * (cfg.messageLengthInSegments * cfg.segmentLengthInBytes))

/-- Bytes that `arq__alloc` requests for `send_frame.buf`, and for `recv_frame.buf`. -/
def frameBufLen (cfg : Cfg) : Nat := u32 (frameLen cfg.segmentLengthInBytes)

/-- Where `recv_frame.buf` starts; `send_frame.buf` starts at `recvBufLen`. -/
def recvFrameOfs (cfg : Cfg) : Nat := recvBufLen cfg + frameBufLen cfg

/-- The instance with its three arrays in the memory `mem`. -/
def Arq.placed (arq : Arq) (mem : Buf) : Arq :=
  { arq with
    recvWnd := { arq.recvWnd with w := { arq.recvWnd.w with buf := mem } }
    sendFrame := { arq.sendFrame with buf := tail mem (recvBufLen arq.cfg) }
    recvFrame := { arq.recvFrame with buf := tail mem (recvFrameOfs arq.cfg) } }

/-- The instance that `arq_init` makes of a seat of zero bytes. -/
def freshSeat (b : Build) (cfg : Cfg) : Arq := (freshArq b cfg).placed fun _ => 0

/-- The memory of an instance whose arrays are placed. -/
def Arq.mem (arq : Arq) : Buf := arq.recvWnd.w.buf

/-- The instance whose receive window sees the frame that `arq__frame_read` has decoded in place. The
frame itself is still the one received, for `arq__recv_poll` to read. -/
def Arq.decoded (arq : Arq) : Arq :=
  if arq.recvFrame.state = .fullFramePresent then
    let r := frameRead arq.recvFrame.buf arq.recvFrame.len arq.cfg.checksum
    { arq with
      recvWnd := { arq.recvWnd with
        w := { arq.recvWnd.w with buf := setTail arq.mem (recvFrameOfs arq.cfg) r.buf } } }
  else arq

/-- `arq_backend_poll`: it decodes, stores the segment, and then writes its frame. -/
def seatPoll (b : Build) (arq : Arq) (dt : Nat) : Arq × PollOut :=
  let r := backendPoll b arq.decoded dt
  let ofs := recvBufLen arq.cfg
  let mem :=
    match pollFrame (pollWork b arq.decoded dt) with
    | some (h, seg) =>
      setTail r.1.mem ofs (frameWrite h seg arq.cfg.checksum (tail r.1.mem ofs)).1
    | none => r.1.mem
  (r.1.placed mem, r.2)

/-- The instance after a call. The calls that write to no array are those of `perform`. -/
def seatPerform (b : Build) (arq : Arq) : Call → Arq
  | .poll dt => (seatPoll b arq dt).1
  | .recvFill data =>
    let r := (backendRecvFill arq data).1
    r.placed (setTail arq.mem (recvFrameOfs arq.cfg) r.recvFrame.buf)
  | c => perform b arq c

/-- The three arrays of the instance are one memory. -/
structure Arq.Seated (arq : Arq) : Prop where
  sendFrame : arq.sendFrame.buf = tail arq.mem (recvBufLen arq.cfg)
  recvFrame : arq.recvFrame.buf = tail arq.mem (recvFrameOfs arq.cfg)

@[simp] theorem placed_mem (arq : Arq) (mem : Buf) : (arq.placed mem).mem = mem := rfl

theorem placed_seated (arq : Arq) (mem : Buf) : (arq.placed mem).Seated := ⟨rfl, rfl⟩

end NanoArq
