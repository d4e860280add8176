import NanoArq.Model.Instance
import NanoArq.Lib.Bump

/-!
# The seat

`arq__lin_alloc_t`, `arq__alloc`, and the two calls that use them: `arq_required_size` and
`arq_init` on a seat of any size. A pointer is an address, and `ARQ_NULL_PTR` is address zero.
-/

namespace NanoArq

open Lib

/-- Reduction of a value to `unsigned`. -/
def u32 (x : Nat) : Nat := x % 4294967296

/-- Size and alignment of a type, within the bounds that `arq__lin_alloc_alloc` asserts. -/
structure CType where
  size : Nat
  align : Nat
  size_pos : 0 < size
  size_lt : size < 4294967296
  align_pow : ∃ k, k ≤ 5 ∧ align = 2 ^ k

/-- The types of the compiler that `arq__alloc` places objects of. -/
structure Platform where
  /-- `arq_t` -/
  arq : CType
  /-- `arq_time_t` -/
  time : CType
  /-- `arq__msg_t` -/
  msg : CType

/-- `arq__lin_alloc_t` -/
structure LinAlloc where
  base : Nat
  size : Nat
  capacity : Nat
deriving DecidableEq, Repr

/-- `arq__lin_alloc_init` -/
def linAllocInit (base capacity : Nat) : LinAlloc := ⟨base, 0, capacity⟩

/-- `arq__lin_alloc_alloc` -/
def linAllocAlloc (a : LinAlloc) (size align : Nat) : LinAlloc × Nat :=
  let seat := u32 (a.size + (align - 1)) &&& not32 (align - 1)
  let newSize := u32 (seat + size)
  if newSize > a.capacity then (a, 0) else ({ a with size := newSize }, a.base + seat)

/-- The pointers of `arq__alloc`: to the instance, and those that it stores in the instance. -/
structure SeatPtrs where
  arq : Nat
  /-- `send_wnd.rtx` -/
  rtx : Nat
  /-- `send_wnd.w.msg` -/
  sendMsg : Nat
  /-- `send_wnd.w.buf` -/
  sendBuf : Nat
  /-- `recv_wnd.ack` -/
  ack : Nat
  /-- `recv_wnd.w.msg` -/
  recvMsg : Nat
  /-- `recv_wnd.w.buf` -/
  recvBuf : Nat
  /-- `send_frame.buf` -/
  sendFrame : Nat
  /-- `recv_frame.buf` -/
  recvFrame : Nat
deriving DecidableEq, Repr

/-- The pointers in the order of the allocations. -/
def SeatPtrs.list (p : SeatPtrs) : List Nat :=
  [p.arq, p.rtx, p.sendMsg, p.sendBuf, p.ack, p.recvMsg, p.recvBuf, p.sendFrame, p.recvFrame]

/-- `ok` in `arq__alloc`: no pointer is null. -/
def SeatPtrs.ok (p : SeatPtrs) : Bool := p.list.all fun a => a != 0

/-- `arq__alloc`, which returns the instance where the pointers are `ok`. -/
def allocArq (P : Platform) (cfg : Cfg) (la : LinAlloc) : LinAlloc × SeatPtrs :=
  let W := cfg.sendWindowSizeInMessages
  let R := cfg.recvWindowSizeInMessages
  let msgLen := cfg.messageLengthInSegments * cfg.segmentLengthInBytes
  let frame := u32 (frameLen cfg.segmentLengthInBytes)
  let arq := linAllocAlloc la P.arq.size P.arq.align
  let rtx := linAllocAlloc arq.1 (u32 (P.time.size * W)) P.time.align
  let sendMsg := linAllocAlloc rtx.1 (u32 (P.msg.size * W)) P.msg.align
  let sendBuf := linAllocAlloc sendMsg.1 (u32 (W * msgLen)) 1
  let ack := linAllocAlloc sendBuf.1 R 1
  let recvMsg := linAllocAlloc ack.1 (u32 (P.msg.size * R)) P.msg.align
  let recvBuf := linAllocAlloc recvMsg.1 (u32 (R * msgLen)) 1
  let sendFrame := linAllocAlloc recvBuf.1 frame 1
  let recvFrame := linAllocAlloc sendFrame.1 frame 1
  (recvFrame.1,
    { arq := arq.2
      rtx := rtx.2
      sendMsg := sendMsg.2
      sendBuf := sendBuf.2
      ack := ack.2
      recvMsg := recvMsg.2
      recvBuf := recvBuf.2
      sendFrame := sendFrame.2
      recvFrame := recvFrame.2 })

/-- `arq_required_size` -/
def arqRequiredSize (P : Platform) (cfg : Cfg) : Except Err Nat :=
  if checkCfg cfg = .okCompleted then
    .ok (allocArq P cfg (linAllocInit 0 (4294967296 - 1))).1.size
  else .error (checkCfg cfg)

/-- `arq_init` on a seat of `m` bytes at `base` that holds `seat`. -/
def arqInitSeat (b : Build) (P : Platform) (cfg : Cfg) (base m : Nat) (seat : Arq) :
    Except Err (Arq × SeatPtrs) :=
  if base = 0 then .error .errInvalidParam
  else if checkCfg cfg ≠ .okCompleted then .error (checkCfg cfg)
  else
    let p := (allocArq P cfg (linAllocInit base m)).2
    if p.ok then .ok (rstArq b (initArq { seat with cfg := cfg }), p)
    else .error .errInvalidParam

/-- Where the seat is large enough, the instance is that of `arqInit`. -/
theorem arqInitSeat_ok {b : Build} {P : Platform} {cfg : Cfg} {base m : Nat} {seat arq : Arq}
    {p : SeatPtrs} (h : arqInitSeat b P cfg base m seat = .ok (arq, p)) :
    arqInit b cfg seat = .ok arq ∧ p = (allocArq P cfg (linAllocInit base m)).2 ∧ p.ok := by
  unfold arqInitSeat at h
  split_ifs at h with hbase hcfg
  dsimp only at h
  split_ifs at h with hok
  obtain ⟨rfl, rfl⟩ := Prod.mk.inj (Except.ok.inj h)
  exact ⟨if_pos (not_not.mp hcfg), rfl, hok⟩

/-! ## The allocations as a list -/

/-- The requests of `arq__alloc` in their order. -/
def seatBlocks (P : Platform) (cfg : Cfg) : List Block :=
  let W := cfg.sendWindowSizeInMessages
  let R := cfg.recvWindowSizeInMessages
  let msgLen := cfg.messageLengthInSegments * cfg.segmentLengthInBytes
  let frame := u32 (frameLen cfg.segmentLengthInBytes)
  [⟨P.arq.size, P.arq.align⟩, ⟨u32 (P.time.size * W), P.time.align⟩,
    ⟨u32 (P.msg.size * W), P.msg.align⟩, ⟨u32 (W * msgLen), 1⟩, ⟨R, 1⟩,
    ⟨u32 (P.msg.size * R), P.msg.align⟩, ⟨u32 (R * msgLen), 1⟩, ⟨frame, 1⟩, ⟨frame, 1⟩]

/-- Requests one after the other. -/
def linAllocAll : LinAlloc → List Block → LinAlloc × List Nat
  | a, [] => (a, [])
  | a, b :: bs =>
    let r := linAllocAlloc a b.len b.align
    let s := linAllocAll r.1 bs
    (s.1, r.2 :: s.2)

theorem allocArq_size (P : Platform) (cfg : Cfg) (la : LinAlloc) :
    (allocArq P cfg la).1 = (linAllocAll la (seatBlocks P cfg)).1 := rfl

theorem allocArq_list (P : Platform) (cfg : Cfg) (la : LinAlloc) :
    (allocArq P cfg la).2.list = (linAllocAll la (seatBlocks P cfg)).2 := rfl

end NanoArq
