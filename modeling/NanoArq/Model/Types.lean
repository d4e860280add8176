import NanoArq.Lib.Memory
import Mathlib.Algebra.Ring.Nat

/-!
# Configuration, return codes and machine arithmetic

The types of `arq.h` that every other module uses, under the names of the source. An
`unsigned`, `arq_uint16_t` or `arq_time_t` is a natural number; where the C expression can
leave the range of its type the model reduces it: `sub32` is the wrapping `unsigned`
subtraction, `u16` the conversion to `arq_uint16_t`. A byte is a `UInt8`, a buffer is a
`Lib.Mem UInt8`, and an array indexed by a slot number is a function of that number.

The fields `keepalive_period` and `disconnect_timeout` of `arq_cfg_t` and all of
`arq_stats_t` are read by no function of the source and are left out.
-/

namespace NanoArq

/-- A byte buffer. -/
abbrev Buf := Lib.Mem UInt8

/-- `arq_checksum_t`: the checksum of the bytes it is given. -/
abbrev Checksum := List UInt8 → UInt32

/-- `arq_err_t` -/
inductive Err where
  | okCompleted
  | okPollRequired
  | errInvalidParam
  | errNoAssertHandler
  | errSendPtrNotHeld
  | errPollRequired
  | errNotDisconnected
deriving DecidableEq, Repr

/-- `arq_event_t` -/
inductive Event where
  | none
  | connEstablished
  | connFailedNoResponse
  | connFailedDesync
  | connClosed
  | connResetByPeer
  | connLostPeerTimeout
deriving DecidableEq, Repr

/-- The build switches of `arq.h` that change what the functions below do. -/
structure Build where
  /-- `ARQ_USE_CONNECTIONS` -/
  useConnections : Bool
deriving DecidableEq, Repr

/-- `arq_cfg_t` -/
structure Cfg where
  segmentLengthInBytes : Nat
  messageLengthInSegments : Nat
  sendWindowSizeInMessages : Nat
  recvWindowSizeInMessages : Nat
  connectionRstAttempts : Nat
  connectionRstPeriod : Nat
  retransmissionTimeout : Nat
  tinygramSendDelay : Nat
  interSegmentTimeout : Nat
  checksum : Checksum

/-- `arq__check_cfg` -/
def checkCfg (cfg : Cfg) : Err :=
  if cfg.messageLengthInSegments = 0 then .errInvalidParam
  else if cfg.segmentLengthInBytes = 0 then .errInvalidParam
  else if cfg.sendWindowSizeInMessages = 0 then .errInvalidParam
  else if cfg.recvWindowSizeInMessages = 0 then .errInvalidParam
  else if cfg.connectionRstAttempts ≤ 1 then .errInvalidParam
  else if cfg.connectionRstPeriod = 0 then .errInvalidParam
  else .okCompleted

/-- `ARQ_TIME_INFINITY` -/
def timeInfinity : Nat := 0xFFFFFFFF

/-- `ARQ__FRAME_MAX_SEQ_NUM + 1`: sequence numbers are twelve bits wide. -/
def seqSpace : Nat := 4096

theorem two_dvd_seqSpace : 2 ∣ seqSpace := by decide

/-! ## Machine arithmetic -/

/-- Conversion to `arq_uint16_t`. -/
def u16 (x : Nat) : Nat := x % 65536

/-- `unsigned` subtraction, which wraps. -/
def sub32 (x y : Nat) : Nat := if y ≤ x then x - y else 4294967296 - (y - x)

/-- `arq__sub_sat` -/
def subSat (x y : Nat) : Nat := if x > y then x - y else 0

/-- The bitwise complement of an `unsigned`. -/
def not32 (x : Nat) : Nat := 4294967296 - 1 - x % 4294967296

/-- `arq__ctz`, by scanning at most `fuel` bits. -/
def ctzGo : Nat → Nat → Nat
  | 0, _ => 0
  | fuel + 1, x => if x % 2 = 1 then 0 else ctzGo fuel (x / 2) + 1

/-- `arq__ctz`: the number of trailing zero bits of a nonzero `unsigned`. -/
def ctz (x : Nat) : Nat := ctzGo 32 x

theorem u16_of_lt {x : Nat} (h : x < 65536) : u16 x = x := Nat.mod_eq_of_lt h

theorem sub32_of_le {x y : Nat} (h : y ≤ x) : sub32 x y = x - y := if_pos h

theorem sub32_of_lt {x y : Nat} (h : x < y) : sub32 x y = 4294967296 - (y - x) :=
  if_neg (by omega)

@[simp] theorem subSat_eq (x y : Nat) : subSat x y = x - y := by
  unfold subSat
  split <;> omega

end NanoArq
