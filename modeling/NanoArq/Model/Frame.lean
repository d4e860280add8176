import NanoArq.Model.Types

/-!
# The frame codec

`arq__frame_hdr_write`, `arq__frame_hdr_read`, the COBS coder, `arq__frame_write` and
`arq__frame_read`, all on a buffer that is patched in place, and the accumulator
`arq__recv_frame_fill`.

A `uint16` or `uint32` is stored after `arq__hton16` or `arq__hton32` and read back byte by
byte, so the buffer sees its most significant byte first on either kind of CPU
(`memBytes16_hton16`, `memBytes32_hton32`); the model writes these bytes directly.

`arq__cobs_decode` loops until its cursor reaches the last byte. A code byte `0` inside the
frame would keep the cursor where it is for ever; `cobsDecodeGo` returns the cursor, so
that "the loop has ended" is the statement `e ≤ c` about its result.
-/

namespace NanoArq

open Lib

/-! ## Byte order -/

/-- `arq__hton16`, for the value of `ARQ_LITTLE_ENDIAN_CPU`. -/
def hton16 (littleEndian : Bool) (x : UInt16) : UInt16 :=
  if littleEndian then (x <<< 8) ||| (x >>> 8) else x

/-- The bytes of a `uint16` in memory order. -/
def memBytes16 (littleEndian : Bool) (x : UInt16) : List UInt8 :=
  if littleEndian then [x.toUInt8, (x >>> 8).toUInt8] else [(x >>> 8).toUInt8, x.toUInt8]

/-- `arq__hton32` -/
def hton32 (littleEndian : Bool) (x : UInt32) : UInt32 :=
  if littleEndian then
    (x >>> 24) ||| ((x &&& 0x00FF0000) >>> 8) ||| ((x &&& 0x0000FF00) <<< 8) ||| (x <<< 24)
  else x

/-- The bytes of a `uint32` in memory order. -/
def memBytes32 (littleEndian : Bool) (x : UInt32) : List UInt8 :=
  if littleEndian then
    [x.toUInt8, (x >>> 8).toUInt8, (x >>> 16).toUInt8, (x >>> 24).toUInt8]
  else [(x >>> 24).toUInt8, (x >>> 16).toUInt8, (x >>> 8).toUInt8, x.toUInt8]

/-- The most significant byte of a field stored as a `uint16`. -/
def hi8 (x : Nat) : UInt8 := UInt8.ofNat (x / 256)

/-- The least significant byte of a field stored as a `uint16`. -/
def lo8 (x : Nat) : UInt8 := UInt8.ofNat x

/-- `arq__ntoh16` of two bytes in network order. -/
def be16 (hi lo : UInt8) : Nat := hi.toNat * 256 + lo.toNat

/-- The four bytes of a checksum in network order. -/
def be32Write (c : UInt32) : List UInt8 :=
  [(c >>> 24).toUInt8, (c >>> 16).toUInt8, (c >>> 8).toUInt8, c.toUInt8]

/-- `arq__ntoh32` of the four bytes from address `ofs` on. -/
def be32Read (m : Buf) (ofs : Nat) : UInt32 :=
  (m ofs).toUInt32 <<< 24 ||| (m (ofs + 1)).toUInt32 <<< 16 |||
    (m (ofs + 2)).toUInt32 <<< 8 ||| (m (ofs + 3)).toUInt32

/-! ## Headers -/

/-- `arq__frame_hdr_t` -/
structure FrameHdr where
  version : Nat
  segLen : Nat
  winSize : Nat
  seqNum : Nat
  msgLen : Nat
  segId : Nat
  ackNum : Nat
  curAckVec : Nat
  rst : Bool
  fin : Bool
  ack : Bool
  seg : Bool
deriving DecidableEq, Repr

/-- `arq__frame_hdr_init` -/
def frameHdrInit : FrameHdr where
  version := 0
  segLen := 0
  winSize := 0
  seqNum := 0
  msgLen := 0
  segId := 0
  ackNum := 0
  curAckVec := 0
  rst := false
  fin := false
  ack := false
  seg := false

/-- `ARQ__FRAME_HEADER_SIZE` -/
def frameHeaderSize : Nat := 12

/-- `ARQ__FRAME_COBS_OVERHEAD` -/
def frameCobsOverhead : Nat := 2

def flagBit (b : Bool) (k : UInt8) : UInt8 := (if b then 1 else 0) <<< k

/-- `arq__frame_hdr_write`: the twelve header bytes. -/
def frameHdrWrite (h : FrameHdr) : List UInt8 :=
  [ UInt8.ofNat h.version,
    UInt8.ofNat h.segLen,
    flagBit h.fin 0 ||| flagBit h.rst 1 ||| flagBit h.ack 2 ||| flagBit h.seg 3,
    UInt8.ofNat h.winSize,
    hi8 h.seqNum <<< 4 ||| lo8 h.seqNum >>> 4,
    lo8 h.seqNum <<< 4 ||| UInt8.ofNat (h.msgLen / 16),
    UInt8.ofNat (h.msgLen * 16) ||| (hi8 h.segId &&& 0x0F),
    lo8 h.segId,
    hi8 h.ackNum <<< 4 ||| lo8 h.ackNum >>> 4,
    lo8 h.ackNum <<< 4,
    hi8 h.curAckVec &&& 0x0F,
    lo8 h.curAckVec ]

/-- `arq__frame_hdr_read` of the twelve bytes from address `ofs` on. -/
def frameHdrRead (m : Buf) (ofs : Nat) : FrameHdr where
  version := (m ofs).toNat
  segLen := (m (ofs + 1)).toNat
  fin := m (ofs + 2) &&& ((1 : UInt8) <<< 0) != 0
  rst := m (ofs + 2) &&& ((1 : UInt8) <<< 1) != 0
  ack := m (ofs + 2) &&& ((1 : UInt8) <<< 2) != 0
  seg := m (ofs + 2) &&& ((1 : UInt8) <<< 3) != 0
  winSize := (m (ofs + 3)).toNat
  seqNum := be16 (m (ofs + 4) >>> 4) (m (ofs + 4) <<< 4 ||| m (ofs + 5) >>> 4)
  msgLen := (m (ofs + 5) <<< 4 ||| m (ofs + 6) >>> 4).toNat
  segId := be16 (m (ofs + 6) &&& 0x0F) (m (ofs + 7))
  ackNum := be16 (m (ofs + 8) >>> 4) (m (ofs + 8) <<< 4 ||| m (ofs + 9) >>> 4)
  curAckVec := be16 (m (ofs + 10) &&& 0x0F) (m (ofs + 11))

/-! ## COBS -/

/-- The loop of `arq__cobs_encode`: `patch` is the last zero seen, `c` the cursor, and the
last argument the number of bytes left before `e`. -/
def cobsEncodeGo (m : Buf) (patch c : Nat) : Nat → Buf × Nat
  | 0 => (m, patch)
  | n + 1 =>
    if m c = 0 then
      cobsEncodeGo (Function.update m patch (UInt8.ofNat (c - patch))) c (c + 1) n
    else cobsEncodeGo m patch (c + 1) n

/-- `arq__cobs_encode` of the `len` bytes of `m`. -/
def cobsEncode (m : Buf) (len : Nat) : Buf :=
  let e := 1 + (len - 2)
  let r := cobsEncodeGo m 0 1 (len - 2)
  Function.update (Function.update r.1 r.2 (UInt8.ofNat (e - r.2))) e 0

/-- The loop of `arq__cobs_decode`, run for at most `fuel` rounds: the patched buffer and
the cursor. -/
def cobsDecodeGo (e : Nat) : Nat → Buf → Nat → Buf × Nat
  | 0, m, c => (m, c)
  | fuel + 1, m, c =>
    if c < e then cobsDecodeGo e fuel (Function.update m c 0) (c + (m c).toNat) else (m, c)

/-- `arq__cobs_decode` of the `len` bytes of `m`. -/
def cobsDecode (m : Buf) (len : Nat) : Buf := (cobsDecodeGo (len - 1) (len - 1) m 0).1

/-! ## Frames -/

/-- `arq__frame_len` -/
def frameLen (segLen : Nat) : Nat := frameCobsOverhead + frameHeaderSize + segLen + 4

/-- `arq__frame_write` of the header `h` and the `h.segLen` bytes `seg` into the buffer `m`. -/
def frameWrite (h : FrameHdr) (seg : List UInt8) (checksum : Checksum) (m : Buf) : Buf × Nat :=
  let m := memcpy m 1 (frameHdrWrite h)
  let m := memcpy m (1 + frameHeaderSize) seg
  let c := checksum (slice m 1 (frameHeaderSize + h.segLen))
  let m := memcpy m (1 + frameHeaderSize + h.segLen) (be32Write c)
  (cobsEncode m (frameLen h.segLen), frameLen h.segLen)

/-- `arq__frame_read_result_t` -/
inductive FrameReadResult where
  | success
  | errChecksum
  | errMalformed
deriving DecidableEq, Repr

/-- `arq__frame_checksum_read` -/
def frameChecksumRead (m : Buf) (len segLen : Nat) (checksum : Checksum) : FrameReadResult :=
  if frameLen segLen > len then .errMalformed
  else if be32Read m (1 + frameHeaderSize + segLen) ≠
      checksum (slice m 1 (frameHeaderSize + segLen)) then .errChecksum
  else .success

/-- What `arq__frame_read` leaves behind: its result, the header, and the decoded buffer, in
which the segment starts at address `1 + frameHeaderSize`. -/
structure FrameRead where
  result : FrameReadResult
  hdr : FrameHdr
  buf : Buf

/-- The segment `arq__frame_read` points its caller at. -/
def FrameRead.seg (r : FrameRead) : List UInt8 := slice r.buf (1 + frameHeaderSize) r.hdr.segLen

/-- `arq__frame_read` of the `len` bytes of `m`. -/
def frameRead (m : Buf) (len : Nat) (checksum : Checksum) : FrameRead :=
  let m := cobsDecode m len
  let h := frameHdrRead m 1
  { result := frameChecksumRead m len h.segLen checksum, hdr := h, buf := m }

/-! ## The receive frame -/

/-- `arq__recv_frame_state_t` -/
inductive RecvFrameState where
  | accumulating
  | fullFramePresent
deriving DecidableEq, Repr

/-- `arq__recv_frame_t` -/
structure RecvFrame where
  buf : Buf
  state : RecvFrameState
  cap : Nat
  len : Nat

/-- `arq__recv_frame_init` -/
def recvFrameInit (f : RecvFrame) (cap : Nat) : RecvFrame := { f with cap := u16 cap }

/-- `arq__recv_frame_rst` -/
def recvFrameRst (f : RecvFrame) : RecvFrame := { f with len := 0, state := .accumulating }

/-- The copy loop of `arq__recv_frame_fill`: the patched buffer, the number of bytes copied,
and whether the last one was zero. -/
def recvFrameFillGo (m : Buf) (dst : Nat) : List UInt8 → Buf × Nat × Bool
  | [] => (m, 0, false)
  | b :: bs =>
    let m := Function.update m dst b
    if b = 0 then (m, 1, true)
    else
      let r := recvFrameFillGo m (dst + 1) bs
      (r.1, r.2.1 + 1, r.2.2)

/-- `arq__recv_frame_fill`: the new frame and the number of bytes taken from `src`. -/
def recvFrameFill (f : RecvFrame) (src : List UInt8) : RecvFrame × Nat :=
  if f.state = .fullFramePresent then (f, 0)
  else
    let r := recvFrameFillGo f.buf f.len (src.take (sub32 f.cap f.len))
    ({ f with
        buf := r.1
        len := u16 (f.len + r.2.1)
        state := if r.2.2 then .fullFramePresent else f.state },
      r.2.1)

end NanoArq
