import NanoArq.Codec.Bounds
import NanoArq.Poll.Outgoing
import NanoArq.Poll.Resync
import NanoArq.Sender.Ops

/-!
# The assertions of the frame codec

What `ARQ_ASSERT` checks in `arq__frame_read`, `arq__cobs_decode`, `arq__frame_hdr_read`,
`arq__frame_checksum_read` and `arq__frame_len` while `arq_backend_poll` runs, for valid pointers.

`arq__cobs_decode` asserts a length of at least three, but `arq__recv_frame_fill` completes a frame
with any zero byte. No assertion fails as long as every zero arrives behind two other bytes, and
one fails in the next poll as soon as one does not (`poll_asserts_iff_long_frames`).
-/

namespace NanoArq

open Lib

/-! ## The assertions -/

/-- `c != next` in the rounds of `arq__cobs_decode`. -/
def CobsDecodeMoves (e : Nat) : Nat → Buf → Nat → Prop
  | 0, _, _ => True
  | fuel + 1, m, c =>
    if c < e then
      c ≠ c + (m c).toNat ∧ CobsDecodeMoves e fuel (Function.update m c 0) (c + (m c).toNat)
    else True

/-- `arq__frame_hdr_read` with its cursor: the header read from `buf` on, and where `src` ends. -/
def frameHdrReadCursor (m : Buf) (buf : Nat) : FrameHdr × Nat :=
  let src := buf
  let version := (m src).toNat
  let src := src + 1
  let segLen := (m src).toNat
  let src := src + 1
  let flags := m src
  let src := src + 1
  let winSize := (m src).toNat
  let src := src + 1
  let seqNum := be16 (m src >>> 4) (m src <<< 4 ||| m (src + 1) >>> 4)
  let src := src + 1
  let msgLen := (m src <<< 4 ||| m (src + 1) >>> 4).toNat
  let src := src + 1
  let segId := be16 (m src &&& 0x0F) (m (src + 1))
  let src := src + 2
  let ackNum := be16 (m src >>> 4) (m src <<< 4 ||| m (src + 1) >>> 4)
  let src := src + 2
  let curAckVec := be16 (m src &&& 0x0F) (m (src + 1))
  let src := src + 2
  ({ version := version
     segLen := segLen
     fin := flags &&& ((1 : UInt8) <<< 0) != 0
     rst := flags &&& ((1 : UInt8) <<< 1) != 0
     ack := flags &&& ((1 : UInt8) <<< 2) != 0
     seg := flags &&& ((1 : UInt8) <<< 3) != 0
     winSize := winSize
     seqNum := seqNum
     msgLen := msgLen
     segId := segId
     ackNum := ackNum
     curAckVec := curAckVec }, src)

theorem frameHdrReadCursor_eq (m : Buf) (buf : Nat) :
    frameHdrReadCursor m buf = (frameHdrRead m buf, buf + frameHeaderSize) := rfl

/-- The assertions on the way of `arq__frame_read` through the `len` bytes of `m`. -/
structure FrameReadAsserts (m : Buf) (len : Nat) : Prop where
  decode : 3 ≤ len ∧ len ≤ 256
  moves : CobsDecodeMoves (len - 1) (len - 1) m 0
  hdr : (frameHdrReadCursor (cobsDecode m len) 1).2 - 1 = frameHeaderSize
  segLen : (frameHdrReadCursor (cobsDecode m len) 1).1.segLen ≤ 256

/-- The assertions of the frame codec in one poll: those of a frame that it reads, and that of
`arq__frame_len` for a frame that it writes. -/
structure PollAsserts (b : Build) (arq : Arq) (dt : Nat) : Prop where
  read : arq.recvFrame.state = .fullFramePresent →
    FrameReadAsserts arq.recvFrame.buf arq.recvFrame.len
  written : ∀ hd seg, pollFrame (pollWork b arq dt) = some (hd, seg) → hd.segLen ≤ 256

theorem cobsDecodeMoves_of_nonzero {e : Nat} :
    ∀ (fuel : Nat) (m : Buf) (c : Nat), (∀ i, c ≤ i → i < e → m i ≠ 0) →
      CobsDecodeMoves e fuel m c := by
  intro fuel
  induction fuel with
  | zero => exact fun _ _ _ => trivial
  | succ fuel ih =>
    intro m c hm
    unfold CobsDecodeMoves
    split
    · rename_i hlt
      have hpos : (m c).toNat ≠ 0 := fun h0 => hm c le_rfl hlt (UInt8.toNat_inj.mp h0)
      refine ⟨by omega, ih _ _ ?_⟩
      intro i hi hie
      rw [Function.update_of_ne (by omega)]
      exact hm i (by omega) hie
    · trivial

/-- On a received frame everything but the length is as asserted. -/
theorem Received.asserts_iff {f : RecvFrame} (h : Received f) (hfull : f.state = .fullFramePresent)
    (hcap : f.cap ≤ 256) : FrameReadAsserts f.buf f.len ↔ 3 ≤ f.len := by
  constructor
  · exact fun hasserts => hasserts.decode.1
  · intro hlong
    cases h with
    | accumulating pre hacc => exact absurd hfull hacc.not_full
    | full x hx hnz hfits =>
      have hlen : f.len = x.length + 1 := by
        rw [hx.len, List.length_append]
        rfl
      refine ⟨⟨hlong, by omega⟩, ?_, ?_, ?_⟩
      rotate_left
      · rw [frameHdrReadCursor_eq, Nat.add_sub_cancel_left]
      · rw [frameHdrReadCursor_eq]
        exact (UInt8.toNat_lt _).le
      apply cobsDecodeMoves_of_nonzero
      intro i _ hi
      exact hx.nonzero hnz (by omega)

/-! ## The run -/

/-- The guard of a run whose zero bytes all arrive behind at least two bytes of their frame. -/
def LongFrames (arq : Arq) : Call → Prop
  | .recvFill src => arq.recvFrame.state = .accumulating → (0 : UInt8) ∈ src →
      2 ≤ arq.recvFrame.len + (src.takeWhile (· ≠ 0)).length
  | _ => True

/-- The receive frame of an instance whose run has met the guard. -/
structure FrameSound (segLen : Nat) (f : RecvFrame) : Prop where
  received : Received f
  cap : f.cap = frameLen segLen
  long : f.state = .fullFramePresent → 3 ≤ f.len

theorem takeWhile_append_zero {a : List UInt8} (ha : ∀ b ∈ a, b ≠ 0) (c : List UInt8) :
    (a ++ c).takeWhile (· ≠ 0) = a ++ c.takeWhile (· ≠ 0) := by
  apply List.takeWhile_append_of_pos
  intro b hb
  exact decide_eq_true (ha b hb)

/-- What a call of `arq__recv_frame_fill` on an accumulating frame has to do with its length. -/
theorem recvFrameFill_long {f : RecvFrame} {pre : List UInt8} (h : Accumulating f pre)
    (hcap : 2 ≤ f.cap) (src : List UInt8) :
    ((recvFrameFill f src).1.state = .fullFramePresent → 3 ≤ (recvFrameFill f src).1.len) ↔
      ((0 : UInt8) ∈ src → 2 ≤ f.len + (src.takeWhile (· ≠ 0)).length) := by
  rw [h.len]
  rcases recvFrameFill_cases h src with ⟨hacc, -⟩ | ⟨a, c, rfl, ha, hlen, hfull, -⟩ |
    ⟨a, c, rfl, -, hlen, hacc, -⟩
  · have hnz : (0 : UInt8) ∉ src := fun h0 => hacc.nonzero 0 (List.mem_append_right _ h0) rfl
    exact iff_of_true (fun hf => absurd hf hacc.not_full) (fun h0 => absurd h0 hnz)
  · have hrun : ((a ++ 0 :: c).takeWhile (· ≠ 0)).length = a.length := by
      rw [takeWhile_append_zero ha, List.takeWhile_cons_of_neg (by simp), List.append_nil]
    have hbytes : (recvFrameFill f (a ++ 0 :: c)).1.len = pre.length + a.length + 1 := by
      rw [hfull.len, List.length_append, List.length_append, ← Nat.add_assoc]
      rfl
    rw [hrun, hbytes]
    constructor
    · intro hlong _
      have := hlong hfull.state
      omega
    · intro hlong _
      have := hlong (by simp)
      omega
  · refine iff_of_true (fun hf => absurd hf hacc.not_full) fun _ => ?_
    have hrun : a.length ≤ ((a ++ c).takeWhile (· ≠ 0)).length := by
      rw [takeWhile_append_zero fun b hb => hacc.nonzero b (List.mem_append_right _ hb),
        List.length_append]
      exact Nat.le_add_right _ _
    rw [List.length_append] at hlen
    omega

section

variable {b : Build} {cfg : Cfg} {seat arq₀ arq : Arq} {segLen : Nat}

theorem FrameSound.fill_iff {f : RecvFrame} (h : FrameSound segLen f) (data : List UInt8) :
    FrameSound segLen (recvFrameFill f data).1 ↔
      (f.state = .accumulating → (0 : UInt8) ∈ data →
        2 ≤ f.len + (data.takeWhile (· ≠ 0)).length) := by
  have hroom : 2 ≤ f.cap := by
    rw [h.cap, frameLen_eq]
    omega
  cases hrec : h.received with
  | accumulating pre hacc =>
    rw [← recvFrameFill_long hacc hroom, hacc.state]
    refine ⟨fun hs _ => hs.long, fun hlong => ?_⟩
    exact ⟨h.received.fill data, (recvFrameFill_cap _ _).trans h.cap, hlong rfl⟩
  | full x hfull hx hfits =>
    rw [recvFrameFill, if_pos hfull.state, hfull.state]
    exact iff_of_true h (fun hacc => by cases hacc)

theorem FrameSound.perform (h : FrameSound segLen arq.recvFrame) (hseg : segLen ≤ 238) {c : Call}
    (hc : LongFrames arq c) : FrameSound segLen (perform b arq c).recvFrame := by
  obtain hsame | ⟨f, hcap, hrst⟩ | ⟨data, rfl, hfill⟩ := perform_recvFrame b arq c
  · rw [hsame]
    exact h
  · have hbound : f.cap < 65536 := by
      rw [hcap, h.cap, frameLen_eq]
      omega
    rw [hrst]
    exact ⟨.accumulating [] (accumulating_rst hbound), hcap.trans h.cap, fun hfull => by cases hfull⟩
  · rw [hfill]
    exact (h.fill_iff data).mpr hc

theorem frameSound_run (hinit : arqInit b cfg seat = .ok arq₀)
    (hseg : cfg.segmentLengthInBytes ≤ 238) (hrun : Run (perform b) LongFrames arq₀ arq) :
    FrameSound cfg.segmentLengthInBytes arq.recvFrame := by
  refine Run.invariant (I := fun arq => FrameSound cfg.segmentLengthInBytes arq.recvFrame) ?_ ?_ hrun
  · obtain ⟨hacc, hcap, -⟩ := arqInit_recvFrame hinit hseg
    exact ⟨.accumulating [] hacc, hcap, fun hfull => absurd hfull hacc.not_full⟩
  · intro arq c hs hc
    exact hs.perform hseg hc

/-- A frame is never written with a segment longer than configured. -/
theorem pollFrame_cfg_segLen (hinit : arqInit b cfg seat = .ok arq₀)
    (hseg : cfg.segmentLengthInBytes ≤ 238) (hrun : Run (perform b) (fun _ _ => True) arq₀ arq)
    {dt : Nat} {hd : FrameHdr} {payload : List UInt8}
    (h : pollFrame (pollWork b arq dt) = some (hd, payload)) :
    hd.segLen ≤ cfg.segmentLengthInBytes := by
  obtain ⟨seat', hwnd⟩ := instance_sendRun hinit hrun
  have hdims := (SendRun.timers arq.sendWnd (pollRh arq) dt).dims (hwnd.dims ⟨rfl, rfl, rfl, rfl⟩)
  have hle := pollFrame_segLen h
  rw [pollTimers, hdims.segLen_eq, u16_of_lt (by omega)] at hle
  exact hle

/-- Where no frame is written with too long a segment, the assertions are about the length of the
frame that is read. -/
theorem pollAsserts_iff (hrec : Received arq.recvFrame) (hcap : arq.recvFrame.cap ≤ 256) {dt : Nat}
    (hwritten : ∀ hd payload, pollFrame (pollWork b arq dt) = some (hd, payload) → hd.segLen ≤ 256) :
    PollAsserts b arq dt ↔ (arq.recvFrame.state = .fullFramePresent → 3 ≤ arq.recvFrame.len) := by
  constructor
  · exact fun hasserts hfull => (hasserts.read hfull).decode.1
  · exact fun hlong => ⟨fun hfull => (hrec.asserts_iff hfull hcap).mpr (hlong hfull), hwritten⟩

/-- **Assertions of the frame codec.** They hold in every poll of a run in which every zero byte
arrives behind at least two bytes of its frame, and the first zero that does not makes the next
poll fail. -/
theorem poll_asserts_iff_long_frames (hinit : arqInit b cfg seat = .ok arq₀)
    (hseg : cfg.segmentLengthInBytes ≤ 238) (hrun : Run (perform b) LongFrames arq₀ arq) :
    (∀ dt, PollAsserts b arq dt) ∧
      ∀ data dt, PollAsserts b (perform b arq (.recvFill data)) dt ↔
        LongFrames arq (.recvFill data) := by
  have hsound := frameSound_run hinit hseg hrun
  have hall : Run (perform b) (fun _ _ => True) arq₀ arq := hrun.mono fun _ _ _ => trivial
  have hcap : arq.recvFrame.cap ≤ 256 := by
    rw [hsound.cap, frameLen_eq]
    omega
  refine ⟨fun dt => (pollAsserts_iff hsound.received hcap ?_).mpr hsound.long, fun data dt => ?_⟩
  · intro hd payload h
    have := pollFrame_cfg_segLen hinit hseg hall h
    omega
  · have hfill : (perform b arq (.recvFill data)).recvFrame =
        (recvFrameFill arq.recvFrame data).1 := backendRecvFill_recvFrame arq data
    rw [pollAsserts_iff, hfill]
    · refine Iff.trans ?_ (hsound.fill_iff data)
      exact ⟨fun hlong => ⟨hsound.received.fill data, (recvFrameFill_cap _ _).trans hsound.cap,
        hlong⟩, fun hs => hs.long⟩
    · rw [hfill]
      exact hsound.received.fill data
    · rw [hfill, recvFrameFill_cap]
      exact hcap
    · intro hd payload h
      have := pollFrame_cfg_segLen hinit hseg (hall.next (.recvFill data) trivial) h
      omega

theorem poll_asserts_iff_long_frames_sample :
    (∀ dt, PollAsserts ⟨false⟩ (perform ⟨false⟩ (freshArq ⟨false⟩ (smallCfg 1 1 1))
        (.recvFill [3, 9, 0])) dt) ∧
      ∀ data dt, PollAsserts ⟨false⟩ (perform ⟨false⟩ (perform ⟨false⟩
          (freshArq ⟨false⟩ (smallCfg 1 1 1)) (.recvFill [3, 9, 0])) (.recvFill data)) dt ↔
        LongFrames (perform ⟨false⟩ (freshArq ⟨false⟩ (smallCfg 1 1 1)) (.recvFill [3, 9, 0]))
          (.recvFill data) := by
  refine poll_asserts_iff_long_frames (arqInit_zeroSeat rfl) ?_
    (.next .start (Call.recvFill [3, 9, 0]) ?_)
  · change 1 ≤ 238
    omega
  · exact fun _ _ => by decide

/-- One zero byte is a frame, `arq_backend_recv_fill` requires a poll for it, and that poll decodes
a frame of one byte. -/
theorem single_zero_asserts :
    (backendRecvFill (freshArq ⟨false⟩ (smallCfg 1 1 1)) [0]).2 = (.okPollRequired, 1) ∧
      ¬ PollAsserts ⟨false⟩ (perform ⟨false⟩ (freshArq ⟨false⟩ (smallCfg 1 1 1)) (.recvFill [0])) 0 := by
  refine ⟨rfl, fun hasserts => ?_⟩
  have hlen := (hasserts.read rfl).decode.1
  exact absurd hlen (by decide)

end

end NanoArq
