import NanoArq.Codec.Bounds
import NanoArq.Lib.Chunks
import NanoArq.Poll.Resync
import NanoArq.Receiver.Ops

/-!
# Segments and the slots of their messages

`arq__recv_wnd_frame` checks the sequence number of a frame against the window and asserts the length
of its payload, but it takes the segment number and the number of segments as they come.

* `SegmentFits`: what these two numbers have to be.
* `segmentSafe_iff`: then, and only then, the payload is written inside the slot of its message, all
  shifts are by less than sixteen, and no message becomes longer than a slot.
* `segments_in_slots_iff`: the same for every frame that `arq_backend_poll` reads in a run.
-/

namespace NanoArq

open Lib

/-! ## Slots -/

/-- A slot that only segments which fit were stored in: its bits are those of segments of the slot,
and of an empty one behind its end. -/
structure SlotFits (segs segLen : Nat) (m : Msg) : Prop where
  bit_le : ∀ j, m.curAckVec.testBit j = true → j ≤ segs
  len_le : m.len ≤ chunkSum segLen (segs * segLen) m.curAckVec segs

/-- What the numbers of a frame have to be for the window that it arrives at. -/
def SegmentFits (segs : Nat) (rw : RecvWnd) (seq seg segCnt : Nat) (p : List UInt8) : Prop :=
  segCnt < 16 ∧ (recvWndSlide rw seq ≠ none → seg < segs ∨ seg = segs ∧
    (p = [] ∨ (rw.w.msg (seq % rw.w.cap)).curAckVec.testBit seg = true))

/-- What `arq__recv_wnd_frame` does with the numbers of a frame stays inside the slot of its
message. -/
structure SegmentSafe (rw : RecvWnd) (seq seg segCnt : Nat) (p : List UInt8) (interSegAck : Nat) :
    Prop where
  cnt_shift : segCnt < 16
  seg_shift : recvWndSlide rw seq ≠ none → seg < 16
  inside : recvWndSlide rw seq ≠ none →
    (rw.w.msg (seq % rw.w.cap)).curAckVec.testBit seg = false →
      rw.w.segLen * seg + p.length ≤ rw.w.msgLen
  outside : ∀ a, ¬ (rw.w.msgLen * (seq % rw.w.cap) ≤ a ∧ a < rw.w.msgLen * (seq % rw.w.cap + 1)) →
    (recvWndFrame rw seq seg segCnt p interSegAck).1.w.buf a = rw.w.buf a
  len_le : ∀ j, j < rw.w.cap →
    ((recvWndFrame rw seq seg segCnt p interSegAck).1.w.msg j).len ≤ rw.w.msgLen

section

variable {segs segLen : Nat} {m : Msg}

theorem SlotFits.len_le_msgLen (h : SlotFits segs segLen m) : m.len ≤ segs * segLen := by
  apply h.len_le.trans
  exact (chunkSum_le ..).trans (Nat.min_le_left _ _)

theorem SlotFits.empty (full : Nat) : SlotFits segs segLen (msgEmpty full) where
  bit_le j hj := by simp [msgEmpty] at hj
  len_le := Nat.zero_le _

theorem SlotFits.store (h : SlotFits segs segLen m) (hsegs : segs ≤ 12) (hlen : segLen ≤ 238)
    {seg n full : Nat} (hn : n ≤ segLen) (hnew : m.curAckVec.testBit seg = false)
    (hseg : seg < segs ∨ seg = segs ∧ n = 0) :
    SlotFits segs segLen { fullAckVec := full
                           curAckVec := u16 (m.curAckVec ||| 2 ^ seg)
                           len := u16 (m.len + n) } := by
  have hbits : ∀ j, (m.curAckVec ||| 2 ^ seg).testBit j = true → j ≤ segs := by
    intro j hj
    rw [Nat.testBit_or, Bool.or_eq_true, Nat.testBit_two_pow, decide_eq_true_eq] at hj
    rcases hj with hj | rfl
    · exact h.bit_le j hj
    · omega
  have hvec : u16 (m.curAckVec ||| 2 ^ seg) = m.curAckVec ||| 2 ^ seg := by
    have hlt := @lt_two_pow_of_bits (m.curAckVec ||| 2 ^ seg) 13 fun j hj => by
      have := hbits j hj
      omega
    exact u16_of_lt (Nat.lt_of_lt_of_le hlt (by decide))
  have hsum : m.len + n ≤ chunkSum segLen (segs * segLen) (m.curAckVec ||| 2 ^ seg) segs := by
    have hold := h.len_le
    rcases hseg with hlt | ⟨rfl, rfl⟩
    · have hchunk : chunkLen segLen (segs * segLen) seg = segLen := by
        have hmul := Nat.mul_le_mul_right segLen (show seg + 1 ≤ segs from hlt)
        rw [Nat.add_mul, Nat.one_mul] at hmul
        unfold chunkLen
        omega
      rw [chunkSum_set hlt hnew, hchunk]
      omega
    · rw [chunkSum_set_of_ge le_rfl]
      exact hold
  have hfits : m.len + n < 65536 := by
    have hle := (chunkSum_le segLen (segs * segLen) (m.curAckVec ||| 2 ^ seg) segs).trans
      (Nat.min_le_left _ _)
    have := Nat.mul_le_mul hsegs hlen
    omega
  rw [hvec, u16_of_lt hfits]
  exact ⟨hbits, hsum⟩

end

/-! ## One frame -/

theorem recvWndFrame_cap (rw : RecvWnd) (seq seg segCnt : Nat) (p : List UInt8)
    (interSegAck : Nat) : (recvWndFrame rw seq seg segCnt p interSegAck).1.w.cap = rw.w.cap := by
  unfold recvWndFrame
  cases hslide : recvWndSlide rw seq with
  | none => rfl
  | some rw' =>
    dsimp only
    rw [(recvWndStore_rest rw' seq seg segCnt p interSegAck).1, recvWndSlide_rest hslide]

/-- What a frame writes: nothing if it is refused or its segment is there, else its payload and the
record of its message. -/
theorem recvWndFrame_cases (rw : RecvWnd) (seq seg segCnt : Nat) (p : List UInt8)
    (interSegAck : Nat) :
    ((recvWndSlide rw seq = none ∨ (rw.w.msg (seq % rw.w.cap)).curAckVec.testBit seg = true) ∧
      (recvWndFrame rw seq seg segCnt p interSegAck).1.w.buf = rw.w.buf ∧
      (recvWndFrame rw seq seg segCnt p interSegAck).1.w.msg = rw.w.msg) ∨
    (recvWndSlide rw seq ≠ none ∧ (rw.w.msg (seq % rw.w.cap)).curAckVec.testBit seg = false ∧
      (recvWndFrame rw seq seg segCnt p interSegAck).1.w.buf =
        memcpy rw.w.buf (rw.w.msgLen * (seq % rw.w.cap) + rw.w.segLen * seg) p ∧
      (recvWndFrame rw seq seg segCnt p interSegAck).1.w.msg =
        Function.update rw.w.msg (seq % rw.w.cap)
          { fullAckVec := ackVecOf segCnt
            curAckVec := u16 ((rw.w.msg (seq % rw.w.cap)).curAckVec ||| 2 ^ seg)
            len := u16 ((rw.w.msg (seq % rw.w.cap)).len + p.length) }) := by
  cases hslide : recvWndSlide rw seq with
  | none =>
    rw [recvWndFrame, hslide]
    exact Or.inl ⟨Or.inl rfl, rfl, rfl⟩
  | some rw' =>
    have hw : rw'.w = { rw.w with seq := rw'.w.seq, size := rw'.w.size } :=
      congrArg RecvWnd.w (recvWndSlide_rest hslide)
    rw [recvWndFrame, hslide]
    dsimp only
    unfold recvWndStore
    rw [hw]
    dsimp only
    cases hbit : (rw.w.msg (seq % rw.w.cap)).curAckVec.testBit seg with
    | true =>
      rw [if_pos rfl]
      exact Or.inl ⟨Or.inr rfl, rfl, rfl⟩
    | false =>
      rw [if_neg (by decide)]
      refine Or.inr ⟨by simp, rfl, ?_⟩
      split <;> exact ⟨rfl, rfl⟩

section

variable {cap segs segLen : Nat} {rw : RecvWnd} {seq seg segCnt interSegAck : Nat} {p : List UInt8}

/-- The dimensions of a window whose slots are at most 2856 bytes long. -/
theorem slot_dims (hdims : WndDims cap (segs * segLen) segLen rw.w) (hsegs : segs ≤ 12)
    (hlen : segLen ≤ 238) : rw.w.msgLen = segs * segLen ∧ rw.w.segLen = segLen := by
  have hmul := Nat.mul_le_mul hsegs hlen
  exact ⟨hdims.msgLen_eq.trans (u16_of_lt (by omega)), hdims.segLen_eq.trans (u16_of_lt (by omega))⟩

theorem recvWndFrame_slots (hslots : ∀ j, j < rw.w.cap → SlotFits segs segLen (rw.w.msg j))
    (hcap : 0 < rw.w.cap) (hsegs : segs ≤ 12) (hlen : segLen ≤ 238) (hp : p.length ≤ segLen)
    (hfits : SegmentFits segs rw seq seg segCnt p) :
    ∀ j, j < rw.w.cap →
      SlotFits segs segLen ((recvWndFrame rw seq seg segCnt p interSegAck).1.w.msg j) := by
  intro j hj
  rcases recvWndFrame_cases rw seq seg segCnt p interSegAck with
    ⟨-, -, hmsg⟩ | ⟨htaken, hnew, -, hmsg⟩
  · rw [hmsg]
    exact hslots j hj
  · rw [hmsg]
    by_cases hjs : j = seq % rw.w.cap
    · rw [hjs, Function.update_self]
      refine (hslots _ (Nat.mod_lt _ hcap)).store hsegs hlen hp hnew ?_
      rcases hfits.2 htaken with hlt | ⟨heq, hnil | hbit⟩
      · exact Or.inl hlt
      · exact Or.inr ⟨heq, List.length_eq_zero_iff.mpr hnil⟩
      · rw [hnew] at hbit
        cases hbit
    · rw [Function.update_of_ne hjs]
      exact hslots j hj

/-- A frame is handled safely if and only if its numbers fit. -/
theorem segmentSafe_iff (hdims : WndDims cap (segs * segLen) segLen rw.w)
    (hslots : ∀ j, j < rw.w.cap → SlotFits segs segLen (rw.w.msg j)) (hcap : 0 < rw.w.cap)
    (hsegs : segs ≤ 12) (hpos : 1 ≤ segLen) (hlen : segLen ≤ 238) (hp : p.length ≤ segLen) :
    SegmentSafe rw seq seg segCnt p interSegAck ↔ SegmentFits segs rw seq seg segCnt p := by
  obtain ⟨hmsgLen, hsegLen⟩ := slot_dims hdims hsegs hlen
  have hslot := hslots (seq % rw.w.cap) (Nat.mod_lt _ hcap)
  constructor
  · intro h
    refine ⟨h.cnt_shift, fun htaken => ?_⟩
    cases hbit : (rw.w.msg (seq % rw.w.cap)).curAckVec.testBit seg with
    | true =>
      have hle := hslot.bit_le seg hbit
      rcases Nat.lt_or_eq_of_le hle with hlt | heq
      · exact Or.inl hlt
      · exact Or.inr ⟨heq, Or.inr rfl⟩
    | false =>
      have hin := h.inside htaken hbit
      rw [hmsgLen, hsegLen, Nat.mul_comm segLen] at hin
      rcases Nat.lt_trichotomy seg segs with hlt | rfl | hgt
      · exact Or.inl hlt
      · exact Or.inr ⟨rfl, Or.inl (List.length_eq_zero_iff.mp (by omega))⟩
      · have := Nat.mul_le_mul_right segLen (show segs + 1 ≤ seg from hgt)
        rw [Nat.add_mul] at this
        omega
  · intro h
    have hinside : recvWndSlide rw seq ≠ none →
        (rw.w.msg (seq % rw.w.cap)).curAckVec.testBit seg = false →
          rw.w.segLen * seg + p.length ≤ rw.w.msgLen := by
      intro htaken hnew
      rw [hmsgLen, hsegLen, Nat.mul_comm segLen]
      rcases h.2 htaken with hlt | ⟨rfl, rfl | hbit⟩
      · have := Nat.mul_le_mul_right segLen (show seg + 1 ≤ segs from hlt)
        rw [Nat.add_mul] at this
        omega
      · exact le_rfl
      · rw [hnew] at hbit
        cases hbit
    refine ⟨h.1, ?_, hinside, ?_, ?_⟩
    · intro htaken
      rcases h.2 htaken with hlt | ⟨rfl, -⟩ <;> omega
    · intro a ha
      rcases recvWndFrame_cases rw seq seg segCnt p interSegAck with
        ⟨-, hbuf, -⟩ | ⟨htaken, hnew, hbuf, -⟩
      · rw [hbuf]
      · have hin := hinside htaken hnew
        rw [Nat.mul_add, Nat.mul_one] at ha
        rw [hbuf]
        rcases Nat.lt_or_ge a (rw.w.msgLen * (seq % rw.w.cap)) with hlt | hge
        · exact memcpy_of_lt _ _ (by omega)
        · exact memcpy_of_ge _ _ (by omega)
    · intro j hj
      rw [hmsgLen]
      exact (recvWndFrame_slots hslots hcap hsegs hlen hp h j hj).len_le_msgLen

end

/-! ## The frames of a run -/

/-- The numbers of the frame that a poll reads, if it passes `arq__frame_read`, fit its window. -/
def SegmentsFit (segs : Nat) (arq : Arq) : Call → Prop
  | .poll _ => ∀ r, pollRead arq = some r → r.result = .success → r.hdr.seg = true →
      SegmentFits segs arq.recvWnd r.hdr.seqNum r.hdr.segId r.hdr.msgLen r.seg
  | _ => True

instance (segs : Nat) (rw : RecvWnd) (seq seg segCnt : Nat) (p : List UInt8) :
    Decidable (SegmentFits segs rw seq seg segCnt p) :=
  decidable_of_iff (segCnt < 16 ∧ ((recvWndSlide rw seq).isSome = true → seg < segs ∨ seg = segs ∧
    (p = [] ∨ (rw.w.msg (seq % rw.w.cap)).curAckVec.testBit seg = true)))
    (by rw [SegmentFits, Option.ne_none_iff_isSome])

instance (segs : Nat) (arq : Arq) (c : Call) : Decidable (SegmentsFit segs arq c) :=
  match c with
  | .poll _ => inferInstanceAs (Decidable (∀ r ∈ pollRead arq, _ → _ → _))
  | .send _ => .isTrue trivial
  | .flush => .isTrue trivial
  | .recv _ => .isTrue trivial
  | .sendPtrGet => .isTrue trivial
  | .sendPtrRelease => .isTrue trivial
  | .recvFill _ => .isTrue trivial
  | .connect => .isTrue trivial
  | .reset => .isTrue trivial

/-- The frame that a poll reads is handled safely. -/
def PollSegmentSafe (arq : Arq) : Prop :=
  ∀ r, pollRead arq = some r → r.result = .success → r.hdr.seg = true →
    SegmentSafe arq.recvWnd r.hdr.seqNum r.hdr.segId r.hdr.msgLen r.seg arq.cfg.interSegmentTimeout

/-- The receive frame and the slots of an instance whose run has met the guard. -/
structure SlotsSound (segs segLen : Nat) (arq : Arq) : Prop where
  received : Received arq.recvFrame
  frameCap : arq.recvFrame.cap = frameLen segLen
  slots : ∀ j, j < arq.recvWnd.w.cap → SlotFits segs segLen (arq.recvWnd.w.msg j)

section

variable {b : Build} {cfg : Cfg} {seat arq₀ arq : Arq} {segs segLen : Nat}

/-- The payload of a frame that was read is at most a segment long. -/
theorem SlotsSound.payload (h : SlotsSound segs segLen arq) {r : FrameRead}
    (hread : pollRead arq = some r) (hok : r.result = .success) : r.seg.length ≤ segLen := by
  unfold pollRead at hread
  split at hread
  · rename_i hfull
    obtain rfl := Option.some.inj hread
    have hlen := frameRead_success hok
    have hcap := (h.received.ends hfull).2.2
    rw [h.frameCap, frameLen_eq] at hcap
    rw [frameLen_eq] at hlen
    rw [FrameRead.seg, length_slice]
    omega
  · cases hread

theorem backendPoll_slots (b : Build) (arq : Arq) (dt : Nat) :
    (backendPoll b arq dt).1.recvWnd.w = (recvPollFrame arq.recvWnd arq.recvFrame arq.cfg.checksum
      frameHdrInit arq.cfg.interSegmentTimeout).1.w := by
  have hpoll : (backendPoll b arq dt).1.recvWnd = (recvPoll arq.recvWnd arq.recvFrame
      arq.cfg.checksum (if sendFrameFree arq then some frameHdrInit else none) frameHdrInit dt
      arq.cfg.interSegmentTimeout).recvWnd := rfl
  rw [hpoll]
  unfold recvPoll
  split
  · dsimp only
    rw [recvPollTimer_w]
  · dsimp only
    rw [recvPollAck_recvWnd, recvWndAck_w, recvPollTimer_w]

theorem SlotsSound.frame (h : SlotsSound segs segLen arq) (hcap : 0 < arq.recvWnd.w.cap)
    (hsegs : segs ≤ 12) (hlen : segLen ≤ 238) {dt : Nat} (hfits : SegmentsFit segs arq (.poll dt)) :
    ∀ j, j < (backendPoll b arq dt).1.recvWnd.w.cap →
      SlotFits segs segLen ((backendPoll b arq dt).1.recvWnd.w.msg j) := by
  rw [backendPoll_slots]
  refine recvPollFrame_induct (P := fun rw => ∀ j, j < rw.w.cap → SlotFits segs segLen (rw.w.msg j))
    h.slots ?_
  intro r hread hok hseg j hj
  rw [recvWndFrame_cap] at hj
  exact recvWndFrame_slots h.slots hcap hsegs hlen (h.payload hread hok) (hfits r hread hok hseg) j hj

theorem SlotsSound.perform (h : SlotsSound segs segLen arq) (hcap : 0 < arq.recvWnd.w.cap)
    (hsegs : segs ≤ 12) (hlen : segLen ≤ 238) {c : Call} (hc : SegmentsFit segs arq c) :
    SlotsSound segs segLen (perform b arq c) := by
  refine ⟨?_, ?_, ?_⟩
  · obtain hsame | ⟨f, hf, hrst⟩ | ⟨data, rfl, hfill⟩ := perform_recvFrame b arq c
    · rw [hsame]
      exact h.received
    · rw [hrst]
      refine .accumulating [] (accumulating_rst ?_)
      rw [hf, h.frameCap, frameLen_eq]
      omega
    · rw [hfill]
      exact h.received.fill data
  · rw [perform_frameCap]
    exact h.frameCap
  · cases c with
    | poll dt => exact h.frame hcap hsegs hlen hc
    | recv n =>
      simp only [NanoArq.perform, arqRecv]
      split
      · exact h.slots
      · intro j hj
        rw [recvWndRecv_rest] at hj
        obtain hsame | hempty := recvWndRecv_slot arq.recvWnd n j
        · rw [hsame]
          exact h.slots j hj
        · rw [hempty]
          exact .empty _
    | reset =>
      intro j hj
      have hmsg : (NanoArq.perform b arq .reset).recvWnd.w.msg j =
          msgEmpty arq.recvWnd.w.fullAckVec := wndRst_msg _ hj
      rw [hmsg]
      exact .empty _
    | send | flush | sendPtrGet | sendPtrRelease | recvFill | connect =>
      rw [perform_recvWnd b arq (by simp) (by simp) (by simp)]
      exact h.slots

theorem slotsSound_run (hinit : arqInit b cfg seat = .ok arq₀)
    (hsegs : cfg.messageLengthInSegments ≤ 12) (hseg : cfg.segmentLengthInBytes ≤ 238)
    (hcap : 0 < u16 cfg.recvWindowSizeInMessages)
    (hrun : Run (NanoArq.perform b) (SegmentsFit cfg.messageLengthInSegments) arq₀ arq) :
    SlotsSound cfg.messageLengthInSegments cfg.segmentLengthInBytes arq := by
  induction hrun with
  | start =>
    obtain ⟨hacc, hframe, -⟩ := arqInit_recvFrame hinit hseg
    refine ⟨.accumulating [] hacc, hframe, ?_⟩
    intro j hj
    rw [arqInit_ok hinit] at hj ⊢
    have hmsg : (rstArq b (initArq { seat with cfg := cfg })).recvWnd.w.msg j =
        msgEmpty (initArq { seat with cfg := cfg }).recvWnd.w.fullAckVec := wndRst_msg _ hj
    rw [hmsg]
    exact .empty _
  | @next arq hrun c hc ih =>
    obtain ⟨seat', hwnd⟩ := instance_recvRun hinit (hrun.mono fun _ _ _ => trivial)
    refine ih.perform ?_ hsegs hseg hc
    rw [hwnd.bounded.dims.cap_eq]
    exact hcap

/-- **Segments in their slots.** As long as the numbers of the frames fit, no message becomes longer
than its slot, and the next frame is handled safely if and only if its numbers fit. -/
theorem segments_in_slots_iff (hinit : arqInit b cfg seat = .ok arq₀)
    (hsegs : cfg.messageLengthInSegments ≤ 12) (hseg : cfg.segmentLengthInBytes ≤ 238)
    (hcap : 0 < u16 cfg.recvWindowSizeInMessages)
    (hrun : Run (NanoArq.perform b) (SegmentsFit cfg.messageLengthInSegments) arq₀ arq) :
    (∀ j, j < arq.recvWnd.w.cap → (arq.recvWnd.w.msg j).len ≤ arq.recvWnd.w.msgLen) ∧
      ∀ dt, PollSegmentSafe arq ↔ SegmentsFit cfg.messageLengthInSegments arq (.poll dt) := by
  have hsound := slotsSound_run hinit hsegs hseg hcap hrun
  obtain ⟨seat', hwnd⟩ := instance_recvRun hinit (hrun.mono fun _ _ _ => trivial)
  have hdims := hwnd.bounded.dims
  have hpos : 0 < arq.recvWnd.w.cap := by rwa [hdims.cap_eq]
  refine ⟨?_, fun dt => ?_⟩
  · intro j hj
    rw [(slot_dims hdims hsegs hseg).1]
    exact (hsound.slots j hj).len_le_msgLen
  · refine forall_congr' fun r => forall_congr' fun hread => forall_congr' fun hok =>
      forall_congr' fun _ => ?_
    exact segmentSafe_iff hdims hsound.slots hpos hsegs (checkCfg_pos (arqInit_check hinit)).2.1
      hseg (hsound.payload hread hok)

end

/-- An instance with slots of one byte that has received segment `segId` of message `0`. -/
def segmentSample (segId : Nat) : Arq :=
  perform ⟨false⟩ (freshArq ⟨false⟩ (smallCfg 1 1 1)) (.recvFill (Outgoing.bytes
    (smallCfg 1 1 1).checksum ⟨{ sampleDataHdr with segId := segId }, [5], fun _ => 0⟩))

theorem segments_in_slots_iff_sample :
    (∀ j, j < (segmentSample 0).recvWnd.w.cap →
        ((segmentSample 0).recvWnd.w.msg j).len ≤ (segmentSample 0).recvWnd.w.msgLen) ∧
      ∀ dt, PollSegmentSafe (segmentSample 0) ↔ SegmentsFit 1 (segmentSample 0) (.poll dt) :=
  @segments_in_slots_iff ⟨false⟩ (smallCfg 1 1 1) _ _ _ (arqInit_zeroSeat (by decide)) (by decide)
    (by decide) (by decide) (.next .start (Call.recvFill _) trivial)

/-- The byte of segment `4095` is written to address `4095` of a buffer of one byte. -/
theorem stray_segment_written :
    (pollRead (segmentSample 4095)).map (fun r => (r.result, r.hdr.seg, r.hdr.segId, r.seg)) =
        some (.success, true, 4095, [5]) ∧
      ((segmentSample 4095).recvWnd.w.cap, (segmentSample 4095).recvWnd.w.msgLen) = (1, 1) ∧
      (backendPoll ⟨false⟩ (segmentSample 4095) 0).1.recvWnd.w.buf 4095 = 5 ∧
      ¬ PollSegmentSafe (segmentSample 4095) := by
  refine ⟨by decide +kernel, by decide +kernel, by decide +kernel, fun hsafe => ?_⟩
  have h := (hsafe _ (pollRead_of_full (by decide +kernel)) (by decide +kernel)
    (by decide +kernel)).outside 4095 (by decide +kernel)
  revert h
  decide +kernel

end NanoArq
