import NanoArq.Link.Pair
import NanoArq.Receiver.Accept

/-!
# Repeated data frames

A sender transmits a message again when its ACK is lost. `Handled` is what the receiver owes it for a
data frame: the segment is stored now, or the ACK of its message is flagged. It does so for the
messages that its window can still designate (`WithinReach`), and no others: a message that the
window has moved past stays in the sender's window, and its frames are dropped without an ACK.
-/

namespace NanoArq

open Lib

/-- The window designates the message of the frame, and the segment was not there and is stored
now, or the ACK of the message is flagged. -/
def Handled (rw : RecvWnd) (seq seg segCnt : Nat) (p : List UInt8) (interSegAck : Nat) : Prop :=
  let rw' := (recvWndFrame rw seq seg segCnt p interSegAck).1
  ∃ i, i < rw'.w.size ∧ (rw'.w.seq + i) % seqSpace = seq ∧
    ((rw.w.msg (seq % rw.w.cap)).curAckVec.testBit seg = false ∧
        slice rw'.w.buf (wndSeg rw'.w seq seg).1 p.length = p ∨
      rw'.ack ((rw'.w.seq + i) % rw'.w.cap) = true)

instance (rw : RecvWnd) (seq seg segCnt : Nat) (p : List UInt8) (interSegAck : Nat) :
    Decidable (Handled rw seq seg segCnt p interSegAck) :=
  inferInstanceAs (Decidable (∃ i, i < (recvWndFrame rw seq seg segCnt p interSegAck).1.w.size ∧ _))

/-- The number of the frame is in the window, or in the window that begins behind the messages
handed over; and it is not the one just below the base. -/
def WithinReach (rw : RecvWnd) (seq : Nat) : Prop :=
  wndIndex rw.w seq ≠ seqSpace - 1 ∧
    (wndIndex rw.w seq < rw.w.cap ∨
      rw.slide ≤ wndIndex rw.w seq ∧ wndIndex rw.w seq < rw.slide + rw.w.cap)

section

variable {cap msgLen segLen : Nat} {rw rw' : RecvWnd} {seq seg segCnt : Nat} {p : List UInt8}
  {interSegAck : Nat}

theorem designates_iff {w : Wnd} (hbase : w.seq < seqSpace) (hseq : seq < seqSpace)
    (hsize : w.size ≤ seqSpace) {P : Nat → Prop} :
    (∃ i, i < w.size ∧ (w.seq + i) % seqSpace = seq ∧ P i) ↔
      wndIndex w seq < w.size ∧ P (wndIndex w seq) := by
  constructor
  · rintro ⟨i, hi, rfl, hP⟩
    rw [wndIndex_of_lt hbase (by omega)]
    exact ⟨hi, hP⟩
  · rintro ⟨hlt, hP⟩
    exact ⟨_, hlt, (seq_of_wndIndex hbase seq).trans (Nat.mod_eq_of_lt hseq), hP⟩

/-- In the slot of the frame, the segment is stored or the ACK is flagged. -/
theorem recvWndStore_handles (rw : RecvWnd) (seq seg segCnt : Nat) (p : List UInt8)
    (interSegAck : Nat) :
    let rw' := (recvWndStore rw seq seg segCnt p interSegAck).1
    (rw.w.msg (seq % rw.w.cap)).curAckVec.testBit seg = false ∧
        slice rw'.w.buf (wndSeg rw'.w seq seg).1 p.length = p ∨
      rw'.ack (seq % rw.w.cap) = true := by
  unfold recvWndStore
  dsimp only
  by_cases hbit : (rw.w.msg (seq % rw.w.cap)).curAckVec.testBit seg
  · rw [if_pos hbit]
    exact Or.inr (Function.update_self ..)
  · rw [if_neg hbit]
    refine Or.inl ⟨Bool.eq_false_iff.mpr hbit, ?_⟩
    split <;> exact slice_memcpy_self _ _ _

/-- A window that has made room handles the frame if its message is inside. -/
theorem handled_iff_index (h : RecvBounded cap msgLen segLen rw) (hcap : rw.w.cap ≤ 2048)
    (hdvd : rw.w.cap ∣ seqSpace) (hseq : seq < seqSpace) (hslide : recvWndSlide rw seq = some rw') :
    Handled rw seq seg segCnt p interSegAck ↔ wndIndex rw'.w seq < rw'.w.size := by
  have hb := h.slide hslide
  have hsize := hb.size_le
  obtain ⟨hw, -, -, -⟩ := recvWndStore_rest rw' seq seg segCnt p interSegAck
  have hcap' : rw'.w.cap = rw.w.cap := hb.dims.cap_eq.trans h.dims.cap_eq.symm
  have hmsg : rw'.w.msg = rw.w.msg := by
    rw [recvWndSlide_rest hslide]
  have hbase' : (recvWndStore rw' seq seg segCnt p interSegAck).1.w.seq < seqSpace := by
    rw [hw]
    exact hb.seq_lt
  have hindex : wndIndex (recvWndStore rw' seq seg segCnt p interSegAck).1.w seq =
      wndIndex rw'.w seq := by
    rw [hw]
    rfl
  have hframe : recvWndFrame rw seq seg segCnt p interSegAck =
      recvWndStore rw' seq seg segCnt p interSegAck := by
    rw [recvWndFrame, hslide]
  unfold Handled
  rw [hframe]
  dsimp only
  rw [designates_iff hbase' hseq (by rw [hw]; dsimp only; unfold seqSpace; omega), hindex]
  have hplace : ((recvWndStore rw' seq seg segCnt p interSegAck).1.w.seq + wndIndex rw'.w seq) %
      (recvWndStore rw' seq seg segCnt p interSegAck).1.w.cap = seq % rw.w.cap := by
    rw [hw]
    dsimp only
    rw [wndIndex_slot hb.seq_lt (hcap'.dvd.trans hdvd), hcap']
  have hsize' : (recvWndStore rw' seq seg segCnt p interSegAck).1.w.size = rw'.w.size := by
    rw [hw]
  rw [hplace, hsize']
  refine and_iff_left ?_
  have hdone := recvWndStore_handles rw' seq seg segCnt p interSegAck
  rw [hcap', hmsg] at hdone
  exact hdone

theorem handled_iff_reach (h : RecvBounded cap msgLen segLen rw) (hcap : rw.w.cap ≤ 2048)
    (hdvd : rw.w.cap ∣ seqSpace) (hseq : seq < seqSpace) :
    Handled rw seq seg segCnt p interSegAck ↔ WithinReach rw seq := by
  have hbase := h.seq_lt
  have hsize := h.size_le
  have hslideLt := h.slide_lt
  have hindexLt := wndIndex_lt rw.w seq
  have hnew := recvNewSize_eq h.seq_lt hseq
  cases hslide : recvWndSlide rw seq with
  | none =>
    unfold recvWndSlide at hslide
    dsimp only at hslide
    rw [hnew] at hslide
    split_ifs at hslide with hbig hfar
    have hnone : recvWndFrame rw seq seg segCnt p interSegAck = (rw, 0) := by
      rw [recvWndFrame, recvWndSlide]
      dsimp only
      rw [hnew, if_pos hbig, if_pos hfar]
    unfold Handled
    rw [hnone]
    dsimp only
    rw [designates_iff hbase hseq (by unfold seqSpace; omega)]
    have hne : wndIndex rw.w seq ≠ 4095 := by
      intro h4095
      rw [h4095] at hbig
      exact absurd hbig (Nat.not_lt_zero _)
    unfold WithinReach
    unfold seqSpace at *
    rw [Nat.mod_eq_of_lt (show wndIndex rw.w seq + 1 < 4096 by omega)] at hbig hfar
    refine iff_of_false (fun hin => by omega) ?_
    rintro ⟨-, hin | ⟨hge, hin⟩⟩
    · omega
    · rw [sub32_of_le (by omega)] at hfar
      omega
  | some rw' =>
    rw [handled_iff_index h hcap hdvd hseq hslide]
    unfold recvWndSlide at hslide
    dsimp only at hslide
    rw [hnew] at hslide
    unfold WithinReach
    split_ifs at hslide with hbig hfar
    · -- the window moves behind the messages handed over
      obtain rfl := Option.some.inj hslide
      have hne : wndIndex rw.w seq ≠ 4095 := by
        intro h4095
        rw [h4095] at hbig
        exact absurd hbig (Nat.not_lt_zero _)
      unfold seqSpace at *
      rw [Nat.mod_eq_of_lt (show wndIndex rw.w seq + 1 < 4096 by omega)] at hbig hfar ⊢
      have hle : rw.slide ≤ wndIndex rw.w seq + 1 := by
        by_contra hgt
        rw [sub32_of_lt (by omega)] at hfar
        omega
      rw [sub32_of_le hle] at hfar ⊢
      rw [u16_of_lt (by omega)]
      unfold wndIndex at *
      unfold seqSpace at *
      dsimp only
      omega
    · obtain rfl := Option.some.inj hslide
      change wndIndex rw.w seq < u16 (max rw.w.size ((wndIndex rw.w seq + 1) % seqSpace)) ↔ _
      rw [u16_of_lt (by omega)]
      unfold seqSpace at *
      omega

end

/-! ## Two linked instances -/

theorem pollRead_seqNum_lt {arq : Arq} {f : FrameRead} (h : pollRead arq = some f) :
    f.hdr.seqNum < seqSpace := by
  unfold pollRead at h
  split at h
  · obtain rfl := Option.some.inj h
    exact frameHdrRead_seqNum_lt _ _
  · cases h

/-- **A data frame is handled exactly when its number is within reach.** In every run of two linked
instances, the poll of a side that reads the frame `f` stores its segment or flags the ACK of its
message if and only if the number of the message is within reach of the receive window. -/
theorem repeated_frame_handled_iff (b : Build) (cfg : Cfg) (k : Nat) (hk : k ≤ 11)
    (hcap : cfg.recvWindowSizeInMessages = 2 ^ k) (seat seat' left right : Arq)
    (hleft : arqInit b cfg seat = .ok left) (hright : arqInit b cfg seat' = .ok right) (p : Pair)
    (hrun : Run (pairStep b) (fun _ _ => True) (.start left right) p) (x : Side) (f : FrameRead)
    (hread : pollRead (p.view x).left = some f) :
    Handled (p.view x).left.recvWnd f.hdr.seqNum f.hdr.segId f.hdr.msgLen f.seg
        cfg.interSegmentTimeout ↔
      WithinReach (p.view x).left.recvWnd f.hdr.seqNum := by
  have hside := Pair.side_run hrun x
  obtain ⟨seat₀, hinit⟩ : ∃ seat₀, arqInit b cfg seat₀ = .ok ((Pair.start left right).view x).left := by
    cases x with
    | left => exact ⟨seat, hleft⟩
    | right => exact ⟨seat', hright⟩
  obtain ⟨seat₁, hrecv⟩ := instance_recvRun hinit hside
  obtain ⟨hle, hdvd⟩ := pow_window ⟨k, hk, hcap⟩
  have hbounded := hrecv.bounded
  have hcap' : (p.view x).left.recvWnd.w.cap = cfg.recvWindowSizeInMessages :=
    hbounded.dims.cap_eq.trans (u16_of_lt (by omega))
  rw [← hcap'] at hle hdvd
  exact handled_iff_reach hbounded hle hdvd (pollRead_seqNum_lt hread)

/-- The left side sends its next frame, the right side reads it and writes an ACK, which reaches the
wire or is lost. -/
def oneFrame (keepAck : Bool) : List (Side × LinkCall) :=
  [(Side.left, LinkCall.poll 0), (Side.left, .get true), (Side.left, .release),
    (Side.right, .deliver 40), (Side.right, .poll 0), (Side.right, .get keepAck), (Side.right, .release)]

/-- Four messages of one byte arrive and are read, and only the first ACK gets back. A fifth message
arrives, the second one is sent again, and its frame waits for the next poll. -/
def lostAcks : List (Side × LinkCall) :=
  [(Side.left, .send [1, 2, 3, 4])] ++ oneFrame true ++ oneFrame false ++ oneFrame false ++
    oneFrame false ++
    [(Side.right, .poll 0), (Side.right, .recv 4), (Side.left, .deliver 40), (Side.left, .poll 0),
      (Side.left, .send [5])] ++
    oneFrame false ++ oneFrame false ++
    [(Side.left, .poll 5), (Side.left, .get true), (Side.left, .release), (Side.right, .deliver 40)]

def lostAcksPair (n : Nat) : Pair :=
  (lostAcks.take n).foldl (pairStep ⟨false⟩)
    (.start (freshArq ⟨false⟩ (smallCfg 1 1 4)) (freshArq ⟨false⟩ (smallCfg 1 1 4)))

/-- The frame that the next poll of the right side reads. -/
def lostAcksFrame (n : Nat) : FrameRead :=
  frameRead (lostAcksPair n).right.recvFrame.buf (lostAcksPair n).right.recvFrame.len
    (lostAcksPair n).right.cfg.checksum

theorem lostAcks_read {n : Nat}
    (hfull : (lostAcksPair n).right.recvFrame.state = .fullFramePresent) :
    pollRead ((lostAcksPair n).view .right).left = some (lostAcksFrame n) :=
  pollRead_of_full hfull

/-- The fifth message moves the window past the four that have been read, and is handled. The second
one, sent again, is then out of reach. -/
theorem repeated_frame_handled_iff_sample :
    ((Handled (lostAcksPair 45).right.recvWnd (lostAcksFrame 45).hdr.seqNum
          (lostAcksFrame 45).hdr.segId (lostAcksFrame 45).hdr.msgLen (lostAcksFrame 45).seg 4 ↔
        WithinReach (lostAcksPair 45).right.recvWnd (lostAcksFrame 45).hdr.seqNum) ∧
      (lostAcksFrame 45).hdr.seqNum = 4 ∧ (lostAcksPair 45).right.recvWnd.slide = 4 ∧
      WithinReach (lostAcksPair 45).right.recvWnd 4) ∧
    (Handled (lostAcksPair 52).right.recvWnd (lostAcksFrame 52).hdr.seqNum
          (lostAcksFrame 52).hdr.segId (lostAcksFrame 52).hdr.msgLen (lostAcksFrame 52).seg 4 ↔
        WithinReach (lostAcksPair 52).right.recvWnd (lostAcksFrame 52).hdr.seqNum) ∧
      (lostAcksFrame 52).hdr.seqNum = 1 ∧ (lostAcksPair 52).right.recvWnd.w.seq = 4 ∧
      ¬ WithinReach (lostAcksPair 52).right.recvWnd 1 := by
  refine ⟨⟨?_, by decide +kernel, by decide +kernel, by unfold WithinReach; decide +kernel⟩,
    ?_, by decide +kernel, by decide +kernel, by unfold WithinReach; decide +kernel⟩
  · exact repeated_frame_handled_iff ⟨false⟩ (smallCfg 1 1 4) 2 (by decide) rfl _ _ _ _
      (arqInit_zeroSeat rfl) (arqInit_zeroSeat rfl) (lostAcksPair 45) (.exec (by decide +kernel))
      .right (lostAcksFrame 45) (lostAcks_read (by decide +kernel))
  · exact repeated_frame_handled_iff ⟨false⟩ (smallCfg 1 1 4) 2 (by decide) rfl _ _ _ _
      (arqInit_zeroSeat rfl) (arqInit_zeroSeat rfl) (lostAcksPair 52) (.exec (by decide +kernel))
      .right (lostAcksFrame 52) (lostAcks_read (by decide +kernel))

/-- The right side has moved past the second message, which the left side still holds: its frame is
dropped, and the poll writes no ACK. -/
theorem delivered_message_unacknowledged :
    Run (pairStep ⟨false⟩) (fun _ _ => True)
        (.start (freshArq ⟨false⟩ (smallCfg 1 1 4)) (freshArq ⟨false⟩ (smallCfg 1 1 4)))
        (lostAcksPair 52) ∧
      pollRead (lostAcksPair 52).right = some (lostAcksFrame 52) ∧
      (lostAcksFrame 52).result = .success ∧ (lostAcksFrame 52).hdr.seg = true ∧
      (lostAcksFrame 52).hdr.seqNum = 1 ∧
      wndIndex (lostAcksPair 52).left.sendWnd.w 1 < (lostAcksPair 52).left.sendWnd.w.size ∧
      ¬ Handled (lostAcksPair 52).right.recvWnd 1 (lostAcksFrame 52).hdr.segId
        (lostAcksFrame 52).hdr.msgLen (lostAcksFrame 52).seg 4 ∧
      (pollFrame (pollWork ⟨false⟩ (lostAcksPair 52).right 0)).isNone = true :=
  ⟨.exec (by decide +kernel), pollRead_of_full (by decide +kernel), by decide +kernel⟩

end NanoArq
