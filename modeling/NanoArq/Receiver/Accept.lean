import NanoArq.Receiver.Ops

/-!
# Which frames a receive window accepts

`AcceptExact` asks that a frame has an effect only if its number is one of the `cap` numbers from the
base of the window on, as the base stands after the call.

* `accept_exact_iff`: it holds unless the number is the one just below the base, for which `new_size`
  wraps to `0`, and the frame has an effect.
-/

namespace NanoArq

open Lib

/-! ## Acceptance -/

/-- The frame designates a message in the window after the call, or the call does nothing. -/
def AcceptExact (rw : RecvWnd) (seq seg segCnt : Nat) (p : List UInt8) (interSegAck : Nat) : Prop :=
  wndIndex (recvWndFrame rw seq seg segCnt p interSegAck).1.w seq < rw.w.cap ∨
    recvWndFrame rw seq seg segCnt p interSegAck = (rw, 0)

/-- Storing the frame in its slot would change nothing: the segment is there and its ACK is flagged
already; or an empty segment, of a number that the vector cannot hold, finds the slot, the flag and the
timer as it would leave them. -/
def FrameNoop (rw : RecvWnd) (seq seg segCnt : Nat) (p : List UInt8) (interSegAck : Nat) : Prop :=
  let idx := seq % rw.w.cap
  let m := rw.w.msg idx
  if m.curAckVec.testBit seg then rw.ack idx = true
  else
    p = [] ∧ m = { fullAckVec := ackVecOf segCnt, curAckVec := u16 (m.curAckVec ||| 2 ^ seg),
                   len := u16 m.len } ∧
      if seg = sub32 segCnt 1 then rw.ack idx = true ∧ rw.interSegAckOn = false
      else rw.interSegAck = interSegAck ∧ rw.interSegAckSeq = seq ∧ rw.interSegAckOn = true

section

variable {cap msgLen segLen : Nat} {rw : RecvWnd} {seq seg segCnt : Nat} {p : List UInt8}
  {interSegAck : Nat}

/-- The distance from the base, which wraps with the sequence numbers. -/
theorem recvNewSize_eq (hbase : rw.w.seq < seqSpace) (hseq : seq < seqSpace) :
    recvNewSize rw seq = (wndIndex rw.w seq + 1) % seqSpace := by
  unfold recvNewSize wndIndex
  unfold seqSpace at *
  rcases Nat.lt_or_ge seq rw.w.seq with hlt | hge
  · rw [sub32_of_lt hlt]
    omega
  · rw [sub32_of_le hge]
    omega

theorem recvWndStore_noop :
    recvWndStore rw seq seg segCnt p interSegAck = (rw, 0) ↔
      FrameNoop rw seq seg segCnt p interSegAck := by
  unfold FrameNoop recvWndStore
  dsimp only
  by_cases hbit : (rw.w.msg (seq % rw.w.cap)).curAckVec.testBit seg
  · rw [if_pos hbit, if_pos hbit]
    constructor
    · intro h
      have hack := congrArg (fun r : RecvWnd × Nat => r.1.ack (seq % rw.w.cap)) h
      dsimp only at hack
      rw [Function.update_self] at hack
      exact hack.symm
    · intro h
      rw [← h, Function.update_eq_self]
  · rw [if_neg hbit, if_neg hbit]
    have hsame : ∀ m, rw.w.msg (seq % rw.w.cap) = m →
        Function.update rw.w.msg (seq % rw.w.cap) m = rw.w.msg := by
      rintro _ rfl
      exact Function.update_eq_self _ _
    by_cases hlast : seg = sub32 segCnt 1
    · rw [if_pos hlast, if_pos hlast]
      constructor
      · intro h
        obtain rfl := List.eq_nil_of_length_eq_zero (congrArg Prod.snd h)
        have hm := congrArg (fun r : RecvWnd × Nat => r.1.w.msg (seq % rw.w.cap)) h
        have hack := congrArg (fun r : RecvWnd × Nat => r.1.ack (seq % rw.w.cap)) h
        have hon := congrArg (fun r : RecvWnd × Nat => r.1.interSegAckOn) h
        dsimp only at hm hack hon
        rw [Function.update_self] at hm hack
        exact ⟨rfl, hm.symm, hack.symm, hon.symm⟩
      · rintro ⟨rfl, hm, hack, hon⟩
        have hflag : Function.update rw.ack (seq % rw.w.cap) true = rw.ack := by
          rw [← hack, Function.update_eq_self]
        simp only [memcpy_nil, List.length_nil, Nat.add_zero, hsame _ hm, hflag]
        rw [← hon]
    · rw [if_neg hlast, if_neg hlast]
      constructor
      · intro h
        obtain rfl := List.eq_nil_of_length_eq_zero (congrArg Prod.snd h)
        have hm := congrArg (fun r : RecvWnd × Nat => r.1.w.msg (seq % rw.w.cap)) h
        have htimer := congrArg (fun r : RecvWnd × Nat => r.1.interSegAck) h
        have htimerSeq := congrArg (fun r : RecvWnd × Nat => r.1.interSegAckSeq) h
        have hon := congrArg (fun r : RecvWnd × Nat => r.1.interSegAckOn) h
        dsimp only at hm htimer htimerSeq hon
        rw [Function.update_self] at hm
        exact ⟨rfl, hm.symm, htimer.symm, htimerSeq.symm, hon.symm⟩
      · rintro ⟨rfl, hm, htimer, htimerSeq, hon⟩
        simp only [memcpy_nil, List.length_nil, Nat.add_zero, hsame _ hm]
        rw [← hon, ← htimer, ← htimerSeq]

theorem wndIndex_lt (w : Wnd) (seq : Nat) : wndIndex w seq < seqSpace := Nat.mod_lt _ (by decide)

/-- The index of a message that the window designates. -/
theorem wndIndex_of_lt {w : Wnd} (hbase : w.seq < seqSpace) {i : Nat} (hi : i < seqSpace) :
    wndIndex w ((w.seq + i) % seqSpace) = i := by
  unfold wndIndex
  unfold seqSpace at *
  omega

/-- The number just below the base is taken for a number inside the window. -/
theorem recvWndFrame_below (hsize : rw.w.size < 65536) (hnew : recvNewSize rw seq = 0) :
    recvWndFrame rw seq seg segCnt p interSegAck = recvWndStore rw seq seg segCnt p interSegAck := by
  have hslide : recvWndSlide rw seq = some rw := by
    simp only [recvWndSlide, hnew]
    rw [if_neg (Nat.not_lt_zero _), Nat.max_zero, u16_of_lt hsize]
  rw [recvWndFrame, hslide]

/-- The number just below the base to which the window would slide. Only more messages handed over
than the window has places for make it one that the window accepts. -/
def BelowSlide (rw : RecvWnd) (seq : Nat) : Prop :=
  rw.w.cap ≤ wndIndex rw.w seq ∧ rw.slide = wndIndex rw.w seq + 1

/-- A frame of a number above the base ends up inside the window, or is refused. -/
theorem recvWndFrame_above (h : RecvBounded cap msgLen segLen rw) (hcap : rw.w.cap < seqSpace)
    (hseq : seq < seqSpace) (hne : wndIndex rw.w seq ≠ seqSpace - 1) :
    AcceptExact rw seq seg segCnt p interSegAck ↔ ¬ BelowSlide rw seq := by
  have hbase := h.seq_lt
  have hlt := wndIndex_lt rw.w seq
  have hnew : recvNewSize rw seq = wndIndex rw.w seq + 1 := by
    rw [recvNewSize_eq h.seq_lt hseq]
    exact Nat.mod_eq_of_lt (by omega)
  unfold AcceptExact BelowSlide recvWndFrame
  cases hslide : recvWndSlide rw seq with
  | none =>
    unfold recvWndSlide at hslide
    dsimp only at hslide
    rw [hnew] at hslide
    split_ifs at hslide with hbig hfar
    refine iff_of_true (Or.inr rfl) ?_
    rintro ⟨-, heq⟩
    rw [heq, sub32_of_le le_rfl] at hfar
    omega
  | some rw' =>
    dsimp only
    obtain ⟨hw, -, -, -⟩ := recvWndStore_rest rw' seq seg segCnt p interSegAck
    have hindex : wndIndex (recvWndStore rw' seq seg segCnt p interSegAck).1.w seq =
        (seq + seqSpace - rw'.w.seq) % seqSpace := by
      rw [hw]
      rfl
    rw [hindex]
    have hmoved : rw'.w.seq ≠ rw.w.seq →
        recvWndStore rw' seq seg segCnt p interSegAck ≠ (rw, 0) := by
      intro hmoved heq
      rw [heq] at hw
      exact hmoved (congrArg Wnd.seq hw).symm
    unfold recvWndSlide at hslide
    dsimp only at hslide
    rw [hnew] at hslide
    split_ifs at hslide with hbig hfar
    · obtain rfl := Option.some.inj hslide
      dsimp only at hmoved ⊢
      unfold wndIndex at *
      by_cases heq : rw.slide = (seq + seqSpace - rw.w.seq) % seqSpace + 1
      · refine iff_of_false (not_or_intro ?_ (hmoved ?_)) (fun hnot => hnot ⟨by omega, heq⟩)
        · unfold seqSpace at *
          omega
        · unfold seqSpace at *
          omega
      · refine iff_of_true (Or.inl ?_) (fun hnot => heq hnot.2)
        rcases Nat.lt_or_ge ((seq + seqSpace - rw.w.seq) % seqSpace + 1) rw.slide with hsmall | hge
        · have hslide := h.slide_lt
          rw [sub32_of_lt hsmall] at hfar
          unfold seqSpace at *
          omega
        · rw [sub32_of_le hge] at hfar
          unfold seqSpace at *
          omega
    · obtain rfl := Option.some.inj hslide
      refine iff_of_true (Or.inl ?_) (fun hnot => hbig (by omega))
      unfold wndIndex at hbig
      dsimp only
      omega

end

/-! ## The theorem -/

/-- **Receive-window acceptance is exact** if and only if the frame's number is not the one just below
the base, or the frame has no effect anyway, and no frame is let in by an oversized slide. -/
theorem accept_exact_iff (k : Nat) (hk : k ≤ 11) (seat : RecvWnd) (msgLen segLen : Nat) (rw : RecvWnd)
    (hrun : RecvRun (recvWndOpen seat (2 ^ k) msgLen segLen) rw) (seq seg segCnt : Nat)
    (p : List UInt8) (interSegAck : Nat) (hseq : seq < seqSpace) :
    AcceptExact rw seq seg segCnt p interSegAck ↔
      if wndIndex rw.w seq = seqSpace - 1 then FrameNoop rw seq seg segCnt p interSegAck
      else ¬ BelowSlide rw seq := by
  obtain ⟨hle, -⟩ := pow_window ⟨k, hk, rfl⟩
  have hb := hrun.bounded
  have hcap : rw.w.cap = 2 ^ k := hb.dims.cap_eq.trans (u16_of_lt (by omega))
  have hsize := hb.size_le
  split
  · rename_i hbelow
    have hnew : recvNewSize rw seq = 0 := by
      rw [recvNewSize_eq hb.seq_lt hseq, hbelow]
      rfl
    rw [AcceptExact, recvWndFrame_below (by omega) hnew, recvWndStore_noop,
      (recvWndStore_rest rw seq seg segCnt p interSegAck).1]
    refine or_iff_right ?_
    change ¬ wndIndex rw.w seq < rw.w.cap
    rw [hbelow, hcap]
    unfold seqSpace
    omega
  · rename_i hne
    exact recvWndFrame_above hb (by unfold seqSpace; omega) hseq hne

/-- Messages `0` and `1` arrive after `2` and are read. The frame of message `5` then moves the base. -/
theorem accept_exact_iff_sample :
    let rw := [RecvOp.frame 2 0 1 [9] 4, .frame 0 0 2 [1, 2] 4, .frame 0 1 2 [3] 4,
        .frame 1 0 1 [7] 4, .recv 4].foldl recvOpStep
      (recvWndOpen (zeroSeat (smallCfg 2 2 4)).recvWnd 4 4 2)
    (AcceptExact rw 5 0 1 [8] 4 ↔
        if wndIndex rw.w 5 = seqSpace - 1 then FrameNoop rw 5 0 1 [8] 4 else ¬ BelowSlide rw 5) ∧
      rw.slide = 2 ∧ (recvWndFrame rw 5 0 1 [8] 4).1.w.seq = 2 :=
  ⟨accept_exact_iff 2 (by decide) (zeroSeat (smallCfg 2 2 4)).recvWnd 4 2 _
    (.exec (by decide +kernel)) 5 0 1 [8] 4 (by decide), by decide +kernel, by decide +kernel⟩

/-- A fresh window stores a frame of number `4095`. -/
theorem below_base_accepted :
    let rw := recvWndOpen (zeroSeat (smallCfg 1 1 2)).recvWnd 2 1 1
    let r := recvWndFrame rw 4095 0 1 [7] 4
    rw.w.seq = 0 ∧ r.1.w.seq = 0 ∧ r.2 = 1 ∧ (r.1.w.msg 1).curAckVec = 1 ∧
      ¬ AcceptExact rw 4095 0 1 [7] 4 := by
  have hexact : ¬ AcceptExact (recvWndOpen (zeroSeat (smallCfg 1 1 2)).recvWnd 2 1 1) 4095 0 1 [7] 4 := by
    rintro (hin | hsame)
    · revert hin
      decide +kernel
    · have hstored := congrArg Prod.snd hsame
      revert hstored
      decide +kernel
  exact ⟨rfl, by decide +kernel, by decide +kernel, by decide +kernel, hexact⟩

-- When a message is handed over twice, the slide exceeds the window, and a frame moves the base past
-- itself.
example :
    let rw := [RecvOp.frame 0 0 1 [7] 4, .frame 1 0 1 [8] 4, .recv 2, .frame 0 0 1 [7] 4, .recv 1].foldl
      recvOpStep (recvWndOpen (zeroSeat (smallCfg 1 1 2)).recvWnd 2 1 1)
    let r := recvWndFrame rw 2 0 1 [9] 4
    rw.slide = 3 ∧ r.1.w.seq = 3 ∧ r.1.w.size = 0 ∧ r.2 = 1 ∧ ¬ wndIndex r.1.w 2 < 2 := by
  decide +kernel

end NanoArq
