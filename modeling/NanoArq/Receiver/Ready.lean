import NanoArq.Lib.Chunks
import NanoArq.Receiver.Accept

/-!
# When there is something to read

`arq__recv_wnd_pending` looks at the slot of the window's base, `arq__recv_wnd_recv` starts at the slot of
its own cursor, which runs ahead of the base until the window slides.

* `ready_agrees_iff`: the two agree unless the base lags behind the cursor and only one of the two slots
  holds a complete message.
-/

namespace NanoArq

open Lib

/-! ## Sound slots -/

/-- Frames as a sender makes them: a segment of one to `segLen` bytes of a message of at most `segs`
segments. -/
def ValidFrame (segs segLen : Nat) : RecvOp → Prop
  | .frame seq seg segCnt p _ => seq < seqSpace ∧ seg < segCnt ∧ segCnt ≤ segs ∧ segCnt ≤ 12 ∧
      0 < p.length ∧ p.length ≤ segLen
  | _ => True

instance (segs segLen : Nat) : (op : RecvOp) → Decidable (ValidFrame segs segLen op)
  | .frame _ _ _ _ _ => inferInstanceAs (Decidable (_ ∧ _))
  | .recv _ | .ack | .step _ => inferInstanceAs (Decidable True)

/-- A slot that holds a segment holds bytes, and is not complete while it is empty. -/
structure SlotSound (segs segLen : Nat) (m : Msg) : Prop where
  full_pos : m.fullAckVec ≠ 0
  bit_lt : ∀ j, m.curAckVec.testBit j = true → j < segs ∧ j < 12
  len_le : m.len ≤ chunkSum segLen (segs * segLen) m.curAckVec segs
  len_pos : m.curAckVec ≠ 0 → 0 < m.len

section

variable {segs segLen : Nat} {m : Msg}

theorem msgEmpty_sound {full : Nat} (hfull : full ≠ 0) : SlotSound segs segLen (msgEmpty full) where
  full_pos := hfull
  bit_lt j hj := by simp [msgEmpty] at hj
  len_le := Nat.zero_le _
  len_pos h := absurd rfl h

theorem SlotSound.store (h : SlotSound segs segLen m) (hfits : segs * segLen < 65536) {seg segCnt n : Nat}
    (hseg : seg < segCnt) (hcnt : segCnt ≤ segs) (htwelve : segCnt ≤ 12) (hpos : 0 < n)
    (hn : n ≤ segLen) (hnew : m.curAckVec.testBit seg = false) :
    SlotSound segs segLen { fullAckVec := ackVecOf segCnt
                            curAckVec := u16 (m.curAckVec ||| 2 ^ seg)
                            len := u16 (m.len + n) } ∧ u16 (m.len + n) = m.len + n := by
  have hbits : ∀ j, (m.curAckVec ||| 2 ^ seg).testBit j = true → j < segs ∧ j < 12 := by
    intro j hj
    rw [Nat.testBit_or, Bool.or_eq_true, Nat.testBit_two_pow, decide_eq_true_eq] at hj
    rcases hj with hj | rfl
    · exact h.bit_lt j hj
    · omega
  have hvec : u16 (m.curAckVec ||| 2 ^ seg) = m.curAckVec ||| 2 ^ seg :=
    u16_of_lt (Nat.lt_of_lt_of_le (lt_two_pow_of_bits fun j hj => (hbits j hj).2) (by decide))
  have hsum := @chunkSum_set segLen (segs * segLen) m.curAckVec segs seg (by omega) hnew
  have hchunk : chunkLen segLen (segs * segLen) seg = segLen := by
    have hmul := Nat.mul_le_mul_right segLen (show seg + 1 ≤ segs by omega)
    rw [Nat.add_mul, Nat.one_mul] at hmul
    unfold chunkLen
    omega
  have hle := chunkSum_le segLen (segs * segLen) (m.curAckVec ||| 2 ^ seg) segs
  have hlen := h.len_le
  have hadd : u16 (m.len + n) = m.len + n := u16_of_lt (by omega)
  rw [hvec, hadd]
  refine ⟨⟨ackVecOf_ne_zero (by omega), hbits, ?_, fun _ => by dsimp only; omega⟩, rfl⟩
  dsimp only
  omega

/-- A complete slot holds bytes. -/
theorem SlotSound.pos (h : SlotSound segs segLen m) (hall : m.curAckVec = m.fullAckVec) :
    0 < m.len := h.len_pos (hall ▸ h.full_pos)

end

/-! ## The invariant -/

structure RecvSound (cap segs segLen : Nat) (rw : RecvWnd) : Prop where
  bounded : RecvBounded cap (segs * segLen) segLen rw
  slot : ∀ j, j < rw.w.cap → SlotSound segs segLen (rw.w.msg j)
  cursor : rw.copySeq = (rw.w.seq + rw.slide) % seqSpace
  slide_pos : rw.slide ≠ 0 → rw.w.size ≠ 0
  ofs : rw.copyOfs = 0 ∨ rw.copyOfs < (rw.w.msg (rw.copySeq % rw.w.cap)).len

section

variable {cap segs segLen : Nat} {rw : RecvWnd}

theorem recvWndOpen_sound (seat : RecvWnd) (cap : Nat) (hsegs : 0 < segs) (hsegLen : 0 < segLen) :
    RecvSound cap segs segLen (recvWndOpen seat cap (segs * segLen) segLen) := by
  refine ⟨recvWndOpen_bounded _ _ _ _, ?_, rfl, fun h => absurd rfl h, Or.inl rfl⟩
  intro j hj
  have hmsg : (recvWndOpen seat cap (segs * segLen) segLen).w.msg j =
      msgEmpty (ackVecOf (segs * segLen / segLen)) := wndRst_msg _ hj
  rw [hmsg, Nat.mul_div_cancel _ hsegLen]
  exact msgEmpty_sound (ackVecOf_ne_zero hsegs)

theorem RecvSound.congr (h : RecvSound cap segs segLen rw) {rw' : RecvWnd} (hw : rw'.w = rw.w)
    (hcopySeq : rw'.copySeq = rw.copySeq) (hcopyOfs : rw'.copyOfs = rw.copyOfs)
    (hslide : rw'.slide = rw.slide) : RecvSound cap segs segLen rw' := by
  obtain ⟨⟨h1, h2, h3, h4, h5⟩, h6, h7, h8, h9⟩ := h
  exact ⟨⟨by rwa [hw], by rwa [hw], by rwa [hw], by rwa [hcopySeq], by rwa [hslide]⟩, by rwa [hw],
    by rwa [hcopySeq, hw, hslide], by rwa [hslide, hw], by rwa [hcopyOfs, hw, hcopySeq]⟩

theorem RecvSound.slide (h : RecvSound cap segs segLen rw) {seq : Nat} {rw' : RecvWnd}
    (hslide : recvWndSlide rw seq = some rw') : RecvSound cap segs segLen rw' := by
  have hbounded := h.bounded.slide hslide
  have hsize := h.bounded.size_le
  have hcap : rw.w.cap < 65536 := by
    rw [h.bounded.dims.cap_eq]
    exact Nat.mod_lt _ (by decide)
  unfold recvWndSlide at hslide
  dsimp only at hslide
  split_ifs at hslide with hbig hfar
  · obtain rfl := Option.some.inj hslide
    refine ⟨hbounded, h.slot, ?_, fun hne => absurd rfl hne, h.ofs⟩
    dsimp only
    rw [h.cursor, Nat.add_zero, Nat.mod_mod]
  · obtain rfl := Option.some.inj hslide
    refine ⟨hbounded, h.slot, h.cursor, ?_, h.ofs⟩
    intro hne
    have hpos := h.slide_pos hne
    dsimp only
    rw [u16_of_lt (by omega)]
    omega

theorem RecvSound.store (h : RecvSound cap segs segLen rw) (hfits : segs * segLen < 65536)
    (hcap : 0 < rw.w.cap) {seq seg segCnt : Nat} {p : List UInt8} {interSegAck : Nat}
    (hvalid : ValidFrame segs segLen (.frame seq seg segCnt p interSegAck)) :
    RecvSound cap segs segLen (recvWndStore rw seq seg segCnt p interSegAck).1 := by
  obtain ⟨hseq, hseg, hcnt, htwelve, hpos, hle⟩ := hvalid
  unfold recvWndStore
  dsimp only
  by_cases hbit : (rw.w.msg (seq % rw.w.cap)).curAckVec.testBit seg = true
  · rw [if_pos hbit]
    exact h.congr rfl rfl rfl rfl
  · rw [if_neg hbit]
    obtain ⟨hsound, hlen⟩ := (h.slot _ (Nat.mod_lt _ hcap)).store hfits hseg hcnt htwelve hpos hle
      (Bool.eq_false_iff.mpr hbit)
    have hstored : ∀ buf, RecvSound cap segs segLen { rw with w := { rw.w with
        buf := buf
        msg := Function.update rw.w.msg (seq % rw.w.cap)
          { fullAckVec := ackVecOf segCnt
            curAckVec := u16 ((rw.w.msg (seq % rw.w.cap)).curAckVec ||| 2 ^ seg)
            len := u16 ((rw.w.msg (seq % rw.w.cap)).len + p.length) } } } := by
      intro buf
      obtain ⟨h1, h2, h3, h4, h5⟩ := h.bounded
      refine ⟨⟨h1.congr rfl rfl rfl rfl, h2, h3, h4, h5⟩, ?_, h.cursor, h.slide_pos, ?_⟩
      · intro j hj
        dsimp only
        by_cases hj' : j = seq % rw.w.cap
        · rw [hj', Function.update_self]
          exact hsound
        · rw [Function.update_of_ne hj']
          exact h.slot j hj
      · refine h.ofs.imp_right ?_
        intro hofs
        dsimp only
        by_cases hj' : rw.copySeq % rw.w.cap = seq % rw.w.cap
        · rw [hj'] at hofs ⊢
          rw [Function.update_self, hlen]
          dsimp only
          omega
        · rwa [Function.update_of_ne hj']
    split
    · exact (hstored _).congr rfl rfl rfl rfl
    · exact (hstored _).congr rfl rfl rfl rfl

theorem RecvSound.cap_dvd (h : RecvSound cap segs segLen rw) (hdvd : cap ∣ seqSpace) :
    rw.w.cap ∣ seqSpace := by
  have hle := Nat.le_of_dvd (by decide) hdvd
  unfold seqSpace at hle
  rw [h.bounded.dims.cap_eq, u16_of_lt (by omega)]
  exact hdvd

theorem RecvSound.recvGo (hdvd : cap ∣ seqSpace) (hsegs : 0 < segs) (hsegLen : 0 < segLen)
    (base : Nat) :
    ∀ (n i : Nat) (rw : RecvWnd) (dstMax : Nat), RecvSound cap segs segLen rw →
      (base + i) % rw.w.cap = rw.copySeq % rw.w.cap → n ≤ rw.w.size →
      RecvSound cap segs segLen (recvWndRecvGo base n i rw dstMax).1 := by
  intro n
  induction n with
  | zero => exact fun _ _ _ h _ _ => h
  | succ n ih =>
    intro i rw dstMax h hplace hn
    rw [recvWndRecvGo]
    dsimp only
    split_ifs with hdst hlen hall hpart
    · exact h
    · exact h
    · exact h
    · obtain ⟨h1, h2, h3, h4, h5⟩ := h.bounded
      refine ⟨⟨h1, h2, h3, h4, h5⟩, h.slot, h.cursor, h.slide_pos, Or.inr ?_⟩
      dsimp only
      rw [← hplace]
      exact (Nat.mod_le _ _).trans_lt hpart
    · refine ih _ _ _ ?_ ?_ (by dsimp only; omega)
      · obtain ⟨h1, h2, h3, -, -⟩ := h.bounded
        refine ⟨⟨h1.congr rfl rfl rfl rfl, h2, h3, Nat.mod_lt _ (by decide), Nat.mod_lt _ (by decide)⟩,
          ?_, ?_, ?_, Or.inl rfl⟩
        · intro j hj
          dsimp only
          by_cases hj' : j = (base + i) % rw.w.cap
          · rw [hj', Function.update_self, h1.full_eq, Nat.mul_div_cancel _ hsegLen]
            exact msgEmpty_sound (ackVecOf_ne_zero hsegs)
          · rw [Function.update_of_ne hj']
            exact h.slot j hj
        · have hcursor := h.cursor
          dsimp only
          unfold u16
          unfold seqSpace at *
          omega
        · intro _
          dsimp only
          omega
      · dsimp only
        rw [Nat.mod_mod_of_dvd _ (h.cap_dvd hdvd), ← Nat.add_assoc, Nat.add_mod, hplace, ← Nat.add_mod]

theorem RecvSound.step (h : RecvSound cap segs segLen rw) (hdvd : cap ∣ seqSpace) (hsegs : 0 < segs)
    (hsegLen : 0 < segLen) (hfits : segs * segLen < 65536) (op : RecvOp)
    (hop : ValidFrame segs segLen op) : RecvSound cap segs segLen (recvOpStep rw op) := by
  have hcap := Nat.pos_of_dvd_of_pos (h.cap_dvd hdvd) (by decide)
  cases op with
  | frame seq seg segCnt p interSegAck =>
    rw [recvOpStep, recvWndFrame]
    cases hslide : recvWndSlide rw seq with
    | none => exact h
    | some rw' =>
      have hsound := h.slide hslide
      exact hsound.store hfits (Nat.pos_of_dvd_of_pos (hsound.cap_dvd hdvd) (by decide)) hop
  | recv dstMax =>
    refine h.recvGo hdvd hsegs hsegLen rw.copySeq rw.w.size 0 rw dstMax ?_ le_rfl
    rw [Nat.add_zero]
  | ack =>
    rw [recvOpStep, recvWndAck_w]
    exact h.congr rfl rfl rfl rfl
  | step dt =>
    rw [recvOpStep, recvPollTimer_w]
    exact h.congr rfl rfl rfl rfl

end

/-! ## Readiness -/

/-- The slot of the number holds a complete message. -/
def SlotComplete (rw : RecvWnd) (seq : Nat) : Prop :=
  (rw.w.msg (seq % rw.w.cap)).curAckVec = (rw.w.msg (seq % rw.w.cap)).fullAckVec

/-- The flag is set if and only if a read returns something. -/
def ReadyAgrees (rw : RecvWnd) : Prop :=
  ∀ dstMax, 1 ≤ dstMax → (recvWndPending rw = true ↔ 1 ≤ (recvWndRecv rw dstMax).2.length)

section

variable {cap segs segLen : Nat} {rw : RecvWnd}

theorem recvWndPending_iff (rw : RecvWnd) :
    recvWndPending rw = true ↔ rw.w.size ≠ 0 ∧ SlotComplete rw rw.w.seq := by
  unfold recvWndPending SlotComplete
  by_cases hsize : rw.w.size = 0
  · simp [hsize]
  · simp [hsize]

/-- A read returns something if and only if the slot at the cursor is complete. -/
theorem RecvSound.recv_iff (h : RecvSound cap segs segLen rw) (hdvd : cap ∣ seqSpace) {dstMax : Nat}
    (hdst : 1 ≤ dstMax) :
    1 ≤ (recvWndRecv rw dstMax).2.length ↔ rw.w.size ≠ 0 ∧ SlotComplete rw rw.copySeq := by
  have hcap := Nat.pos_of_dvd_of_pos (h.cap_dvd hdvd) (by decide)
  have hslot := h.slot (rw.copySeq % rw.w.cap) (Nat.mod_lt _ hcap)
  have hofs := h.ofs
  unfold recvWndRecv SlotComplete
  cases hsize : rw.w.size with
  | zero => simp [recvWndRecvGo]
  | succ n =>
    rw [recvWndRecvGo, if_neg (by omega), Nat.add_zero]
    dsimp only
    by_cases hall : (rw.w.msg (rw.copySeq % rw.w.cap)).curAckVec =
        (rw.w.msg (rw.copySeq % rw.w.cap)).fullAckVec
    · have hpos := hslot.pos hall
      refine iff_of_true ?_ ⟨Nat.succ_ne_zero n, hall⟩
      rw [if_neg (by omega), if_neg (not_not_intro hall), sub32_of_le (by omega)]
      split
      · rw [length_slice]
        omega
      · rw [List.length_append, length_slice]
        omega
    · refine iff_of_false ?_ (fun hc => hall hc.2)
      by_cases hlen : (rw.w.msg (rw.copySeq % rw.w.cap)).len = 0
      · rw [if_pos hlen]
        exact Nat.not_succ_le_zero 0
      · rw [if_neg hlen, if_pos hall]
        exact Nat.not_succ_le_zero 0

/-- **The readiness flag agrees with reading** if and only if no message was handed over since the base
last moved, or the slots of the base and of the cursor are both complete or both not. -/
theorem ready_agrees_iff (cap segs segLen : Nat) (hdvd : cap ∣ seqSpace) (hsegs : 0 < segs)
    (hsegLen : 0 < segLen) (hfits : segs * segLen < 65536) (seat rw : RecvWnd)
    (hrun : Run recvOpStep (fun _ op => ValidFrame segs segLen op)
      (recvWndOpen seat cap (segs * segLen) segLen) rw) :
    ReadyAgrees rw ↔ rw.slide = 0 ∨ (SlotComplete rw rw.w.seq ↔ SlotComplete rw rw.copySeq) := by
  have h : RecvSound cap segs segLen rw := by
    refine Run.invariant ?_ ?_ hrun
    · exact recvWndOpen_sound seat cap hsegs hsegLen
    · intro rw op h hop
      exact h.step hdvd hsegs hsegLen hfits op hop
  unfold ReadyAgrees
  rw [recvWndPending_iff]
  constructor
  · intro hagrees
    by_cases hslide : rw.slide = 0
    · exact Or.inl hslide
    · have hsize := h.slide_pos hslide
      have hiff := hagrees 1 le_rfl
      rw [h.recv_iff hdvd le_rfl] at hiff
      simp only [hsize, ne_eq, not_false_eq_true, true_and] at hiff
      exact Or.inr hiff
  · intro hcond dstMax hdst
    rw [h.recv_iff hdvd hdst]
    refine and_congr_right fun _ => ?_
    rcases hcond with hslide | hiff
    · rw [h.cursor, hslide, Nat.add_zero, Nat.mod_eq_of_lt h.bounded.seq_lt]
    · exact hiff

end

/-- Messages `0` and `1` are read in two calls, and a part of message `2` has arrived: neither the
slot of the base nor that of the cursor is complete. -/
theorem ready_agrees_iff_sample :
    let rw := [RecvOp.frame 0 0 2 [1, 2] 4, .frame 1 0 1 [7] 4, .frame 0 1 2 [3] 4,
        .frame 2 0 2 [4, 5] 4, .recv 2, .recv 2].foldl recvOpStep
      (recvWndOpen (zeroSeat (smallCfg 2 2 4)).recvWnd 4 (2 * 2) 2)
    (ReadyAgrees rw ↔ rw.slide = 0 ∨ (SlotComplete rw rw.w.seq ↔ SlotComplete rw rw.copySeq)) ∧
      rw.slide = 2 ∧ ¬ SlotComplete rw rw.w.seq ∧ ¬ SlotComplete rw rw.copySeq := by
  refine ⟨?_, by decide +kernel, ?_, ?_⟩
  · exact ready_agrees_iff 4 2 2 (by decide) (by decide) (by decide) (by decide)
      (zeroSeat (smallCfg 2 2 4)).recvWnd _ (.exec (by decide +kernel))
  · unfold SlotComplete
    decide +kernel
  · unfold SlotComplete
    decide +kernel

/-- When the first of two messages has been read, the flag is clear although the second is complete. -/
theorem ready_flag_misses :
    let rw := [RecvOp.frame 0 0 1 [7] 4, .frame 1 0 1 [8] 4, .recv 1].foldl recvOpStep
      (recvWndOpen (zeroSeat (smallCfg 1 1 2)).recvWnd 2 1 1)
    recvWndPending rw = false ∧ (recvWndRecv rw 1).2 = [8] ∧ ¬ ReadyAgrees rw := by
  refine ⟨by decide +kernel, by decide +kernel, ?_⟩
  intro h
  have := h 1 le_rfl
  revert this
  decide +kernel

end NanoArq
