import NanoArq.Sender.Ops

/-!
# Runs of a receive window

`RecvOp` is what can happen to a receive window: `arq__recv_wnd_frame`, `_recv` and `_ack`, and the
inter-segment timer of `arq__recv_poll`. The window of an instance only ever changes by such
operations (`instance_recvRun`).
-/

namespace NanoArq

open Lib

/-! ## Operations -/

inductive RecvOp where
  | frame (seq seg segCnt : Nat) (p : List UInt8) (interSegAck : Nat)
  | recv (dstMax : Nat)
  | ack
  | step (dt : Nat)

def recvOpStep (rw : RecvWnd) : RecvOp → RecvWnd
  | .frame seq seg segCnt p interSegAck => (recvWndFrame rw seq seg segCnt p interSegAck).1
  | .recv dstMax => (recvWndRecv rw dstMax).1
  | .ack => (recvWndAck rw).1
  | .step dt => recvPollTimer rw dt

abbrev RecvRun (rw₀ rw : RecvWnd) : Prop := Run recvOpStep (fun _ _ => True) rw₀ rw

theorem RecvRun.next {rw₀ rw : RecvWnd} (h : RecvRun rw₀ rw) (op : RecvOp) :
    RecvRun rw₀ (recvOpStep rw op) := Run.next h op trivial

/-- A receive window that was initialised and reset, on memory that holds `seat`. -/
def recvWndOpen (seat : RecvWnd) (cap msgLen segLen : Nat) : RecvWnd :=
  recvWndRst { seat with w := wndInit seat.w cap msgLen segLen }

/-! ## What the operations leave alone -/

/-- Reading a window changes its messages and its cursors. -/
theorem recvWndRecvGo_rest (base : Nat) :
    ∀ (n i : Nat) (rw : RecvWnd) (dstMax : Nat), (recvWndRecvGo base n i rw dstMax).1 =
      { rw with
        w := { rw.w with msg := (recvWndRecvGo base n i rw dstMax).1.w.msg }
        copySeq := (recvWndRecvGo base n i rw dstMax).1.copySeq
        copyOfs := (recvWndRecvGo base n i rw dstMax).1.copyOfs
        slide := (recvWndRecvGo base n i rw dstMax).1.slide } := by
  intro n
  induction n with
  | zero => exact fun _ _ _ => rfl
  | succ n ih =>
    intro i rw dstMax
    simp only [recvWndRecvGo]
    split_ifs
    · rfl
    · rfl
    · rfl
    · rfl
    · rw [ih]

theorem recvWndRecvGo_bounds (base : Nat) :
    ∀ (n i : Nat) (rw : RecvWnd) (dstMax : Nat), rw.copySeq < seqSpace ∧ rw.slide < 65536 →
      (recvWndRecvGo base n i rw dstMax).1.copySeq < seqSpace ∧
        (recvWndRecvGo base n i rw dstMax).1.slide < 65536 := by
  intro n
  induction n with
  | zero => exact fun _ _ _ h => h
  | succ n ih =>
    intro i rw dstMax h
    simp only [recvWndRecvGo]
    split_ifs
    · exact h
    · exact h
    · exact h
    · exact h
    · exact ih _ _ _ ⟨Nat.mod_lt _ (by decide), Nat.mod_lt _ (by decide)⟩

theorem recvWndRecv_rest (rw : RecvWnd) (dstMax : Nat) :
    (recvWndRecv rw dstMax).1 =
      { rw with
        w := { rw.w with msg := (recvWndRecv rw dstMax).1.w.msg }
        copySeq := (recvWndRecv rw dstMax).1.copySeq
        copyOfs := (recvWndRecv rw dstMax).1.copyOfs
        slide := (recvWndRecv rw dstMax).1.slide } := recvWndRecvGo_rest _ _ _ _ _

/-- Reading leaves a message as it is or empties its slot. -/
theorem recvWndRecv_slot (rw : RecvWnd) (dstMax j : Nat) :
    (recvWndRecv rw dstMax).1.w.msg j = rw.w.msg j ∨
      (recvWndRecv rw dstMax).1.w.msg j = msgEmpty rw.w.fullAckVec := by
  have hgo : ∀ (base n i : Nat) (rw : RecvWnd) (dstMax : Nat),
      (recvWndRecvGo base n i rw dstMax).1.w.msg j = rw.w.msg j ∨
        (recvWndRecvGo base n i rw dstMax).1.w.msg j = msgEmpty rw.w.fullAckVec := by
    intro base n
    induction n with
    | zero => exact fun _ _ _ => Or.inl rfl
    | succ n ih =>
      intro i rw dstMax
      simp only [recvWndRecvGo]
      split_ifs
      · exact Or.inl rfl
      · exact Or.inl rfl
      · exact Or.inl rfl
      · exact Or.inl rfl
      · refine Or.elim (ih _ _ _) (fun h => ?_) Or.inr
        rw [h]
        by_cases hj : j = (base + i) % rw.w.cap
        · dsimp only
          rw [hj, Function.update_self]
          exact Or.inr rfl
        · exact Or.inl (Function.update_of_ne hj ..)
  exact hgo _ _ _ _ _

theorem recvWndAck_w (rw : RecvWnd) :
    (recvWndAck rw).1 = { rw with ack := (recvWndAck rw).1.ack } := by
  unfold recvWndAck
  split <;> rfl

theorem recvPollAck_recvWnd (rw : RecvWnd) (sh : FrameHdr) :
    (recvPollAck rw sh).1 = (recvWndAck rw).1 := by
  unfold recvPollAck
  split <;> simp_all

theorem recvPollTimer_w (rw : RecvWnd) (dt : Nat) :
    recvPollTimer rw dt = { rw with
      ack := (recvPollTimer rw dt).ack
      interSegAck := (recvPollTimer rw dt).interSegAck
      interSegAckOn := (recvPollTimer rw dt).interSegAckOn } := by
  unfold recvPollTimer
  split_ifs <;> rfl

theorem ackVecOf_ne_zero {n : Nat} (h : 0 < n) : ackVecOf n ≠ 0 := by
  unfold ackVecOf u16
  have hpow : 0 < 2 ^ n := Nat.pow_pos (by decide)
  rcases Nat.lt_or_ge n 16 with hlt | hge
  · have h1 := Nat.pow_le_pow_right (show 0 < 2 by decide) (show 1 ≤ n from h)
    have h2 := Nat.pow_le_pow_right (show 0 < 2 by decide) (show n ≤ 15 by omega)
    omega
  · obtain ⟨m, rfl⟩ := Nat.exists_eq_add_of_le hge
    rw [Nat.pow_add] at hpow ⊢
    omega

/-! ## Bounds -/

structure RecvBounded (cap msgLen segLen : Nat) (rw : RecvWnd) : Prop where
  dims : WndDims cap msgLen segLen rw.w
  seq_lt : rw.w.seq < seqSpace
  size_le : rw.w.size ≤ rw.w.cap
  copySeq_lt : rw.copySeq < seqSpace
  slide_lt : rw.slide < 65536

section

variable {cap msgLen segLen : Nat} {rw : RecvWnd}

theorem recvWndOpen_bounded (seat : RecvWnd) (cap msgLen segLen : Nat) :
    RecvBounded cap msgLen segLen (recvWndOpen seat cap msgLen segLen) :=
  ⟨⟨rfl, rfl, rfl, rfl⟩, Nat.mod_lt 0 (by decide), Nat.zero_le _, Nat.mod_lt 0 (by decide),
    Nat.mod_lt 0 (by decide)⟩

theorem RecvBounded.slide (h : RecvBounded cap msgLen segLen rw) {seq : Nat} {rw' : RecvWnd}
    (hslide : recvWndSlide rw seq = some rw') : RecvBounded cap msgLen segLen rw' := by
  have hsize := h.size_le
  unfold recvWndSlide at hslide
  dsimp only at hslide
  split_ifs at hslide with hbig hfar
  · obtain rfl := Option.some.inj hslide
    refine ⟨h.dims.congr rfl rfl rfl rfl, Nat.mod_lt _ (by decide), ?_, h.copySeq_lt,
      Nat.zero_lt_succ _⟩
    exact (Nat.mod_le _ _).trans (Nat.not_lt.mp hfar)
  · obtain rfl := Option.some.inj hslide
    refine ⟨h.dims.congr rfl rfl rfl rfl, h.seq_lt, ?_, h.copySeq_lt, h.slide_lt⟩
    exact (Nat.mod_le _ _).trans (max_le hsize (Nat.not_lt.mp hbig))

theorem recvWndSlide_rest {rw rw' : RecvWnd} {seq : Nat} (h : recvWndSlide rw seq = some rw') :
    rw' = { rw with
      w := { rw.w with seq := rw'.w.seq, size := rw'.w.size }
      slide := rw'.slide } := by
  unfold recvWndSlide at h
  dsimp only at h
  split_ifs at h <;> obtain rfl := Option.some.inj h <;> rfl

theorem recvWndStore_rest (rw : RecvWnd) (seq seg segCnt : Nat) (p : List UInt8)
    (interSegAck : Nat) :
    (recvWndStore rw seq seg segCnt p interSegAck).1.w = { rw.w with
        buf := (recvWndStore rw seq seg segCnt p interSegAck).1.w.buf
        msg := (recvWndStore rw seq seg segCnt p interSegAck).1.w.msg } ∧
      (recvWndStore rw seq seg segCnt p interSegAck).1.copySeq = rw.copySeq ∧
      (recvWndStore rw seq seg segCnt p interSegAck).1.copyOfs = rw.copyOfs ∧
      (recvWndStore rw seq seg segCnt p interSegAck).1.slide = rw.slide := by
  unfold recvWndStore
  dsimp only
  split_ifs <;> exact ⟨rfl, rfl, rfl, rfl⟩

theorem recvWndFrame_copyOfs (rw : RecvWnd) (seq seg segCnt : Nat) (p : List UInt8)
    (interSegAck : Nat) :
    (recvWndFrame rw seq seg segCnt p interSegAck).1.copyOfs = rw.copyOfs := by
  unfold recvWndFrame
  cases hslide : recvWndSlide rw seq with
  | none => rfl
  | some rw' =>
    refine (recvWndStore_rest rw' seq seg segCnt p interSegAck).2.2.1.trans ?_
    rw [recvWndSlide_rest hslide]

theorem RecvBounded.step (h : RecvBounded cap msgLen segLen rw) (op : RecvOp) :
    RecvBounded cap msgLen segLen (recvOpStep rw op) := by
  cases op with
  | frame seq seg segCnt p interSegAck =>
    simp only [recvOpStep, recvWndFrame]
    split
    · exact h
    · rename_i rw' hslide
      obtain ⟨hw, hcopy, -, hslide'⟩ := recvWndStore_rest rw' seq seg segCnt p interSegAck
      have hb := h.slide hslide
      refine ⟨hb.dims.congr ?_ ?_ ?_ ?_, ?_, ?_, ?_, ?_⟩
      · rw [hw]
      · rw [hw]
      · rw [hw]
      · rw [hw]
      · rw [hw]
        exact hb.seq_lt
      · rw [hw]
        exact hb.size_le
      · rw [hcopy]
        exact hb.copySeq_lt
      · rw [hslide']
        exact hb.slide_lt
  | recv dstMax =>
    have hrest := recvWndRecv_rest rw dstMax
    obtain ⟨hcopy, hslide⟩ := recvWndRecvGo_bounds rw.copySeq rw.w.size 0 rw dstMax
      ⟨h.copySeq_lt, h.slide_lt⟩
    rw [recvOpStep]
    refine ⟨?_, ?_, ?_, hcopy, hslide⟩
    · rw [hrest]
      exact h.dims.congr rfl rfl rfl rfl
    · rw [hrest]
      exact h.seq_lt
    · rw [hrest]
      exact h.size_le
  | ack =>
    rw [recvOpStep, recvWndAck_w]
    exact ⟨h.dims, h.seq_lt, h.size_le, h.copySeq_lt, h.slide_lt⟩
  | step dt =>
    rw [recvOpStep, recvPollTimer_w]
    exact ⟨h.dims, h.seq_lt, h.size_le, h.copySeq_lt, h.slide_lt⟩

theorem RecvRun.keeps {rw' : RecvWnd} (hrun : RecvRun rw rw')
    (h : RecvBounded cap msgLen segLen rw) : RecvBounded cap msgLen segLen rw' :=
  Run.invariant h (fun _ op hs _ => hs.step op) hrun

theorem RecvRun.bounded {seat : RecvWnd} (hrun : RecvRun (recvWndOpen seat cap msgLen segLen) rw) :
    RecvBounded cap msgLen segLen rw := hrun.keeps (recvWndOpen_bounded seat cap msgLen segLen)

end

/-! ## The window of an instance -/

/-- The calls that neither read nor poll leave the receive window alone. -/
theorem perform_recvWnd (b : Build) (arq : Arq) {c : Call} (hrecv : ∀ n, c ≠ .recv n)
    (hpoll : ∀ dt, c ≠ .poll dt) (hreset : c ≠ .reset) :
    (perform b arq c).recvWnd = arq.recvWnd := by
  cases c <;> simp only [perform]
  case send => unfold arqSend; split <;> rfl
  case flush => rfl
  case recv n => exact absurd rfl (hrecv n)
  case poll dt => exact absurd rfl (hpoll dt)
  case sendPtrGet => unfold backendSendPtrGet; split <;> rfl
  case sendPtrRelease => unfold backendSendPtrRelease; split <;> rfl
  case recvFill => simp only [backendRecvFill]; split <;> rfl
  case connect => unfold arqConnect; split_ifs <;> rfl
  case reset => exact absurd rfl hreset

theorem RecvRun.poll (rw : RecvWnd) (rf : RecvFrame) (checksum : Checksum) (sh : Option FrameHdr)
    (rh : FrameHdr) (dt interSegAck : Nat) :
    RecvRun rw (recvPoll rw rf checksum sh rh dt interSegAck).recvWnd := by
  have hframe : RecvRun rw (recvPollFrame rw rf checksum rh interSegAck).1 := by
    unfold recvPollFrame
    split
    · dsimp only
      split
      · exact RecvRun.next .start (.frame _ _ _ _ _)
      · exact .start
    · exact .start
  have htimer := hframe.next (.step dt)
  cases sh with
  | none => exact htimer
  | some sh =>
    change RecvRun rw (recvPollAck _ sh).1
    rw [recvPollAck_recvWnd]
    exact htimer.next .ack

/-- Every call but a reset is a run of operations on the receive window. -/
theorem perform_recvRun (b : Build) (arq : Arq) {c : Call} (hreset : c ≠ .reset) :
    RecvRun arq.recvWnd (perform b arq c).recvWnd := by
  cases c with
  | recv n =>
    simp only [perform, arqRecv]
    split
    · exact .start
    · exact RecvRun.next .start (.recv n)
  | poll dt => exact .poll _ _ _ _ _ _ _
  | reset => exact absurd rfl hreset
  | send | flush | sendPtrGet | sendPtrRelease | recvFill | connect =>
    rw [perform_recvWnd b arq (by simp) (by simp) (by simp)]
    exact .start

/-- Resetting a window that has these dimensions opens it again. -/
theorem recvWndOpen_reset {cap msgLen segLen : Nat} {rw : RecvWnd}
    (h : WndDims cap msgLen segLen rw.w) : recvWndOpen rw cap msgLen segLen = recvWndRst rw := by
  rw [recvWndOpen, h.init]
  simp only [recvWndRst, wndRst_wndRst]
  rfl

/-- The receive window of an instance is the result of a run since the window was last reset. -/
theorem instance_recvRun {b : Build} {cfg : Cfg} {seat arq₀ arq : Arq}
    (hinit : arqInit b cfg seat = .ok arq₀) (hrun : Run (perform b) (fun _ _ => True) arq₀ arq) :
    ∃ seat, RecvRun (recvWndOpen seat cfg.recvWindowSizeInMessages
      (cfg.messageLengthInSegments * cfg.segmentLengthInBytes) cfg.segmentLengthInBytes)
      arq.recvWnd := by
  induction hrun with
  | start =>
    rw [arqInit_ok hinit]
    exact ⟨seat.recvWnd, .start⟩
  | @next arq _ c _ ih =>
    obtain ⟨seat', ih⟩ := ih
    by_cases hc : c = .reset
    · subst hc
      refine ⟨arq.recvWnd, ?_⟩
      rw [recvWndOpen_reset ih.bounded.dims]
      exact .start
    · exact ⟨seat', Run.trans ih (perform_recvRun b arq hc)⟩

end NanoArq
