import NanoArq.Receiver.Ops

/-!
# Sequence numbers and slots

Some functions of the source find the slot of a message from its sequence number, others from a sum
with the base that is not reduced to twelve bits. Here every function is also given a table of slots
(`slotTable`), in which it looks a message up by its sequence number only.

* `slots_agree`: when the capacities divide `4096`, every function does the same with the one table
  `slotOf`, and the messages of a window have different numbers and different slots.
-/

namespace NanoArq

open Lib

/-! ## Windows addressed by sequence numbers -/

/-- The slot of a sequence number. -/
def slotOf (w : Wnd) (seq : Nat) : Nat := seq % w.cap

/-- The slots of window `w` as a table over the numbers of twelve bits: what a function of the source
takes for the number of a message is reduced before it is looked up. -/
def slotTable (w : Wnd) (_ : Wnd) (n : Nat) : Nat := slotOf w (n % seqSpace)

/-! ## Every function uses the same slots -/

section

variable {w : Wnd}

theorem slotOf_mod (hdvd : w.cap ∣ seqSpace) (n : Nat) : slotOf w (n % seqSpace) = n % w.cap :=
  Nat.mod_mod_of_dvd n hdvd

theorem slotTable_mod (hdvd : w.cap ∣ seqSpace) (w' : Wnd) (n : Nat) :
    slotTable w w' n = n % w.cap :=
  slotOf_mod hdvd n

theorem wndSeg_table (hdvd : w.cap ∣ seqSpace) (seq seg : Nat) :
    wndSeg w seq seg = wndSeg w seq seg (slotTable w) := by
  simp only [wndSeg, slotTable_mod hdvd]

theorem sendWndFill_table {sw : SendWnd} (hw : sw.w.cap = w.cap) (hdvd : w.cap ∣ seqSpace)
    (seq n : Nat) : sendWndFill sw seq n = sendWndFill sw seq n (slotTable w) := by
  unfold sendWndFill
  generalize List.range n = is
  induction is generalizing sw with
  | nil => rfl
  | cons i is ih =>
    rw [List.foldl_cons, List.foldl_cons]
    dsimp only
    rw [slotTable_mod hdvd, ← hw]
    exact ih hw

theorem sendWndRetire_table (hdvd : w.cap ∣ seqSpace) :
    ∀ (n i : Nat) (msg : Nat → Msg),
      sendWndRetire w n i msg = sendWndRetire w n i msg (slotTable w) := by
  intro n
  induction n with
  | zero => exact fun _ _ => rfl
  | succ n ih =>
    intro i msg
    simp only [sendWndRetire, slotTable_mod hdvd]
    split
    · rfl
    · exact ih _ _

section

variable {sw : SendWnd}

theorem sendWndSend_table (hdvd : sw.w.cap ∣ seqSpace) (data : List UInt8) (tiny : Nat) :
    sendWndSend sw data tiny = sendWndSend sw data tiny (slotTable sw.w) := by
  have hfill : ∀ buf seq n,
      sendWndFill { sw with w := { sw.w with buf := buf } } seq n =
        sendWndFill { sw with w := { sw.w with buf := buf } } seq n (slotTable sw.w) := by
    intro buf seq n
    apply sendWndFill_table
    · rfl
    · exact hdvd
  simp only [sendWndSend, slotTable_mod hdvd, hfill]

theorem sendWndAck_table (hdvd : sw.w.cap ∣ seqSpace) (seq vec : Nat) :
    sendWndAck sw seq vec = sendWndAck sw seq vec (slotTable sw.w) := by
  simp only [sendWndAck, sendWndRetire_table hdvd, slotTable_mod hdvd]

theorem sendWndFlush_table (hdvd : sw.w.cap ∣ seqSpace) :
    sendWndFlush sw = sendWndFlush sw (slotTable sw.w) := by
  simp only [sendWndFlush, slotTable_mod hdvd]

theorem sendWndStep_table (hdvd : sw.w.cap ∣ seqSpace) (dt : Nat) :
    sendWndStep sw dt = sendWndStep sw dt (slotTable sw.w) := by
  simp only [sendWndStep, slotTable_mod hdvd]

theorem sendWndPtrSearch_table (hdvd : sw.w.cap ∣ seqSpace) (p : SendWndPtr) :
    sendWndPtrSearch p sw = sendWndPtrSearch p sw (slotTable sw.w) := by
  have hselects : ∀ i, decide (ptrSelects p sw i) =
      decide (ptrSelects p sw i (slotTable sw.w)) := by
    intro i
    refine decide_eq_decide.mpr ?_
    simp only [ptrSelects, slotTable_mod hdvd]
  simp only [sendWndPtrSearch, hselects, slotTable_mod hdvd]

theorem sendWndPtrNext_table (hdvd : sw.w.cap ∣ seqSpace) (p : SendWndPtr) :
    sendWndPtrNext p sw = sendWndPtrNext p sw (slotTable sw.w) := by
  simp only [sendWndPtrNext, sendWndPtrSearch_table hdvd, slotTable_mod hdvd]

end

section

variable {rw : RecvWnd}

theorem recvWndStore_table (hw : rw.w.cap = w.cap) (hdvd : w.cap ∣ seqSpace) (seq seg segCnt : Nat)
    (p : List UInt8) (interSegAck : Nat) : recvWndStore rw seq seg segCnt p interSegAck =
      recvWndStore rw seq seg segCnt p interSegAck (slotTable w) := by
  simp only [recvWndStore, wndSeg, slotTable_mod hdvd, hw]

theorem recvWndFrame_table (hdvd : rw.w.cap ∣ seqSpace) (seq seg segCnt : Nat) (p : List UInt8)
    (interSegAck : Nat) : recvWndFrame rw seq seg segCnt p interSegAck =
      recvWndFrame rw seq seg segCnt p interSegAck (slotTable rw.w) := by
  unfold recvWndFrame
  cases hslide : recvWndSlide rw seq with
  | none => rfl
  | some rw' =>
    refine recvWndStore_table ?_ hdvd seq seg segCnt p interSegAck
    rw [recvWndSlide_rest hslide]

theorem recvWndRecvGo_table (hdvd : w.cap ∣ seqSpace) (base : Nat) :
    ∀ (n i : Nat) (rw : RecvWnd) (dstMax : Nat), rw.w.cap = w.cap →
      recvWndRecvGo base n i rw dstMax = recvWndRecvGo base n i rw dstMax (slotTable w) := by
  intro n
  induction n with
  | zero => exact fun _ _ _ _ => rfl
  | succ n ih =>
    intro i rw dstMax hw
    simp only [recvWndRecvGo, slotTable_mod hdvd, ← hw]
    rw [ih]
    exact hw

theorem recvWndAck_table (hdvd : rw.w.cap ∣ seqSpace) :
    recvWndAck rw = recvWndAck rw (slotTable rw.w) := by
  simp only [recvWndAck, slotTable_mod hdvd]

end

end

/-! ## The theorem -/

/-- The sequence number of message `i` of a window. -/
def seqAt (w : Wnd) (i : Nat) : Nat := (w.seq + i) % seqSpace

/-- The messages of a window have different numbers, and these different slots. -/
structure SlotsDistinct (w : Wnd) : Prop where
  numbers : ∀ i j, i < w.size → j < w.size → seqAt w i = seqAt w j → i = j
  slots : ∀ i j, i < w.size → j < w.size → slotOf w (seqAt w i) = slotOf w (seqAt w j) → i = j

/-- Every function of the send side finds every message in the table. -/
structure SendSlots (sw : SendWnd) : Prop where
  distinct : SlotsDistinct sw.w
  send : ∀ data tiny, sendWndSend sw data tiny = sendWndSend sw data tiny (slotTable sw.w)
  ack : ∀ seq vec, sendWndAck sw seq vec = sendWndAck sw seq vec (slotTable sw.w)
  flush : sendWndFlush sw = sendWndFlush sw (slotTable sw.w)
  step : ∀ dt, sendWndStep sw dt = sendWndStep sw dt (slotTable sw.w)
  ptrNext : ∀ p, sendWndPtrNext p sw = sendWndPtrNext p sw (slotTable sw.w)
  seg : ∀ seq seg, wndSeg sw.w seq seg = wndSeg sw.w seq seg (slotTable sw.w)

/-- Every function of the receive side finds every message in the table. -/
structure RecvSlots (rw : RecvWnd) : Prop where
  distinct : SlotsDistinct rw.w
  frame : ∀ seq seg segCnt p interSegAck, recvWndFrame rw seq seg segCnt p interSegAck =
    recvWndFrame rw seq seg segCnt p interSegAck (slotTable rw.w)
  recv : ∀ dstMax, recvWndRecv rw dstMax = recvWndRecv rw dstMax (slotTable rw.w)
  ack : recvWndAck rw = recvWndAck rw (slotTable rw.w)
  seg : ∀ seq seg, wndSeg rw.w seq seg = wndSeg rw.w seq seg (slotTable rw.w)

theorem slotsDistinct {w : Wnd} (hdvd : w.cap ∣ seqSpace) (hsize : w.size ≤ w.cap) :
    SlotsDistinct w := by
  have hslots : ∀ i j, i < w.size → j < w.size →
      slotOf w (seqAt w i) = slotOf w (seqAt w j) → i = j := by
    intro i j hi hj h
    simp only [seqAt, slotOf_mod hdvd] at h
    exact ring_inj (by omega) (by omega) h
  refine ⟨?_, hslots⟩
  intro i j hi hj h
  exact hslots i j hi hj (congrArg _ h)

theorem sendSlots {sw : SendWnd} (hdvd : sw.w.cap ∣ seqSpace) (hsize : sw.w.size ≤ sw.w.cap) :
    SendSlots sw where
  distinct := slotsDistinct hdvd hsize
  send := sendWndSend_table hdvd
  ack := sendWndAck_table hdvd
  flush := sendWndFlush_table hdvd
  step := sendWndStep_table hdvd
  ptrNext := sendWndPtrNext_table hdvd
  seg := wndSeg_table hdvd

theorem recvSlots {rw : RecvWnd} (hdvd : rw.w.cap ∣ seqSpace) (hsize : rw.w.size ≤ rw.w.cap) :
    RecvSlots rw where
  distinct := slotsDistinct hdvd hsize
  frame := recvWndFrame_table hdvd
  recv := fun _ => recvWndRecvGo_table hdvd _ _ _ _ _ rfl
  ack := recvWndAck_table hdvd
  seg := wndSeg_table hdvd

/-- **Sequence numbers and slots correspond one to one** when the capacities divide `4096`. -/
theorem slots_agree (b : Build) (cfg : Cfg) (seat arq₀ arq : Arq)
    (hinit : arqInit b cfg seat = .ok arq₀) (hsend : cfg.sendWindowSizeInMessages ∣ seqSpace)
    (hrecv : cfg.recvWindowSizeInMessages ∣ seqSpace)
    (hrun : Run (perform b) (fun _ _ => True) arq₀ arq) :
    SendSlots arq.sendWnd ∧ RecvSlots arq.recvWnd := by
  have hsendLe := Nat.le_of_dvd (by decide) hsend
  have hrecvLe := Nat.le_of_dvd (by decide) hrecv
  unfold seqSpace at hsendLe hrecvLe
  obtain ⟨seat₁, hrun₁⟩ := instance_sendRun hinit hrun
  obtain ⟨seat₂, hrun₂⟩ := instance_recvRun hinit hrun
  have hb₁ := hrun₁.bounded (by
    rw [u16_of_lt (by omega)]
    exact (checkCfg_pos (arqInit_check hinit)).2.2.1)
  have hb₂ := hrun₂.bounded
  have hcap₁ := hb₁.dims.cap_eq.trans (u16_of_lt (by omega))
  have hcap₂ := hb₂.dims.cap_eq.trans (u16_of_lt (by omega))
  exact ⟨sendSlots (by rwa [hcap₁]) hb₁.size_le, recvSlots (by rwa [hcap₂]) hb₂.size_le⟩

theorem slots_agree_sample :
    let arq := perform ⟨false⟩ (freshArq ⟨false⟩ (smallCfg 1 1 4)) (.send [7, 8])
    SendSlots arq.sendWnd ∧ RecvSlots arq.recvWnd :=
  slots_agree ⟨false⟩ (smallCfg 1 1 4) (zeroSeat _) _ _ (arqInit_zeroSeat rfl) (by decide) (by decide)
    (Run.next .start (Call.send [7, 8]) trivial)

/-- With a capacity of three messages, the messages `4095` and `0` meet in slot `0` for the functions
that reduce the number, while `arq__send_wnd_send` has put message `0` into slot `1`. -/
theorem slots_collide :
    checkCfg (smallCfg 1 1 3) = .okCompleted ∧
      ∃ sw, SendRun (sendWndOpen (zeroSeat (smallCfg 1 1 3)).sendWnd 3 1 1) sw ∧
        sw.w.seq = 4095 ∧ sw.w.size = 2 ∧ (sw.w.msg 1).len = 1 ∧ slotOf sw.w (seqAt sw.w 0) = 0 ∧
        slotOf sw.w (seqAt sw.w 1) = 0 ∧ ¬ SendSlots sw := by
  obtain ⟨sw₀, hrun, hdrained⟩ := drained_rounds (zeroSeat (smallCfg 1 1 3)).sendWnd
    (show 0 < 3 by decide) (by decide) 4095
  obtain ⟨hseq, hsize, hcap, hmsg⟩ := hdrained.two (by decide) (by decide) 8 9
  replace hrun := hrun.next (.send [8, 9] 0)
  rw [sendOpStep] at hrun
  generalize (sendWndSend sw₀ [8, 9] 0).1 = sw at *
  have h0 : slotOf sw.w (seqAt sw.w 0) = 0 := by
    rw [slotOf, seqAt, hseq, hcap]
    rfl
  have h1 : slotOf sw.w (seqAt sw.w 1) = 0 := by
    rw [slotOf, seqAt, hseq, hcap]
    rfl
  refine ⟨rfl, sw, hrun, hseq, hsize, congrArg Msg.len (hmsg 1 (by decide)), h0, h1, ?_⟩
  intro h
  have := h.distinct.slots 0 1 (by rw [hsize]; decide) (by rw [hsize]; decide) (h0.trans h1.symm)
  cases this

end NanoArq
