import NanoArq.Receiver.Charge
import NanoArq.Receiver.Reassembly

/-!
# What the reported ACKs say

A receiver is fed by a sender that sends segments of the messages `M` from a window of `cap` messages,
and moves the window past a message when all its segments have been reported. An ACK is reported with
the vector that is in the slot of its message at that time, and reading empties the slot.

* `RecvLayout.reachable`: a frame that the window takes is of one of the `cap` messages behind those
  handed over, if it is not of a message handed over that the window still designates, or directly
  below the base.
* `AckSound.poll`: then every slot with an ACK flag holds segments, if no flag is left behind when a
  message is handed over, and the timer flags no empty slot.
* `acks_truthful`: and every report is the set of segments received so far.
-/

namespace NanoArq

open Lib

/-! ## Runs -/

/-- A receiver, the bytes read from it, the segments that its window has taken, the base of the
sender's window when it sent the last one, and the messages reported with their vectors. -/
structure AckHist where
  arq : Arq
  out : List UInt8
  got : List (Nat × Nat)
  low : Nat
  reports : List (Nat × Nat)

def AckHist.start (arq : Arq) : AckHist where
  arq := arq
  out := []
  got := []
  low := 0
  reports := []

/-- A call. Where it is a poll that reads a data frame, this has segment `j` of message `k`, and `low`
was the base of the sender's window. -/
structure FedCall where
  call : Call
  k : Nat
  j : Nat
  low : Nat

/-- What `arq__recv_wnd_ack` reports in a poll. -/
def pollReport (arq : Arq) (dt : Nat) : Option (Nat × Nat) :=
  if sendFrameFree arq then (recvWndAck (pollReceived arq dt)).2 else none

/-- The number of messages handed over. -/
def AckHist.read (M : Nat → List UInt8) (h : AckHist) : Nat := wholeMessages M h.out.length

/-- The message that the window designates by the number `seq` when a poll reports it. -/
def AckHist.message (M : Nat → List UInt8) (h : AckHist) (dt seq : Nat) : Nat :=
  h.read M - (pollReceived h.arq dt).slide + wndIndex (pollReceived h.arq dt).w seq

def ackHistStep (M : Nat → List UInt8) (b : Build) (h : AckHist) (a : FedCall) : AckHist :=
  let arq := perform b h.arq a.call
  match a.call with
  | .poll dt =>
    { arq := arq
      out := h.out
      got := if Receives h.arq (a.k % seqSpace) then (a.k, a.j) :: h.got else h.got
      low := if (pollSegment h.arq).isSome then a.low else h.low
      reports := (pollReport h.arq dt).toList.map (fun r => (h.message M dt r.1, r.2)) ++ h.reports }
  | .recv n => { h with arq := arq, out := h.out ++ (arqRecv h.arq n).2.2 }
  | _ => { h with arq := arq }

/-! ## The sender -/

/-- The frame `r` has segment `a.j` of message `a.k`, which was in the sender's window. The window has
moved past messages only of which every segment has been reported. -/
structure Conforms (d : RecvDims) (M : Nat → List UInt8) (h : AckHist) (r : FrameRead) (a : FedCall) :
    Prop where
  seqNum : r.hdr.seqNum = a.k % seqSpace
  segId : r.hdr.segId = a.j
  msgLen : r.hdr.msgLen = d.segsOf (M a.k)
  seg : r.seg = chunk d.segLen (M a.k) a.j
  lt : a.j < d.segsOf (M a.k)
  low_le : h.low ≤ a.low
  inside : a.low ≤ a.k ∧ a.k < a.low + d.cap
  acked : ∀ m, m < a.low → ∃ p ∈ h.reports, p.1 = m ∧ ∀ j, j < d.segsOf (M m) → p.2.testBit j = true

instance (d : RecvDims) (M : Nat → List UInt8) (h : AckHist) (r : FrameRead) (a : FedCall) :
    Decidable (Conforms d M h r a) :=
  decidable_of_iff (_ ∧ _ ∧ _ ∧ _ ∧ _ ∧ _ ∧ _ ∧ _)
    ⟨fun h => ⟨h.1, h.2.1, h.2.2.1, h.2.2.2.1, h.2.2.2.2.1, h.2.2.2.2.2.1, h.2.2.2.2.2.2.1,
      h.2.2.2.2.2.2.2⟩, fun h => ⟨h.1, h.2, h.3, h.4, h.5, h.6, h.7, h.8⟩⟩

/-- The data frames come from the sender. -/
def FedBy (d : RecvDims) (M : Nat → List UInt8) (h : AckHist) (a : FedCall) : Prop :=
  match a.call with
  | .poll _ => ∀ r ∈ pollSegment h.arq, Conforms d M h r a
  | .reset => False
  | _ => True

/-! ## The condition -/

/-- The frame is not of a message handed over that the window still designates, nor of the message
directly below the base. -/
def NotHandedOver (rw : RecvWnd) (seq : Nat) : Prop :=
  rw.slide ≤ wndIndex rw.w seq ∧ wndIndex rw.w seq ≠ seqSpace - 1

/-- The slot of the message that the timer belongs to holds segments. -/
def TimerOwned (rw : RecvWnd) : Prop :=
  (rw.w.msg (rw.interSegAckSeq % rw.w.cap)).curAckVec ≠ 0

/-- What keeps the flagged slots filled: no frame of a message handed over is taken, the timer does not
run out for an empty slot, and no message is handed over with its ACK flag set. -/
def FlagsKept (arq : Arq) : Call → Prop
  | .poll dt => (∀ r ∈ pollSegment arq, NotHandedOver arq.recvWnd r.hdr.seqNum) ∧
      (Expires (pollStored arq) dt → TimerOwned (pollStored arq))
  | .recv n => ∀ slot, slot < arq.recvWnd.w.cap → arq.recvWnd.ack slot = true →
      ((arqRecv arq n).1.recvWnd.w.msg slot).curAckVec = (arq.recvWnd.w.msg slot).curAckVec
  | _ => True

instance (rw : RecvWnd) (seq : Nat) : Decidable (NotHandedOver rw seq) :=
  inferInstanceAs (Decidable (_ ∧ _))

instance (rw : RecvWnd) : Decidable (TimerOwned rw) := inferInstanceAs (Decidable (_ ≠ _))

instance (arq : Arq) : (c : Call) → Decidable (FlagsKept arq c)
  | .poll dt => inferInstanceAs (Decidable ((∀ r ∈ pollSegment arq, _) ∧ (Expires _ dt → _)))
  | .recv _ => inferInstanceAs (Decidable (∀ slot, slot < arq.recvWnd.w.cap → _))
  | .send _ | .flush | .sendPtrGet | .sendPtrRelease | .recvFill _ | .connect | .reset =>
    inferInstanceAs (Decidable True)

instance (d : RecvDims) (M : Nat → List UInt8) (h : AckHist) (a : FedCall) :
    Decidable (FedBy d M h a) := by
  unfold FedBy
  cases a.call <;> infer_instance

/-! ## Which frames are taken -/

section

variable {d : RecvDims} {M : Nat → List UInt8} {got : Nat → Nat → Prop} {read k low : Nat}
  {rw : RecvWnd}

/-- A window has no room for a number that is too far behind the messages handed over. -/
theorem recvWndSlide_far {seq : Nat} (hbase : rw.w.seq < seqSpace) (hseq : seq < seqSpace)
    (hne : wndIndex rw.w seq ≠ seqSpace - 1) (hbig : rw.w.cap ≤ wndIndex rw.w seq)
    (hfar : rw.slide + rw.w.cap ≤ wndIndex rw.w seq) : recvWndSlide rw seq = none := by
  have hlt := wndIndex_lt rw.w seq
  have hnew := recvNewSize_eq hbase hseq
  unfold seqSpace at *
  rw [Nat.mod_eq_of_lt (by omega)] at hnew
  unfold recvWndSlide
  dsimp only
  rw [hnew, sub32_of_le (by omega), if_pos (by omega), if_pos (by omega)]

theorem RecvLayout.reachable (h : RecvLayout d M got read rw) (hread : read ≤ low + d.cap)
    (hdone : ∀ m, m < low → ∃ j, got m j) (hlo : low ≤ k) (hhi : k < low + d.cap)
    (hframe : NotHandedOver rw (k % seqSpace)) :
    recvWndSlide rw (k % seqSpace) = none ∨
      read ≤ k ∧ k < read + d.cap ∧ k - (read - rw.slide) < 4095 := by
  obtain ⟨hin, hne⟩ := hframe
  have hcap := h.cap_eq
  have hcapLe := d.cap_le
  have hslide := h.slide_le
  have hss := h.slide_size
  have hsize := h.size_le
  have hlow : low ≤ read - rw.slide + rw.w.size := by
    by_contra hlt
    obtain ⟨j, hj⟩ := hdone (read - rw.slide + rw.w.size) (by omega)
    have := h.front _ _ hj
    omega
  have hseqLt : rw.w.seq < seqSpace := by
    rw [h.seq]
    exact Nat.mod_lt _ (by decide)
  have hfar := fun hbig hfar =>
    @recvWndSlide_far rw (k % seqSpace) hseqLt (Nat.mod_lt _ (by decide)) hne hbig hfar
  have hindex : wndIndex rw.w (k % seqSpace) =
      (k % seqSpace + seqSpace - (read - rw.slide) % seqSpace) % seqSpace := by
    rw [wndIndex, h.seq]
  rw [hcap] at hfar
  unfold seqSpace at *
  rcases Nat.lt_or_ge k (read - rw.slide) with hbelow | hge
  · -- a message that the window has moved past
    exact Or.inl (hfar (by omega) (by omega))
  · have hindex' : wndIndex rw.w (k % 4096) = k - (read - rw.slide) := by omega
    rw [hindex'] at hin hne hfar
    rcases Nat.lt_or_ge k (read + d.cap) with hnear | hbeyond
    · exact Or.inr ⟨by omega, hnear, by omega⟩
    · exact Or.inl (hfar (by omega) (by omega))

/-- A frame of the sender's window adds its segment, or it is not taken. -/
theorem Assembled.taken {r : Reassembly} {n j : Nat} (h : Assembled d M r n) (hM : ∀ k, MsgFits d (M k))
    (hread : n ≤ low + d.cap) (hdone : ∀ m, m < low → ∃ j, (m, j) ∈ r.got) (hlo : low ≤ k)
    (hhi : k < low + d.cap) (hframe : NotHandedOver r.rw (k % seqSpace)) (hj : j < d.segsOf (M k))
    (interSegAck : Nat) :
    Assembled d M
      { reassemblyStep d M r (.frame k j interSegAck) with
        got := if (recvWndSlide r.rw (k % seqSpace)).isSome then (k, j) :: r.got else r.got } n := by
  have hreach := h.layout.reachable hread hdone hlo hhi hframe
  cases hslide : recvWndSlide r.rw (k % seqSpace) with
  | none =>
    simp only [reassemblyStep, recvWndFrame, hslide, Option.isSome_none, Bool.false_eq_true, if_false]
    exact h
  | some rw' =>
    obtain ⟨hread', hnear, hdist⟩ := hreach.resolve_left (by rw [hslide]; exact Option.some_ne_none _)
    rw [Option.isSome_some, if_pos rfl]
    exact h.frame hM hread' hnear hdist hj interSegAck

end

/-! ## The invariant -/

/-- A slot with an ACK flag holds segments. -/
def Flagged (rw : RecvWnd) : Prop :=
  ∀ slot, slot < rw.w.cap → rw.ack slot = true → (rw.w.msg slot).curAckVec ≠ 0

def AckHist.assembly (h : AckHist) : Reassembly := ⟨h.arq.recvWnd, h.got, h.out⟩

structure AckSound (d : RecvDims) (M : Nat → List UInt8) (h : AckHist) (n : Nat) : Prop where
  assembled : Assembled d M h.assembly n
  flags : Flagged h.arq.recvWnd
  ahead : ∀ p ∈ h.got, p.1 < h.low + d.cap
  known : ∀ p ∈ h.reports, ∀ j, p.2.testBit j = true → (p.1, j) ∈ h.got

section

variable {d : RecvDims} {M : Nat → List UInt8} {b : Build} {rw rw' : RecvWnd} {h : AckHist}
  {a : FedCall} {r : Reassembly} {n dt seq vec : Nat}

/-- The flags and timers do not matter. -/
theorem Assembled.congr (h : Assembled d M r n) (hw : rw'.w = r.rw.w)
    (hcopySeq : rw'.copySeq = r.rw.copySeq) (hcopyOfs : rw'.copyOfs = r.rw.copyOfs)
    (hslide : rw'.slide = r.rw.slide) : Assembled d M { r with rw := rw' } n := by
  refine ⟨h.layout.congr hw hcopySeq hcopyOfs hslide, ?_, h.out⟩
  rw [readPos, hcopyOfs]
  exact h.pos

theorem Assembled.timer (h : Assembled d M r n) (dt : Nat) :
    Assembled d M { r with rw := recvPollTimer r.rw dt } n := by
  have hrest := recvPollTimer_w r.rw dt
  apply h.congr <;> rw [hrest]

theorem Assembled.ack (h : Assembled d M r n) : Assembled d M { r with rw := (recvWndAck r.rw).1 } n := by
  have hrest := recvWndAck_w r.rw
  apply h.congr <;> rw [hrest]

/-- Storing a segment flags the slot of its message at most, and leaves it filled. -/
theorem Flagged.store (h : Flagged rw) {seg segCnt timeout : Nat} {p : List UInt8} (hseg : seg < 16) :
    Flagged (recvWndStore rw seq seg segCnt p timeout).1 := by
  intro slot hslot hack
  have hcap : (recvWndStore rw seq seg segCnt p timeout).1.w.cap = rw.w.cap := by
    rw [(recvWndStore_rest rw seq seg segCnt p timeout).1]
  rw [hcap] at hslot
  have hfilled : ∀ v : Nat, u16 (v ||| 2 ^ seg) ≠ 0 := by
    intro v hzero
    have hbit : (u16 (v ||| 2 ^ seg)).testBit seg = true := by
      rw [u16, show 65536 = 2 ^ 16 by rfl, Nat.testBit_mod_two_pow, Nat.testBit_or]
      simp [hseg]
    rw [hzero, Nat.zero_testBit] at hbit
    cases hbit
  have hother : ∀ m, slot ≠ seq % rw.w.cap →
      Function.update rw.w.msg (seq % rw.w.cap) m slot = rw.w.msg slot :=
    fun m hne => Function.update_of_ne hne ..
  unfold recvWndStore at hack ⊢
  dsimp only at hack ⊢
  by_cases heq : slot = seq % rw.w.cap
  · subst heq
    split_ifs at hack ⊢ with hbit hlast
    · intro hzero
      rw [hzero, Nat.zero_testBit] at hbit
      cases hbit
    · dsimp only
      rw [Function.update_self]
      exact hfilled _
    · dsimp only
      rw [Function.update_self]
      exact hfilled _
  · split_ifs at hack ⊢ with hbit hlast
    · dsimp only at hack
      rw [Function.update_of_ne heq] at hack
      exact h slot hslot hack
    · dsimp only at hack ⊢
      rw [Function.update_of_ne heq] at hack
      rw [hother _ heq]
      exact h slot hslot hack
    · dsimp only at hack ⊢
      rw [hother _ heq]
      exact h slot hslot hack

theorem Flagged.frame (h : Flagged rw) {seg segCnt timeout : Nat} {p : List UInt8} (hseg : seg < 16) :
    Flagged (recvWndFrame rw seq seg segCnt p timeout).1 := by
  unfold recvWndFrame
  cases hslide : recvWndSlide rw seq with
  | none => exact h
  | some rw' =>
    refine Flagged.store ?_ hseg
    have hrest := recvWndSlide_rest hslide
    intro slot hslot hack
    rw [hrest] at hslot hack ⊢
    exact h slot hslot hack

theorem Flagged.timer (h : Flagged rw) (howned : Expires rw dt → TimerOwned rw) :
    Flagged (recvPollTimer rw dt) := by
  intro slot hslot hack
  rw [recvPollTimer_ack] at hack
  rw [recvPollTimer_w] at hslot ⊢
  dsimp only at hslot ⊢
  split_ifs at hack with hexp
  · by_cases heq : slot = rw.interSegAckSeq % rw.w.cap
    · rw [heq]
      exact howned hexp
    · rw [Function.update_of_ne heq] at hack
      exact h slot hslot hack
  · exact h slot hslot hack

/-- An ACK that is reported, and the slot it is taken from. -/
theorem recvWndAck_some (h : (recvWndAck rw).2 = some (seq, vec)) :
    ∃ i, i < rw.w.size ∧ rw.ack ((rw.w.seq + i) % rw.w.cap) = true ∧
      seq = (rw.w.seq + i) % seqSpace ∧ vec = (rw.w.msg ((rw.w.seq + i) % rw.w.cap)).curAckVec := by
  unfold recvWndAck at h
  split at h
  · rename_i i hfind
    obtain ⟨hi, hmem, -⟩ := List.find?_range_eq_some.mp hfind
    obtain ⟨rfl, rfl⟩ := Prod.mk.inj (Option.some.inj h)
    exact ⟨i, by simpa using hmem, hi, rfl, rfl⟩
  · cases h

/-- A window that was reset owes no ACK. -/
theorem recvWndOpen_ack (seat : RecvWnd) {cap slot : Nat} (msgLen segLen : Nat) (h : slot < u16 cap) :
    (recvWndOpen seat cap msgLen segLen).ack slot = false :=
  (foldl_update_const (u16 cap) false seat.ack slot).trans (if_pos h)

theorem Flagged.ack (h : Flagged rw) : Flagged (recvWndAck rw).1 := by
  intro slot hslot hack
  have hold : rw.ack slot = true := by
    revert hack
    unfold recvWndAck
    split
    · dsimp only
      intro hack
      by_contra hoff
      rename_i i _
      by_cases heq : slot = (rw.w.seq + i) % rw.w.cap
      · rw [heq, Function.update_self] at hack
        cases hack
      · rw [Function.update_of_ne heq] at hack
        exact hoff hack
    · exact id
  rw [recvWndAck_w] at hslot ⊢
  exact h slot hslot hold

/-- The message that a reported ACK is about, and that its vector is what was received of it. -/
theorem Assembled.report (h : Assembled d M r n) (hreport : (recvWndAck r.rw).2 = some (seq, vec))
    (hvec : vec ≠ 0) :
    let k := n - r.rw.slide + wndIndex r.rw.w seq
    k % seqSpace = seq ∧ (∃ j, (k, j) ∈ r.got) ∧ (∀ j, vec.testBit j = true ↔ (k, j) ∈ r.got) ∧
      n ≤ k ∧ k < n + d.cap := by
  obtain ⟨i, hi, -, rfl, rfl⟩ := recvWndAck_some hreport
  have hl := h.layout
  have hcap := hl.cap_eq
  have hcapLe := d.cap_le
  have hslide := hl.slide_le
  have hss := hl.slide_size
  have hsize := hl.size_le
  have hseqLt : r.rw.w.seq < seqSpace := by
    rw [hl.seq]
    exact Nat.mod_lt _ (by decide)
  have hplace : (r.rw.w.seq + i) % r.rw.w.cap = (n - r.rw.slide + i) % d.cap := by
    rw [hcap, hl.seq, ring_mod d.cap_dvd]
  obtain ⟨j, hj⟩ := Nat.exists_testBit_of_ne_zero hvec
  rw [hplace] at hj
  -- the places before the messages handed over are empty
  have hbehind : r.rw.slide ≤ i := by
    by_contra hlt
    have hnext := hl.slot (n - r.rw.slide + i + d.cap) (by omega) (by omega)
    rw [Nat.add_mod_right] at hnext
    have := hl.front _ j ((hnext.vec j).mp hj)
    omega
  have hholds := hl.slot (n - r.rw.slide + i) (by omega) (by omega)
  rw [wndIndex_of_lt hseqLt (by unfold seqSpace; omega), hplace]
  refine ⟨?_, ⟨j, (hholds.vec j).mp hj⟩, hholds.vec, by omega, by omega⟩
  rw [hl.seq, Nat.mod_add_mod]

theorem Assembled.report_ne (h : Assembled d M r n) (hflags : Flagged r.rw)
    (hreport : (recvWndAck r.rw).2 = some (seq, vec)) : vec ≠ 0 := by
  obtain ⟨i, -, hack, -, rfl⟩ := recvWndAck_some hreport
  refine hflags _ ?_ hack
  rw [h.layout.cap_eq]
  exact Nat.mod_lt _ d.cap_pos

/-! ## One call -/

theorem AckSound.low_done (hs : AckSound d M h n) {low : Nat}
    (hacked : ∀ m, m < low → ∃ p ∈ h.reports, p.1 = m ∧
      ∀ j, j < d.segsOf (M m) → p.2.testBit j = true) :
    ∀ m, m < low → Complete d M h.assembly.Got m := by
  intro m hm j hj
  obtain ⟨p, hp, rfl, hall⟩ := hacked m hm
  exact hs.known p hp j (hall j hj)

theorem AckSound.read_le (hs : AckSound d M h n) (hM : ∀ k, MsgFits d (M k)) : n ≤ h.low + d.cap := by
  by_contra hlt
  have hgot := hs.assembled.layout.done (n - 1) (by omega) 0 (hM _).segs_pos
  have := hs.ahead _ hgot
  dsimp only at this
  omega

/-- What a poll stores. -/
theorem AckSound.stored (hs : AckSound d M h n) (hM : ∀ k, MsgFits d (M k)) (ha : a.call = .poll dt)
    (hfed : FedBy d M h a) (hkept : FlagsKept h.arq a.call) :
    Assembled d M ⟨pollStored h.arq, (ackHistStep M b h a).got, h.out⟩ n ∧
      Flagged (pollStored h.arq) ∧
      ∀ p ∈ (ackHistStep M b h a).got, p.1 < (ackHistStep M b h a).low + d.cap := by
  unfold FedBy at hfed
  unfold ackHistStep
  rw [ha] at hfed hkept ⊢
  dsimp only at hfed ⊢
  cases hseg : pollSegment h.arq with
  | none =>
    have hnone : ¬ Receives h.arq (a.k % seqSpace) := by
      rintro ⟨r, hr, -⟩
      rw [hseg] at hr
      cases hr
    rw [pollStored_of_none hseg, if_neg hnone]
    exact ⟨hs.assembled, hs.flags, hs.ahead⟩
  | some r =>
    have hc := hfed r hseg
    have hin := hkept.1 r hseg
    have hread := hs.read_le hM
    have hlow := hc.low_le
    have hstored : pollStored h.arq = (recvWndFrame h.arq.recvWnd (a.k % seqSpace) a.j
        (d.segsOf (M a.k)) (chunk d.segLen (M a.k) a.j) h.arq.cfg.interSegmentTimeout).1 := by
      rw [pollStored, hseg]
      dsimp only
      rw [hc.seqNum, hc.segId, hc.msgLen, hc.seg]
    rw [hc.seqNum] at hin
    have hlast : a.j < 16 := by
      have := hc.lt
      have := (hM a.k).segs
      omega
    have hreceives : Receives h.arq (a.k % seqSpace) ↔
        (recvWndSlide h.arq.recvWnd (a.k % seqSpace)).isSome = true := by
      refine ⟨?_, fun hsome => ⟨r, hseg, hc.seqNum, hsome⟩⟩
      rintro ⟨-, -, -, hsome⟩
      exact hsome
    have htaken := hs.assembled.taken hM (by omega)
      (fun m hm => ⟨0, hs.low_done hc.acked m hm 0 (hM m).segs_pos⟩) hc.inside.1 hc.inside.2 hin hc.lt
      h.arq.cfg.interSegmentTimeout
    rw [Option.isSome_some, if_pos rfl, hstored]
    refine ⟨?_, hs.flags.frame hlast, ?_⟩
    · simp only [hreceives]
      exact htaken
    · intro p hp
      split at hp
      · rcases List.mem_cons.mp hp with rfl | hp
        · exact hc.inside.2
        · have := hs.ahead p hp
          omega
      · have := hs.ahead p hp
        omega

/-- What the reported ACK of a poll says. -/
theorem AckSound.polled (hs : AckSound d M h n) (hM : ∀ k, MsgFits d (M k)) (ha : a.call = .poll dt)
    (hfed : FedBy d M h a) (hkept : FlagsKept h.arq a.call) :
    Assembled d M ⟨pollReceived h.arq dt, (ackHistStep M b h a).got, h.out⟩ n ∧
      Flagged (pollReceived h.arq dt) := by
  obtain ⟨hassembled, hflags, -⟩ := hs.stored (b := b) hM ha hfed hkept
  rw [ha] at hkept
  rw [pollReceived_eq]
  exact ⟨hassembled.timer dt, hflags.timer hkept.2⟩

theorem AckSound.poll (hs : AckSound d M h n) (hM : ∀ k, MsgFits d (M k)) (ha : a.call = .poll dt)
    (hfed : FedBy d M h a) (hkept : FlagsKept h.arq a.call) : AckSound d M (ackHistStep M b h a) n := by
  obtain ⟨-, -, hahead⟩ := hs.stored (b := b) hM ha hfed hkept
  obtain ⟨hassembled, hflags⟩ := hs.polled (b := b) hM ha hfed hkept
  have hread : h.read M = n := hs.assembled.read_eq hM
  have hwnd : (ackHistStep M b h a).arq.recvWnd = if sendFrameFree h.arq then
      (recvWndAck (pollReceived h.arq dt)).1 else pollReceived h.arq dt := by
    have hpoll := pollWork_recvWnd b h.arq dt
    rw [recvPollAck_recvWnd] at hpoll
    unfold ackHistStep
    rw [ha]
    exact hpoll
  have hout : (ackHistStep M b h a).out = h.out := by
    unfold ackHistStep
    rw [ha]
  have hgrows : ∀ p ∈ h.got, p ∈ (ackHistStep M b h a).got := by
    intro p hp
    unfold ackHistStep
    rw [ha]
    dsimp only
    split
    · exact List.mem_cons_of_mem _ hp
    · exact hp
  have hreports : ∀ p ∈ (ackHistStep M b h a).reports, p ∈ h.reports ∨
      ∃ r, pollReport h.arq dt = some r ∧ p = (h.message M dt r.1, r.2) := by
    intro p hp
    unfold ackHistStep at hp
    rw [ha] at hp
    dsimp only at hp
    rcases List.mem_append.mp hp with hp | hp
    · obtain ⟨r, hr, rfl⟩ := List.mem_map.mp hp
      exact Or.inr ⟨r, Option.mem_toList.mp hr, rfl⟩
    · exact Or.inl hp
  refine ⟨?_, ?_, hahead, ?_⟩
  · unfold AckHist.assembly
    rw [hwnd, hout]
    split
    · exact hassembled.ack
    · exact hassembled
  · rw [hwnd]
    split
    · exact hflags.ack
    · exact hflags
  · intro p hp j hj
    rcases hreports p hp with hold | ⟨⟨seq, vec⟩, hr, rfl⟩
    · exact hgrows _ (hs.known p hold j hj)
    · unfold pollReport at hr
      split at hr
      · obtain ⟨-, -, hvec, -⟩ := hassembled.report hr (hassembled.report_ne hflags hr)
        unfold AckHist.message
        rw [hread]
        exact (hvec j).mp hj
      · cases hr

theorem AckSound.recv (hs : AckSound d M h n) (hM : ∀ k, MsgFits d (M k)) {dstMax : Nat}
    (ha : a.call = .recv dstMax) (hkept : FlagsKept h.arq a.call) :
    ∃ n', AckSound d M (ackHistStep M b h a) n' := by
  rw [ha] at hkept
  have hstep : ackHistStep M b h a =
      { h with arq := (arqRecv h.arq dstMax).1, out := h.out ++ (arqRecv h.arq dstMax).2.2 } := by
    unfold ackHistStep
    rw [ha]
    rfl
  have hkept' : ∀ slot, slot < h.arq.recvWnd.w.cap → h.arq.recvWnd.ack slot = true →
      ((arqRecv h.arq dstMax).1.recvWnd.w.msg slot).curAckVec =
        (h.arq.recvWnd.w.msg slot).curAckVec := hkept
  rw [hstep]
  unfold arqRecv at hkept' ⊢
  by_cases hpoll : h.arq.needPoll = true
  · rw [if_pos hpoll, List.append_nil]
    exact ⟨n, hs⟩
  · rw [if_neg hpoll] at hkept' ⊢
    obtain ⟨n', hassembled⟩ := hs.assembled.recv hM dstMax
    refine ⟨n', hassembled, ?_, hs.ahead, hs.known⟩
    have hrest := recvWndRecv_rest h.arq.recvWnd dstMax
    intro slot hslot hack
    have hcap : (recvWndRecv h.arq.recvWnd dstMax).1.w.cap = h.arq.recvWnd.w.cap := by rw [hrest]
    have hflag : (recvWndRecv h.arq.recvWnd dstMax).1.ack = h.arq.recvWnd.ack := by rw [hrest]
    dsimp only at hslot hack hkept' ⊢
    rw [hcap] at hslot
    rw [hflag] at hack
    rw [hkept' slot hslot hack]
    exact hs.flags slot hslot hack

theorem AckSound.step (hs : AckSound d M h n) (hM : ∀ k, MsgFits d (M k)) (hfed : FedBy d M h a)
    (hkept : FlagsKept h.arq a.call) : ∃ n', AckSound d M (ackHistStep M b h a) n' := by
  have hother : (∀ m, a.call ≠ .recv m) → (∀ dt, a.call ≠ .poll dt) → a.call ≠ .reset →
      AckSound d M { h with arq := perform b h.arq a.call } n := by
    intro hrecv hpoll hreset
    obtain ⟨hassembled, hflags, hahead, hknown⟩ := hs
    have hw := perform_recvWnd b h.arq hrecv hpoll hreset
    refine ⟨?_, ?_, hahead, hknown⟩
    · unfold AckHist.assembly at hassembled ⊢
      dsimp only
      rwa [hw]
    · dsimp only
      rwa [hw]
  cases ha : a.call with
  | recv m => exact hs.recv hM ha hkept
  | poll dt => exact ⟨n, hs.poll hM ha hfed hkept⟩
  | reset =>
    unfold FedBy at hfed
    rw [ha] at hfed
    exact hfed.elim
  | send | flush | sendPtrGet | sendPtrRelease | recvFill | connect =>
    refine ⟨n, ?_⟩
    unfold ackHistStep
    rw [ha] at hother ⊢
    exact hother (by simp) (by simp) (by simp)

end

/-! ## The theorem -/

/-- The vector is exactly the set of segments of message `k` that were received, of which there is
one. -/
structure AckTrue (d : RecvDims) (M : Nat → List UInt8) (h : AckHist) (k vec : Nat) : Prop where
  received : ∃ j, (k, j) ∈ h.got
  vec_iff : ∀ j, vec.testBit j = true ↔ (k, j) ∈ h.got
  full : k < h.read M → vec = ackVecOf (d.segsOf (M k))

/-- The receive window of the configuration has these dimensions. -/
structure Cfg.HasRecv (cfg : Cfg) (d : RecvDims) : Prop where
  cap : cfg.recvWindowSizeInMessages = d.cap
  segs : cfg.messageLengthInSegments = d.segs
  segLen : cfg.segmentLengthInBytes = d.segLen

/-- The calls that the sender's frames and the condition allow. -/
def AckCall (d : RecvDims) (M : Nat → List UInt8) (h : AckHist) (a : FedCall) : Prop :=
  FedBy d M h a ∧ FlagsKept h.arq a.call

instance (d : RecvDims) (M : Nat → List UInt8) (h : AckHist) (a : FedCall) :
    Decidable (AckCall d M h a) := inferInstanceAs (Decidable (_ ∧ _))

theorem ackSound_run {b : Build} {cfg : Cfg} {d : RecvDims} {M : Nat → List UInt8} {seat arq₀ : Arq}
    {h : AckHist} (hinit : arqInit b cfg seat = .ok arq₀) (hd : cfg.HasRecv d)
    (hM : ∀ k, MsgFits d (M k)) (hrun : Run (ackHistStep M b) (AckCall d M) (.start arq₀) h) :
    ∃ n, AckSound d M h n := by
  induction hrun with
  | start =>
    obtain ⟨hcap, hsegs, hsegLen⟩ := hd
    have hwnd : arq₀.recvWnd = recvWndOpen seat.recvWnd d.cap d.msgLen d.segLen := by
      rw [arqInit_ok hinit, RecvDims.msgLen, ← hcap, ← hsegs, ← hsegLen]
      rfl
    refine ⟨0, ?_, ?_, by simp [AckHist.start], by simp [AckHist.start]⟩
    · have hopen := Assembled.start d M seat.recvWnd
      unfold AckHist.assembly AckHist.start
      rw [hwnd]
      exact hopen
    · intro slot hslot hack
      change slot < arq₀.recvWnd.w.cap at hslot
      change arq₀.recvWnd.ack slot = true at hack
      rw [hwnd] at hslot hack
      rw [recvWndOpen_ack seat.recvWnd d.msgLen d.segLen hslot] at hack
      cases hack
  | next _ a hok ih =>
    obtain ⟨n, hs⟩ := ih
    exact hs.step hM hok.1 hok.2

/-- **Reported ACKs are true** as long as no frame of a message handed over is taken, the timer does
not run out for an empty slot, and no message is handed over with its ACK flag set: a report of the
number `seq` is about a message with this number, and its vector is exactly the set of the segments
received of it. -/
theorem acks_truthful (b : Build) (cfg : Cfg) (seat arq₀ : Arq)
    (hinit : arqInit b cfg seat = .ok arq₀) (d : RecvDims) (hd : cfg.HasRecv d)
    (M : Nat → List UInt8) (hM : ∀ k, MsgFits d (M k)) (h : AckHist)
    (hrun : Run (ackHistStep M b) (AckCall d M) (.start arq₀) h) (a : FedCall) (hok : AckCall d M h a)
    (dt : Nat) (ha : a.call = .poll dt) (seq vec : Nat)
    (hreport : pollReport h.arq dt = some (seq, vec)) :
    h.message M dt seq % seqSpace = seq ∧
      AckTrue d M (ackHistStep M b h a) (h.message M dt seq) vec := by
  obtain ⟨n, hs⟩ := ackSound_run hinit hd hM hrun
  obtain ⟨hassembled, hflags⟩ := hs.polled (b := b) hM ha hok.1 hok.2
  have hread : h.read M = n := hs.assembled.read_eq hM
  have hread' : (ackHistStep M b h a).read M = n := by
    rw [← hread]
    unfold ackHistStep
    rw [ha]
    rfl
  unfold pollReport at hreport
  split at hreport
  · obtain ⟨hseq, hreceived, hvec, hle, -⟩ :=
      hassembled.report hreport (hassembled.report_ne hflags hreport)
    unfold AckHist.message
    rw [hread]
    refine ⟨hseq, hreceived, hvec, ?_⟩
    rw [hread']
    exact fun hlt => absurd hle (Nat.not_le.mpr hlt)
  · cases hreport

theorem one_byte_fits : 1 * 1 < 65536 := by decide

/-- Two messages of one segment of one byte. -/
def truthSampleDims : RecvDims where
  cap := 2
  segs := 1
  segLen := 1
  cap_pos := Nat.two_pos
  cap_le := reassemblySampleDims.cap_le
  cap_dvd := two_dvd_seqSpace
  segs_pos := Nat.one_pos
  segLen_pos := Nat.one_pos
  fits := one_byte_fits

def truthSampleMessage (_ : Nat) : List UInt8 := [7]

theorem truthSample_fits : MsgFits truthSampleDims [7] := ⟨by decide, by decide, by decide⟩

/-- Message `k` arrives. -/
def truthSampleFill (k : Nat) : FedCall :=
  ⟨.recvFill (Outgoing.bytes (smallCfg 1 1 2).checksum
    ⟨{ sampleDataHdr with seqNum := k }, [7], fun _ => 0⟩), 0, 0, 0⟩

def truthSample (as : List FedCall) : AckHist :=
  as.foldl (ackHistStep truthSampleMessage ⟨false⟩) (.start (freshArq ⟨false⟩ (smallCfg 1 1 2)))

theorem acks_truthful_sample :
    let h := truthSample [truthSampleFill 0]
    h.message truthSampleMessage 0 0 % seqSpace = 0 ∧
      AckTrue truthSampleDims truthSampleMessage
        (ackHistStep truthSampleMessage ⟨false⟩ h ⟨.poll 0, 0, 0, 0⟩)
        (h.message truthSampleMessage 0 0) 1 :=
  acks_truthful ⟨false⟩ (smallCfg 1 1 2) (zeroSeat _) _ (arqInit_zeroSeat rfl) truthSampleDims
    ⟨rfl, rfl, rfl⟩ truthSampleMessage (fun _ => truthSample_fits) (truthSample [truthSampleFill 0])
    (.exec (by decide +kernel)) ⟨.poll 0, 0, 0, 0⟩ (by decide +kernel) 0 rfl 0 1 (by decide +kernel)

/-- The second of two messages arrives while the frame with the first ACK is held, and both are read
before the frame is released. -/
def heldAck : List FedCall :=
  [truthSampleFill 0, ⟨.poll 0, 0, 0, 0⟩, ⟨.sendPtrGet, 0, 0, 0⟩, truthSampleFill 1,
    ⟨.poll 0, 1, 0, 0⟩, ⟨.recv 2, 0, 0, 0⟩, ⟨.sendPtrRelease, 0, 0, 0⟩]

/-- The next poll reports message `1`, of which the only segment was received and read, with the vector
`0`. -/
theorem read_message_reported_missing :
    Run (ackHistStep truthSampleMessage ⟨false⟩) (FedBy truthSampleDims truthSampleMessage)
        (.start (freshArq ⟨false⟩ (smallCfg 1 1 2))) (truthSample heldAck) ∧
      FedBy truthSampleDims truthSampleMessage (truthSample heldAck) ⟨.poll 0, 0, 0, 0⟩ ∧
      pollReport (truthSample heldAck).arq 0 = some (1, 0) ∧
      (truthSample heldAck).message truthSampleMessage 0 1 = 1 ∧
      (1, 0) ∈ (truthSample heldAck).got ∧ (truthSample heldAck).out = [7, 7] ∧
      ¬ AckTrue truthSampleDims truthSampleMessage
        (ackHistStep truthSampleMessage ⟨false⟩ (truthSample heldAck) ⟨.poll 0, 0, 0, 0⟩) 1 0 := by
  refine ⟨.exec (by decide +kernel), by decide +kernel, by decide +kernel, by decide +kernel,
    by decide +kernel, by decide +kernel, ?_⟩
  intro h
  have hmem : (1, 0) ∈ (ackHistStep truthSampleMessage ⟨false⟩ (truthSample heldAck)
      ⟨.poll 0, 0, 0, 0⟩).got := by decide +kernel
  have hbit := (h.vec_iff 0).mpr hmem
  rw [Nat.zero_testBit] at hbit
  cases hbit

end NanoArq
