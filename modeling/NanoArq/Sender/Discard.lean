import NanoArq.Sender.Targets

/-!
# No accepted byte is discarded unacknowledged

`arq__send_wnd_ack` removes a message when its two ACK vectors are equal. The second one is fixed by
a flush, while `arq__send_wnd_send` may still append to the message afterwards. The two ways in
which a byte is lost are an `arq_send` that adds to a segment which has been transmitted, and an
ACK that is handled while a target vector falls short of the message's bytes; `CarefulCall`
excludes both.

* `SendTruth.step`: acknowledged segments were transmitted, and what was transmitted is what the
  segment still holds.
* `removed_bytes_acknowledged`: every byte of a removed message was transmitted and acknowledged.
-/

namespace NanoArq

open Lib

/-- The accepted bytes of a segment of message `msg`. -/
def SendHist.segment (h : SendHist) (msg seg : Nat) : List UInt8 :=
  (((h.content.drop ((msg - h.base) * h.arq.sendWnd.w.msgLen)).take h.arq.sendWnd.w.msgLen).drop
    (seg * h.arq.sendWnd.w.segLen)).take h.arq.sendWnd.w.segLen

/-- The data adds no byte to a segment that was transmitted. -/
def AddsToUnsent (h : SendHist) (data : List UInt8) : Prop :=
  ∀ s ∈ h.sent, h.base ≤ s.msg →
    { h with content := h.content ++ data }.segment s.msg s.seg = h.segment s.msg s.seg

instance (h : SendHist) (data : List UInt8) : Decidable (AddsToUnsent h data) :=
  inferInstanceAs (Decidable (∀ s ∈ h.sent, _ → _))

/-- The target vector of every message that is acknowledged, once the ACK is noted, covers the
message's bytes. -/
def AckedCovered (arq : Arq) : Prop :=
  ∀ i, i < arq.sendWnd.w.size → msgAcked arq.sendWnd.w (pollMsgs arq) i →
    vecOf arq.sendWnd.w.segLen (arq.sendWnd.w.msg ((arq.sendWnd.w.seq + i) % arq.sendWnd.w.cap)).len ≤
      (arq.sendWnd.w.msg ((arq.sendWnd.w.seq + i) % arq.sendWnd.w.cap)).fullAckVec

instance (arq : Arq) : Decidable (AckedCovered arq) :=
  inferInstanceAs (Decidable (∀ i, i < arq.sendWnd.w.size → (_ = _) → _))

/-- `arq_send` adds to no transmitted segment, and an ACK completes no message that has bytes beyond
its target vector. -/
def CarefulCall (h : SendHist) : Call → Prop
  | .send data => h.arq.needPoll = false → AddsToUnsent h data
  | .poll _ => pollAcks h.arq → AckedCovered h.arq
  | _ => True

instance (h : SendHist) : (c : Call) → Decidable (CarefulCall h c)
  | .send data => inferInstanceAs (Decidable (_ → AddsToUnsent h data))
  | .poll _ => inferInstanceAs (Decidable (_ → AckedCovered _))
  | .flush | .recv _ | .sendPtrGet | .sendPtrRelease | .recvFill _ | .connect | .reset =>
    inferInstanceAs (Decidable True)

/-! ## The invariant -/

structure SendTruth (d : Dims) (h : SendHist) : Prop where
  targets : SendTargets d h.arq.sendWnd h.base h.content
  acked : ∀ i, i < h.arq.sendWnd.w.size → ∀ j,
    (h.arq.sendWnd.w.msg ((h.base + i) % d.cap)).curAckVec.testBit j = true →
      ∃ s ∈ h.sent, s.msg = h.base + i ∧ s.seg = j
  sent : ∀ s ∈ h.sent, h.base ≤ s.msg → h.segment s.msg s.seg ≠ [] →
    s.payload = h.segment s.msg s.seg

section

variable {d : Dims} {h : SendHist}

theorem segment_eq {arq : Arq} (hs : WndShape d arq.sendWnd.w) (base : Nat)
    (content : List UInt8) (sent : List Sent) (msg seg : Nat) :
    SendHist.segment ⟨arq, base, content, sent⟩ msg seg =
      (((content.drop ((msg - base) * d.msgLen)).take d.msgLen).drop (seg * d.segLen)).take
        d.segLen := by
  rw [SendHist.segment, hs.msgLen, hs.segLen]

/-- What `arq_send` leaves of its data does not matter for the messages it can reach. -/
theorem drop_take_append_taken (d : Dims) {content data : List UInt8} {i : Nat}
    (hi : i < d.cap) :
    ((content ++ data.take (sendTaken d content data)).drop (i * d.msgLen)).take d.msgLen =
      ((content ++ data).drop (i * d.msgLen)).take d.msgLen := by
  unfold sendTaken
  rcases Nat.le_total data.length (d.cap * d.msgLen - content.length) with hle | hle
  · rw [Nat.min_eq_left hle, List.take_length]
  · rw [Nat.min_eq_right hle]
    have hroom := Nat.mul_le_mul_right d.msgLen (show i + 1 ≤ d.cap from hi)
    rw [Nat.add_mul] at hroom
    apply List.ext_getElem
    · simp only [List.length_take, List.length_drop, List.length_append]
      omega
    · intro y h₁ h₂
      simp only [List.length_take, List.length_drop, List.length_append] at h₁ h₂
      rw [List.getElem_take, List.getElem_take, List.getElem_drop, List.getElem_drop]
      by_cases hy : i * d.msgLen + y < content.length
      · rw [List.getElem_append_left hy, List.getElem_append_left hy]
      · rw [List.getElem_append_right (by omega), List.getElem_append_right (by omega),
          List.getElem_take]

/-- `arq_send` sets no bit of an ACK vector: the slots that it takes are empty. -/
theorem sendWndSend_curAckVec {sw : SendWnd} {base : Nat} {content : List UInt8}
    (hl : SendLayout d sw.w base content) (data : List UInt8) (tiny : Nat) {i j : Nat}
    (hi : i < (sendWndSend sw data tiny).1.w.size)
    (hj : ((sendWndSend sw data tiny).1.w.msg ((base + i) % d.cap)).curAckVec.testBit j = true) :
    i < sw.w.size ∧ (sw.w.msg ((base + i) % d.cap)).curAckVec.testBit j = true := by
  by_cases hdata : data.length = 0
  · rw [sendWndSend_nil _ hdata] at hi hj
    exact ⟨hi, hj⟩
  obtain ⟨-, t, n, rem, hsp⟩ := sendWndSend_spec hl hdata tiny
  have hicap : i < d.cap := Nat.lt_of_lt_of_le hi (hsp.layout hl).size_le
  rw [(hsp.vectors hicap).1] at hj
  refine ⟨?_, hj⟩
  by_contra hnew
  rw [hl.idle i (by omega) hicap] at hj
  exact absurd hj (by simp [msgEmpty])

theorem SendTruth.send (b : Build) (ht : SendTruth d h) {data : List UInt8}
    (hok : h.arq.needPoll = false → AddsToUnsent h data) :
    SendTruth d (sendHistStep b h (.send data)) := by
  have hl := ht.targets.layout
  simp only [sendHistStep, perform, arqSend]
  split
  · simpa using ht
  rename_i hpoll
  have hadd := hok (by simpa using hpoll)
  dsimp only
  have htargets := ht.targets.send data h.arq.cfg.tinygramSendDelay
  refine ⟨htargets, ?_, ?_⟩
  · intro i hi j hj
    obtain ⟨hold, hbit⟩ := sendWndSend_curAckVec hl data _ hi hj
    exact ht.acked i hold j hbit
  · intro s hs hbase hne
    dsimp only at hs hbase
    have hshape := htargets.layout.shape
    rw [segment_eq hshape] at hne ⊢
    -- A segment with bytes belongs to a message that fits into the window.
    have hi : s.msg - h.base < d.cap := by
      by_contra hge
      have hroom := htargets.layout.fits
      have := Nat.mul_le_mul_right d.msgLen (Nat.not_lt.mp hge)
      have hnil : (h.content ++ data.take (sendWndSend h.arq.sendWnd data
          h.arq.cfg.tinygramSendDelay).2).drop ((s.msg - h.base) * d.msgLen) = [] :=
        List.drop_eq_nil_of_le (by omega)
      rw [hnil] at hne
      simp at hne
    rw [sendWndSend_taken hl] at hne ⊢
    rw [drop_take_append_taken d hi, ← segment_eq hl.shape h.base _ h.sent] at hne ⊢
    have hsame : SendHist.segment ⟨h.arq, h.base, h.content ++ data, h.sent⟩ s.msg s.seg =
      h.segment s.msg s.seg := hadd s hs hbase
    rw [hsame] at hne ⊢
    exact ht.sent s hs hbase hne

/-- The ACK of a poll reports transmitted segments, and so do the vectors once it is noted. -/
theorem SendTruth.noted (ht : SendTruth d h) (hok : HonestAck h) {i j : Nat}
    (hi : i < h.arq.sendWnd.w.size)
    (hj : (pollMsgs h.arq ((h.base + i) % d.cap)).curAckVec.testBit j = true) :
    ∃ s ∈ h.sent, s.msg = h.base + i ∧ s.seg = j := by
  have hl := ht.targets.layout
  have hcap := hl.size_le
  rcases (pollMsgs_vectors h.arq ((h.base + i) % d.cap)).2 with hold | ⟨hin, hslot, hvec⟩
  · rw [hold] at hj
    exact ht.acked i hi j hj
  · rw [hvec] at hj
    obtain ⟨hidx, hslot'⟩ := hl.ack_index hin.2
    have hsame : i = (pollRh h.arq).ackNum - h.arq.sendWnd.w.seq :=
      ring_inj (by omega) (by omega) (hslot.trans hslot')
    have hj12 : j < 12 := by
      by_contra hge
      have hlt : (pollRh h.arq).curAckVec < 2 ^ j :=
        Nat.lt_of_lt_of_le (pollRh_curAckVec_lt h.arq)
          (Nat.pow_le_pow_right (show 0 < 2 by omega) (show 12 ≤ j by omega))
      rw [Nat.testBit_lt_two_pow hlt] at hj
      exact absurd hj (by decide)
    rw [hsame]
    exact hok hin j hj12 hj

theorem SendTruth.poll (b : Build) (ht : SendTruth d h) (hok : HonestAck h) (dt : Nat) :
    SendTruth d (sendHistStep b h (.poll dt)) := by
  have hl := ht.targets.layout
  obtain ⟨hsize, htl⟩ := pollTimers_layout hl dt
  have hwork := pollWork_sendWnd_w b h.arq dt
  have hw : (perform b h.arq (.poll dt)).sendWnd.w = (pollTimers h.arq dt).w := hwork
  rw [sendHistStep_poll b hl]
  refine ⟨⟨by rw [hw]; exact htl, ?_⟩, ?_, ?_⟩ <;> dsimp only
  · rw [hw]
    exact (ht.targets.timers dt).full
  · rw [hw]
    intro i hi j hj
    rw [pollTimers_curAckVec hl dt (by omega)] at hj
    obtain ⟨s, hs, hsm, hsj⟩ := ht.noted hok (by omega) hj
    exact ⟨s, List.mem_append_left _ hs, by omega, hsj⟩
  · intro s hs hbase hne
    have hshape : WndShape d (perform b h.arq (.poll dt)).sendWnd.w := by
      rw [hw]
      exact htl.shape
    rw [segment_eq hshape, List.drop_drop] at hne ⊢
    rcases List.mem_append.mp hs with hold | hnew
    · have hshift : pollRetired h.arq * d.msgLen + (s.msg - (h.base + pollRetired h.arq)) * d.msgLen =
          (s.msg - h.base) * d.msgLen := by
        rw [← Nat.add_mul]
        congr 1
        omega
      rw [hshift, ← segment_eq hl.shape h.base h.content h.sent] at hne ⊢
      exact ht.sent s hold (by omega) hne
    · obtain ⟨hd, payload, hframe, hseg, hin, rfl⟩ := mem_transmitted.mp hnew
      obtain ⟨-, -, hdata⟩ := (pollFrame_data b h.arq dt).2 hd payload hframe hseg
      obtain ⟨-, hseqNum, hsegId, -, -, hpayload⟩ := hdata
      rw [hwork] at hin hne ⊢
      dsimp only at hne ⊢
      rw [← Nat.add_mul, Nat.add_sub_cancel_left] at hne ⊢
      have hmessage : (h.content.drop ((pollRetired h.arq + wndIndex (pollTimers h.arq dt).w
          hd.seqNum) * d.msgLen)).take d.msgLen = messageOf (pollTimers h.arq dt).w
            (h.content.drop (pollRetired h.arq * d.msgLen)) hd.seqNum := by
        rw [messageOf, List.drop_drop, htl.shape.msgLen, ← Nat.add_mul]
      rw [hmessage] at hne ⊢
      have hlen := htl.message_length hin
      have hsegLt : hd.segId < segCount d.segLen
          ((pollTimers h.arq dt).w.msg (hd.seqNum % (pollTimers h.arq dt).w.cap)).len := by
        rw [lt_segCount d.segLen_pos, ← hlen]
        by_contra hge
        rw [List.drop_eq_nil_of_le (by omega)] at hne
        simp at hne
      rw [hpayload, ← hseqNum, ← hsegId, htl.segment hin hsegLt]

theorem SendTruth.start {arq : Arq} (hl : SendLayout d arq.sendWnd.w 0 [])
    (hsize : arq.sendWnd.w.size = 0) : SendTruth d (.start arq) := by
  refine ⟨⟨hl, ?_⟩, ?_, ?_⟩
  · intro i hi
    exact absurd hi (by rw [SendHist.start, hsize]; omega)
  · intro i hi
    exact absurd hi (by rw [SendHist.start, hsize]; omega)
  · intro s hs
    cases hs

theorem SendTruth.flush (b : Build) (ht : SendTruth d h) :
    SendTruth d (sendHistStep b h .flush) := by
  have hsw : (sendHistStep b h .flush).arq.sendWnd = sendWndFlush h.arq.sendWnd := rfl
  have htargets : SendTargets d (sendHistStep b h .flush).arq.sendWnd h.base h.content :=
    ht.targets.flush
  refine ⟨htargets, ?_, ?_⟩
  · rw [hsw]
    intro i hi j hj
    rw [sendWndFlush_w] at hi
    refine ht.acked i hi j ?_
    rw [sendWndFlush_msg] at hj
    split at hj <;> exact hj
  · intro s hs hbase hne
    have hsame : (sendHistStep b h .flush).segment s.msg s.seg = h.segment s.msg s.seg := by
      rw [SendHist.segment, SendHist.segment, htargets.layout.shape.msgLen,
        htargets.layout.shape.segLen, ht.targets.layout.shape.msgLen,
        ht.targets.layout.shape.segLen]
      rfl
    rw [hsame] at hne ⊢
    exact ht.sent s hs hbase hne

theorem SendTruth.step (b : Build) (ht : SendTruth d h) (c : Call)
    (hok : HonestAcks h c ∧ CarefulCall h c) : SendTruth d (sendHistStep b h c) := by
  have hother : (∀ data, c ≠ .send data) → c ≠ .flush → (∀ dt, c ≠ .poll dt) → c ≠ .reset →
      SendTruth d { h with arq := perform b h.arq c } := by
    intro hsend hflush hpoll hreset
    obtain ⟨hsw, -⟩ := perform_sendWnd b h.arq hsend hflush hpoll hreset
    obtain ⟨htargets, hacked, hsent⟩ := ht
    refine ⟨by rw [hsw]; exact htargets, by rw [hsw]; exact hacked, ?_⟩
    intro s hs hbase hne
    have hsame : { h with arq := perform b h.arq c }.segment s.msg s.seg =
        h.segment s.msg s.seg := by
      rw [SendHist.segment, SendHist.segment, hsw]
    rw [hsame] at hne ⊢
    exact hsent s hs hbase hne
  cases c with
  | send data => exact ht.send b hok.2
  | flush => exact ht.flush b
  | poll dt => exact ht.poll b hok.1 dt
  | reset => exact .start (wndRst_layout ht.targets.layout.shape) rfl
  | recv | sendPtrGet | sendPtrRelease | recvFill | connect =>
    exact hother (by simp) (by simp) (by simp) (by simp)

/-! ## The theorem -/

/-- Byte `o` of message `i` of the window lies in a segment that was transmitted with this byte in
it, and whose bit is set when the ACK of the poll is noted. -/
def ByteAcknowledged (h : SendHist) (i o : Nat) : Prop :=
  i * h.arq.sendWnd.w.msgLen + o < h.content.length ∧
    ∃ s ∈ h.sent, s.msg = h.base + i ∧ s.seg = o / h.arq.sendWnd.w.segLen ∧
      s.payload[o % h.arq.sendWnd.w.segLen]? = h.content[i * h.arq.sendWnd.w.msgLen + o]? ∧
      (pollMsgs h.arq ((h.arq.sendWnd.w.seq + i) % h.arq.sendWnd.w.cap)).curAckVec.testBit s.seg =
        true

instance (h : SendHist) (i o : Nat) : Decidable (ByteAcknowledged h i o) :=
  inferInstanceAs (Decidable (_ ∧ ∃ s ∈ h.sent, _ ∧ _ ∧ _ ∧ _))

theorem SendTruth.removed (ht : SendTruth d h) (hhonest : HonestAck h)
    (hok : pollAcks h.arq → AckedCovered h.arq) {i o : Nat} (hi : i < pollRetired h.arq)
    (ho : o < (h.arq.sendWnd.w.msg ((h.arq.sendWnd.w.seq + i) % h.arq.sendWnd.w.cap)).len) :
    ByteAcknowledged h i o := by
  have hl := ht.targets.layout
  obtain ⟨hle, hall, -, -⟩ := pollAcked_msgs hl
  have hsize : i < h.arq.sendWnd.w.size := by omega
  have hin : pollAcks h.arq := by
    by_contra hnot
    rw [pollRetired_of_not hnot] at hi
    omega
  have hacked := hall i hi
  have hcover := hok hin i hsize hacked
  unfold ByteAcknowledged
  unfold msgAcked at hacked
  rw [hl.slot, hl.shape.segLen] at hcover
  rw [hl.slot] at ho hacked
  rw [hl.slot, hl.shape.segLen, hl.shape.msgLen]
  -- The target, and so the vector, has a bit for every segment that holds bytes.
  obtain ⟨c, hfull, hcount, -⟩ := ht.targets.count hsize
  have hseg : o / d.segLen < segCount d.segLen
      (h.arq.sendWnd.w.msg ((h.base + i) % d.cap)).len := by
    rw [lt_segCount d.segLen_pos]
    have := Nat.div_mul_le_self o d.segLen
    omega
  have hbit : (pollMsgs h.arq ((h.base + i) % d.cap)).curAckVec.testBit (o / d.segLen) = true := by
    rw [hacked, (pollMsgs_vectors _ _).1, hfull, Nat.testBit_two_pow_sub_one, decide_eq_true_eq]
    exact Nat.lt_of_lt_of_le hseg (hcount hcover)
  obtain ⟨s, hs, hmsg, hsegEq⟩ := ht.noted hhonest hsize hbit
  -- The segment as it stands now is what was transmitted.
  have hlen := hl.len i hsize
  obtain ⟨hpos, hlenLe⟩ := hl.len_bounds hsize
  have hmod := Nat.mod_lt o d.segLen_pos
  have hdiv := Nat.div_add_mod' o d.segLen
  have hlt : i * d.msgLen + o < h.content.length := by omega
  have hget : (h.segment s.msg s.seg)[o % d.segLen]? = h.content[i * d.msgLen + o]? := by
    rw [segment_eq hl.shape, hmsg, hsegEq, Nat.add_sub_cancel_left,
      List.getElem?_take_of_lt hmod, List.getElem?_drop, hdiv,
      List.getElem?_take_of_lt (by omega), List.getElem?_drop]
  have hne : h.segment s.msg s.seg ≠ [] := by
    intro hnil
    rw [hnil, List.getElem?_eq_getElem hlt] at hget
    cases hget
  refine ⟨hlt, s, hs, hmsg, hsegEq, ?_, by rw [hsegEq]; exact hbit⟩
  rw [ht.sent s hs (by omega) hne, hget]

end

/-- **No accepted byte is discarded unacknowledged**, in every run of careful calls in which the
arriving ACKs report transmitted segments. -/
theorem removed_bytes_acknowledged (b : Build) (cfg : Cfg) (seat arq₀ : Arq)
    (hinit : arqInit b cfg seat = .ok arq₀) (hcfg : cfg.SendRegular) (h : SendHist)
    (hrun : Run (sendHistStep b) (fun h c => HonestAcks h c ∧ CarefulCall h c) (.start arq₀) h)
    (dt : Nat) (hhonest : HonestAck h) (hok : CarefulCall h (.poll dt)) (i : Nat)
    (hi : i < h.arq.sendWnd.w.size - (perform b h.arq (.poll dt)).sendWnd.w.size) (o : Nat)
    (ho : o < (h.arq.sendWnd.w.msg ((h.arq.sendWnd.w.seq + i) % h.arq.sendWnd.w.cap)).len) :
    ByteAcknowledged h i o := by
  obtain ⟨d, hdims⟩ := hcfg.dims hinit
  have ht : SendTruth d h := by
    refine hrun.invariant ?_ ?_
    · refine .start (arqInit_sendLayout hinit hdims) ?_
      rw [arqInit_ok hinit]
      rfl
    · intro h c ht hc
      exact ht.step b c hc
  have hret := (poll_retired b ht.targets.layout dt).1
  have hi' : i < pollRetired h.arq := by
    rw [← hret]
    exact hi
  exact ht.removed hhonest hok hi' ho

/-- Both segments of a message are transmitted and acknowledged. -/
def acknowledgedCalls : List Call :=
  sampleCalls ++
    [.poll 2, .sendPtrGet, .sendPtrRelease, .recvFill (ackBytes (smallCfg 1 2 4) 0 3)]

theorem removed_bytes_acknowledged_sample :
    ByteAcknowledged (acknowledgedCalls.foldl (sendHistStep ⟨false⟩)
      (.start (freshArq ⟨false⟩ (smallCfg 1 2 4)))) 0 1 :=
  removed_bytes_acknowledged ⟨false⟩ (smallCfg 1 2 4) (zeroSeat _) _ (arqInit_zeroSeat (by decide))
    ⟨⟨2, by decide, by decide⟩, by decide, by decide⟩ _ (Run.exec (by decide +kernel)) 0
    (by decide +kernel) (by decide +kernel) 0 (by decide +kernel) 1 (by decide +kernel)

/-- A byte is appended to a message after its flush, and then the message's ACK arrives. -/
def lateByteCalls : List Call :=
  [.send [7], .flush, .poll 0, .send [8], .sendPtrGet, .sendPtrRelease,
    .recvFill (ackBytes (smallCfg 1 2 1) 0 1)]

/-- The poll that handles the ACK removes the message, and its second byte was never sent. -/
theorem late_byte_discarded :
    let h := lateByteCalls.foldl (sendHistStep ⟨false⟩) (.start (freshArq ⟨false⟩ (smallCfg 1 2 1)))
    Guarded (sendHistStep ⟨false⟩) HonestAcks (.start (freshArq ⟨false⟩ (smallCfg 1 2 1)))
        (lateByteCalls ++ [.poll 0]) ∧
      h.content = [7, 8] ∧ (h.arq.sendWnd.w.msg 0).len = 2 ∧
      h.arq.sendWnd.w.size - (perform ⟨false⟩ h.arq (.poll 0)).sendWnd.w.size = 1 ∧
      h.sent = [{ msg := 0, seg := 0, payload := [7] }] ∧ ¬ ByteAcknowledged h 0 1 := by
  decide +kernel

end NanoArq
