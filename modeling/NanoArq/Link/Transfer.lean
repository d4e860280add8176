import NanoArq.Lib.Stamped
import NanoArq.Link.Messages
import NanoArq.Link.Wire
import NanoArq.Receiver.Truth
import NanoArq.Sender.Discard
import NanoArq.Sender.Genuine

/-!
# One direction of a link

The messages of a sender cross to a receiver in the data frames of one wire, and the ACKs come back in
the frames of the other one. Both wires keep the order of their frames: a data frame is stamped with the
message with which the sender's window began when it was written, an ACK with the number of messages
that had been handed over, and the stamps do not go down.

`Transfer` is the invariant of one direction, with a rule for each call that concerns it:
`Transfer.send`, `Transfer.flush`, `Transfer.recv`, `Transfer.poll_sender` and `Transfer.poll_receiver`.
Then what the receiver has returned is the beginning of what the sender has accepted
(`Transfer.delivered`).
-/

namespace NanoArq

open Lib

/-! ## Frames in flight -/

/-- A segment of message `k` was transmitted. -/
def SendHist.Transmitted (h : SendHist) (k : Nat) : Prop := ∃ s ∈ h.sent, s.msg = k

/-- The frame has a segment of message `k`. -/
structure SegmentOf (d : RecvDims) (M : Nat → List UInt8) (k : Nat) (p : FrameHdr × List UInt8) :
    Prop where
  seqNum : p.1.seqNum = k % seqSpace
  segId : p.1.segId < d.segsOf (M k)
  msgLen : p.1.msgLen = d.segsOf (M k)
  payload : p.2 = chunk d.segLen (M k) p.1.segId

/-- A data frame that was written when the sender's window began with message `low`. -/
def DataFrom (d : RecvDims) (M : Nat → List UInt8) (h : SendHist) (low : Nat)
    (p : FrameHdr × List UInt8) : Prop :=
  p.1.seg = true → ∃ k, low ≤ k ∧ k < low + d.cap ∧ h.Transmitted k ∧ SegmentOf d M k p

/-- An ACK that was written when `read` messages had been handed over. -/
def AckFrom (cap : Nat) (got : List (Nat × Nat)) (read : Nat) (p : FrameHdr × List UInt8) : Prop :=
  p.1.ack = true → p.1.curAckVec ≠ 0 →
    ∃ k, read ≤ k ∧ k < read + cap ∧ p.1.ackNum = k % seqSpace ∧
      ∀ j, p.1.curAckVec.testBit j = true → (k, j) ∈ got

/-- The poll takes its frame from the front of the queue `q`, if one is there, and leaves `rest`. -/
def Takes (arq : Arq) (q rest : List (FrameHdr × List UInt8)) : Prop :=
  pollRead arq = none ∧ rest = q ∨
    ∃ r, q = (r.hdr, r.seg) :: rest ∧ pollRead arq = some r ∧ r.result = .success

/-! ## The condition -/

/-- The bytes that message `k` of the window holds. -/
def SendHist.message (h : SendHist) (k : Nat) : List UInt8 :=
  chunk h.arq.sendWnd.w.msgLen h.content (k - h.base)

/-- The data adds no byte to a message of which a segment was transmitted. -/
def AddsToUntouched (h : SendHist) (data : List UInt8) : Prop :=
  ∀ s ∈ h.sent, h.base ≤ s.msg →
    { h with content := h.content ++ data }.message s.msg = h.message s.msg

instance (h : SendHist) (data : List UInt8) : Decidable (AddsToUntouched h data) :=
  inferInstanceAs (Decidable (∀ s ∈ h.sent, _ → _))

/-! ## The invariant -/

/-- The sender `h`, which has accepted the bytes `accepted`, the receiver `r`, and the frames `data` and
`acks` in flight from one to the other and back. The messages `past` have left the sender's window;
`low` and `told` are the stamps of the last data frame and the last ACK that were read, and `read`
messages have been handed over. -/
structure Transfer (d : Dims) (hcap : d.cap ≤ 2048) (h : SendHist) (accepted : List UInt8)
    (r : Reassembly) (data acks : List (FrameHdr × List UInt8)) (past : List (List UInt8))
    (low told read : Nat) : Prop where
  sender : HistSound d h
  past_length : past.length = h.base
  past_fits : ∀ xs ∈ past, 0 < xs.length ∧ xs.length ≤ d.msgLen
  accepted_eq : accepted = past.flatten ++ h.content
  receiver : Assembled (d.recv hcap) (messageAt d past h.content) r read
  data_from : Stamped (DataFrom (d.recv hcap) (messageAt d past h.content) h) low data h.base
  acks_from : Stamped (AckFrom d.cap r.got) told acks read
  ahead : ∀ p ∈ r.got, p.1 < low + d.cap
  got_sent : ∀ p ∈ r.got, h.Transmitted p.1
  sent_lt : ∀ s ∈ h.sent, s.msg < h.base + h.arq.sendWnd.w.size
  removed : ∀ k, k < h.base → (k, 0) ∈ r.got ∧ k < told + d.cap
  acked : ∀ i, i < h.arq.sendWnd.w.size → ∀ j,
    (h.arq.sendWnd.w.msg ((h.base + i) % d.cap)).curAckVec.testBit j = true →
      (h.base + i, j) ∈ r.got ∧ h.base + i < told + d.cap

section

variable {d : Dims} {hcap : d.cap ≤ 2048} {h : SendHist} {accepted : List UInt8} {r : Reassembly}
  {data acks rest : List (FrameHdr × List UInt8)} {past : List (List UInt8)} {low told read dt : Nat}
  {arq : Arq}

theorem DataFrom.congr {rd : RecvDims} {M M' : Nat → List UInt8} {h' : SendHist}
    {p : FrameHdr × List UInt8} (hp : DataFrom rd M h low p)
    (hsent : ∀ k, h.Transmitted k → h'.Transmitted k) (hM : ∀ k, h.Transmitted k → M' k = M k) :
    DataFrom rd M' h' low p := by
  intro hseg
  obtain ⟨k, hlo, hhi, hk, hsegment⟩ := hp hseg
  obtain ⟨hseqNum, hsegId, hmsgLen, hpayload⟩ := hsegment
  rw [← hM k hk] at hsegId hmsgLen hpayload
  exact ⟨k, hlo, hhi, hsent k hk, hseqNum, hsegId, hmsgLen, hpayload⟩

theorem Transfer.fits (ht : Transfer d hcap h accepted r data acks past low told read) (k : Nat) :
    MsgFits (d.recv hcap) (messageAt d past h.content k) := messageAt_fits hcap ht.past_fits k

/-- The receiver has no more complete messages than the sender has accepted. -/
theorem Transfer.leading_le (ht : Transfer d hcap h accepted r data acks past low told read) {e : Nat}
    (he : LeadingRun (d.recv hcap) (messageAt d past h.content) r.Got e) :
    e ≤ (messages d past h.content).length := by
  have hl := ht.sender.wnd.targets.layout
  rw [length_messages, ht.past_length, ← hl.size]
  by_contra hlt
  obtain ⟨s, hs, hmsg⟩ := ht.got_sent (e - 1, 0) (he.complete (e - 1) (by omega) 0 (ht.fits _).segs_pos)
  have := ht.sent_lt s hs
  omega

/-- What was returned is the beginning of what was accepted. -/
theorem Transfer.delivered (ht : Transfer d hcap h accepted r data acks past low told read) :
    r.out <+: accepted := by
  obtain ⟨e, he⟩ := ht.receiver.layout.leading ht.fits
  rw [ht.accepted_eq]
  exact (ht.receiver.out_before he).trans (concat_messages (ht.leading_le he))

/-! ## The ACK that a sender reads -/

/-- The first ACK in flight, if the poll reads one. -/
theorem Takes.ack_read {cap : Nat} {got : List (Nat × Nat)} (h : Takes arq acks rest)
    (hacks : Stamped (AckFrom cap got) told acks read) :
    ∃ told', told ≤ told' ∧ Stamped (AckFrom cap got) told' rest read ∧
      ((pollRh arq).ack = true → (pollRh arq).curAckVec ≠ 0 →
        ∃ k, told' ≤ k ∧ k < told' + cap ∧ (pollRh arq).ackNum = k % seqSpace ∧
          ∀ j, (pollRh arq).curAckVec.testBit j = true → (k, j) ∈ got) := by
  obtain ⟨hnone, rfl⟩ | ⟨r, rfl, hread, -⟩ := h
  · refine ⟨told, le_rfl, hacks, ?_⟩
    rw [pollRh, hnone]
    exact fun hack => by cases hack
  · obtain ⟨told', hle, hack, hrest⟩ := hacks.head
    refine ⟨told', hle, hrest, ?_⟩
    rw [pollRh, hread]
    exact hack

/-- The vectors of the sender when the ACK is noted say what the receiver has got. -/
theorem Transfer.noted (ht : Transfer d hcap h accepted r data acks past low told read) {told' : Nat}
    (hle : told ≤ told')
    (hack : (pollRh h.arq).ack = true → (pollRh h.arq).curAckVec ≠ 0 →
      ∃ k, told' ≤ k ∧ k < told' + d.cap ∧ (pollRh h.arq).ackNum = k % seqSpace ∧
        ∀ j, (pollRh h.arq).curAckVec.testBit j = true → (k, j) ∈ r.got) {i j : Nat}
    (hi : i < h.arq.sendWnd.w.size)
    (hj : (pollMsgs h.arq ((h.base + i) % d.cap)).curAckVec.testBit j = true) :
    (h.base + i, j) ∈ r.got ∧ h.base + i < told' + d.cap := by
  have hl := ht.sender.wnd.targets.layout
  have hsize := hl.size_le
  rcases (pollMsgs_vectors h.arq ((h.base + i) % d.cap)).2 with hold | ⟨hin, hslot, hvec⟩
  · rw [hold] at hj
    obtain ⟨hgot, hlt⟩ := ht.acked i hi j hj
    exact ⟨hgot, by omega⟩
  · rw [hvec] at hj
    obtain ⟨hidx, hslot'⟩ := hl.ack_index hin.2
    obtain rfl : i = (pollRh h.arq).ackNum - h.arq.sendWnd.w.seq :=
      ring_inj (by omega) (by omega) (hslot.trans hslot')
    have hne : (pollRh h.arq).curAckVec ≠ 0 := by
      intro hzero
      rw [hzero, Nat.zero_testBit] at hj
      cases hj
    obtain ⟨k, hlo, hhi, hnum, hgot⟩ := hack hin.1 hne
    -- The ACK is about the message of the window, and not about one with the same number.
    have hahead := ht.ahead _ (hgot j hj)
    have hlow := ht.data_from.le
    have hbase : h.base ≤ told' + d.cap := by
      by_contra hlt
      have := (ht.removed (h.base - 1) (by omega)).2
      omega
    obtain rfl : k = h.base + ((pollRh h.arq).ackNum - h.arq.sendWnd.w.seq) := by
      have hwnd := hin.2
      have hseq := hl.seq
      unfold ackInWnd at hwnd
      unfold seqSpace at hnum hseq
      dsimp only at hahead
      omega
    exact ⟨hgot j hj, hhi⟩

/-- Of a message that the ACK removes the receiver has got the first segment. -/
theorem Transfer.retired (ht : Transfer d hcap h accepted r data acks past low told read) {told' : Nat}
    (hle : told ≤ told')
    (hack : (pollRh h.arq).ack = true → (pollRh h.arq).curAckVec ≠ 0 →
      ∃ k, told' ≤ k ∧ k < told' + d.cap ∧ (pollRh h.arq).ackNum = k % seqSpace ∧
        ∀ j, (pollRh h.arq).curAckVec.testBit j = true → (k, j) ∈ r.got)
    (htarget : ∀ j, j < h.arq.sendWnd.w.cap → (h.arq.sendWnd.w.msg j).fullAckVec ≠ 0) {i : Nat}
    (hi : i < pollRetired h.arq) : (h.base + i, 0) ∈ r.got ∧ h.base + i < told' + d.cap := by
  have hl := ht.sender.wnd.targets.layout
  obtain ⟨hsize, hall, -, -⟩ := pollAcked_msgs hl
  refine ht.noted hle hack (by omega) ?_
  have hacked := hall i hi
  unfold msgAcked at hacked
  rw [hl.slot] at hacked
  obtain ⟨c, -, hfull⟩ := ht.sender.wnd.targets.full i (by omega)
  have hne := htarget ((h.base + i) % d.cap) (by rw [hl.shape.cap]; exact Nat.mod_lt _ d.cap_pos)
  have hc : 0 < c := by
    rw [hfull] at hne
    by_contra h0
    obtain rfl : c = 0 := by omega
    exact hne rfl
  rw [hacked, (pollMsgs_vectors _ _).1, hfull, Nat.testBit_two_pow_sub_one, decide_eq_true hc]

/-! ## The frame that a sender writes -/

theorem HistSound.data_from (b : Build) (hs : HistSound d h) (hok : CleanPoll h.arq dt)
    (hpast : past.length = (sendHistStep b h (.poll dt)).base) {p : FrameHdr × List UInt8}
    (hframe : pollFrame (pollWork b h.arq dt) = some p) (hseq : p.1.seqNum < seqSpace) :
    DataFrom (d.recv hcap) (messageAt d past (sendHistStep b h (.poll dt)).content)
      (sendHistStep b h (.poll dt)) (sendHistStep b h (.poll dt)).base p := by
  intro hseg
  have hg := hs.genuine b hok hframe hseg
  have hl := sendHistStep_layout b hs.wnd.targets.layout (.poll dt)
  have hsent : (sendHistStep b h (.poll dt)).Transmitted ((sendHistStep b h (.poll dt)).base +
      wndIndex (sendHistStep b h (.poll dt)).arq.sendWnd.w p.1.seqNum) :=
    ⟨_, List.mem_append_right _ (mem_transmitted.mpr ⟨p.1, p.2, hframe, hseg, hg.inWindow, rfl⟩), rfl⟩
  generalize sendHistStep b h (.poll dt) = h' at *
  have hin := hg.inWindow
  unfold inWindow at hin
  have hcapLe := hl.size_le
  have hmessage : messageAt d past h'.content (h'.base + wndIndex h'.arq.sendWnd.w p.1.seqNum) =
      messageOf h'.arq.sendWnd.w h'.content p.1.seqNum := by
    rw [← hpast, messageAt_window (by rw [← hl.size]; exact hin), messageOf, hl.shape.msgLen]
    rfl
  refine ⟨_, Nat.le_add_right _ _, Nat.add_lt_add_left (hin.trans_le hcapLe) _, hsent, ?_, ?_, ?_, ?_⟩
  · have hnum := hl.seq
    unfold wndIndex seqSpace at *
    omega
  · rw [hmessage]
    have hlt := hg.segId
    rw [hl.shape.segLen] at hlt
    exact hlt
  · rw [hmessage]
    have heq := hg.msgLen
    rw [hl.shape.segLen] at heq
    exact heq
  · rw [hmessage]
    have heq := hg.payload
    rw [hl.shape.segLen] at heq
    exact heq

/-- The messages that a poll removes from the sender's window. -/
theorem Transfer.poll_sender_past (b : Build)
    (ht : Transfer d hcap h accepted r data acks past low told read) (hok : CleanPoll h.arq dt)
    (htakes : Takes h.arq acks rest)
    (htarget : ∀ j, j < h.arq.sendWnd.w.cap → (h.arq.sendWnd.w.msg j).fullAckVec ≠ 0)
    (hseq : ∀ p, pollFrame (pollWork b h.arq dt) = some p → p.1.seqNum < seqSpace) :
    ∃ told', Transfer d hcap (sendHistStep b h (.poll dt)) accepted r
      (data ++ (pollFrame (pollWork b h.arq dt)).toList) rest
      (past ++ (chunks d.msgLen h.content).take (pollRetired h.arq)) low told' read := by
  obtain ⟨told', hle, hrest, hack⟩ := htakes.ack_read ht.acks_from
  have hl := ht.sender.wnd.targets.layout
  obtain ⟨hretired, -, -, -⟩ := pollAcked_msgs hl
  obtain ⟨hsize, -⟩ := pollTimers_layout hl dt
  have hstep := sendHistStep_poll b hl dt
  have hsender := ht.sender.poll b hok
  have hw : (perform b h.arq (.poll dt)).sendWnd.w = (pollTimers h.arq dt).w :=
    pollWork_sendWnd_w b h.arq dt
  have hcount : ((chunks d.msgLen h.content).take (pollRetired h.arq)).length = pollRetired h.arq := by
    rw [List.length_take, length_chunks, ← hl.size]
    omega
  have hpast : (past ++ (chunks d.msgLen h.content).take (pollRetired h.arq)).length =
      (sendHistStep b h (.poll dt)).base := by
    rw [hstep, List.length_append, hcount, ht.past_length]
  have hM : messageAt d (past ++ (chunks d.msgLen h.content).take (pollRetired h.arq))
      (sendHistStep b h (.poll dt)).content = messageAt d past h.content := by
    funext k
    rw [messageAt, messageAt, hstep, messages_retire]
  have hwritten := fun p hp =>
    @HistSound.data_from d hcap h _ dt b ht.sender hok hpast p hp (hseq p hp)
  have hkept : ∀ k, h.Transmitted k → (sendHistStep b h (.poll dt)).Transmitted k := by
    rintro k ⟨s, hs, hmsg⟩
    rw [hstep]
    exact ⟨s, List.mem_append_left _ hs, hmsg⟩
  have hdata := (ht.data_from.imp fun _ _ _ hp => hp.congr hkept fun _ _ => rfl).raise
    (show h.base ≤ (sendHistStep b h (.poll dt)).base by rw [hstep]; exact Nat.le_add_right _ _)
  rw [hM] at hwritten
  refine ⟨told', hsender, hpast, ?_, ?_, ?_, ?_, hrest, ht.ahead, ?_, ?_, ?_, ?_⟩
  · intro xs hxs
    rcases List.mem_append.mp hxs with hold | hnew
    · exact ht.past_fits xs hold
    · exact mem_chunks d.msgLen_pos (List.mem_of_mem_take hnew)
  · rw [ht.accepted_eq, ← messages_flatten d, ← messages_flatten d, hstep, messages_retire]
  · rw [hM]
    exact ht.receiver
  · rw [hM]
    cases hframe : pollFrame (pollWork b h.arq dt) with
    | none =>
      rw [Option.toList_none, List.append_nil]
      exact hdata
    | some p => exact hdata.push (hwritten p hframe)
  · exact fun p hp => hkept _ (ht.got_sent p hp)
  · rw [hstep]
    intro s hs
    dsimp only
    rw [hw, hsize]
    rcases List.mem_append.mp hs with hold | hnew
    · have := ht.sent_lt s hold
      omega
    · obtain ⟨hd, payload, -, -, hin, rfl⟩ := mem_transmitted.mp hnew
      rw [pollWork_sendWnd_w] at hin ⊢
      unfold inWindow at hin
      dsimp only
      omega
  · rw [hstep]
    intro k hk
    dsimp only at hk
    rcases Nat.lt_or_ge k h.base with hlt | hge
    · obtain ⟨hgot, htold⟩ := ht.removed k hlt
      exact ⟨hgot, by omega⟩
    · obtain ⟨i, rfl⟩ := Nat.exists_eq_add_of_le hge
      exact ht.retired hle hack htarget (by omega)
  · rw [hstep]
    dsimp only
    rw [hw]
    intro i hi j hj
    rw [pollTimers_curAckVec hl dt (by omega)] at hj
    rw [Nat.add_assoc]
    exact ht.noted hle hack (by omega) hj

theorem Transfer.poll_sender (b : Build)
    (ht : Transfer d hcap h accepted r data acks past low told read) (hok : CleanPoll h.arq dt)
    (htakes : Takes h.arq acks rest)
    (htarget : ∀ j, j < h.arq.sendWnd.w.cap → (h.arq.sendWnd.w.msg j).fullAckVec ≠ 0)
    (hseq : ∀ p, pollFrame (pollWork b h.arq dt) = some p → p.1.seqNum < seqSpace) :
    ∃ past' told', Transfer d hcap (sendHistStep b h (.poll dt)) accepted r
      (data ++ (pollFrame (pollWork b h.arq dt)).toList) rest past' low told' read :=
  ⟨_, ht.poll_sender_past b hok htakes htarget hseq⟩

/-! ## The frame that a receiver reads -/

/-- A poll of the receiver `arq` changes what it has got: nothing is lost, and the segment that the poll
takes is added. -/
structure Gains (d : RecvDims) (M : Nat → List UInt8) (h : SendHist) (arq : Arq)
    (got got' : List (Nat × Nat)) (low low' : Nat) : Prop where
  low_le : low ≤ low'
  grows : ∀ s ∈ got, s ∈ got'
  stores : ∀ f ∈ pollSegment arq, ∃ k, low' ≤ k ∧ h.Transmitted k ∧ SegmentOf d M k (f.hdr, f.seg) ∧
    ((recvWndSlide arq.recvWnd (k % seqSpace)).isSome = true → (k, f.hdr.segId) ∈ got')

/-- Storing the segment of the first data frame in flight, if the poll reads one. -/
theorem Transfer.stored (ht : Transfer d hcap h accepted r data acks past low told read)
    (hrw : arq.recvWnd = r.rw) (htakes : Takes arq data rest)
    (hok : ∀ f ∈ pollSegment arq, NotHandedOver arq.recvWnd f.hdr.seqNum) :
    ∃ got low', Gains (d.recv hcap) (messageAt d past h.content) h arq r.got got low low' ∧
      Stamped (DataFrom (d.recv hcap) (messageAt d past h.content) h) low' rest h.base ∧
      Assembled (d.recv hcap) (messageAt d past h.content) ⟨pollStored arq, got, r.out⟩ read ∧
      ∀ p ∈ got, p.1 < low' + d.cap ∧ h.Transmitted p.1 := by
  have hold : ∀ {low'}, low ≤ low' → ∀ p ∈ r.got, p.1 < low' + d.cap ∧ h.Transmitted p.1 := by
    intro low' hle p hp
    have := ht.ahead p hp
    exact ⟨by omega, ht.got_sent p hp⟩
  have hsame : ∀ {low'}, low ≤ low' → pollSegment arq = none →
      Gains (d.recv hcap) (messageAt d past h.content) h arq r.got r.got low low' ∧
        Assembled (d.recv hcap) (messageAt d past h.content) ⟨pollStored arq, r.got, r.out⟩ read := by
    intro low' hle hnone
    refine ⟨⟨hle, fun _ hp => hp, by rw [hnone]; simp⟩, ?_⟩
    rw [pollStored_of_none hnone, hrw]
    exact ht.receiver
  obtain ⟨hnone, rfl⟩ | ⟨f, rfl, hread, hsuccess⟩ := htakes
  · obtain ⟨hreceived, hassembled⟩ := hsame le_rfl (by rw [pollSegment, hnone]; rfl)
    exact ⟨r.got, low, hreceived, ht.data_from, hassembled, hold le_rfl⟩
  · obtain ⟨low', hle, hfrom, hrest⟩ := ht.data_from.head
    by_cases hseg : f.hdr.seg = true
    · have hsegment : pollSegment arq = some f := by
        rw [pollSegment, hread, Option.filter_some, if_pos (by simp [hsuccess, hseg])]
      obtain ⟨k, hlo, hhi, hsent, hof⟩ := hfrom hseg
      obtain ⟨hseqNum, hsegId, hmsgLen, hpayload⟩ := id hof
      dsimp only at hseqNum hsegId hmsgLen hpayload
      have hframe := hok f hsegment
      rw [hseqNum, hrw] at hframe
      have hlow := hrest.le
      have hreadLe : read ≤ low' + (d.recv hcap).cap := by
        change read ≤ low' + d.cap
        by_contra hlt
        have hlast := ht.ahead _ (ht.receiver.layout.done (read - 1) (by omega) 0 (ht.fits _).segs_pos)
        dsimp only at hlast
        omega
      have htaken := ht.receiver.taken ht.fits hreadLe
        (fun m hm => ⟨0, (ht.removed m (by omega)).1⟩) hlo hhi hframe hsegId arq.cfg.interSegmentTimeout
      have hstored : pollStored arq = (recvWndFrame r.rw (k % seqSpace) f.hdr.segId
          ((d.recv hcap).segsOf (messageAt d past h.content k))
          (chunk (d.recv hcap).segLen (messageAt d past h.content k) f.hdr.segId)
          arq.cfg.interSegmentTimeout).1 := by
        rw [pollStored, hsegment]
        dsimp only
        rw [hrw, hseqNum, hmsgLen, hpayload]
      refine ⟨if (recvWndSlide r.rw (k % seqSpace)).isSome then (k, f.hdr.segId) :: r.got else r.got,
        low', ⟨hle, ?_, ?_⟩, hrest, ?_, ?_⟩
      · intro p hp
        split
        · exact List.mem_cons_of_mem _ hp
        · exact hp
      · intro f' hf'
        obtain rfl : f' = f := Option.some.inj (hf'.symm.trans hsegment)
        refine ⟨k, hlo, hsent, hof, fun hroom => ?_⟩
        rw [hrw] at hroom
        rw [if_pos hroom]
        exact List.mem_cons_self
      · rw [hstored]
        exact htaken
      · intro p hp
        split at hp
        · rcases List.mem_cons.mp hp with rfl | hp
          · exact ⟨hhi, hsent⟩
          · exact hold hle p hp
        · exact hold hle p hp
    · have hnone : pollSegment arq = none := by
        rw [pollSegment, hread, Option.filter_some, if_neg (by simp [hseg])]
      obtain ⟨hreceived, hassembled⟩ := hsame hle hnone
      exact ⟨r.got, low', hreceived, hrest, hassembled, hold hle⟩

/-- A poll of the receiver, with the window in which it looks for an ACK to send. -/
theorem Transfer.poll_received (b : Build) (dt : Nat) (hb : b.useConnections = false)
    (ht : Transfer d hcap h accepted r data acks past low told read) (hrw : arq.recvWnd = r.rw)
    (htakes : Takes arq data rest)
    (hok : ∀ f ∈ pollSegment arq, NotHandedOver arq.recvWnd f.hdr.seqNum) :
    ∃ got low', Gains (d.recv hcap) (messageAt d past h.content) h arq r.got got low low' ∧
      Assembled (d.recv hcap) (messageAt d past h.content) ⟨pollReceived arq dt, got, r.out⟩ read ∧
      Transfer d hcap h accepted ⟨(perform b arq (.poll dt)).recvWnd, got, r.out⟩ rest
        (acks ++ (pollFrame (pollWork b arq dt)).toList) past low' told read := by
  obtain ⟨got, low', hchange, hdata, hstored, hgot⟩ := ht.stored hrw htakes hok
  have hgrows := hchange.grows
  have hreceived : Assembled (d.recv hcap) (messageAt d past h.content)
      ⟨pollReceived arq dt, got, r.out⟩ read := by
    rw [pollReceived_eq]
    exact hstored.timer dt
  have hpolled : Assembled (d.recv hcap) (messageAt d past h.content)
      ⟨(perform b arq (.poll dt)).recvWnd, got, r.out⟩ read := by
    change Assembled _ _ ⟨(pollWork b arq dt).recvWnd, got, r.out⟩ read
    rw [pollWork_recvWnd, recvPollAck_recvWnd]
    split
    · exact hreceived.ack
    · exact hreceived
  have hacks : Stamped (AckFrom d.cap got) told acks read := by
    refine ht.acks_from.imp fun n p _ hp hack hvec => ?_
    obtain ⟨k, hlo, hhi, hnum, hbits⟩ := hp hack hvec
    exact ⟨k, hlo, hhi, hnum, fun j hj => hgrows _ (hbits j hj)⟩
  refine ⟨got, low', hchange, hreceived, ht.sender, ht.past_length, ht.past_fits, ht.accepted_eq, hpolled,
    hdata, ?_, fun p hp => (hgot p hp).1, fun p hp => (hgot p hp).2, ht.sent_lt, ?_, ?_⟩
  · cases hframe : pollFrame (pollWork b arq dt) with
    | none =>
      rw [Option.toList_none, List.append_nil]
      exact hacks
    | some p =>
      refine hacks.push fun hack hvec => ?_
      obtain ⟨hseq, -, hbits, hlo, hhi⟩ :=
        hreceived.report (@pollFrame_acks b arq dt hb p.1 p.2 hframe hack) hvec
      exact ⟨_, hlo, hhi, hseq.symm, fun j hj => (hbits j).mp hj⟩
  · intro k hk
    obtain ⟨hfirst, htold⟩ := ht.removed k hk
    exact ⟨hgrows _ hfirst, htold⟩
  · intro i hi j hj
    obtain ⟨hbit, htold⟩ := ht.acked i hi j hj
    exact ⟨hgrows _ hbit, htold⟩

theorem Transfer.poll_receiver (b : Build) (hb : b.useConnections = false)
    (ht : Transfer d hcap h accepted r data acks past low told read) (hrw : arq.recvWnd = r.rw)
    (htakes : Takes arq data rest)
    (hok : ∀ f ∈ pollSegment arq, NotHandedOver arq.recvWnd f.hdr.seqNum) :
    ∃ got low', Transfer d hcap h accepted ⟨(perform b arq (.poll dt)).recvWnd, got, r.out⟩ rest
      (acks ++ (pollFrame (pollWork b arq dt)).toList) past low' told read := by
  obtain ⟨got, low', -, -, ht'⟩ := ht.poll_received b dt hb hrw htakes hok
  exact ⟨got, low', ht'⟩

/-! ## The other calls -/

/-- The calls of a sender that neither accept nor transmit. -/
theorem Transfer.of_sender (ht : Transfer d hcap h accepted r data acks past low told read)
    {h' : SendHist} (hs : HistSound d h') (hbase : h'.base = h.base) (hcontent : h'.content = h.content)
    (hsent : h'.sent = h.sent) (hsize : h'.arq.sendWnd.w.size = h.arq.sendWnd.w.size)
    (hvec : ∀ j, (h'.arq.sendWnd.w.msg j).curAckVec = (h.arq.sendWnd.w.msg j).curAckVec) :
    Transfer d hcap h' accepted r data acks past low told read := by
  have hkept : ∀ k, h.Transmitted k → h'.Transmitted k := by
    intro k hk
    unfold SendHist.Transmitted
    rw [hsent]
    exact hk
  have hdata := ht.data_from.imp fun _ _ _ hp => hp.congr hkept fun _ _ => rfl
  obtain ⟨-, h2, h3, h4, h5, -, h7, h8, h9, h10, h11, h12⟩ := ht
  refine ⟨hs, by rw [hbase]; exact h2, h3, by rw [hcontent]; exact h4, by rw [hcontent]; exact h5, ?_, h7,
    h8, fun p hp => hkept _ (h9 p hp), ?_, ?_, ?_⟩
  · rw [hcontent, hbase]
    exact hdata
  · rw [hsent, hbase, hsize]
    exact h10
  · rw [hbase]
    exact h11
  · intro i hi j hj
    rw [hsize] at hi
    rw [hbase, hvec] at hj
    rw [hbase]
    exact h12 i hi j hj

theorem Transfer.flush (b : Build) (ht : Transfer d hcap h accepted r data acks past low told read) :
    Transfer d hcap (sendHistStep b h .flush) accepted r data acks past low told read := by
  refine ht.of_sender (ht.sender.step b .flush trivial) rfl rfl rfl ?_ ?_
  · change (sendWndFlush h.arq.sendWnd).w.size = _
    rw [sendWndFlush_w]
  · intro j
    change ((sendWndFlush h.arq.sendWnd).w.msg j).curAckVec = _
    rw [sendWndFlush_msg]
    split <;> rfl

theorem Transfer.send (b : Build) (ht : Transfer d hcap h accepted r data acks past low told read)
    {xs : List UInt8} (hok : h.arq.needPoll = false → AddsToUntouched h xs) :
    Transfer d hcap (sendHistStep b h (.send xs)) (accepted ++ xs.take (arqSend h.arq xs).2.2) r data acks
      past low told read := by
  have hsender := ht.sender.step b (.send xs) trivial
  have hl := ht.sender.wnd.targets.layout
  by_cases hpoll : h.arq.needPoll = true
  · simp only [sendHistStep, perform, arqSend, hpoll, if_true, List.take_zero, List.append_nil]
    exact ht
  simp only [sendHistStep, perform, arqSend, hpoll, Bool.false_eq_true, if_false] at hsender ⊢
  have hl' := hsender.wnd.targets.layout
  have hadd := hok (by simpa using hpoll)
  have htaken := sendWndSend_taken hl xs h.arq.cfg.tinygramSendDelay
  have hcurAckVec := fun i j => @sendWndSend_curAckVec d h.arq.sendWnd h.base h.content hl xs
    h.arq.cfg.tinygramSendDelay i j
  have hsizeLe : h.arq.sendWnd.w.size ≤
      (sendWndSend h.arq.sendWnd xs h.arq.cfg.tinygramSendDelay).1.w.size := by
    rw [hl.size, hl'.size]
    apply segCount_mono
    dsimp only
    rw [List.length_append]
    exact Nat.le_add_right _ _
  -- A message of which a segment was transmitted does not grow.
  have htouched : ∀ k, h.Transmitted k → messageAt d past (h.content ++
      xs.take (sendWndSend h.arq.sendWnd xs h.arq.cfg.tinygramSendDelay).2) k =
        messageAt d past h.content k := by
    rintro k ⟨s, hs, rfl⟩
    rcases Nat.lt_or_ge s.msg past.length with hlt | hge
    · exact messageAt_past hlt _
    · obtain ⟨i, hi⟩ := Nat.exists_eq_add_of_le hge
      have hbase := ht.past_length
      have hlt := ht.sent_lt s hs
      have hsize := hl.size_le
      have hsame := hadd s hs (by omega)
      unfold SendHist.message at hsame
      dsimp only at hsame hl'
      rw [hl.shape.msgLen, show s.msg - h.base = i by omega] at hsame
      rw [hi, messageAt_window (by rw [← hl'.size]; omega), messageAt_window (by rw [← hl.size]; omega),
        htaken, ← hsame]
      exact drop_take_append_taken d (by omega)
  have hpast : ∀ xs ∈ past, 0 < xs.length ∧ xs.length ≤ d.msgLen := ht.past_fits
  refine ⟨hsender, ht.past_length, hpast, ?_, ?_, ?_, ht.acks_from, ht.ahead, ht.got_sent, ?_, ht.removed,
    ?_⟩
  · dsimp only
    rw [ht.accepted_eq, List.append_assoc]
  · exact ht.receiver.of_messages ht.fits (messageAt_fits hcap hpast)
      fun p hp => htouched p.1 (ht.got_sent p hp)
  · exact ht.data_from.imp fun _ _ _ hp => hp.congr (fun _ hk => hk) htouched
  · intro s hs
    have := ht.sent_lt s hs
    dsimp only
    omega
  · intro i hi j hj
    obtain ⟨hold, hbit⟩ := hcurAckVec i j hi hj
    exact ht.acked i hold j hbit

theorem Transfer.recv (ht : Transfer d hcap h accepted r data acks past low told read) (dstMax : Nat) :
    ∃ read', Transfer d hcap h accepted
      ⟨(recvWndRecv r.rw dstMax).1, r.got, r.out ++ (recvWndRecv r.rw dstMax).2⟩ data acks past low told
      read' := by
  obtain ⟨read', hread⟩ := ht.receiver.recv ht.fits dstMax
  have hmono := ht.receiver.read_mono hread ht.fits (by
    simp only [reassemblyStep, List.length_append]
    exact Nat.le_add_right _ _)
  exact ⟨read', ht.sender, ht.past_length, ht.past_fits, ht.accepted_eq, hread, ht.data_from,
    ht.acks_from.raise hmono, ht.ahead, ht.got_sent, ht.sent_lt, ht.removed, ht.acked⟩

/-- Frames of either wire are lost. -/
theorem Transfer.sublist (ht : Transfer d hcap h accepted r data acks past low told read)
    {data' acks' : List (FrameHdr × List UInt8)} (hdata : data'.Sublist data)
    (hacks : acks'.Sublist acks) : Transfer d hcap h accepted r data' acks' past low told read := by
  obtain ⟨h1, h2, h3, h4, h5, h6, h7, h8, h9, h10, h11, h12⟩ := ht
  exact ⟨h1, h2, h3, h4, h5, h6.sublist hdata, h7.sublist hacks, h8, h9, h10, h11, h12⟩

theorem Transfer.start {b : Build} {cfg : Cfg} {seat seat' x y : Arq}
    (hinit : arqInit b cfg seat = .ok x) (hinit' : arqInit b cfg seat' = .ok y)
    (hdims : cfg.Has d cfg.sendWindowSizeInMessages)
    (hwindow : cfg.recvWindowSizeInMessages = cfg.sendWindowSizeInMessages) :
    Transfer d hcap (.start x) [] ⟨y.recvWnd, [], []⟩ [] [] [] 0 0 0 := by
  have hsize : x.sendWnd.w.size = 0 := by
    rw [arqInit_ok hinit]
    rfl
  have hwnd : y.recvWnd = recvWndOpen seat'.recvWnd d.cap d.msgLen d.segLen := by
    rw [arqInit_ok hinit', Dims.msgLen, ← hdims.cap, ← hdims.segs, ← hdims.segLen, ← hwindow]
    rfl
  refine ⟨.init hinit hdims, rfl, by simp, rfl, ?_, .nil le_rfl, .nil le_rfl, by simp, by simp,
    by simp [SendHist.start], by simp [SendHist.start], ?_⟩
  · rw [hwnd]
    exact .start (d.recv hcap) _ seat'.recvWnd
  · intro i hi
    exact absurd hi (by rw [SendHist.start, hsize]; exact Nat.not_lt_zero i)

/-- A data frame that a poll reads is one of a message with few segments. -/
theorem Transfer.read_fits (ht : Transfer d hcap h accepted r data acks past low told read)
    (htakes : Takes arq data rest) : ReadFits d.segs arq := by
  intro f hread _ hseg
  obtain ⟨hnone, -⟩ | ⟨f', rfl, hread', -⟩ := htakes
  · rw [hnone] at hread
    cases hread
  · obtain rfl : f' = f := Option.some.inj (hread'.symm.trans hread)
    obtain ⟨low', -, hfrom, -⟩ := ht.data_from.head
    obtain ⟨k, -, -, -, hsegment⟩ := hfrom hseg
    refine hsegment.segId.trans_le ?_
    exact (segCount_le d.segLen_pos).mpr (ht.fits k).le

end

end NanoArq
