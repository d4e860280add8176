import NanoArq.Receiver.Truth

/-!
# What a side that sends no data replies

A side whose send window is empty writes ACKs only: `Silent.frame`. A segment that it takes has its
message flagged in the poll that takes it, when the time given to the poll covers the inter-segment
timeout (`pollReceived_flags`), a flag stays until its ACK is reported (`poll_flag`), and every report
leaves fewer flags behind (`poll_flagCount`).
-/

namespace NanoArq

open Lib

/-! ## The frames of a silent side -/

/-- The send window is empty, and the send pointer is on no segment. -/
structure Silent (arq : Arq) : Prop where
  size : arq.sendWnd.w.size = 0
  ptr : arq.sendWndPtr.valid = false

section

variable {b : Build} {arq : Arq} {dt : Nat}

theorem Silent.not_acks (h : Silent arq) : ¬ ackInWnd arq.sendWnd.w (pollRh arq).ackNum :=
  fun hin => hin (Or.inl h.size)

theorem Silent.timers (h : Silent arq) (dt : Nat) : (pollTimers arq dt).w.size = 0 := by
  have hacked : pollAcked arq = arq.sendWnd := pollAcked_of_not fun hacks => h.not_acks hacks.2
  rw [pollTimers_eq, hacked]
  split
  · change (sendWndFlush (sendWndStep arq.sendWnd dt)).w.size = 0
    rw [sendWndFlush_w]
    exact h.size
  · exact h.size

/-- A poll finds no segment to send. -/
theorem Silent.next (h : Silent arq) (dt : Nat) :
    (sendWndPtrNext arq.sendWndPtr (pollTimers arq dt)).1.valid = false := by
  rw [sendWndPtrNext, if_neg (by rw [h.ptr]; simp)]
  dsimp only
  rw [sendWndPtrSearch, h.timers dt]
  rfl

theorem Silent.poll (h : Silent arq) (b : Build) (dt : Nat) : Silent (perform b arq (.poll dt)) := by
  refine ⟨?_, ?_⟩
  · change (pollWork b arq dt).sendWnd.w.size = 0
    rw [pollWork_sendWnd_w, h.timers dt]
  · change (pollWork b arq dt).sendWndPtr.valid = false
    rw [pollWork_sendWndPtr]
    split
    · exact h.next dt
    · exact h.ptr

/-- A silent side writes the ACK that its receive window reports, and nothing else. -/
theorem Silent.frame (h : Silent arq) (hb : b.useConnections = false) (dt : Nat) :
    pollFrame (pollWork b arq dt) = (pollReport arq dt).map fun r =>
      ({ frameHdrInit with ack := true, ackNum := r.1, curAckVec := r.2 }, []) := by
  by_cases hfree : sendFrameFree arq
  · obtain ⟨hsh, hemit⟩ := @pollWork_sh b arq dt hfree
    have hhdr : pollConnSh arq dt = (recvPollAck (pollReceived arq dt) frameHdrInit).2 := by
      rw [pollConnSh, sendPollHdr, if_neg (by rw [h.next dt]; simp)]
    simp only [connPoll, hb, Bool.false_eq_true, if_false, Bool.or_false] at hsh hemit
    rw [hhdr] at hsh hemit
    rw [(recvPollAck_segLen (pollReceived arq dt)).2, Bool.or_false] at hemit
    rw [pollFrame, hsh, hemit, pollReport, if_pos hfree]
    dsimp only
    rw [(recvPollAck_segLen (pollReceived arq dt)).2]
    unfold recvPollAck
    generalize recvWndAck (pollReceived arq dt) = reported
    obtain ⟨rw', o⟩ := reported
    cases o with
    | none => rfl
    | some r => rfl
  · rw [pollFrame_busy hfree, pollReport, if_neg hfree]
    rfl

end

/-! ## Flags -/

section

variable {rw : RecvWnd} {arq : Arq} {slot dt seq seg segCnt interSegAck : Nat} {p : List UInt8}

theorem recvPollTimer_flag (h : rw.ack slot = true) (dt : Nat) : (recvPollTimer rw dt).ack slot = true := by
  rw [recvPollTimer_ack]
  split
  · rw [Function.update_apply]
    split
    · rfl
    · exact h
  · exact h

/-- The message of a segment that is stored is flagged when the inter-segment timer has run. -/
theorem recvWndStore_flags (hdt : interSegAck ≤ dt) :
    (recvPollTimer (recvWndStore rw seq seg segCnt p interSegAck).1 dt).ack (seq % rw.w.cap) = true := by
  unfold recvWndStore
  dsimp only
  split_ifs
  · exact recvPollTimer_flag (Function.update_self _ _ _) dt
  · exact recvPollTimer_flag (Function.update_self _ _ _) dt
  · unfold recvPollTimer
    dsimp only
    rw [if_pos rfl, if_pos (by rw [subSat_eq]; omega)]
    exact Function.update_self _ _ _

theorem recvWndSlide_ack {rw' : RecvWnd} (h : recvWndSlide rw seq = some rw') :
    rw'.ack = rw.ack ∧ rw'.w.cap = rw.w.cap := by
  rw [recvWndSlide_rest h]
  exact ⟨rfl, rfl⟩

/-- A poll flags the message of the segment that it takes. -/
theorem pollReceived_flags {f : FrameRead} (hsegment : pollSegment arq = some f)
    (hroom : (recvWndSlide arq.recvWnd f.hdr.seqNum).isSome = true)
    (hdt : arq.cfg.interSegmentTimeout ≤ dt) :
    (pollReceived arq dt).ack (f.hdr.seqNum % arq.recvWnd.w.cap) = true := by
  obtain ⟨rw', hslide⟩ := Option.isSome_iff_exists.mp hroom
  rw [pollReceived_eq, pollStored, hsegment]
  dsimp only
  rw [recvWndFrame, hslide, ← (recvWndSlide_ack hslide).2]
  exact recvWndStore_flags hdt

/-- A poll takes no flag away before it reports. -/
theorem pollReceived_flag_stays (h : arq.recvWnd.ack slot = true) (dt : Nat) :
    (pollReceived arq dt).ack slot = true := by
  have hset : ∀ rw : RecvWnd, ∀ idx, rw.ack slot = true → Function.update rw.ack idx true slot = true := by
    intro rw idx hflag
    rw [Function.update_apply]
    split
    · rfl
    · exact hflag
  have hstored : (pollStored arq).ack slot = true := by
    rw [pollStored]
    split
    · rename_i f _
      rw [recvWndFrame]
      split
      · exact h
      · rename_i rw' hslide
        rw [← (recvWndSlide_ack hslide).1] at h
        unfold recvWndStore
        dsimp only
        split_ifs
        · exact hset rw' _ h
        · exact hset rw' _ h
        · exact h
    · exact h
  rw [pollReceived_eq]
  exact recvPollTimer_flag hstored dt

/-- A flag stays, or its ACK is reported. -/
theorem poll_flag (b : Build) (hfree : sendFrameFree arq) (h : (pollReceived arq dt).ack slot = true) :
    (perform b arq (.poll dt)).recvWnd.ack slot = true ∨
      ∃ i, i < (pollReceived arq dt).w.size ∧
        slot = ((pollReceived arq dt).w.seq + i) % (pollReceived arq dt).w.cap ∧
        pollReport arq dt = some (((pollReceived arq dt).w.seq + i) % seqSpace,
          ((pollReceived arq dt).w.msg slot).curAckVec) := by
  change (pollWork b arq dt).recvWnd.ack slot = true ∨ _
  rw [pollWork_recvWnd, if_pos hfree, recvPollAck_recvWnd, pollReport, if_pos hfree, recvWndAck]
  split
  · rename_i i hfind
    dsimp only
    by_cases hslot : slot = ((pollReceived arq dt).w.seq + i) % (pollReceived arq dt).w.cap
    · refine Or.inr ⟨i, List.mem_range.mp (List.mem_of_find?_eq_some hfind), hslot, ?_⟩
      rw [hslot]
    · rw [Function.update_of_ne hslot]
      exact Or.inl h
  · exact Or.inl h

/-- Where nothing is reported, no message of the window is flagged. -/
theorem poll_unreported (hfree : sendFrameFree arq) (h : pollReport arq dt = none) {i : Nat}
    (hi : i < (pollReceived arq dt).w.size) :
    (pollReceived arq dt).ack (((pollReceived arq dt).w.seq + i) % (pollReceived arq dt).w.cap) = false := by
  rw [pollReport, if_pos hfree, recvWndAck] at h
  split at h
  · cases h
  · rename_i hfind
    simpa using List.find?_eq_none.mp hfind i (List.mem_range.mpr hi)

/-- The flags of a window, and the one that its timer will set. -/
def flagCount (rw : RecvWnd) : Nat :=
  ((Finset.range rw.w.cap).filter fun j => rw.ack j = true).card + if rw.interSegAckOn then 1 else 0

theorem recvPollTimer_flagCount (rw : RecvWnd) (dt : Nat) : flagCount (recvPollTimer rw dt) ≤ flagCount rw := by
  unfold recvPollTimer
  by_cases hon : rw.interSegAckOn = true
  · rw [if_pos hon]
    split
    · have hsub : ((Finset.range rw.w.cap).filter fun j =>
          Function.update rw.ack (rw.interSegAckSeq % rw.w.cap) true j = true) ⊆
          insert (rw.interSegAckSeq % rw.w.cap) ((Finset.range rw.w.cap).filter fun j => rw.ack j = true) := by
        intro j hj
        obtain ⟨hlt, hset⟩ := Finset.mem_filter.mp hj
        by_cases hne : j = rw.interSegAckSeq % rw.w.cap
        · rw [hne]
          exact Finset.mem_insert_self _ _
        · rw [Function.update_of_ne hne] at hset
          exact Finset.mem_insert_of_mem (Finset.mem_filter.mpr ⟨hlt, hset⟩)
      unfold flagCount
      rw [if_pos hon, if_neg Bool.false_ne_true]
      exact (Finset.card_le_card hsub).trans (Finset.card_insert_le _ _)
    · exact le_rfl
  · rw [if_neg hon]

theorem flagCount_clear (hslot : slot < rw.w.cap) (hset : rw.ack slot = true) :
    flagCount { rw with ack := Function.update rw.ack slot false } < flagCount rw := by
  unfold flagCount
  refine Nat.add_lt_add_right (Finset.card_lt_card ?_) _
  refine (Finset.ssubset_iff_of_subset ?_).mpr ⟨slot, ?_, ?_⟩
  · intro j hj
    obtain ⟨hlt, hj'⟩ := Finset.mem_filter.mp hj
    dsimp only at hlt hj'
    refine Finset.mem_filter.mpr ⟨hlt, ?_⟩
    by_cases hne : j = slot
    · rw [hne, Function.update_self] at hj'
      cases hj'
    · rwa [Function.update_of_ne hne] at hj'
  · exact Finset.mem_filter.mpr ⟨Finset.mem_range.mpr hslot, hset⟩
  · dsimp only
    rw [Finset.mem_filter, Function.update_self]
    simp

/-- A report takes a flag away. -/
theorem poll_flagCount (b : Build) (hcap : 0 < arq.recvWnd.w.cap) (hnone : pollSegment arq = none)
    {r : Nat × Nat} (h : pollReport arq dt = some r) :
    flagCount (perform b arq (.poll dt)).recvWnd < flagCount arq.recvWnd := by
  have hfree : sendFrameFree arq := by
    by_contra hbusy
    rw [pollReport, if_neg hbusy] at h
    cases h
  have hreceived : pollReceived arq dt = recvPollTimer arq.recvWnd dt := by
    rw [pollReceived_eq, pollStored_of_none hnone]
  have hcap' : (recvPollTimer arq.recvWnd dt).w.cap = arq.recvWnd.w.cap := by
    rw [recvPollTimer_w]
  change flagCount (pollWork b arq dt).recvWnd < _
  rw [pollWork_recvWnd, if_pos hfree, hreceived]
  rw [pollReport, if_pos hfree, hreceived] at h
  refine lt_of_lt_of_le ?_ (recvPollTimer_flagCount arq.recvWnd dt)
  obtain ⟨i, -, hset, heq⟩ | ⟨-, heq⟩ := recvPollAck_cases (recvPollTimer arq.recvWnd dt) frameHdrInit
  · rw [heq]
    refine flagCount_clear (Nat.mod_lt _ ?_) hset
    rw [hcap']
    exact hcap
  · have hack := congrArg (fun r : RecvWnd × FrameHdr => r.2.ack) heq
    unfold recvPollAck at hack
    revert hack h
    generalize recvWndAck (recvPollTimer arq.recvWnd dt) = reported
    obtain ⟨rw', o⟩ := reported
    rintro rfl hack
    cases hack

end

end NanoArq
