import NanoArq.Sender.History

/-!
# Target ACK vectors

The target vector of a message in the send window names its first `c` segments for some `c`: all
that a complete message has, until a flush fixes the number. `SendTargets` adds this to the layout
of the window, and every call keeps it (`SendTargets.step`).
-/

namespace NanoArq

open Lib

structure SendTargets (d : Dims) (sw : SendWnd) (base : Nat) (content : List UInt8) : Prop where
  layout : SendLayout d sw.w base content
  full : ∀ i, i < sw.w.size →
    ∃ c, c ≤ d.segs ∧ (sw.w.msg ((base + i) % d.cap)).fullAckVec = 2 ^ c - 1

section

variable {d : Dims} {sw : SendWnd} {arq : Arq} {base : Nat} {content : List UInt8}

/-- The target of a complete message names no segment that it does not have. -/
theorem SendTargets.complete (hs : SendTargets d sw base content) {i : Nat} (hi : i < sw.w.size)
    (hlen : (sw.w.msg ((base + i) % d.cap)).len = d.msgLen) :
    (sw.w.msg ((base + i) % d.cap)).fullAckVec ≤
      vecOf d.segLen (sw.w.msg ((base + i) % d.cap)).len := by
  obtain ⟨c, hc, hfull⟩ := hs.full i hi
  have hcount : segCount d.segLen d.msgLen = d.segs := segCount_mul d.segLen_pos d.segs
  rw [hlen, hfull, (vecOf_eq (le_refl d.msgLen)).1, hcount]
  have := Nat.pow_le_pow_right (show 0 < 2 by omega) hc
  omega

/-- Comparing the target of a message with the vector of its bytes compares numbers of segments. -/
theorem SendTargets.count (hs : SendTargets d sw base content) {i : Nat} (hi : i < sw.w.size) :
    ∃ c, (sw.w.msg ((base + i) % d.cap)).fullAckVec = 2 ^ c - 1 ∧
      (vecOf d.segLen (sw.w.msg ((base + i) % d.cap)).len ≤
          (sw.w.msg ((base + i) % d.cap)).fullAckVec →
        segCount d.segLen (sw.w.msg ((base + i) % d.cap)).len ≤ c) ∧
      (¬ vecOf d.segLen (sw.w.msg ((base + i) % d.cap)).len <
          (sw.w.msg ((base + i) % d.cap)).fullAckVec →
        c ≤ segCount d.segLen (sw.w.msg ((base + i) % d.cap)).len) := by
  obtain ⟨c, hc, hfull⟩ := hs.full i hi
  obtain ⟨-, hle⟩ := hs.layout.len_bounds hi
  rw [hfull, (vecOf_eq hle).1]
  generalize segCount d.segLen (sw.w.msg ((base + i) % d.cap)).len = n
  have hn := Nat.two_pow_pos n
  have hc := Nat.two_pow_pos c
  refine ⟨c, rfl, ?_, ?_⟩
  · intro h
    by_contra hgt
    have := Nat.pow_lt_pow_right (show 1 < 2 by omega) (Nat.not_le.mp hgt)
    omega
  · intro h
    by_contra hgt
    have := Nat.pow_lt_pow_right (show 1 < 2 by omega) (Nat.not_le.mp hgt)
    omega

theorem SendTargets.send (hs : SendTargets d sw base content) (data : List UInt8) (tiny : Nat) :
    SendTargets d (sendWndSend sw data tiny).1 base
      (content ++ data.take (sendWndSend sw data tiny).2) := by
  obtain ⟨hl, hfull⟩ := hs
  refine ⟨sendWndSend_layout hl data tiny, ?_⟩
  by_cases hdata : data.length = 0
  · rw [sendWndSend_nil _ hdata]
    exact hfull
  obtain ⟨-, t, n, rem, hsp⟩ := sendWndSend_spec hl hdata tiny
  have hsizeLe := hsp.size_le
  intro i hi
  rw [(hsp.vectors (by omega)).2]
  by_cases hold : i < sw.w.size
  · exact hfull i hold
  · rw [hl.idle i (by omega) (by omega)]
    exact ⟨d.segs, le_rfl, rfl⟩

theorem SendTargets.flush (hs : SendTargets d sw base content) :
    SendTargets d (sendWndFlush sw) base content := by
  obtain ⟨hl, hfull⟩ := hs
  refine ⟨sendWndFlush_layout hl, ?_⟩
  intro i hi
  rw [sendWndFlush_w] at hi
  rw [sendWndFlush_msg]
  split
  · obtain ⟨-, hle⟩ := hl.len_bounds hi
    obtain ⟨heq, hcount⟩ := vecOf_eq hle
    rw [hl.shape.segLen]
    exact ⟨_, hcount, heq⟩
  · exact hfull i hi

/-- Noting an ACK changes one vector. -/
theorem pollMsgs_vectors (arq : Arq) (j : Nat) :
    (pollMsgs arq j).fullAckVec = (arq.sendWnd.w.msg j).fullAckVec ∧
      ((pollMsgs arq j).curAckVec = (arq.sendWnd.w.msg j).curAckVec ∨
        (pollAcks arq ∧ j = (pollRh arq).ackNum % arq.sendWnd.w.cap ∧
          (pollMsgs arq j).curAckVec = (pollRh arq).curAckVec)) := by
  unfold pollMsgs ackedMsgs
  split
  · rename_i hin
    by_cases hj : j = (pollRh arq).ackNum % arq.sendWnd.w.cap
    · rw [hj, Function.update_self]
      exact ⟨rfl, Or.inr ⟨hin, rfl, rfl⟩⟩
    · rw [Function.update_of_ne hj]
      exact ⟨rfl, Or.inl rfl⟩
  · exact ⟨rfl, Or.inl rfl⟩

theorem SendTargets.ack (hs : SendTargets d arq.sendWnd base content) :
    SendTargets d (pollAcked arq) (base + pollRetired arq)
      (content.drop (pollRetired arq * d.msgLen)) := by
  obtain ⟨hl, hfull⟩ := hs
  obtain ⟨-, -, -, hmsg⟩ := pollAcked_msgs hl
  obtain ⟨hsize, hlayout⟩ := pollAcked_layout hl
  have hcap := hl.size_le
  refine ⟨hlayout, ?_⟩
  intro i hi
  rw [Nat.add_assoc, hmsg _ (by omega) (by omega), (pollMsgs_vectors _ _).1]
  exact hfull _ (by omega)

theorem SendTargets.timers (hs : SendTargets d arq.sendWnd base content) (dt : Nat) :
    SendTargets d (pollTimers arq dt) (base + pollRetired arq)
      (content.drop (pollRetired arq * d.msgLen)) := by
  obtain ⟨hl, hfull⟩ := hs.ack
  have hstep : SendTargets d (sendWndStep (pollAcked arq) dt) (base + pollRetired arq)
      (content.drop (pollRetired arq * d.msgLen)) := ⟨hl, hfull⟩
  rw [pollTimers_eq]
  split
  · exact ⟨hstep.flush.layout, hstep.flush.full⟩
  · exact hstep

end

end NanoArq
