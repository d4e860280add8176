import NanoArq.Sender.Ops

/-!
# Acknowledging over the wrap of the sequence numbers

`AckExact` says what `arq__send_wnd_ack` is for: an ACK for a message in the window records its
vector, and the messages acknowledged at the front of the window leave it; any other ACK is ignored.

* `ack_exact_iff`: the code does so unless the number of the message is smaller than the one of the
  window's first message, because the window goes on at `0` behind `4095`. Such an ACK is lost.
-/

namespace NanoArq

open Lib

/-! ## What an ACK is for -/

/-- The window `sw'` is what the ACK `vec` for message `seq` makes of `sw`, and the first `n` messages
leave it. -/
structure AckHandled (sw : SendWnd) (seq vec : Nat) (sw' : SendWnd) (n : Nat) : Prop where
  le_size : n ≤ sw.w.size
  acked : ∀ i, i < n → msgAcked sw.w (ackedMsgs sw.w seq vec) i
  maximal : n < sw.w.size → ¬ msgAcked sw.w (ackedMsgs sw.w seq vec) n
  msg : ∀ i, i < sw.w.cap → sw'.w.msg ((sw.w.seq + i) % sw.w.cap) =
    if i < n then msgEmpty sw.w.fullAckVec
    else ackedMsgs sw.w seq vec ((sw.w.seq + i) % sw.w.cap)
  rtx : sw'.rtx =
    if vec ≠ (sw.w.msg (seq % sw.w.cap)).fullAckVec then Function.update sw.rtx (seq % sw.w.cap) 0
    else sw.rtx
  rest : sw' = { sw with
    rtx := sw'.rtx
    w := { sw.w with
      msg := sw'.w.msg
      size := sw.w.size - n
      seq := (sw.w.seq + n) % seqSpace } }

/-- The handling of an ACK is exact. -/
def AckExact (sw : SendWnd) (seq vec : Nat) : Prop :=
  if inWindow sw.w seq then ∃ n, AckHandled sw seq vec (sendWndAck sw seq vec) n
  else sendWndAck sw seq vec = sw

/-- An ACK that tells the window nothing new. -/
def AckRedundant (sw : SendWnd) (seq vec : Nat) : Prop :=
  (sw.w.msg (seq % sw.w.cap)).curAckVec = vec ∧
    (vec = (sw.w.msg (seq % sw.w.cap)).fullAckVec ∨ sw.rtx (seq % sw.w.cap) = 0) ∧
    ¬ msgAcked sw.w sw.w.msg 0

/-! ## The window test -/

section

variable {sw : SendWnd} {seq vec : Nat}

/-- The test of the source finds the messages in the window whose number is not smaller than the
one of the first. -/
theorem ackInWnd_iff (hbase : sw.w.seq < seqSpace) (hseq : seq < seqSpace) :
    ackInWnd sw.w seq ↔ inWindow sw.w seq ∧ sw.w.seq ≤ seq := by
  unfold ackInWnd inWindow wndIndex
  unfold seqSpace at *
  omega

theorem ackedMsgs_redundant (h : (sw.w.msg (seq % sw.w.cap)).curAckVec = vec) :
    ackedMsgs sw.w seq vec = sw.w.msg := by
  unfold ackedMsgs
  rw [← h]
  exact Function.update_eq_self _ _

theorem ack_handled (hsize : sw.w.size ≤ sw.w.cap) (hcap : sw.w.cap < 65536)
    (hin : ackInWnd sw.w seq) :
    ∃ n, AckHandled sw seq vec (sendWndAck sw seq vec) n := by
  obtain ⟨-, hle, hacked, hmax, hmsg⟩ := sendWndRetire_spec sw.w sw.w.size 0
    (ackedMsgs sw.w seq vec) (by omega)
  have heq : sendWndAck sw seq vec = { sw with
      rtx := if vec ≠ (sw.w.msg (seq % sw.w.cap)).fullAckVec then
        Function.update sw.rtx (seq % sw.w.cap) 0 else sw.rtx
      w := { sw.w with
        msg := (sendWndRetire sw.w sw.w.size 0 (ackedMsgs sw.w seq vec)).1
        size := u16 (sub32 sw.w.size (sendWndRetire sw.w sw.w.size 0 (ackedMsgs sw.w seq vec)).2)
        seq := (sw.w.seq + (sendWndRetire sw.w sw.w.size 0 (ackedMsgs sw.w seq vec)).2) %
          seqSpace } } := by
    rw [sendWndAck, if_pos hin]
    rfl
  generalize sendWndRetire sw.w sw.w.size 0 (ackedMsgs sw.w seq vec) = r at *
  rw [Nat.zero_add] at hle hmax
  have hsub : u16 (sub32 sw.w.size r.2) = sw.w.size - r.2 := by
    rw [sub32_of_le hle]
    exact u16_of_lt (by omega)
  refine ⟨r.2, hle, fun i hi => hacked i (Nat.zero_le i) hi, hmax, ?_, ?_, ?_⟩
  · intro i hi
    rw [heq]
    have := hmsg i hi
    simpa only [Nat.zero_le, true_and] using this
  · rw [heq]
  · rw [heq, hsub]

/-- An ACK that the source ignores is handled if it is redundant. -/
theorem ack_ignored (hsize : sw.w.size ≤ sw.w.cap) (hbase : sw.w.seq < seqSpace)
    (hdvd : sw.w.cap ∣ seqSpace) (hwin : inWindow sw.w seq) :
    (∃ n, AckHandled sw seq vec sw n) ↔ AckRedundant sw seq vec := by
  have hpos : 0 < sw.w.size := Nat.zero_lt_of_lt hwin
  constructor
  · rintro ⟨n, h⟩
    have hn : n = 0 := by
      have hw := congrArg (fun s : SendWnd => s.w.size) h.rest
      have := h.le_size
      dsimp only at hw
      omega
    subst hn
    have hslot := wndIndex_slot hbase hdvd seq
    have hcur : (sw.w.msg (seq % sw.w.cap)).curAckVec = vec := by
      have hmsg := h.msg (wndIndex sw.w seq) (Nat.lt_of_lt_of_le hwin hsize)
      rw [if_neg (Nat.not_lt_zero _), hslot] at hmsg
      rw [hmsg, ackedMsgs, Function.update_self]
    refine ⟨hcur, ?_, ?_⟩
    · by_cases hne : vec = (sw.w.msg (seq % sw.w.cap)).fullAckVec
      · exact Or.inl hne
      · right
        have hrtx := h.rtx
        rw [if_pos hne] at hrtx
        rw [hrtx, Function.update_self]
    · have hhead := h.maximal hpos
      rwa [ackedMsgs_redundant hcur] at hhead
  · rintro ⟨hcur, hrtx, hhead⟩
    have hsame := ackedMsgs_redundant hcur
    refine ⟨0, Nat.zero_le _, ?_, ?_, ?_, ?_, ?_⟩
    · intro i hi
      exact absurd hi (Nat.not_lt_zero i)
    · intro _
      rwa [hsame]
    · intro i _
      rw [if_neg (Nat.not_lt_zero i), hsame]
    · split
      · rename_i hne
        have h0 := hrtx.resolve_left hne
        rw [← h0]
        exact (Function.update_eq_self _ _).symm
      · rfl
    · rw [Nat.sub_zero, Nat.add_zero, Nat.mod_eq_of_lt hbase]

end

/-! ## The theorem -/

/-- **ACK processing is exact** if and only if the ACK does not name a message behind the wrap of the
window, or is redundant. -/
theorem ack_exact_iff (k : Nat) (hk : k ≤ 11) (seat : SendWnd) (msgLen segLen : Nat) (sw : SendWnd)
    (hrun : SendRun (sendWndOpen seat (2 ^ k) msgLen segLen) sw) (seq vec : Nat)
    (hseq : seq < seqSpace) :
    AckExact sw seq vec ↔
      ¬ (inWindow sw.w seq ∧ seq < sw.w.seq) ∨ AckRedundant sw seq vec := by
  obtain ⟨hle, hdvd⟩ := pow_window ⟨k, hk, rfl⟩
  have hcapFits : u16 (2 ^ k) = 2 ^ k := u16_of_lt (by omega)
  have hb := hrun.bounded (by rw [hcapFits]; exact Nat.pow_pos (by decide))
  have hcap : sw.w.cap = 2 ^ k := hb.dims.cap_eq.trans hcapFits
  have hin := ackInWnd_iff hb.seq_lt hseq
  unfold AckExact
  by_cases hwin : inWindow sw.w seq
  · rw [if_pos hwin]
    by_cases hbehind : seq < sw.w.seq
    · have hnot : sendWndAck sw seq vec = sw := if_neg fun h => by
        have := (hin.mp h).2
        omega
      rw [hnot, ack_ignored hb.size_le hb.seq_lt (by rwa [hcap]) hwin]
      simp only [hwin, hbehind, and_self, not_true_eq_false, false_or]
    · refine iff_of_true ?_ (Or.inl fun h => hbehind h.2)
      exact ack_handled hb.size_le (by omega) (hin.mpr ⟨hwin, by omega⟩)
  · rw [if_neg hwin]
    refine iff_of_true ?_ (Or.inl fun h => hwin h.1)
    exact if_neg fun h => hwin (hin.mp h).1

/-- One message is sent and acknowledged. -/
def ackSampleOps : List SendOp := [SendOp.send [7] 0, .ack 0 1, .send [8, 9] 0]

theorem ack_exact_iff_sample :
    let sw := ackSampleOps.foldl sendOpStep (sendWndOpen (zeroSeat (smallCfg 1 1 2)).sendWnd 2 1 1)
    sw.w.seq = 1 ∧ (AckExact sw 2 1 ↔
      ¬ (inWindow sw.w 2 ∧ 2 < sw.w.seq) ∨ AckRedundant sw 2 1) :=
  ⟨by decide +kernel,
    ack_exact_iff 1 (by decide) (zeroSeat (smallCfg 1 1 2)).sendWnd 1 1 _ (.exec (by decide)) 2 1
      (by decide)⟩

/-- In a window that holds the messages `4095` and `0`, the ACK for message `0` is lost. -/
theorem wrapped_ack_lost :
    ∃ sw, SendRun (sendWndOpen (zeroSeat (smallCfg 1 1 2)).sendWnd 2 1 1) sw ∧ sw.w.seq = 4095 ∧
      inWindow sw.w 0 ∧ (sw.w.msg 0).curAckVec = 0 ∧ sendWndAck sw 0 1 = sw ∧ ¬ AckExact sw 0 1 := by
  obtain ⟨sw₀, hrun, hdrained⟩ := drained_rounds (zeroSeat (smallCfg 1 1 2)).sendWnd
    (show 0 < 2 by decide) (by decide) 4095
  obtain ⟨hseq, hsize, hcap, hmsg⟩ := hdrained.two (by decide) (by decide) 8 9
  replace hrun := hrun.next (.send [8, 9] 0)
  rw [sendOpStep] at hrun
  generalize (sendWndSend sw₀ [8, 9] 0).1 = sw at *
  have hcur : (sw.w.msg 0).curAckVec = 0 := congrArg Msg.curAckVec (hmsg 0 (by decide))
  have hwin : inWindow sw.w 0 := by
    unfold inWindow wndIndex
    rw [hseq, hsize]
    decide
  have hnot : sendWndAck sw 0 1 = sw := if_neg fun h => h (Or.inr (Or.inl (by rw [hseq]; decide)))
  refine ⟨sw, hrun, hseq, hwin, hcur, hnot, ?_⟩
  rw [AckExact, if_pos hwin, hnot, ack_ignored]
  · rintro ⟨h, -⟩
    rw [hcap, Nat.zero_mod, hcur] at h
    cases h
  · rw [hsize, hcap]
  · rw [hseq]
    decide
  · rw [hcap]
    decide
  · exact hwin

end NanoArq
