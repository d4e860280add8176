import NanoArq.Sender.Ops

/-!
# The send window refines a queue of bytes

`wndContent` is the queue that a send window stands for: the bytes of its messages in the order of
the window. `QueueStep` is what each operation does to the queue, `QueueShaped` how the messages and
the unused slots look.

* `wndContent_eq`: the queue is the content of the layout.
* `send_window_queue`: in every window that any operations lead to, both hold.
-/

namespace NanoArq

open Lib

/-! ## Chunks -/

theorem flatMap_chunks {α : Type*} (xs : List α) (L n : Nat) :
    (List.range n).flatMap (fun i => (xs.drop (i * L)).take L) = xs.take (n * L) := by
  induction n with
  | zero => simp
  | succ n ih =>
    rw [List.range_succ, List.flatMap_append, ih, Nat.add_mul, Nat.one_mul, List.take_add]
    simp

/-! ## The queue -/

/-- The bytes of message `i` of the window. -/
def wndMessage (w : Wnd) (i : Nat) : List UInt8 :=
  slice w.buf ((w.seq + i) % w.cap * w.msgLen) (w.msg ((w.seq + i) % w.cap)).len

/-- The bytes in the window, in order. -/
def wndContent (w : Wnd) : List UInt8 := (List.range w.size).flatMap (wndMessage w)

/-- All messages but the last are complete, the last is not empty, and the unused slots are. -/
structure QueueShaped (d : Dims) (w : Wnd) : Prop where
  size_le : w.size ≤ d.cap
  complete : ∀ i, i + 1 < w.size → (w.msg ((w.seq + i) % d.cap)).len = d.msgLen
  last : ∀ i, i + 1 = w.size →
    1 ≤ (w.msg ((w.seq + i) % d.cap)).len ∧ (w.msg ((w.seq + i) % d.cap)).len ≤ d.msgLen
  idle : ∀ i, w.size ≤ i → i < d.cap → w.msg ((w.seq + i) % d.cap) = msgEmpty d.full

/-- What the operations do to the queue. -/
def QueueStep (d : Dims) (sw : SendWnd) : SendOp → Prop
  | .send data tiny =>
    (sendWndSend sw data tiny).2 =
        min data.length (d.cap * d.msgLen - (wndContent sw.w).length) ∧
      wndContent (sendWndSend sw data tiny).1.w =
        wndContent sw.w ++ data.take (sendWndSend sw data tiny).2
  | .ack seq vec => ∃ n, n ≤ sw.w.size ∧
      (∀ i, i < n → msgAcked sw.w (ackedMsgs sw.w seq vec) i) ∧
      wndContent sw.w = (List.range n).flatMap (wndMessage sw.w) ++ wndContent (sendWndAck sw seq vec).w
  | op => wndContent (sendOpStep sw op).w = wndContent sw.w

/-! ## The layout and the queue -/

section

variable {d : Dims} {sw : SendWnd} {w : Wnd} {base : Nat} {content : List UInt8}

theorem SendLayout.message (hl : SendLayout d w base content) {i : Nat} (hi : i < w.size) :
    wndMessage w i = (content.drop (i * d.msgLen)).take d.msgLen := by
  have hpos := hl.lt_size.mp hi
  have hlen := hl.len i hi
  have hslice := @SendLayout.slice_eq d w base content hl i 0
    (min d.msgLen (content.length - i * d.msgLen)) (by omega) (by omega)
  rw [Nat.add_zero, Nat.add_zero] at hslice
  rw [wndMessage, hl.slot, hl.shape.msgLen, hlen, Nat.mul_comm, hslice]
  apply List.ext_getElem
  · simp only [List.length_take, List.length_drop]
    omega
  · intro y _ _
    simp only [List.getElem_take]

/-- The first messages of the window. -/
theorem SendLayout.messages (hl : SendLayout d w base content) {n : Nat} (hn : n ≤ w.size) :
    (List.range n).flatMap (wndMessage w) = content.take (n * d.msgLen) := by
  rw [← flatMap_chunks]
  apply List.flatMap_congr
  intro i hi
  exact hl.message (Nat.lt_of_lt_of_le (List.mem_range.mp hi) hn)

theorem wndContent_eq (hl : SendLayout d w base content) : wndContent w = content := by
  rw [wndContent, hl.messages le_rfl]
  apply List.take_of_length_le
  have := (segCount_le d.msgLen_pos).mp (le_of_eq hl.size.symm)
  exact this

theorem SendLayout.shaped (hl : SendLayout d w base content) : QueueShaped d w := by
  have hslot : ∀ i, (w.seq + i) % d.cap = (base + i) % d.cap := by
    intro i
    rw [← hl.slot, hl.shape.cap]
  refine ⟨hl.size_le, ?_, ?_, ?_⟩
  · intro i hi
    have hnext := hl.lt_size.mp hi
    rw [Nat.add_mul, Nat.one_mul] at hnext
    rw [hslot, hl.len i (by omega)]
    omega
  · intro i hi
    rw [hslot]
    exact hl.len_bounds (by omega)
  · intro i hi hicap
    rw [hslot]
    exact hl.idle i hi hicap

theorem SendLayout.queueStep (hl : SendLayout d sw.w base content) (op : SendOp) :
    QueueStep d sw op ∧ ∃ base content, SendLayout d (sendOpStep sw op).w base content := by
  have hcontent := wndContent_eq hl
  cases op with
  | send data tiny =>
    have hsent := sendWndSend_layout hl data tiny
    refine ⟨⟨?_, ?_⟩, _, _, hsent⟩
    · rw [hcontent]
      exact sendWndSend_taken hl data tiny
    · rw [hcontent]
      exact wndContent_eq hsent
  | ack seq vec =>
    obtain ⟨-, hacked⟩ := sendWndAck_layout hl seq vec
    have hretired : ackRetired sw.w seq vec ≤ sw.w.size ∧ ∀ i, i < ackRetired sw.w seq vec →
        msgAcked sw.w (ackedMsgs sw.w seq vec) i := by
      by_cases hin : ackInWnd sw.w seq
      · obtain ⟨hle, hmsgs, -⟩ := sendWndAck_msgs hl vec hin
        exact ⟨hle, hmsgs⟩
      · have hzero : ackRetired sw.w seq vec = 0 := if_neg hin
        rw [hzero]
        exact ⟨Nat.zero_le _, fun i hi => absurd hi (Nat.not_lt_zero i)⟩
    refine ⟨⟨ackRetired sw.w seq vec, hretired.1, hretired.2, ?_⟩, _, _, hacked⟩
    rw [hcontent, wndContent_eq hacked, hl.messages hretired.1, List.take_append_drop]
  | flush =>
    have hflushed := sendWndFlush_layout hl
    exact ⟨(wndContent_eq hflushed).trans hcontent.symm, _, _, hflushed⟩
  | step | sent | tinyOff => exact ⟨rfl, _, _, hl⟩

end

theorem SendRun.layout {d : Dims} {seat sw : SendWnd}
    (hrun : SendRun (sendWndOpen seat d.cap d.msgLen d.segLen) sw) :
    ∃ base content, SendLayout d sw.w base content := by
  induction hrun with
  | start => exact ⟨0, [], wndRst_layout (d.init_shape seat.w)⟩
  | next _ op _ ih =>
    obtain ⟨base, content, hl⟩ := ih
    exact (hl.queueStep op).2

/-- **The send window refines a bounded queue of bytes.** -/
theorem send_window_queue (d : Dims) (seat sw : SendWnd)
    (hrun : SendRun (sendWndOpen seat d.cap d.msgLen d.segLen) sw) :
    QueueShaped d sw.w ∧ ∀ op, QueueStep d sw op := by
  obtain ⟨base, content, hl⟩ := hrun.layout
  exact ⟨hl.shaped, fun op => (hl.queueStep op).1⟩

/-- Two messages of two segments of one byte. -/
def queueSampleDims : Dims where
  cap := 2
  segs := 2
  segLen := 1
  cap_pos := Nat.two_pos
  cap_le := by decide
  cap_dvd := two_dvd_seqSpace
  segs_pos := Nat.two_pos
  segs_le := by decide
  segLen_pos := Nat.one_pos
  fits := by decide

theorem send_window_queue_sample :
    let sw := sendWndOpen (zeroSeat (smallCfg 1 2 2)).sendWnd 2 2 1
    let sw' := [SendOp.send [7, 8, 9] 0, .ack 0 3, .flush].foldl sendOpStep sw
    wndContent sw'.w = [9] ∧ QueueShaped queueSampleDims sw'.w ∧
      ∀ op, QueueStep queueSampleDims sw' op :=
  ⟨by decide +kernel, send_window_queue queueSampleDims (zeroSeat (smallCfg 1 2 2)).sendWnd _
    (.exec (by decide))⟩

end NanoArq
