import NanoArq.Lib.Marks
import NanoArq.Receiver.Layout

/-!
# Reading in pieces

Two calls of `arq__recv_wnd_recv` hand over what one call for both lengths hands over, and leave the
same window (`recvWndRecv_append`): a layout determines the window (`RecvLayout.unique`), and both
ways lead to the same one.
-/

namespace NanoArq

open Lib

section

variable {d : RecvDims} {M : Nat → List UInt8} {got : Nat → Nat → Prop} {read read' : Nat}
  {rw rw' : RecvWnd}

theorem SlotHolds.unique {buf : Buf} {slot : Nat} {m m' : Msg} {xs : List UInt8} {got : Nat → Prop}
    (h : SlotHolds d buf slot m xs got) (h' : SlotHolds d buf slot m' xs got) : m' = m := by
  have hvec : m'.curAckVec = m.curAckVec := by
    apply Nat.eq_of_testBit_eq
    intro j
    exact Bool.eq_iff_iff.mpr ((h'.vec j).trans (h.vec j).symm)
  by_cases hzero : m.curAckVec = 0
  · rw [h.empty hzero, h'.empty (hvec.trans hzero)]
  · have hlen : m'.len = m.len := by rw [h'.len, h.len, hvec]
    have hfull : m'.fullAckVec = m.fullAckVec := by rw [h'.full (hvec ▸ hzero), h.full hzero]
    obtain ⟨len, cur, full⟩ := m
    obtain ⟨len', cur', full'⟩ := m'
    dsimp only at hvec hlen hfull
    rw [hvec, hlen, hfull]

/-- A read message is told from its successor by the position of the reader. -/
theorem RecvLayout.read_unique (h : RecvLayout d M got read rw) (h' : RecvLayout d M got read' rw')
    (hM : ∀ k, MsgFits d (M k)) (hpos : readPos M read' rw' = readPos M read rw) :
    read' = read ∧ rw'.copyOfs = rw.copyOfs := by
  have hne : ∀ k, M k ≠ [] := fun k => List.length_pos_iff.mp (hM k).pos
  have hofs : ∀ {n x}, RecvLayout d M got n x → x.copyOfs < (M n).length := by
    intro n x hx
    rcases hx.ofs with h0 | ⟨-, hlt⟩
    · rw [h0]
      exact (hM n).pos
    · exact hlt
  have hread : read' = read := by
    rw [← wholeMessages_eq hne (hofs h), ← wholeMessages_eq hne (hofs h')]
    exact congrArg (wholeMessages M) hpos
  subst hread
  exact ⟨rfl, Nat.add_left_cancel hpos⟩

/-- The window behind the messages that were read is determined. -/
theorem RecvLayout.unique (h : RecvLayout d M got read rw) (h' : RecvLayout d M got read rw')
    (hofs : rw'.copyOfs = rw.copyOfs)
    (hrest : rw' = { rw with
      w := { rw.w with msg := rw'.w.msg }
      copySeq := rw'.copySeq
      copyOfs := rw'.copyOfs
      slide := rw'.slide }) :
    rw' = { rw with w := { rw.w with msg := rw'.w.msg } } ∧ EqBelow rw.w.cap rw.w.msg rw'.w.msg := by
  have hw : rw'.w = { rw.w with msg := rw'.w.msg } := congrArg RecvWnd.w hrest
  have hslide : rw'.slide = rw.slide := by
    have hseq := h'.seq
    rw [hw] at hseq
    dsimp only at hseq
    rw [h.seq] at hseq
    have hcap := d.cap_le
    have hle := h.slide_le
    have hle' := h'.slide_le
    have hsize := h.slide_size
    have hsize' := h'.slide_size
    have hcap₁ := h.size_le
    have hcap₂ := h'.size_le
    unfold seqSpace at hseq
    omega
  refine ⟨?_, ?_⟩
  · rw [h'.copySeq, ← h.copySeq, hofs, hslide] at hrest
    exact hrest
  · intro j hj
    rw [h.cap_eq] at hj
    obtain ⟨i, hi, rfl⟩ := ring_surj hj read
    have hslot := h'.slot (read + i) (by omega) (by omega)
    rw [hw] at hslot
    exact ((h.slot (read + i) (by omega) (by omega)).unique hslot).symm

/-- **Two reads are one.** -/
theorem recvWndRecv_append (h : RecvLayout d M got read rw) (hM : ∀ k, MsgFits d (M k)) (n m : Nat)
    {r₁ r₂ r : RecvWnd × List UInt8} (hr₁ : r₁ = recvWndRecv rw n) (hr₂ : r₂ = recvWndRecv r₁.1 m)
    (hr : r = recvWndRecv rw (n + m)) :
    r₁.2 ++ r₂.2 = r.2 ∧ r₂.1 = { r.1 with w := { r.1.w with msg := r₂.1.w.msg } } ∧
      EqBelow r.1.w.cap r.1.w.msg r₂.1.w.msg := by
  obtain ⟨e, he⟩ := h.leading hM
  obtain ⟨read₁, h₁, hbytes₁, hpos₁⟩ := recvWndRecv_layout h hM he n
  obtain ⟨read₂, h₂, hbytes₂, hpos₂⟩ := recvWndRecv_layout h₁ hM he m
  obtain ⟨read', h', hbytes, hpos⟩ := recvWndRecv_layout h hM he (n + m)
  have hrest₁ := recvWndRecv_rest rw n
  have hrest₂ := recvWndRecv_rest (recvWndRecv rw n).1 m
  have hrest := recvWndRecv_rest rw (n + m)
  rw [← hr₁] at h₁ hbytes₁ hpos₁ h₂ hbytes₂ hpos₂ hrest₁ hrest₂
  rw [← hr₂] at h₂ hbytes₂ hpos₂ hrest₂
  rw [← hr] at h' hbytes hpos hrest
  have happ : r₁.2 ++ r₂.2 = r.2 := by
    rw [hbytes₁, hbytes₂, hbytes, hpos₁, hbytes₁, List.take_add, ← List.drop_drop, List.length_take]
    generalize (concat M e).drop (readPos M read rw) = left
    congr 2
    rcases Nat.le_total n left.length with hle | hle
    · rw [Nat.min_eq_left hle]
    · rw [Nat.min_eq_right hle, List.drop_length, List.drop_of_length_le hle]
  refine ⟨happ, ?_⟩
  have hsame : readPos M read₂ r₂.1 = readPos M read' r.1 := by
    rw [hpos₂, hpos₁, hpos, ← happ, List.length_append, Nat.add_assoc]
  obtain ⟨rfl, hofs⟩ := h'.read_unique h₂ hM hsame
  refine h'.unique h₂ hofs ?_
  rw [hrest₂, hrest₁, hrest]

end

end NanoArq
