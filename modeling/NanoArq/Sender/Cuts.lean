import NanoArq.Reset.SendSide
import NanoArq.Sender.Layout

/-!
# Sending in pieces

Two calls of `arq__send_wnd_send` take what one call takes of both pieces, and leave the same window
(`sendWndSend_append`), except for the time of the tinygram timer when that timer is off: a first
piece that ends inside a message sets it, and the second one may complete the message.
-/

namespace NanoArq

open Lib

/-- What two calls take is what one call takes. -/
theorem sendTaken_append (d : Dims) (content xs ys : List UInt8) {n m : Nat}
    (hn : n = sendTaken d content xs) (hm : m = sendTaken d (content ++ xs.take n) ys) :
    n + m = sendTaken d content (xs ++ ys) ∧ xs.take n ++ ys.take m = (xs ++ ys).take (n + m) := by
  unfold sendTaken at hn hm ⊢
  rw [List.length_append, List.length_take] at hm
  rw [List.length_append, List.take_append]
  refine ⟨by omega, ?_⟩
  by_cases hall : n = xs.length
  · rw [hall, List.take_length, List.take_of_length_le (Nat.le_add_right _ m), Nat.add_sub_cancel_left]
  · have hzero : m = 0 := by omega
    rw [hzero, Nat.add_zero, show n - xs.length = 0 by omega]

theorem block_unique {q q' n r r' : Nat} (hr : r < n) (hr' : r' < n)
    (h : q * n + r = q' * n + r') : q = q' ∧ r = r' := by
  have hq : ∀ {a b s s' : Nat}, s' < n → a * n + s = b * n + s' → ¬ a > b := by
    intro a b s s' hs heq hab
    have hmul := Nat.mul_le_mul_right n hab
    rw [Nat.succ_mul] at hmul
    omega
  obtain rfl : q = q' := by
    have h₁ := hq hr' h
    have h₂ := hq hr h.symm
    omega
  exact ⟨rfl, Nat.add_left_cancel h⟩

/-- The windows differ in slots behind their capacity, and in the time of a timer that is off. -/
structure SendMerges (sw sw' : SendWnd) : Prop where
  rest : sw' = { sw with
    w := { sw.w with msg := sw'.w.msg }
    rtx := sw'.rtx
    tiny := sw'.tiny }
  msg : EqBelow sw.w.cap sw.w.msg sw'.w.msg
  rtx : EqBelow sw.w.cap sw.rtx sw'.rtx
  tiny : sw.tinyOn = true → sw'.tiny = sw.tiny

section

variable {d : Dims} {sw sw₁ sw₂ sw' : SendWnd} {base : Nat} {content xs ys : List UInt8}
  {tiny t t₁ t₂ full full₁ full₂ rem rem₁ rem₂ : Nat}

/-- The first call, the second, and the one that does the work of both. -/
theorem SendSpec.append (hl : SendLayout d sw.w base content)
    (h₁ : SendSpec d sw base content xs tiny sw₁ t₁ full₁ rem₁)
    (h₂ : SendSpec d sw₁ base (content ++ xs) ys tiny sw₂ t₂ full₂ rem₂)
    (h : SendSpec d sw base content (xs ++ ys) tiny sw' t full rem) : SendMerges sw' sw₂ := by
  have hl₁ := h₁.layout hl
  have hcapEq := hl.shape.cap
  have hL := d.msgLen_pos
  have hsplit₁ := h₁.split
  have hsplit₂ := h₂.split
  have hsplit := h.split
  rw [← List.append_assoc, hsplit₂] at hsplit
  -- both ways complete the same messages and leave the same rest
  obtain ⟨hfull, rfl⟩ := block_unique h₂.rem_lt h.rem_lt hsplit
  have hsize : sw₂.w.size = sw'.w.size := by rw [h₂.size, h.size, List.append_assoc]
  have hgrow₁ := h₁.grows hl
  have hgrow₂ := h₂.grows hl₁
  have hlast₁ := h₁.last
  have hlast₂ := h₂.last
  have hlast := h.last
  have hfull₁ : full₁ ≤ full := by
    by_contra hgt
    have hmul := Nat.mul_le_mul_right d.msgLen (show t + full + 1 ≤ t₁ + full₁ by omega)
    have hlt := h.rem_lt
    have hlonger := @List.length_append _ (content ++ xs) ys
    rw [Nat.succ_mul] at hmul
    rw [hfull] at hsplit₂
    omega
  have hrem₁ : full₁ = full → rem₁ ≤ rem₂ := by
    intro hsame
    have hlonger := @List.length_append _ (content ++ xs) ys
    rw [hfull] at hsplit₂
    rw [hlast₁, ← hlast, hsame] at hsplit₁
    omega
  have hends₁ : rem₁ = 0 ∧ sw₁.w.size = t₁ + full₁ ∨ rem₁ ≠ 0 ∧ sw₁.w.size = t₁ + full₁ + 1 := by
    have := h₁.size_eq
    split at this <;> omega
  have hends₂ : rem₂ = 0 ∧ sw₂.w.size = t₂ + full₂ ∨ rem₂ ≠ 0 ∧ sw₂.w.size = t₂ + full₂ + 1 := by
    have := h₂.size_eq
    split at this <;> omega
  refine ⟨?_, ?_, ?_, ?_⟩
  · have hbuf : sw₂.w.buf = sw'.w.buf := by
      obtain ⟨hcur, hnext⟩ := h.cursor hl
      obtain ⟨hcur₂, hnext₂⟩ := h₂.cursor hl₁
      rw [h₂.rest, h₁.rest, h.rest]
      dsimp only
      rw [hlast₁, ← hlast]
      refine ringWrite_append hcur hcur₂ ?_ ?_
      · intro y
        rw [hnext₂, Nat.add_assoc, hnext, List.length_append, Nat.add_assoc]
      · have := h.room
        rw [List.length_append] at this
        omega
    have hw : sw₂.w = { sw'.w with msg := sw₂.w.msg } := by
      rw [h₂.rest, h₁.rest, h.rest]
      rw [h₂.rest, h₁.rest, h.rest] at hbuf
      dsimp only at hbuf ⊢
      rw [hbuf, hsize]
    have hon : sw₂.tinyOn = sw'.tinyOn := by rw [h₂.tinyOn, h.tinyOn]
    obtain ⟨w, rtx, tiny, tinyOn⟩ := sw₂
    dsimp only at hw hon ⊢
    rw [hon, ← hw]
  · intro j hj
    rw [h.rest] at hj
    obtain ⟨i, hi, rfl⟩ := ring_surj (hcapEq ▸ hj) base
    rw [h.msg i hi, h₂.msg i hi, h₁.msg i hi]
    split_ifs <;> first | rfl | omega
  · intro j hj
    rw [h.rest] at hj
    obtain ⟨i, hi, rfl⟩ := ring_surj (hcapEq ▸ hj) base
    rw [h.rtx i hi, h₂.rtx i hi, h₁.rtx i hi]
    split_ifs <;> first | rfl | omega
  · intro hon
    rw [h.tinyOn, decide_eq_true_iff] at hon
    rw [h.tiny, h₂.tiny, h₁.tiny]
    split_ifs <;> first | rfl | omega

/-- **Two calls are one**: they take the bytes that one call would, and leave its window. When no
message is left incomplete, the window ends at the end of a message. -/
theorem sendWndSend_append (hl : SendLayout d sw.w base content) (hxs : xs.length ≠ 0)
    (hys : ys.length ≠ 0) (tiny : Nat) {r₁ r₂ r : SendWnd × Nat} (hr₁ : r₁ = sendWndSend sw xs tiny)
    (hr₂ : r₂ = sendWndSend r₁.1 ys tiny) (hr : r = sendWndSend sw (xs ++ ys) tiny) :
    r₁.2 + r₂.2 = r.2 ∧ SendMerges r.1 r₂.1 ∧
      (r.1.tinyOn = false → d.msgLen ∣ (content ++ (xs ++ ys).take r.2).length) := by
  subst hr₁ hr₂ hr
  obtain ⟨htaken₁, t₁, full₁, rem₁, h₁⟩ := sendWndSend_spec hl hxs tiny
  obtain ⟨htaken₂, t₂, full₂, rem₂, h₂⟩ := sendWndSend_spec (h₁.layout hl) hys tiny
  have hboth : (xs ++ ys).length ≠ 0 := by
    rw [List.length_append]
    omega
  obtain ⟨htaken, t, full, rem, h⟩ := sendWndSend_spec hl hboth tiny
  obtain ⟨hcount, hbytes⟩ := sendTaken_append d content xs ys rfl rfl
  rw [htaken₁, htaken₂, htaken]
  rw [← hcount, ← hbytes] at h
  refine ⟨hcount, h₁.append hl h₂ h, ?_⟩
  intro hoff
  rw [h.tinyOn, decide_eq_false_iff_not, not_not] at hoff
  rw [← hcount, ← hbytes, h.split, hoff]
  exact ⟨t + full, by rw [Nat.add_zero, Nat.mul_comm]⟩

end

end NanoArq
