import NanoArq.Codec.Frame

/-!
# The receive frame as an accumulator

`arq__recv_frame_fill` appends bytes until it has copied a zero byte or its buffer is full.
`Accumulating f pre` says that the frame holds the bytes `pre`, none of them zero, and
`FullFrame f bytes` that it holds the complete frame `bytes`. `recvFrameFill_nonzero` and
`recvFrameFill_zero` are the two things a call can do to an accumulating frame.
-/

namespace NanoArq

open Lib

structure Accumulating (f : RecvFrame) (pre : List UInt8) : Prop where
  state : f.state = .accumulating
  len : f.len = pre.length
  bytes : slice f.buf 0 pre.length = pre
  nonzero : ∀ b ∈ pre, b ≠ 0
  fits : pre.length ≤ f.cap
  cap : f.cap < 65536

structure FullFrame (f : RecvFrame) (bytes : List UInt8) : Prop where
  state : f.state = .fullFramePresent
  len : f.len = bytes.length
  bytes : slice f.buf 0 bytes.length = bytes

theorem accumulating_rst {f : RecvFrame} (hcap : f.cap < 65536) :
    Accumulating (recvFrameRst f) [] :=
  ⟨rfl, rfl, rfl, by simp, Nat.zero_le _, hcap⟩

theorem recvFrameFillGo_nonzero {src : List UInt8} (hsrc : ∀ b ∈ src, b ≠ 0) (m : Buf)
    (dst : Nat) : recvFrameFillGo m dst src = (memcpy m dst src, src.length, false) := by
  induction src generalizing m dst with
  | nil => simp [recvFrameFillGo]
  | cons b bs ih =>
    have hb : b ≠ 0 := hsrc b List.mem_cons_self
    rw [recvFrameFillGo, if_neg hb, ih (fun c hc => hsrc c (List.mem_cons_of_mem _ hc)),
      memcpy_cons]
    rfl

theorem recvFrameFillGo_zero {src : List UInt8} (hsrc : ∀ b ∈ src, b ≠ 0) (rest : List UInt8)
    (m : Buf) (dst : Nat) :
    recvFrameFillGo m dst (src ++ 0 :: rest) =
      (memcpy m dst (src ++ [0]), src.length + 1, true) := by
  induction src generalizing m dst with
  | nil => simp [recvFrameFillGo, memcpy_cons]
  | cons b bs ih =>
    have hb : b ≠ 0 := hsrc b List.mem_cons_self
    rw [List.cons_append, recvFrameFillGo, if_neg hb,
      ih (fun c hc => hsrc c (List.mem_cons_of_mem _ hc)), List.cons_append, memcpy_cons]
    rfl

/-- The bytes of an accumulator after a copy behind them. -/
theorem slice_memcpy_append {m : Buf} {pre : List UInt8} (hpre : slice m 0 pre.length = pre)
    (src : List UInt8) :
    slice (memcpy m pre.length src) 0 (pre ++ src).length = pre ++ src := by
  rw [List.length_append, slice_add, slice_memcpy_before _ _ (by omega), hpre, Nat.zero_add,
    slice_memcpy_self]

theorem recvFrameFillGo_copied (src : List UInt8) :
    ∀ (m : Buf) (dst : Nat), (recvFrameFillGo m dst src).2.1 ≤ src.length := by
  induction src with
  | nil => exact fun _ _ => le_rfl
  | cons b bs ih =>
    intro m dst
    rw [recvFrameFillGo, List.length_cons]
    dsimp only
    split
    · exact Nat.succ_le_succ (Nat.zero_le _)
    · exact Nat.succ_le_succ (ih _ _)

theorem recvFrameFill_len_le {f : RecvFrame} (hlen : f.len ≤ f.cap) (src : List UInt8) :
    (recvFrameFill f src).1.len ≤ (recvFrameFill f src).1.cap := by
  unfold recvFrameFill
  split
  · exact hlen
  · have hroom := sub32_of_le hlen
    have hcopied := recvFrameFillGo_copied (src.take (sub32 f.cap f.len)) f.buf f.len
    rw [List.length_take, hroom] at hcopied
    dsimp only
    rw [hroom]
    exact (Nat.mod_le _ _).trans (by omega)

theorem recvFrameFill_cap (f : RecvFrame) (src : List UInt8) : (recvFrameFill f src).1.cap = f.cap := by
  unfold recvFrameFill
  split <;> rfl

section

variable {f : RecvFrame} {pre : List UInt8}

theorem Accumulating.room (h : Accumulating f pre) : sub32 f.cap f.len = f.cap - pre.length := by
  rw [h.len]
  exact sub32_of_le h.fits

theorem Accumulating.not_full (h : Accumulating f pre) : ¬ f.state = .fullFramePresent := by
  rw [h.state]
  decide

/-- Bytes without a zero are appended as far as the buffer has room. -/
theorem recvFrameFill_nonzero (h : Accumulating f pre) {src : List UInt8}
    (hsrc : ∀ b ∈ src.take (f.cap - pre.length), b ≠ 0) :
    Accumulating (recvFrameFill f src).1 (pre ++ src.take (f.cap - pre.length)) ∧
      (recvFrameFill f src).2 = min (f.cap - pre.length) src.length := by
  have hfits := h.fits
  have hcap := h.cap
  have hlen : (pre ++ src.take (f.cap - pre.length)).length ≤ f.cap := by
    simp only [List.length_append, List.length_take]
    omega
  rw [recvFrameFill, if_neg h.not_full, h.room, recvFrameFillGo_nonzero hsrc]
  refine ⟨⟨?_, ?_, ?_, ?_, hlen, hcap⟩, by simp⟩
  · simpa using h.state
  · rw [List.length_append] at hlen ⊢
    simp only [h.len]
    exact u16_of_lt (by omega)
  · simp only [h.len]
    exact slice_memcpy_append h.bytes _
  · intro b hb
    rcases List.mem_append.mp hb with hb | hb
    · exact h.nonzero b hb
    · exact hsrc b hb

/-- A zero byte within reach completes the frame, and the bytes after it are not taken. -/
theorem recvFrameFill_zero (h : Accumulating f pre) {src : List UInt8}
    (hsrc : ∀ b ∈ src, b ≠ 0) (hroom : pre.length + src.length < f.cap) (rest : List UInt8) :
    FullFrame (recvFrameFill f (src ++ 0 :: rest)).1 (pre ++ (src ++ [0])) ∧
      (recvFrameFill f (src ++ 0 :: rest)).2 = src.length + 1 := by
  have htake : (src ++ 0 :: rest).take (f.cap - pre.length) =
      src ++ 0 :: rest.take (f.cap - pre.length - src.length - 1) := by
    obtain ⟨k, hk⟩ := Nat.exists_eq_add_of_lt hroom
    rw [List.take_append, List.take_of_length_le (by omega),
      show f.cap - pre.length - src.length = k + 1 by omega, List.take_succ_cons]
    rfl
  have hcap := h.cap
  rw [recvFrameFill, if_neg h.not_full, h.room, htake, recvFrameFillGo_zero hsrc]
  refine ⟨⟨rfl, ?_, ?_⟩, rfl⟩
  · simp only [h.len, List.length_append, List.length_cons, List.length_nil]
    exact u16_of_lt (by omega)
  · simp only [h.len]
    exact slice_memcpy_append h.bytes _

end

/-- A zero-free list, or its first zero. -/
theorem exists_first_zero (l : List UInt8) :
    (∀ b ∈ l, b ≠ 0) ∨ ∃ a c, l = a ++ 0 :: c ∧ ∀ b ∈ a, b ≠ 0 := by
  by_cases h : (0 : UInt8) ∈ l
  · obtain ⟨a, c, rfl, ha⟩ := List.eq_append_cons_of_mem h
    exact Or.inr ⟨a, c, rfl, fun b hb hb0 => ha (hb0 ▸ hb)⟩
  · exact Or.inl fun b hb hb0 => h (hb0 ▸ hb)

/-- What one call of `arq__recv_frame_fill` can do to an accumulating frame: append the whole
chunk, complete a frame, or fill the buffer up without having met a zero. -/
theorem recvFrameFill_cases {f : RecvFrame} {pre : List UInt8} (h : Accumulating f pre)
    (chunk : List UInt8) :
    (Accumulating (recvFrameFill f chunk).1 (pre ++ chunk) ∧
        chunk.drop (recvFrameFill f chunk).2 = []) ∨
      (∃ a c, chunk = a ++ 0 :: c ∧ (∀ b ∈ a, b ≠ 0) ∧ pre.length + a.length < f.cap ∧
        FullFrame (recvFrameFill f chunk).1 (pre ++ (a ++ [0])) ∧
        chunk.drop (recvFrameFill f chunk).2 = c) ∨
      ∃ a c, chunk = a ++ c ∧ c ≠ [] ∧ (pre ++ a).length = f.cap ∧
        Accumulating (recvFrameFill f chunk).1 (pre ++ a) ∧
        chunk.drop (recvFrameFill f chunk).2 = c := by
  have hfits := h.fits
  rcases exists_first_zero (chunk.take (f.cap - pre.length)) with hnz | ⟨a, c, hac, ha⟩
  · obtain ⟨hacc, htaken⟩ := recvFrameFill_nonzero h hnz
    by_cases hroom : chunk.length ≤ f.cap - pre.length
    · refine Or.inl ⟨?_, ?_⟩
      · rwa [List.take_of_length_le hroom] at hacc
      · rw [htaken, Nat.min_eq_right hroom, List.drop_length]
    · refine Or.inr (Or.inr ⟨chunk.take (f.cap - pre.length), chunk.drop (f.cap - pre.length),
        (List.take_append_drop _ _).symm, ?_, ?_, hacc, ?_⟩)
      · simpa using hroom
      · simp only [List.length_append, List.length_take]
        omega
      · rw [htaken, Nat.min_eq_left (by omega)]
  · have hlen := congrArg List.length hac
    simp only [List.length_take, List.length_append, List.length_cons] at hlen
    have hchunk : chunk = a ++ 0 :: (c ++ chunk.drop (f.cap - pre.length)) := by
      conv_lhs => rw [← List.take_append_drop (f.cap - pre.length) chunk, hac]
      simp
    obtain ⟨hfull, htaken⟩ :=
      recvFrameFill_zero h ha (by omega) (c ++ chunk.drop (f.cap - pre.length))
    rw [← hchunk] at hfull htaken
    refine Or.inr (Or.inl ⟨a, _, hchunk, ha, by omega, hfull, ?_⟩)
    rw [htaken]
    conv_lhs => rw [hchunk]
    rw [List.drop_append]
    simp

/-! ## Decoding what was accumulated -/

/-- The loop of `arq__cobs_decode` ends on this frame. -/
def DecodeEnds (f : RecvFrame) : Prop :=
  f.len - 1 ≤ (cobsDecodeGo (f.len - 1) (f.len - 1) f.buf 0).2

theorem FullFrame.nonzero {f : RecvFrame} {x : List UInt8} (hf : FullFrame f (x ++ [0]))
    (hx : ∀ b ∈ x, b ≠ 0) {i : Nat} (hi : i < x.length) : f.buf i ≠ 0 := by
  have hbytes := hf.bytes
  rw [List.length_append, slice_add] at hbytes
  have hx' : slice f.buf 0 x.length = x := (List.append_inj hbytes (by simp)).1
  have hget := slice_eq_list_iff.mp hx' i hi
  rw [Nat.zero_add] at hget
  rw [hget]
  exact hx _ (List.getElem_mem hi)

theorem decodeEnds_of_full {f : RecvFrame} {x : List UInt8} (hx : ∀ b ∈ x, b ≠ 0)
    (hf : FullFrame f (x ++ [0])) : DecodeEnds f := by
  have hlen : f.len - 1 = x.length := by
    rw [hf.len]
    simp
  rw [DecodeEnds, hlen]
  exact cobsDecodeGo_ends _ _ _ (by omega) fun i _ hi => hf.nonzero hx hi

end NanoArq
