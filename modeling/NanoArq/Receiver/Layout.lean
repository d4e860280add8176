import NanoArq.Lib.Chunks
import NanoArq.Receiver.Accept

/-!
# What a receive window holds

The receive window takes a sequence `M` of messages apart from the order in which their segments
arrive. `SlotHolds` says which segments of a message are in a slot, and `RecvLayout d M got read rw` that
the messages before `read` have been handed over, and that message `k` of the `cap` messages from there on
lies in slot `k % cap` with the segments `got k`.

* `recvWndFrame_layout`: a frame of one of these messages adds its segment.
* `recvWndRecv_layout`: a read hands over what the complete messages in front hold.
-/

namespace NanoArq

open Lib

/-! ## Dimensions -/

/-- The dimensions of a receive window. -/
structure RecvDims where
  cap : Nat
  segs : Nat
  segLen : Nat
  cap_pos : 0 < cap
  cap_le : cap ≤ 2048
  cap_dvd : cap ∣ seqSpace
  segs_pos : 0 < segs
  segLen_pos : 0 < segLen
  fits : segs * segLen < 65536

def RecvDims.msgLen (d : RecvDims) : Nat := d.segs * d.segLen

/-- The ACK vector of an empty slot. -/
def RecvDims.full (d : RecvDims) : Nat := ackVecOf d.segs

/-- The number of segments of a message. -/
def RecvDims.segsOf (d : RecvDims) (xs : List UInt8) : Nat := segCount d.segLen xs.length

/-- A message that the window can take. -/
structure MsgFits (d : RecvDims) (xs : List UInt8) : Prop where
  pos : 0 < xs.length
  le : xs.length ≤ d.msgLen
  segs : d.segsOf xs ≤ 12

/-! ## One slot -/

/-- The slot holds the segments `got` of the message `xs`. -/
structure SlotHolds (d : RecvDims) (buf : Buf) (slot : Nat) (m : Msg) (xs : List UInt8)
    (got : Nat → Prop) : Prop where
  vec : ∀ j, m.curAckVec.testBit j = true ↔ got j
  lt : ∀ j, got j → j < d.segsOf xs
  len : m.len = chunkSum d.segLen xs.length m.curAckVec (d.segsOf xs)
  full : m.curAckVec ≠ 0 → m.fullAckVec = ackVecOf (d.segsOf xs)
  empty : m.curAckVec = 0 → m = msgEmpty d.full
  bytes : ∀ x (h : x < xs.length), got (x / d.segLen) → buf (d.msgLen * slot + x) = xs[x]

section

variable {d : RecvDims} {buf : Buf} {slot : Nat} {m : Msg} {xs : List UInt8} {got : Nat → Prop}

theorem SlotHolds.bit_lt (h : SlotHolds d buf slot m xs got) {j : Nat}
    (hj : m.curAckVec.testBit j = true) : j < d.segsOf xs := h.lt j ((h.vec j).mp hj)

theorem MsgFits.segs_pos (hxs : MsgFits d xs) : 0 < d.segsOf xs := by
  refine (lt_segCount d.segLen_pos).mpr ?_
  have := hxs.pos
  omega

/-- The vectors are equal when the message is complete. -/
theorem SlotHolds.complete (h : SlotHolds d buf slot m xs got) (hxs : MsgFits d xs) :
    m.curAckVec = m.fullAckVec ↔ ∀ j, j < d.segsOf xs → got j := by
  by_cases hzero : m.curAckVec = 0
  · refine iff_of_false ?_ ?_
    · rw [h.empty hzero]
      exact (ackVecOf_ne_zero d.segs_pos).symm
    · intro hall
      have hbit := (h.vec 0).mpr (hall 0 hxs.segs_pos)
      rw [hzero, Nat.zero_testBit] at hbit
      cases hbit
  · rw [h.full hzero, ackVecOf_eq hxs.segs, eq_ones_iff fun j => h.bit_lt]
    simp only [h.vec]

theorem SlotHolds.len_complete (h : SlotHolds d buf slot m xs got)
    (hall : ∀ j, j < d.segsOf xs → got j) : m.len = xs.length := by
  have hle : xs.length ≤ d.segsOf xs * d.segLen := (segCount_le d.segLen_pos).mp le_rfl
  rw [h.len, chunkSum_all fun j hj => (h.vec j).mpr (hall j hj)]
  omega

theorem SlotHolds.none (d : RecvDims) (buf : Buf) (slot : Nat) (xs : List UInt8)
    (hgot : ∀ j, ¬ got j) : SlotHolds d buf slot (msgEmpty d.full) xs got where
  vec j := by simp [msgEmpty, hgot j]
  lt j hj := absurd hj (hgot j)
  len := (chunkSum_zero _ _ _).symm
  full hne := absurd rfl hne
  empty _ := rfl
  bytes _ _ hj := absurd hj (hgot _)

theorem SlotHolds.congr (h : SlotHolds d buf slot m xs got) {buf' : Buf} {got' : Nat → Prop}
    (hgot : ∀ j, got' j ↔ got j)
    (hbuf : ∀ x, x < xs.length → buf' (d.msgLen * slot + x) = buf (d.msgLen * slot + x)) :
    SlotHolds d buf' slot m xs got' where
  vec j := (h.vec j).trans (hgot j).symm
  lt j hj := h.lt j ((hgot j).mp hj)
  len := h.len
  full := h.full
  empty := h.empty
  bytes x hx hj := (hbuf x hx).trans (h.bytes x hx ((hgot _).mp hj))

/-- What `arq__recv_wnd_frame` writes to a slot for a segment that is not there yet. -/
theorem SlotHolds.store (h : SlotHolds d buf slot m xs got) (hxs : MsgFits d xs) {j : Nat}
    (hj : j < d.segsOf xs) (hnew : ¬ got j) :
    SlotHolds d (memcpy buf (d.msgLen * slot + d.segLen * j) (chunk d.segLen xs j)) slot
      { fullAckVec := ackVecOf (d.segsOf xs)
        curAckVec := u16 (m.curAckVec ||| 2 ^ j)
        len := u16 (m.len + (chunk d.segLen xs j).length) } xs (fun i => got i ∨ i = j) := by
  have hbits : ∀ i, (m.curAckVec ||| 2 ^ j).testBit i = true ↔ got i ∨ i = j := by
    intro i
    rw [Nat.testBit_or, Bool.or_eq_true, h.vec i, Nat.testBit_two_pow, decide_eq_true_eq]
    exact or_congr_right eq_comm
  have hlt : ∀ i, got i ∨ i = j → i < d.segsOf xs := by
    rintro i (hi | rfl)
    · exact h.lt i hi
    · exact hj
  have hvec : u16 (m.curAckVec ||| 2 ^ j) = m.curAckVec ||| 2 ^ j := by
    have hbound := @lt_two_pow_of_bits (m.curAckVec ||| 2 ^ j) 12 fun i hi =>
      Nat.lt_of_lt_of_le (hlt i ((hbits i).mp hi)) hxs.segs
    exact u16_of_lt (Nat.lt_of_lt_of_le hbound (by decide))
  have hbit : m.curAckVec.testBit j = false :=
    Bool.eq_false_iff.mpr fun hb => hnew ((h.vec j).mp hb)
  have hsum := @chunkSum_set d.segLen xs.length m.curAckVec (d.segsOf xs) j hj hbit
  have hlen : u16 (m.len + (chunk d.segLen xs j).length) =
      chunkSum d.segLen xs.length (m.curAckVec ||| 2 ^ j) (d.segsOf xs) := by
    have hle := chunkSum_le d.segLen xs.length (m.curAckVec ||| 2 ^ j) (d.segsOf xs)
    have hfits := d.fits
    have hmsg : xs.length ≤ d.segs * d.segLen := hxs.le
    rw [hsum, length_chunk, ← h.len] at *
    exact u16_of_lt (by omega)
  rw [hvec, hlen]
  refine ⟨hbits, hlt, rfl, fun _ => rfl, ?_, ?_⟩
  · intro hzero
    have hone := (hbits j).mpr (Or.inr rfl)
    dsimp only at hzero
    rw [hzero, Nat.zero_testBit] at hone
    cases hone
  · intro x hx hgot
    have hdiv := Nat.div_add_mod x d.segLen
    have hmod := Nat.mod_lt x d.segLen_pos
    have hchunk := length_chunk d.segLen xs j
    unfold chunkLen at hchunk
    by_cases hxj : x / d.segLen = j
    · rw [← hxj] at hchunk ⊢
      rw [show d.msgLen * slot + x = d.msgLen * slot + d.segLen * (x / d.segLen) + x % d.segLen by omega,
        memcpy_add _ _ (by rw [hchunk, Nat.mul_comm]; omega)]
      simp only [chunk, List.getElem_take, List.getElem_drop]
      congr 1
      rw [Nat.mul_comm]
      exact hdiv
    · rw [← h.bytes x hx (hgot.resolve_right hxj)]
      rcases Nat.lt_or_ge (x / d.segLen) j with hlt' | hge
      · have := Nat.mul_le_mul_left d.segLen (show x / d.segLen + 1 ≤ j from hlt')
        rw [Nat.mul_add, Nat.mul_one] at this
        exact memcpy_of_lt _ _ (by omega)
      · have := Nat.mul_le_mul_left d.segLen (show j + 1 ≤ x / d.segLen by omega)
        rw [Nat.mul_add, Nat.mul_one] at this
        exact memcpy_of_ge _ _ (by omega)

end

/-! ## The window -/

/-- All segments of message `k` are there. -/
def Complete (d : RecvDims) (M : Nat → List UInt8) (got : Nat → Nat → Prop) (k : Nat) : Prop :=
  ∀ j, j < d.segsOf (M k) → got k j

structure RecvLayout (d : RecvDims) (M : Nat → List UInt8) (got : Nat → Nat → Prop) (read : Nat)
    (rw : RecvWnd) : Prop where
  dims : WndDims d.cap d.msgLen d.segLen rw.w
  slide_le : rw.slide ≤ read
  slide_size : rw.slide ≤ rw.w.size
  size_le : rw.w.size ≤ d.cap
  seq : rw.w.seq = (read - rw.slide) % seqSpace
  copySeq : rw.copySeq = read % seqSpace
  slot : ∀ k, read ≤ k → k < read + d.cap →
    SlotHolds d rw.w.buf (k % d.cap) (rw.w.msg (k % d.cap)) (M k) (got k)
  front : ∀ k j, got k j → k < read - rw.slide + rw.w.size
  done : ∀ k, k < read → Complete d M got k
  ofs : rw.copyOfs = 0 ∨ Complete d M got read ∧ rw.copyOfs < (M read).length

section

variable {d : RecvDims} {M : Nat → List UInt8} {got : Nat → Nat → Prop} {read k j : Nat}
  {rw rw' : RecvWnd}

theorem RecvLayout.cap_eq (h : RecvLayout d M got read rw) : rw.w.cap = d.cap := by
  have := d.cap_le
  exact h.dims.cap_eq.trans (u16_of_lt (by omega))

theorem RecvLayout.msgLen_eq (h : RecvLayout d M got read rw) : rw.w.msgLen = d.msgLen :=
  h.dims.msgLen_eq.trans (u16_of_lt d.fits)

theorem RecvLayout.segLen_eq (h : RecvLayout d M got read rw) : rw.w.segLen = d.segLen := by
  have hle : d.segLen ≤ d.segs * d.segLen := Nat.le_mul_of_pos_left _ d.segs_pos
  have := d.fits
  exact h.dims.segLen_eq.trans (u16_of_lt (by omega))

theorem RecvLayout.full_eq (h : RecvLayout d M got read rw) : rw.w.fullAckVec = d.full := by
  rw [h.dims.full_eq, RecvDims.msgLen, Nat.mul_div_cancel _ d.segLen_pos]
  rfl

/-- Message `k` has the slot of its number. -/
theorem RecvLayout.slot_eq (h : RecvLayout d M got read rw) (k : Nat) :
    k % seqSpace % rw.w.cap = k % d.cap := by
  rw [h.cap_eq, Nat.mod_mod_of_dvd _ d.cap_dvd]

/-- The flags and timers do not matter. -/
theorem RecvLayout.congr (h : RecvLayout d M got read rw) (hw : rw'.w = rw.w)
    (hcopySeq : rw'.copySeq = rw.copySeq) (hcopyOfs : rw'.copyOfs = rw.copyOfs)
    (hslide : rw'.slide = rw.slide) : RecvLayout d M got read rw' := by
  obtain ⟨h1, h2, h3, h4, h5, h6, h7, h8, h9, h10⟩ := h
  exact ⟨by rwa [hw], by rwa [hslide], by rwa [hslide, hw], by rwa [hw], by rwa [hw, hslide],
    by rwa [hcopySeq], by rwa [hw], by rwa [hslide, hw], h9, by rwa [hcopyOfs]⟩

/-- Making room for a message of the window. -/
theorem RecvLayout.make_room (h : RecvLayout d M got read rw) (hlo : read ≤ k)
    (hhi : k < read + d.cap) (hdist : k - (read - rw.slide) < 4095) :
    ∃ rw', recvWndSlide rw (k % seqSpace) = some rw' ∧ RecvLayout d M got read rw' ∧
      k < read - rw'.slide + rw'.w.size ∧ rw'.ack = rw.ack := by
  have hcap := h.cap_eq
  have hcapLe := d.cap_le
  have hslide := h.slide_le
  have hss := h.slide_size
  have hsize := h.size_le
  have hseqLt : rw.w.seq < seqSpace := by
    rw [h.seq]
    exact Nat.mod_lt _ (by decide)
  have hindex : wndIndex rw.w (k % seqSpace) = k - (read - rw.slide) := by
    unfold wndIndex
    rw [h.seq]
    unfold seqSpace
    omega
  have hnew : recvNewSize rw (k % seqSpace) = k - (read - rw.slide) + 1 := by
    rw [recvNewSize_eq hseqLt (Nat.mod_lt _ (by decide)), hindex]
    exact Nat.mod_eq_of_lt (by unfold seqSpace; omega)
  unfold recvWndSlide
  dsimp only
  rw [hnew, hcap]
  by_cases hbig : k - (read - rw.slide) + 1 > d.cap
  · have hsub : sub32 (k - (read - rw.slide) + 1) rw.slide = k - read + 1 := by
      rw [sub32_of_le (by omega)]
      omega
    rw [if_pos hbig, hsub, if_neg (by omega), u16_of_lt (by omega)]
    refine ⟨_, rfl, ⟨h.dims.congr hcap.symm rfl rfl rfl, Nat.zero_le _, Nat.zero_le _, ?_, ?_, h.copySeq,
      h.slot, ?_, h.done, h.ofs⟩, ?_, rfl⟩
    · dsimp only
      omega
    · dsimp only
      rw [h.seq, Nat.mod_add_mod]
      congr 1
      omega
    · intro k' j' hgot
      have := h.front k' j' hgot
      dsimp only
      omega
    · dsimp only
      omega
  · rw [if_neg hbig, u16_of_lt (by omega)]
    refine ⟨_, rfl, ⟨h.dims.congr hcap.symm rfl rfl rfl, h.slide_le, ?_, ?_, h.seq, h.copySeq,
      h.slot, ?_, h.done, h.ofs⟩, ?_, rfl⟩
    · dsimp only
      omega
    · dsimp only
      omega
    · intro k' j' hgot
      have := h.front k' j' hgot
      dsimp only
      omega
    · dsimp only
      omega

/-- The places of two messages of the window do not overlap. -/
theorem place_disjoint {k' x : Nat} (hne : k % d.cap ≠ k' % d.cap) (hx : x < d.msgLen)
    {seg n : Nat} (hn : d.segLen * seg + n ≤ d.msgLen) :
    d.msgLen * (k' % d.cap) + x < d.msgLen * (k % d.cap) + d.segLen * seg ∨
      d.msgLen * (k % d.cap) + d.segLen * seg + n ≤ d.msgLen * (k' % d.cap) + x := by
  rcases Nat.lt_or_gt_of_ne hne with hlt | hgt
  · have := Nat.mul_le_mul_left d.msgLen (show k % d.cap + 1 ≤ k' % d.cap from hlt)
    rw [Nat.mul_add, Nat.mul_one] at this
    omega
  · have := Nat.mul_le_mul_left d.msgLen (show k' % d.cap + 1 ≤ k % d.cap from hgt)
    rw [Nat.mul_add, Nat.mul_one] at this
    omega

/-- The segment `j` of message `k` is received, too. -/
def addSegment (got : Nat → Nat → Prop) (k j : Nat) : Nat → Nat → Prop :=
  fun k' j' => got k' j' ∨ k' = k ∧ j' = j

theorem RecvLayout.of_got (h : RecvLayout d M got read rw) {got' : Nat → Nat → Prop}
    (hgot : ∀ k j, got' k j ↔ got k j) : RecvLayout d M got' read rw := by
  have : got' = got := by
    funext k j
    exact propext (hgot k j)
  rwa [this]

/-- Storing a segment in the slot of its message, or flagging the ACK of one that is there. -/
theorem RecvLayout.store (h : RecvLayout d M got read rw) (hM : ∀ k, MsgFits d (M k)) (hlo : read ≤ k)
    (hhi : k < read + d.cap) (hfront : k < read - rw.slide + rw.w.size) (hj : j < d.segsOf (M k))
    (interSegAck : Nat) :
    RecvLayout d M (addSegment got k j) read (recvWndStore rw (k % seqSpace) j (d.segsOf (M k))
      (chunk d.segLen (M k) j) interSegAck).1 := by
  have hslot := h.slot k hlo hhi
  have hbit := hslot.vec j
  unfold recvWndStore
  dsimp only
  rw [h.slot_eq]
  by_cases hgot : got k j
  · rw [if_pos (hbit.mpr hgot)]
    refine (h.of_got ?_).congr rfl rfl rfl rfl
    intro k' j'
    refine or_iff_left_of_imp ?_
    rintro ⟨rfl, rfl⟩
    exact hgot
  · rw [if_neg (mt hbit.mp hgot)]
    have hofs : (wndSeg rw.w (k % seqSpace) j).1 = d.msgLen * (k % d.cap) + d.segLen * j := by
      rw [wndSeg, h.msgLen_eq, h.segLen_eq, h.slot_eq]
    rw [hofs]
    have hnew := hslot.store (hM k) hj hgot
    have hchunk : d.segLen * j + (chunk d.segLen (M k) j).length ≤ d.msgLen := by
      have hle := (hM k).le
      have hstart := (lt_segCount d.segLen_pos).mp hj
      rw [length_chunk, chunkLen, Nat.mul_comm]
      omega
    have hstored : RecvLayout d M (addSegment got k j) read { rw with w := { rw.w with
        buf := memcpy rw.w.buf (d.msgLen * (k % d.cap) + d.segLen * j) (chunk d.segLen (M k) j)
        msg := Function.update rw.w.msg (k % d.cap)
          { fullAckVec := ackVecOf (d.segsOf (M k))
            curAckVec := u16 ((rw.w.msg (k % d.cap)).curAckVec ||| 2 ^ j)
            len := u16 ((rw.w.msg (k % d.cap)).len + (chunk d.segLen (M k) j).length) } } } := by
      refine ⟨h.dims.congr rfl rfl rfl rfl, h.slide_le, h.slide_size, h.size_le, h.seq, h.copySeq, ?_,
        ?_, fun k' hk' j' hj' => Or.inl (h.done k' hk' j' hj'), ?_⟩
      · intro k' hlo' hhi'
        dsimp only
        by_cases hkk : k' = k
        · subst hkk
          rw [Function.update_self]
          refine hnew.congr ?_ (fun _ _ => rfl)
          intro j'
          simp only [addSegment, true_and]
        · have hne : k % d.cap ≠ k' % d.cap := by
            intro heq
            rcases Nat.le_total k k' with hle | hle
            · exact hkk (ring_inj_abs hle (by omega) heq).symm
            · exact hkk (ring_inj_abs hle (by omega) heq.symm)
          rw [Function.update_of_ne (Ne.symm hne)]
          refine (h.slot k' hlo' hhi').congr ?_ ?_
          · intro j'
            simp only [addSegment, hkk, false_and, or_false]
          · intro x hx
            have hle := (hM k').le
            rcases place_disjoint hne (show x < d.msgLen by omega) hchunk with hbelow | habove
            · exact memcpy_of_lt _ _ hbelow
            · exact memcpy_of_ge _ _ habove
      · rintro k' j' (hk' | ⟨rfl, rfl⟩)
        · exact h.front k' j' hk'
        · exact hfront
      · refine h.ofs.imp_right ?_
        rintro ⟨hcomplete, hlt⟩
        exact ⟨fun j' hj' => Or.inl (hcomplete j' hj'), hlt⟩
    split
    · exact hstored.congr rfl rfl rfl rfl
    · exact hstored.congr rfl rfl rfl rfl

/-- A frame of a message of the window adds its segment. -/
theorem recvWndFrame_layout (h : RecvLayout d M got read rw) (hM : ∀ k, MsgFits d (M k))
    (hlo : read ≤ k) (hhi : k < read + d.cap) (hdist : k - (read - rw.slide) < 4095)
    (hj : j < d.segsOf (M k)) (interSegAck : Nat) :
    RecvLayout d M (addSegment got k j) read (recvWndFrame rw (k % seqSpace) j (d.segsOf (M k))
      (chunk d.segLen (M k) j) interSegAck).1 := by
  obtain ⟨rw', hslide, hroom, hfront, -⟩ := h.make_room hlo hhi hdist
  rw [recvWndFrame, hslide]
  exact hroom.store hM hlo hhi hfront hj interSegAck

/-! ## Reading -/

/-- The first slot that `arq__recv_wnd_recv` looks at. -/
theorem RecvLayout.first (h : RecvLayout d M got read rw) :
    SlotHolds d rw.w.buf (read % d.cap) (rw.w.msg (read % d.cap)) (M read) (got read) := by
  have := d.cap_pos
  exact h.slot read le_rfl (by omega)

theorem RecvLayout.ofs_le (h : RecvLayout d M got read rw) : rw.copyOfs ≤ (M read).length := by
  rcases h.ofs with h0 | ⟨-, hlt⟩
  · omega
  · omega

/-- The bytes of a complete message in its slot. -/
theorem SlotHolds.slice_eq {buf : Buf} {slot : Nat} {m : Msg} {xs : List UInt8} {got : Nat → Prop}
    (h : SlotHolds d buf slot m xs got) (hall : ∀ j, j < d.segsOf xs → got j) {ofs n : Nat}
    (hn : ofs + n ≤ xs.length) :
    slice buf (slot * d.msgLen + ofs) n = (xs.drop ofs).take n := by
  apply List.ext_getElem
  · rw [length_slice, List.length_take, List.length_drop]
    omega
  · intro y h₁ _
    rw [length_slice] at h₁
    rw [getElem_slice, List.getElem_take, List.getElem_drop, Nat.mul_comm, Nat.add_assoc]
    refine h.bytes (ofs + y) (by omega) (hall _ ?_)
    rw [RecvDims.segsOf, lt_segCount d.segLen_pos]
    have := Nat.div_mul_le_self (ofs + y) d.segLen
    omega

/-- A part of the first message is handed over. -/
theorem RecvLayout.hand_part (h : RecvLayout d M got read rw) (hM : ∀ k, MsgFits d (M k))
    (hall : Complete d M got read) {n : Nat} (hn : rw.copyOfs + n < (M read).length) :
    RecvLayout d M got read { rw with copyOfs := u16 (rw.copyOfs + n) } ∧
      u16 (rw.copyOfs + n) = rw.copyOfs + n := by
  have hle := (hM read).le
  have hfits := d.fits
  unfold RecvDims.msgLen at hle
  have hofs : u16 (rw.copyOfs + n) = rw.copyOfs + n := u16_of_lt (by omega)
  refine ⟨⟨h.dims, h.slide_le, h.slide_size, h.size_le, h.seq, h.copySeq, h.slot, h.front, h.done,
    Or.inr ⟨hall, ?_⟩⟩, hofs⟩
  dsimp only
  omega

/-- The rest of the first message is handed over, and its slot is emptied. -/
theorem RecvLayout.hand_over (h : RecvLayout d M got read rw) (hM : ∀ k, MsgFits d (M k))
    (hall : Complete d M got read) :
    RecvLayout d M got (read + 1)
      { rw with
        w := { rw.w with
          msg := Function.update rw.w.msg (read % d.cap) (msgEmpty rw.w.fullAckVec) }
        copyOfs := 0
        copySeq := (rw.copySeq + 1) % seqSpace
        slide := u16 (rw.slide + 1) } := by
  have hslide := h.slide_le
  have hcapLe := d.cap_le
  have hcapPos := d.cap_pos
  have hsize := h.size_le
  have hfront := h.front read 0 (hall 0 (hM read).segs_pos)
  have hsucc : u16 (rw.slide + 1) = rw.slide + 1 := u16_of_lt (by omega)
  rw [hsucc, h.full_eq]
  refine ⟨h.dims.congr rfl rfl rfl rfl, ?_, ?_, hsize, ?_, ?_, ?_, ?_, ?_, Or.inl rfl⟩
  · dsimp only
    omega
  · dsimp only
    omega
  · dsimp only
    rw [h.seq]
    congr 1
    omega
  · dsimp only
    rw [h.copySeq, Nat.mod_add_mod]
  · intro k hlo hhi
    dsimp only
    by_cases hk : k = read + d.cap
    · rw [hk, Nat.add_mod_right, Function.update_self]
      refine SlotHolds.none d _ _ _ ?_
      intro j hj
      have := h.front _ j hj
      omega
    · have hne : k % d.cap ≠ read % d.cap := by
        intro heq
        have := ring_inj_abs (show read ≤ k by omega) (by omega) heq.symm
        omega
      rw [Function.update_of_ne hne]
      exact h.slot k (by omega) (by omega)
  · intro k j hj
    have := h.front k j hj
    dsimp only
    omega
  · intro k hk j hj
    rcases Nat.lt_or_eq_of_le (Nat.lt_succ_iff.mp hk) with hlt | rfl
    · exact h.done k hlt j hj
    · exact hall j hj

/-- The position in the stream of messages up to which everything was handed over. -/
def readPos (M : Nat → List UInt8) (read : Nat) (rw : RecvWnd) : Nat :=
  (concat M read).length + rw.copyOfs

/-- The messages before `e` are complete, message `e` is not. -/
structure LeadingRun (d : RecvDims) (M : Nat → List UInt8) (got : Nat → Nat → Prop) (e : Nat) :
    Prop where
  complete : ∀ k, k < e → Complete d M got k
  ends : ¬ Complete d M got e

theorem RecvLayout.read_le (h : RecvLayout d M got read rw) {e : Nat} (he : LeadingRun d M got e) :
    read ≤ e := by
  by_contra hlt
  exact he.ends (h.done e (by omega))

/-- Nothing is left to read when the first message is not complete. -/
theorem RecvLayout.at_end (h : RecvLayout d M got read rw) {e : Nat} (he : LeadingRun d M got e)
    (hread : ¬ Complete d M got read) : (concat M e).drop (readPos M read rw) = [] := by
  obtain rfl : read = e := by
    have hle := h.read_le he
    by_contra hne
    exact hread (he.complete read (by omega))
  unfold readPos
  rw [h.ofs.resolve_right fun hc => hread hc.1, Nat.add_zero]
  exact List.drop_length

theorem RecvLayout.pos_le (h : RecvLayout d M got read rw) {e : Nat} (he : LeadingRun d M got e) :
    readPos M read rw ≤ (concat M e).length := by
  have hofs := h.ofs_le
  unfold readPos
  rcases Nat.lt_or_eq_of_le (h.read_le he) with hlt | rfl
  · have hmono := concat_length_le M (show read + 1 ≤ e from hlt)
    rw [concat_length_succ] at hmono
    omega
  · rw [h.ofs.resolve_right fun hc => he.ends hc.1]
    omega

theorem recvWndRecvGo_layout (hM : ∀ k, MsgFits d (M k)) {e : Nat} (he : LeadingRun d M got e) :
    ∀ (n i base read : Nat) (rw : RecvWnd) (dstMax : Nat), RecvLayout d M got read rw →
      (base + i) % d.cap = read % d.cap → e ≤ read + n →
      ∃ read', RecvLayout d M got read' (recvWndRecvGo base n i rw dstMax).1 ∧
        (recvWndRecvGo base n i rw dstMax).2 = ((concat M e).drop (readPos M read rw)).take dstMax ∧
        readPos M read' (recvWndRecvGo base n i rw dstMax).1 =
          readPos M read rw + (recvWndRecvGo base n i rw dstMax).2.length := by
  intro n
  induction n with
  | zero =>
    intro i base read rw dstMax h _ hle
    have hend : read = e := Nat.le_antisymm (h.read_le he) hle
    refine ⟨read, h, ?_, rfl⟩
    rw [h.at_end he (hend ▸ he.ends), List.take_nil]
    rfl
  | succ n ih =>
    intro i base read rw dstMax h hplace hle
    rw [recvWndRecvGo]
    by_cases hdst : dstMax = 0
    · rw [if_pos hdst, hdst, List.take_zero]
      exact ⟨read, h, rfl, rfl⟩
    rw [if_neg hdst]
    dsimp only
    have hidx : (base + i) % rw.w.cap = read % d.cap := by rw [h.cap_eq, hplace]
    rw [hidx]
    have hfirst := h.first
    by_cases hall : Complete d M got read
    · have hlen := hfirst.len_complete hall
      have hpos := (hM read).pos
      have hofs := h.ofs_le
      have hread : read < e := by
        by_contra hge
        have hend : read = e := Nat.le_antisymm (h.read_le he) (by omega)
        exact he.ends (hend ▸ hall)
      have hrest := concat_drop hread hofs
      have hslice : ∀ n, rw.copyOfs + n ≤ (M read).length →
          slice rw.w.buf (read % d.cap * rw.w.msgLen + rw.copyOfs) n =
            ((M read).drop rw.copyOfs).take n := by
        intro n hn
        rw [h.msgLen_eq]
        exact hfirst.slice_eq hall hn
      rw [hlen, sub32_of_le hofs, if_neg (by omega),
        if_neg (not_not_intro ((hfirst.complete (hM read)).mpr hall)), hslice _ (by omega)]
      by_cases hpart : rw.copyOfs + min dstMax ((M read).length - rw.copyOfs) < (M read).length
      · rw [if_pos hpart]
        obtain ⟨hlayout, hadd⟩ := h.hand_part hM hall hpart
        refine ⟨read, hlayout, ?_, ?_⟩
        · dsimp only
          rw [readPos, hrest, List.take_append_of_le_length]
          · congr 1
            omega
          · rw [List.length_drop]
            omega
        · dsimp only
          unfold readPos
          dsimp only
          rw [hadd, List.length_take, List.length_drop]
          omega
      · rw [if_neg hpart]
        dsimp only
        obtain ⟨read', hlayout, hbytes, hpos'⟩ := ih (i + 1) base (read + 1) _
          (dstMax - min dstMax ((M read).length - rw.copyOfs)) (h.hand_over hM hall)
          (by rw [← Nat.add_assoc, Nat.add_mod, hplace, ← Nat.add_mod]) (by omega)
        have hshort : ∀ n, (M read).length ≤ rw.copyOfs + n →
            ((M read).drop rw.copyOfs).take n = (M read).drop rw.copyOfs := by
          intro n hn
          apply List.take_of_length_le
          rw [List.length_drop]
          omega
        have hmin : min dstMax ((M read).length - rw.copyOfs) = (M read).length - rw.copyOfs := by
          omega
        refine ⟨read', hlayout, ?_, ?_⟩
        · rw [hshort _ (by omega), hbytes]
          unfold readPos
          dsimp only
          rw [Nat.add_zero, hrest, List.take_append, List.length_drop, hshort _ (by omega), hmin]
        · rw [hshort _ (by omega), hpos', List.length_append]
          unfold readPos
          dsimp only
          rw [concat_length_succ, List.length_drop]
          omega
    · have hstop : ∀ r : RecvWnd × List UInt8,
          (if (rw.w.msg (read % d.cap)).len = 0 then (rw, [])
            else if (rw.w.msg (read % d.cap)).curAckVec ≠ (rw.w.msg (read % d.cap)).fullAckVec then
              (rw, ([] : List UInt8))
            else r) = (rw, []) := by
        intro r
        split
        · rfl
        · rw [if_pos (mt (hfirst.complete (hM read)).mp hall)]
      rw [hstop, h.at_end he hall, List.take_nil]
      exact ⟨read, h, rfl, rfl⟩

/-- A read hands over what the complete messages in front hold, up to the length asked for. -/
theorem recvWndRecv_layout (h : RecvLayout d M got read rw) (hM : ∀ k, MsgFits d (M k)) {e : Nat}
    (he : LeadingRun d M got e) (dstMax : Nat) :
    ∃ read', RecvLayout d M got read' (recvWndRecv rw dstMax).1 ∧
      (recvWndRecv rw dstMax).2 = ((concat M e).drop (readPos M read rw)).take dstMax ∧
      readPos M read' (recvWndRecv rw dstMax).1 =
        readPos M read rw + (recvWndRecv rw dstMax).2.length := by
  refine recvWndRecvGo_layout hM he rw.w.size 0 rw.copySeq read rw dstMax h ?_ ?_
  · rw [Nat.add_zero, h.copySeq, Nat.mod_mod_of_dvd _ d.cap_dvd]
  · by_contra hlt
    have hlast := he.complete (e - 1) (by omega) 0 (hM _).segs_pos
    have := h.front _ _ hlast
    omega

/-- Only the messages of which something was received matter. -/
theorem complete_congr {M' : Nat → List UInt8} (hM : ∀ k, MsgFits d (M k)) (hM' : ∀ k, MsgFits d (M' k))
    (hsame : ∀ k j, got k j → M' k = M k) (k : Nat) : Complete d M' got k ↔ Complete d M got k := by
  constructor
  · intro h
    have hk := hsame k 0 (h 0 (hM' k).segs_pos)
    unfold Complete at h ⊢
    rwa [hk] at h
  · intro h
    have hk := hsame k 0 (h 0 (hM k).segs_pos)
    unfold Complete at h ⊢
    rwa [hk]

theorem RecvLayout.of_messages (h : RecvLayout d M got read rw) {M' : Nat → List UInt8}
    (hM : ∀ k, MsgFits d (M k)) (hM' : ∀ k, MsgFits d (M' k)) (hsame : ∀ k j, got k j → M' k = M k) :
    RecvLayout d M' got read rw := by
  have hcomplete := complete_congr hM hM' hsame
  obtain ⟨h1, h2, h3, h4, h5, h6, hslot, h8, hdone, hofs⟩ := h
  refine ⟨h1, h2, h3, h4, h5, h6, ?_, h8, fun k hk => (hcomplete k).mpr (hdone k hk), ?_⟩
  · intro k hlo hhi
    have hholds := hslot k hlo hhi
    by_cases hgot : ∃ j, got k j
    · obtain ⟨j, hj⟩ := hgot
      rw [hsame k j hj]
      exact hholds
    · have hzero : (rw.w.msg (k % d.cap)).curAckVec = 0 := by
        apply Nat.zero_of_testBit_eq_false
        intro j
        exact Bool.eq_false_iff.mpr fun hj => hgot ⟨j, (hholds.vec j).mp hj⟩
      rw [hholds.empty hzero]
      exact .none d _ _ _ fun j hj => hgot ⟨j, hj⟩
  · refine hofs.imp_right ?_
    rintro ⟨hread, hlt⟩
    rw [hsame read 0 (hread 0 (hM read).segs_pos)]
    exact ⟨(hcomplete read).mpr hread, hlt⟩

/-- Some message is the first that is not complete. -/
theorem RecvLayout.leading (h : RecvLayout d M got read rw) (hM : ∀ k, MsgFits d (M k)) :
    ∃ e, LeadingRun d M got e := by
  classical
  have hex : ∃ e, ¬ Complete d M got e := by
    refine ⟨read - rw.slide + rw.w.size, fun hall => ?_⟩
    have := h.front _ _ (hall 0 (hM _).segs_pos)
    omega
  refine ⟨Nat.find hex, ?_, Nat.find_spec hex⟩
  intro k hk
  exact not_not.mp (Nat.find_min hex hk)

/-- A window that was reset has received nothing. -/
theorem recvWndOpen_layout (d : RecvDims) (M : Nat → List UInt8) (seat : RecvWnd) :
    RecvLayout d M (fun _ _ => False) 0 (recvWndOpen seat d.cap d.msgLen d.segLen) := by
  have hcapLe := d.cap_le
  refine ⟨⟨rfl, rfl, rfl, rfl⟩, Nat.zero_le _, Nat.zero_le _, Nat.zero_le _, rfl, rfl, ?_, ?_, ?_,
    Or.inl rfl⟩
  · intro k _ hk
    have hslot : k % d.cap < u16 d.cap := by
      rw [u16_of_lt (by omega)]
      exact Nat.mod_lt _ d.cap_pos
    have hmsg : (recvWndOpen seat d.cap d.msgLen d.segLen).w.msg (k % d.cap) = msgEmpty d.full := by
      have hfull : ackVecOf (d.msgLen / d.segLen) = d.full := by
        rw [RecvDims.msgLen, Nat.mul_div_cancel _ d.segLen_pos]
        rfl
      rw [← hfull]
      exact wndRst_msg _ hslot
    rw [hmsg]
    exact SlotHolds.none d _ _ _ fun _ h => h
  · exact fun _ _ h => h.elim
  · exact fun k hk => absurd hk (Nat.not_lt_zero k)

end

end NanoArq
