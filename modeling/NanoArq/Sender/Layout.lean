import NanoArq.Lib.Ring
import NanoArq.Model.Instance

/-!
# The send window as a queue of bytes

The send window holds the bytes that were accepted and are not yet acknowledged: message
`base + i` of the connection consists of the bytes from `i * L` on, where `L` is the length of a
complete message, and lies in slot `(base + i) % cap`. `SendLayout d w base content` states this
of a window `w`, and that all other slots are empty.

* `sendWndSend_layout`: `arq__send_wnd_send` appends to `content`.
* `sendWndAck_layout`: `arq__send_wnd_ack` drops whole messages from the front of `content`.

The other operations do not touch the fields that `SendLayout` reads.
-/

namespace NanoArq

open Lib

/-! ## Dimensions -/

/-- The dimensions of a message window. -/
structure Dims where
  cap : Nat
  segs : Nat
  segLen : Nat
  cap_pos : 0 < cap
  cap_le : cap ≤ 4096
  cap_dvd : cap ∣ seqSpace
  segs_pos : 0 < segs
  segs_le : segs ≤ 12
  segLen_pos : 0 < segLen
  fits : segs * segLen < 65536

/-- The length of a complete message. -/
def Dims.msgLen (d : Dims) : Nat := d.segs * d.segLen

/-- The ACK vector of a complete message. -/
def Dims.full (d : Dims) : Nat := 2 ^ d.segs - 1

theorem Dims.msgLen_pos (d : Dims) : 0 < d.msgLen := Nat.mul_pos d.segs_pos d.segLen_pos

/-- The window `w` was initialised with the dimensions `d`. -/
structure WndShape (d : Dims) (w : Wnd) : Prop where
  cap : w.cap = d.cap
  msgLen : w.msgLen = d.msgLen
  segLen : w.segLen = d.segLen
  full : w.fullAckVec = d.full

/-! ## Counting segments and messages -/

section

variable {L n i : Nat}

theorem lt_segCount (hL : 0 < L) : i < segCount L n ↔ i * L < n := by
  unfold segCount
  rw [Nat.lt_iff_add_one_le, Nat.le_div_iff_mul_le hL, Nat.add_mul]
  omega

theorem segCount_le (hL : 0 < L) : segCount L n ≤ i ↔ n ≤ i * L := by
  rw [← Nat.not_lt, lt_segCount hL, Nat.not_lt]

theorem segCount_eq (hL : 0 < L) {c : Nat} (h : ∀ i, i < c ↔ i * L < n) : segCount L n = c := by
  apply Nat.le_antisymm
  · rw [segCount_le hL, ← Nat.not_lt, ← h]
    exact lt_irrefl c
  · by_contra hlt
    have := (h (segCount L n)).mp (Nat.not_le.mp hlt)
    rw [← lt_segCount hL] at this
    exact lt_irrefl _ this

theorem segCount_sub (hL : 0 < L) (r : Nat) : segCount L (n - r * L) = segCount L n - r := by
  apply segCount_eq hL
  intro i
  rw [Nat.lt_sub_iff_add_lt, lt_segCount hL, Nat.lt_sub_iff_add_lt, Nat.add_mul]

theorem segCount_mono (L : Nat) {m n : Nat} (h : m ≤ n) : segCount L m ≤ segCount L n :=
  Nat.div_le_div_right (by omega)

theorem segCount_mul (hL : 0 < L) (c : Nat) : segCount L (c * L) = c :=
  segCount_eq hL fun _ => (Nat.mul_lt_mul_right hL).symm

theorem mul_lt_mul_add_iff {c rem : Nat} (h0 : 0 < rem) (hlt : rem < L) :
    i < c + 1 ↔ i * L < c * L + rem := by
  constructor
  · intro hi
    have := Nat.mul_le_mul_right L (Nat.lt_succ_iff.mp hi)
    omega
  · intro hi
    by_contra hge
    have := Nat.mul_le_mul_right L (Nat.not_lt.mp hge)
    rw [Nat.add_mul] at this
    omega

/-- A number of complete messages, and a part of one more. -/
theorem segCount_mul_add (hL : 0 < L) (c : Nat) {rem : Nat} (hlt : rem < L) :
    segCount L (c * L + rem) = c + if rem = 0 then 0 else 1 := by
  apply segCount_eq hL
  intro i
  split
  · rename_i h0
    rw [h0, Nat.add_zero, Nat.add_zero]
    exact (Nat.mul_lt_mul_right hL).symm
  · rename_i h0
    exact mul_lt_mul_add_iff (Nat.pos_of_ne_zero h0) hlt

theorem ackVecOf_eq {c : Nat} (h : c ≤ 12) : ackVecOf c = 2 ^ c - 1 := by
  have := Nat.pow_le_pow_right (show 0 < 2 by omega) h
  exact u16_of_lt (by omega)

end

/-- The ACK vector of a message of `len` bytes. -/
def vecOf (segLen len : Nat) : Nat := ackVecOf (segCount segLen len)

section

variable {d : Dims}

theorem vecOf_eq {len : Nat} (hlen : len ≤ d.msgLen) :
    vecOf d.segLen len = 2 ^ segCount d.segLen len - 1 ∧ segCount d.segLen len ≤ d.segs := by
  have hcount : segCount d.segLen len ≤ d.segs := (segCount_le d.segLen_pos).mpr hlen
  exact ⟨ackVecOf_eq (hcount.trans d.segs_le), hcount⟩

theorem vecOf_mono {len len' : Nat} (h : len ≤ len') (hlen : len' ≤ d.msgLen) :
    vecOf d.segLen len ≤ vecOf d.segLen len' := by
  rw [(vecOf_eq hlen).1, (vecOf_eq (h.trans hlen)).1]
  have := Nat.pow_le_pow_right (show 0 < 2 by omega) (segCount_mono d.segLen h)
  omega

theorem vecOf_le_full {len : Nat} (hlen : len ≤ d.msgLen) : vecOf d.segLen len ≤ d.full := by
  obtain ⟨heq, hle⟩ := vecOf_eq hlen
  have := Nat.pow_le_pow_right (show 0 < 2 by omega) hle
  rw [heq, Dims.full]
  omega

theorem vecOf_pos {len : Nat} (h0 : 0 < len) (hlen : len ≤ d.msgLen) :
    0 < vecOf d.segLen len := by
  have hcount : 0 < segCount d.segLen len := (lt_segCount d.segLen_pos).mpr (by omega)
  have := Nat.pow_le_pow_right (show 0 < 2 by omega) (show 1 ≤ segCount d.segLen len from hcount)
  rw [(vecOf_eq hlen).1]
  omega

end

/-! ## The layout -/

structure SendLayout (d : Dims) (w : Wnd) (base : Nat) (content : List UInt8) : Prop where
  shape : WndShape d w
  seq : w.seq = base % seqSpace
  size : w.size = segCount d.msgLen content.length
  fits : content.length ≤ d.cap * d.msgLen
  len : ∀ i, i < w.size →
    (w.msg ((base + i) % d.cap)).len = min d.msgLen (content.length - i * d.msgLen)
  bytes : ∀ x (h : x < content.length),
    w.buf ((base % d.cap * d.msgLen + x) % (d.cap * d.msgLen)) = content[x]
  idle : ∀ i, w.size ≤ i → i < d.cap → w.msg ((base + i) % d.cap) = msgEmpty d.full

section

variable {d : Dims} {w : Wnd} {base : Nat} {content : List UInt8}

theorem SendLayout.size_le (hl : SendLayout d w base content) : w.size ≤ d.cap := by
  rw [hl.size, segCount_le d.msgLen_pos]
  exact hl.fits

theorem SendLayout.lt_size (hl : SendLayout d w base content) {i : Nat} :
    i < w.size ↔ i * d.msgLen < content.length := by
  rw [hl.size, lt_segCount d.msgLen_pos]

theorem SendLayout.len_bounds (hl : SendLayout d w base content) {i : Nat} (hi : i < w.size) :
    0 < (w.msg ((base + i) % d.cap)).len ∧ (w.msg ((base + i) % d.cap)).len ≤ d.msgLen := by
  have hlt := hl.lt_size.mp hi
  have hL := d.msgLen_pos
  rw [hl.len i hi]
  omega

/-- The bytes of a message in its slot. -/
theorem SendLayout.slice_eq (hl : SendLayout d w base content) {i ofs n : Nat}
    (hofs : ofs + n ≤ d.msgLen) (hlen : i * d.msgLen + ofs + n ≤ content.length) :
    slice w.buf (d.msgLen * ((base + i) % d.cap) + ofs) n =
      (content.drop (i * d.msgLen + ofs)).take n := by
  apply List.ext_getElem
  · rw [length_slice, List.length_take, List.length_drop]
    omega
  · intro y h₁ _
    rw [length_slice] at h₁
    rw [getElem_slice, List.getElem_take, List.getElem_drop,
      ← hl.bytes (i * d.msgLen + ofs + y) (by omega), Nat.add_assoc (i * d.msgLen),
      ring_bytes base i (by omega), Nat.mul_comm, Nat.add_assoc]

/-- The slot of message `base + i`, as the source computes it. -/
theorem SendLayout.slot (hl : SendLayout d w base content) (i : Nat) :
    (w.seq + i) % w.cap = (base + i) % d.cap := by
  rw [hl.seq, hl.shape.cap, ring_mod d.cap_dvd]

/-- The last message begins at `(w.size - 1) * L` and is never longer than `L`. -/
theorem SendLayout.last (hl : SendLayout d w base content) :
    (w.msg ((base + (w.size - 1)) % d.cap)).len = content.length - (w.size - 1) * d.msgLen ∧
      (w.size - 1) * d.msgLen ≤ content.length ∧
      content.length - (w.size - 1) * d.msgLen ≤ d.msgLen := by
  have hcap := d.cap_pos
  rcases Nat.eq_zero_or_pos w.size with h0 | hpos
  · have hnil : ¬ 0 < content.length := by
      have := mt hl.lt_size.mpr (show ¬ 0 < w.size by omega)
      simpa using this
    rw [h0, hl.idle 0 (by omega) hcap]
    simp only [msgEmpty]
    omega
  · obtain ⟨t, ht⟩ : ∃ t, w.size = t + 1 := ⟨w.size - 1, by omega⟩
    have hlo : t * d.msgLen < content.length := hl.lt_size.mp (by omega)
    have hhi : ¬ (t + 1) * d.msgLen < content.length := fun h => by
      have := hl.lt_size.mpr h
      omega
    rw [Nat.add_mul] at hhi
    rw [ht, Nat.add_sub_cancel, hl.len t (by omega)]
    omega

end

/-! ## Sending -/

theorem sendWndFill_spec (sw : SendWnd) (seq n : Nat) :
    (∀ j, (sendWndFill sw seq n).w.msg j =
        if ∃ i < n, (seq + i) % sw.w.cap = j then { sw.w.msg j with len := sw.w.msgLen }
        else sw.w.msg j) ∧
      (∀ j, (sendWndFill sw seq n).rtx j =
        if ∃ i < n, (seq + i) % sw.w.cap = j then 0 else sw.rtx j) ∧
      (sendWndFill sw seq n) =
        { sw with
          w := { sw.w with msg := (sendWndFill sw seq n).w.msg }
          rtx := (sendWndFill sw seq n).rtx } := by
  induction n with
  | zero => simp [sendWndFill]
  | succ n ih =>
    obtain ⟨hmsg, hrtx, hrest⟩ := ih
    have hstep : sendWndFill sw seq (n + 1) =
        { sendWndFill sw seq n with
          rtx := Function.update (sendWndFill sw seq n).rtx ((seq + n) % sw.w.cap) 0
          w := { (sendWndFill sw seq n).w with
            msg := Function.update (sendWndFill sw seq n).w.msg ((seq + n) % sw.w.cap)
              { (sendWndFill sw seq n).w.msg ((seq + n) % sw.w.cap) with
                len := sw.w.msgLen } } } := by
      unfold sendWndFill at hrest ⊢
      rw [List.range_succ, List.foldl_append, hrest]
      rfl
    have hex : ∀ j, (∃ i < n + 1, (seq + i) % sw.w.cap = j) ↔
        (seq + n) % sw.w.cap = j ∨ ∃ i < n, (seq + i) % sw.w.cap = j := by
      intro j
      constructor
      · rintro ⟨i, hi, rfl⟩
        rcases Nat.lt_or_eq_of_le (Nat.lt_succ_iff.mp hi) with h | rfl
        · exact Or.inr ⟨i, h, rfl⟩
        · exact Or.inl rfl
      · rintro (h | ⟨i, hi, h⟩)
        · exact ⟨n, by omega, h⟩
        · exact ⟨i, by omega, h⟩
    refine ⟨?_, ?_, ?_⟩
    · intro j
      rw [hstep]
      simp only [hex]
      by_cases hj : (seq + n) % sw.w.cap = j
      · rw [if_pos (Or.inl hj), ← hj, Function.update_self, hmsg]
        split <;> rfl
      · rw [Function.update_of_ne (Ne.symm hj), hmsg]
        simp only [hj, false_or]
    · intro j
      rw [hstep]
      simp only [hex]
      by_cases hj : (seq + n) % sw.w.cap = j
      · rw [if_pos (Or.inl hj), ← hj, Function.update_self]
      · rw [Function.update_of_ne (Ne.symm hj), hrtx]
        simp only [hj, false_or]
    · rw [hstep, hrest]

/-- What `arq__send_wnd_send` takes: as much as the window has room for. -/
def sendTaken (d : Dims) (content data : List UInt8) : Nat :=
  min data.length (d.cap * d.msgLen - content.length)

section

variable {d : Dims} {sw : SendWnd} {base : Nat} {content : List UInt8}

/-- The window after the call, before its last message is given its length: `t` is the index of
the message to which bytes are appended first, which held `held` bytes before. -/
def sendFilled (d : Dims) (sw : SendWnd) (base t held : Nat) (data : List UInt8) : SendWnd :=
  sendWndFill
    { sw with w := { sw.w with
      buf := ringWrite sw.w.buf (d.cap * d.msgLen) ((base + t) % d.cap * d.msgLen + held) data } }
    (sw.w.seq + t) ((held + data.length) / d.msgLen)

/-- The call in terms of the bytes in the window. -/
theorem sendWndSend_eq (hl : SendLayout d sw.w base content) {data : List UInt8}
    (hdata : data.length ≠ 0) (tiny : Nat) {t held size : Nat} {taken : List UInt8}
    (ht : t = sw.w.size - 1) (hheld : held = content.length - t * d.msgLen)
    (htaken : taken = data.take (sendTaken d content data))
    (hsize : size = segCount d.msgLen (content ++ taken).length) {sw1 : SendWnd}
    (hsw1 : sw1 = sendFilled d sw base t held taken) :
    sendWndSend sw data tiny =
      ({ w :=
          { sw1.w with
            size := size
            msg :=
              if (held + taken.length) % d.msgLen ≠ 0 then
                Function.update sw1.w.msg ((base + (size - 1)) % d.cap)
                  { sw1.w.msg ((base + (size - 1)) % d.cap) with
                    len := (held + taken.length) % d.msgLen }
              else sw1.w.msg }
         rtx :=
          if 0 < (held + taken.length) % d.msgLen ∧ sw.w.size < size then
            Function.update sw1.rtx ((base + (size - 1)) % d.cap) tiny
          else sw1.rtx
         tiny := if 0 < (held + taken.length) % d.msgLen ∧ sw.w.size < size then tiny else sw1.tiny
         tinyOn := decide (0 < (held + taken.length) % d.msgLen) }, taken.length) := by
  obtain ⟨hlast, hlo, hhi⟩ := hl.last
  rw [← ht] at hlast hlo hhi
  have hL := d.msgLen_pos
  have hfits := hl.fits
  have hcapLe := d.cap_le
  have hLle : d.msgLen ≤ 65535 := Nat.le_of_lt_succ d.fits
  have hcapL : d.cap * d.msgLen ≤ 4096 * 65535 := Nat.mul_le_mul hcapLe hLle
  have htakenLen : taken.length = sendTaken d content data := by
    rw [htaken, List.length_take]
    exact Nat.min_eq_left (Nat.min_le_left _ _)
  have hroom : taken.length = min data.length (sub32 (d.cap * d.msgLen) content.length) := by
    rw [htakenLen, sub32_of_le hfits]
    rfl
  have hroom' : taken.length ≤ d.cap * d.msgLen - content.length := by
    rw [htakenLen]
    exact Nat.min_le_right _ _
  have hslot : (sw.w.seq + t) % d.cap = (base + t) % d.cap := by
    rw [← hl.slot, hl.shape.cap]
  have hcur : (base + t) % d.cap * d.msgLen + held ≤ d.cap * d.msgLen := by
    have hlt := Nat.mod_lt (base + t) d.cap_pos
    have := Nat.mul_le_mul_right d.msgLen (show (base + t) % d.cap + 1 ≤ d.cap by omega)
    rw [Nat.add_mul] at this
    omega
  have hsizeLe : size ≤ d.cap := by
    rw [hsize, segCount_le hL, List.length_append]
    omega
  have hsizePos : 0 < size := by
    have := Nat.mul_pos d.cap_pos hL
    rw [hsize, lt_segCount hL, List.length_append, hroom, sub32_of_le hfits]
    omega
  have hcopy : memcpy
      (memcpy sw.w.buf ((base + t) % d.cap * d.msgLen + held)
        (data.take (min taken.length
          (sub32 (d.cap * d.msgLen) ((base + t) % d.cap * d.msgLen + held))))) 0
      ((data.drop (min taken.length
          (sub32 (d.cap * d.msgLen) ((base + t) % d.cap * d.msgLen + held)))).take
        (taken.length - min taken.length
          (sub32 (d.cap * d.msgLen) ((base + t) % d.cap * d.msgLen + held)))) =
      ringWrite sw.w.buf (d.cap * d.msgLen) ((base + t) % d.cap * d.msgLen + held) taken := by
    rw [sub32_of_le hcur, ringWrite]
    generalize d.cap * d.msgLen - ((base + t) % d.cap * d.msgLen + held) = room
    have htaken' : taken = data.take taken.length := by rw [htakenLen, ← htaken]
    rcases Nat.le_total taken.length room with hle | hle
    · rw [Nat.min_eq_left hle, Nat.sub_self, List.take_zero, List.take_of_length_le hle,
        List.drop_of_length_le hle, ← htaken']
    · rw [Nat.min_eq_right hle]
      conv_rhs => rw [htaken']
      rw [List.take_take, Nat.min_eq_left hle, List.drop_take]
  have hrem : held + taken.length - (held + taken.length) / d.msgLen * d.msgLen =
      (held + taken.length) % d.msgLen := by
    have := Nat.div_add_mod (held + taken.length) d.msgLen
    rw [Nat.mul_comm] at this
    omega
  have hremLt := Nat.mod_lt (held + taken.length) hL
  have hsize' : u16 ((content.length + taken.length + d.msgLen - 1) / d.msgLen) = size := by
    have : (content.length + taken.length + d.msgLen - 1) / d.msgLen = size := by
      rw [hsize, List.length_append]
      rfl
    rw [this]
    exact u16_of_lt (by omega)
  have hlastSlot : sub32 (sw.w.seq + size) 1 % d.cap = (base + (size - 1)) % d.cap := by
    rw [sub32_of_le (by omega), ← hl.slot, hl.shape.cap]
    congr 1
    omega
  have hstart : t * d.msgLen + held = content.length := by omega
  subst hsw1
  unfold sendWndSend sendFilled
  rw [if_neg hdata]
  simp only [subSat_eq, ← ht, hl.shape.cap, hl.shape.msgLen, hslot, hlast, ← hheld, hstart,
    ← hroom, hcopy, hrem, hsize', hlastSlot, u16_of_lt (Nat.lt_of_lt_of_le hremLt (by omega)),
    gt_iff_lt, decide_eq_true_eq]
  by_cases htiny : 0 < (held + taken.length) % d.msgLen ∧ sw.w.size < size
  · simp only [htiny, and_self, if_true]
  · simp only [htiny, if_false]

/-- What the call makes of each message: complete ones have length `L` and no retransmission
pending, everything else is as before. -/
theorem sendFilled_spec (hl : SendLayout d sw.w base content) {t held : Nat} (taken : List UInt8) :
    (∀ j, (sendFilled d sw base t held taken).w.msg j =
        if ∃ i < (held + taken.length) / d.msgLen, (base + (t + i)) % d.cap = j then
          { sw.w.msg j with len := d.msgLen }
        else sw.w.msg j) ∧
      (∀ j, (sendFilled d sw base t held taken).rtx j =
        if ∃ i < (held + taken.length) / d.msgLen, (base + (t + i)) % d.cap = j then 0
        else sw.rtx j) ∧
      sendFilled d sw base t held taken =
        { sw with
          w := { sw.w with
            msg := (sendFilled d sw base t held taken).w.msg
            buf := ringWrite sw.w.buf (d.cap * d.msgLen)
              ((base + t) % d.cap * d.msgLen + held) taken }
          rtx := (sendFilled d sw base t held taken).rtx } := by
  have hspec := sendWndFill_spec
    { sw with w := { sw.w with
      buf := ringWrite sw.w.buf (d.cap * d.msgLen) ((base + t) % d.cap * d.msgLen + held) taken } }
    (sw.w.seq + t) ((held + taken.length) / d.msgLen)
  have hslot : ∀ i, (sw.w.seq + t + i) % sw.w.cap = (base + (t + i)) % d.cap := by
    intro i
    rw [Nat.add_assoc, hl.slot]
  refine ⟨fun j => (hspec.1 j).trans ?_, fun j => (hspec.2.1 j).trans ?_, hspec.2.2⟩
  · simp only [hslot, hl.shape.msgLen]
  · simp only [hslot]

/-- What `arq__send_wnd_send` makes of a window `sw`, where it takes the bytes `taken`: they go to
message `t` first, complete `full` messages, and leave `rem` bytes for one more. -/
structure SendSpec (d : Dims) (sw : SendWnd) (base : Nat) (content taken : List UInt8) (tiny : Nat)
    (sw' : SendWnd) (t full rem : Nat) : Prop where
  last : t = sw.w.size - 1
  split : (content ++ taken).length = (t + full) * d.msgLen + rem
  rem_lt : rem < d.msgLen
  room : (content ++ taken).length ≤ d.cap * d.msgLen
  size : sw'.w.size = segCount d.msgLen (content ++ taken).length
  size_eq : sw'.w.size = t + full + if rem = 0 then 0 else 1
  rest : sw'.w =
    { sw.w with
      size := sw'.w.size
      msg := sw'.w.msg
      buf := ringWrite sw.w.buf (d.cap * d.msgLen)
        ((base + t) % d.cap * d.msgLen + (content.length - t * d.msgLen)) taken }
  msg : ∀ i, i < d.cap → sw'.w.msg ((base + i) % d.cap) =
    if t ≤ i ∧ i < t + full then { sw.w.msg ((base + i) % d.cap) with len := d.msgLen }
    else if i = t + full ∧ rem ≠ 0 then { sw.w.msg ((base + i) % d.cap) with len := rem }
    else sw.w.msg ((base + i) % d.cap)
  rtx : ∀ i, i < d.cap → sw'.rtx ((base + i) % d.cap) =
    if t ≤ i ∧ i < t + full then 0
    else if i = t + full ∧ rem ≠ 0 ∧ sw.w.size < sw'.w.size then tiny
    else sw.rtx ((base + i) % d.cap)
  tiny : sw'.tiny = if rem ≠ 0 ∧ sw.w.size < sw'.w.size then tiny else sw.tiny
  tinyOn : sw'.tinyOn = decide (rem ≠ 0)

theorem sendWndSend_spec (hl : SendLayout d sw.w base content) {data : List UInt8}
    (hdata : data.length ≠ 0) (tiny : Nat) :
    (sendWndSend sw data tiny).2 = sendTaken d content data ∧
      ∃ t full rem, SendSpec d sw base content (data.take (sendTaken d content data)) tiny
        (sendWndSend sw data tiny).1 t full rem := by
  obtain ⟨t, ht⟩ : ∃ t, t = sw.w.size - 1 := ⟨_, rfl⟩
  obtain ⟨held, hheld⟩ : ∃ held, held = content.length - t * d.msgLen := ⟨_, rfl⟩
  obtain ⟨taken, htaken⟩ : ∃ taken, taken = data.take (sendTaken d content data) := ⟨_, rfl⟩
  obtain ⟨size, hsize⟩ : ∃ size, size = segCount d.msgLen (content ++ taken).length := ⟨_, rfl⟩
  obtain ⟨sw1, hsw1⟩ : ∃ sw1, sw1 = sendFilled d sw base t held taken := ⟨_, rfl⟩
  obtain ⟨hmsg, hrtx, hrest⟩ := @sendFilled_spec d sw base content hl t held taken
  rw [sendWndSend_eq hl hdata tiny ht hheld htaken hsize hsw1, ← htaken]
  rw [← hsw1] at hmsg hrtx hrest
  obtain ⟨-, hlo, hhi⟩ := hl.last
  rw [← ht] at hlo hhi
  have hL := d.msgLen_pos
  have htakenLen : taken.length = sendTaken d content data := by
    rw [htaken, List.length_take]
    exact Nat.min_eq_left (Nat.min_le_left _ _)
  have hroom : taken.length ≤ d.cap * d.msgLen - content.length := by
    rw [htakenLen]
    exact Nat.min_le_right _ _
  have hfits := hl.fits
  have hroom' : (content ++ taken).length ≤ d.cap * d.msgLen := by
    rw [List.length_append]
    omega
  have hdiv := Nat.div_add_mod (held + taken.length) d.msgLen
  generalize hfull : (held + taken.length) / d.msgLen = full at hmsg hrtx hdiv
  generalize hrem : (held + taken.length) % d.msgLen = rem at hdiv
  have hremLt : rem < d.msgLen := hrem ▸ Nat.mod_lt _ hL
  have hsplit : (content ++ taken).length = (t + full) * d.msgLen + rem := by
    rw [Nat.add_mul, Nat.mul_comm full, List.length_append]
    omega
  have hsizeEq : size = t + full + if rem = 0 then 0 else 1 := by
    rw [hsize, hsplit]
    exact segCount_mul_add hL _ hremLt
  have hsizeLe : size ≤ d.cap := by
    rw [hsize, segCount_le hL]
    exact hroom'
  -- The slots of the completed messages, and the slot of the last message.
  have hfilled : ∀ i, i < d.cap →
      ((∃ i' < full, (base + (t + i')) % d.cap = (base + i) % d.cap) ↔ t ≤ i ∧ i < t + full) := by
    intro i hi
    constructor
    · rintro ⟨i', hi', heq⟩
      have := ring_inj (by split at hsizeEq <;> omega) hi heq
      omega
    · rintro ⟨hti, hif⟩
      exact ⟨i - t, by omega, by rw [show t + (i - t) = i by omega]⟩
  have hlast : ∀ i, i < d.cap → rem ≠ 0 →
      ((base + i) % d.cap = (base + (size - 1)) % d.cap ↔ i = t + full) := by
    intro i hi h0
    rw [if_neg h0] at hsizeEq
    rw [hsizeEq, Nat.add_sub_cancel]
    exact ⟨ring_inj hi (by omega), fun h => by rw [h]⟩
  refine ⟨htakenLen, t, full, rem, ht, hsplit, hremLt, hroom', hsize, hsizeEq, ?_, ?_, ?_, ?_, ?_⟩
  · dsimp only
    rw [hrest, ← hheld]
  · intro i hi
    dsimp only
    by_cases h0 : rem ≠ 0
    · rw [if_pos h0]
      by_cases hil : i = t + full
      · rw [(hlast i hi h0).mpr hil, Function.update_self, ← (hlast i hi h0).mpr hil, hmsg,
          if_neg (by rw [hfilled i hi]; omega), if_neg (by omega), if_pos ⟨hil, h0⟩]
      · rw [Function.update_of_ne (mt (hlast i hi h0).mp hil), hmsg]
        simp only [hfilled i hi, hil, false_and, if_false]
    · rw [if_neg h0, hmsg]
      simp only [hfilled i hi, h0, and_false, if_false]
  · intro i hi
    dsimp only
    by_cases h0 : 0 < rem ∧ sw.w.size < size
    · have hne : rem ≠ 0 := by omega
      rw [if_pos h0]
      by_cases hil : i = t + full
      · rw [(hlast i hi hne).mpr hil, Function.update_self, if_neg (by omega),
          if_pos ⟨hil, hne, h0.2⟩]
      · rw [Function.update_of_ne (mt (hlast i hi hne).mp hil), hrtx]
        simp only [hfilled i hi, hil, false_and, if_false]
    · have hne : ¬ (i = t + full ∧ rem ≠ 0 ∧ sw.w.size < size) := by omega
      rw [if_neg h0, hrtx]
      simp only [hfilled i hi, hne, if_false]
  · dsimp only
    rw [hrest]
    simp only [Nat.pos_iff_ne_zero]
  · simp only [Nat.pos_iff_ne_zero]

section

variable {taken : List UInt8} {tiny : Nat} {sw' : SendWnd} {t full rem : Nat}

theorem SendSpec.size_le (hs : SendSpec d sw base content taken tiny sw' t full rem) :
    sw'.w.size ≤ d.cap := by
  rw [hs.size, segCount_le d.msgLen_pos]
  exact hs.room

theorem SendSpec.grows (hs : SendSpec d sw base content taken tiny sw' t full rem)
    (hl : SendLayout d sw.w base content) : sw.w.size ≤ sw'.w.size := by
  rw [hl.size, hs.size]
  exact segCount_mono _ (by simp)

/-- The address of the first free byte, counted from the first byte of the window. -/
theorem SendSpec.cursor (hs : SendSpec d sw base content taken tiny sw' t full rem)
    (hl : SendLayout d sw.w base content) :
    (base + t) % d.cap * d.msgLen + (content.length - t * d.msgLen) ≤ d.cap * d.msgLen ∧
      ∀ y, ((base + t) % d.cap * d.msgLen + (content.length - t * d.msgLen) + y) %
          (d.cap * d.msgLen) =
        (base % d.cap * d.msgLen + (content.length + y)) % (d.cap * d.msgLen) := by
  obtain ⟨-, hlo, hhi⟩ := hl.last
  rw [← hs.last] at hlo hhi
  constructor
  · have hlt := Nat.mod_lt (base + t) d.cap_pos
    have := Nat.mul_le_mul_right d.msgLen (show (base + t) % d.cap + 1 ≤ d.cap by omega)
    rw [Nat.add_mul] at this
    omega
  · intro y
    have hslot := @ring_bytes d.cap d.msgLen base t 0 d.msgLen_pos
    rw [Nat.add_zero, Nat.add_zero] at hslot
    rw [← hslot, Nat.add_assoc, Nat.mod_add_mod]
    congr 1
    omega

theorem SendSpec.layout (hs : SendSpec d sw base content taken tiny sw' t full rem)
    (hl : SendLayout d sw.w base content) : SendLayout d sw'.w base (content ++ taken) := by
  obtain ⟨hcur, hcongr⟩ := hs.cursor hl
  obtain ⟨-, hlo, hhi⟩ := hl.last
  rw [← hs.last] at hlo hhi
  have hsizeLe := hs.size_le
  have hgrow := hs.grows hl
  have hsplit := hs.split
  have hremLt := hs.rem_lt
  have hsizeEq := hs.size_eq
  have hlast := hs.last
  have hroom := hs.room
  have hlength := @List.length_append _ content taken
  refine ⟨?_, ?_, hs.size, hroom, ?_, ?_, ?_⟩
  · rw [hs.rest]
    exact ⟨hl.shape.cap, hl.shape.msgLen, hl.shape.segLen, hl.shape.full⟩
  · rw [hs.rest]
    exact hl.seq
  · intro i hi
    rw [hs.msg i (by omega), hsplit]
    by_cases hil : i = t + full
    · have h0 : rem ≠ 0 := by
        intro h0
        rw [if_pos h0] at hsizeEq
        omega
      rw [if_neg (by omega), if_pos ⟨hil, h0⟩, hil, Nat.add_sub_cancel_left]
      dsimp only
      omega
    · have hi' : i < t + full := by
        split at hsizeEq <;> omega
      have hroomL := Nat.mul_le_mul_right d.msgLen (show i + 1 ≤ t + full by omega)
      rw [Nat.add_mul] at hroomL
      by_cases hti : t ≤ i
      · rw [if_pos ⟨hti, hi'⟩]
        dsimp only
        omega
      · have hold := Nat.mul_le_mul_right d.msgLen (show i + 1 ≤ t by omega)
        rw [Nat.add_mul] at hold
        rw [if_neg (fun h => hti h.1), if_neg (fun h => hil h.1), hl.len i (by omega)]
        omega
  · intro x hx
    rw [hs.rest]
    dsimp only
    by_cases hxc : x < content.length
    · rw [List.getElem_append_left hxc, ringWrite_miss hcur, hl.bytes x hxc]
      · exact Nat.mod_lt _ (Nat.mul_pos d.cap_pos d.msgLen_pos)
      · intro y hy heq
        rw [hcongr] at heq
        have := ring_inj (by omega) (by omega) heq
        omega
    · have hy : x - content.length < taken.length := by omega
      rw [List.getElem_append_right (by omega), ← ringWrite_hit hcur (by omega) hy, hcongr]
      congr 3
      omega
  · intro i hsi hi
    have hbehind : ¬ (i = t + full ∧ rem ≠ 0) := by
      rintro ⟨hil, h0⟩
      rw [if_neg h0] at hsizeEq
      omega
    rw [hs.msg i hi, if_neg (by omega), if_neg hbehind, hl.idle i (by omega) hi]

/-- The ACK vectors stay as they are. -/
theorem SendSpec.vectors (hs : SendSpec d sw base content taken tiny sw' t full rem) {i : Nat}
    (hi : i < d.cap) :
    (sw'.w.msg ((base + i) % d.cap)).curAckVec = (sw.w.msg ((base + i) % d.cap)).curAckVec ∧
      (sw'.w.msg ((base + i) % d.cap)).fullAckVec =
        (sw.w.msg ((base + i) % d.cap)).fullAckVec := by
  rw [hs.msg i hi]
  split
  · exact ⟨rfl, rfl⟩
  · split <;> exact ⟨rfl, rfl⟩

end

theorem sendWndSend_nil (sw : SendWnd) {data : List UInt8} (hdata : data.length = 0) (tiny : Nat) :
    sendWndSend sw data tiny = (sw, 0) := if_pos hdata

theorem sendWndSend_taken (hl : SendLayout d sw.w base content) (data : List UInt8) (tiny : Nat) :
    (sendWndSend sw data tiny).2 = sendTaken d content data := by
  by_cases hdata : data.length = 0
  · rw [sendWndSend_nil _ hdata, sendTaken, hdata, Nat.zero_min]
  · exact (sendWndSend_spec hl hdata tiny).1

/-- `arq__send_wnd_send` appends the bytes it takes. -/
theorem sendWndSend_layout (hl : SendLayout d sw.w base content) (data : List UInt8) (tiny : Nat) :
    SendLayout d (sendWndSend sw data tiny).1.w base
      (content ++ data.take (sendWndSend sw data tiny).2) := by
  by_cases hdata : data.length = 0
  · rw [sendWndSend_nil sw hdata]
    simpa using hl
  · obtain ⟨htaken, t, full, rem, hs⟩ := sendWndSend_spec hl hdata tiny
    rw [htaken]
    exact hs.layout hl

end

/-! ## Acknowledging -/

/-- Message `i` of the window is complete in `msg`: the retirement loop passes over it. -/
def msgAcked (w : Wnd) (msg : Nat → Msg) (i : Nat) : Prop :=
  (msg ((w.seq + i) % w.cap)).curAckVec = (msg ((w.seq + i) % w.cap)).fullAckVec

/-- The loop of `arq__send_wnd_ack` stops at the first message that is not acknowledged, and
empties the ones before. -/
theorem sendWndRetire_spec (w : Wnd) :
    ∀ (n i : Nat) (msg : Nat → Msg), i + n ≤ w.cap →
      i ≤ (sendWndRetire w n i msg).2 ∧ (sendWndRetire w n i msg).2 ≤ i + n ∧
        (∀ j, i ≤ j → j < (sendWndRetire w n i msg).2 → msgAcked w msg j) ∧
        ((sendWndRetire w n i msg).2 < i + n → ¬ msgAcked w msg (sendWndRetire w n i msg).2) ∧
        ∀ j, j < w.cap → (sendWndRetire w n i msg).1 ((w.seq + j) % w.cap) =
          if i ≤ j ∧ j < (sendWndRetire w n i msg).2 then msgEmpty w.fullAckVec
          else msg ((w.seq + j) % w.cap) := by
  intro n
  induction n with
  | zero =>
    intro i msg _
    refine ⟨le_rfl, le_rfl, ?_, ?_, ?_⟩
    · intro j hij hji
      exact absurd hji (Nat.not_lt.mpr hij)
    · intro h
      exact absurd h (lt_irrefl i)
    · intro j _
      rw [if_neg]
      · rfl
      · rintro ⟨hij, hji⟩
        exact absurd hji (Nat.not_lt.mpr hij)
  | succ n ih =>
    intro i msg hcap
    by_cases hacked : msgAcked w msg i
    · have hstep : sendWndRetire w (n + 1) i msg = sendWndRetire w n (i + 1)
          (Function.update msg ((w.seq + i) % w.cap) (msgEmpty w.fullAckVec)) := by
        rw [sendWndRetire]
        exact if_neg (not_not_intro hacked)
      have hother : ∀ j, j < w.cap → j ≠ i →
          Function.update msg ((w.seq + i) % w.cap) (msgEmpty w.fullAckVec)
            ((w.seq + j) % w.cap) = msg ((w.seq + j) % w.cap) := by
        intro j hj hne
        apply Function.update_of_ne
        intro heq
        exact hne (ring_inj hj (by omega) heq)
      obtain ⟨hlo, hhi, hall, hstop, hmsg⟩ := ih (i + 1)
        (Function.update msg ((w.seq + i) % w.cap) (msgEmpty w.fullAckVec)) (by omega)
      rw [hstep]
      refine ⟨by omega, by omega, ?_, ?_, ?_⟩
      · intro j hij hj
        by_cases hji : j = i
        · rw [hji]
          exact hacked
        · have := hall j (by omega) hj
          rwa [msgAcked, hother j (by omega) hji] at this
      · intro hlt
        have := hstop (by omega)
        rwa [msgAcked, hother _ (by omega) (by omega)] at this
      · intro j hj
        rw [hmsg j hj]
        by_cases hji : j = i
        · rw [if_neg (by omega), if_pos (by omega), hji, Function.update_self]
        · rw [hother j hj hji]
          simp only [show i + 1 ≤ j ↔ i ≤ j by omega]
    · have hstep : sendWndRetire w (n + 1) i msg = (msg, i) := by
        rw [sendWndRetire]
        exact if_pos hacked
      rw [hstep]
      refine ⟨le_rfl, by omega, ?_, fun _ => hacked, ?_⟩
      · intro j hij hji
        exact absurd hji (Nat.not_lt.mpr hij)
      · intro j _
        rw [if_neg]
        rintro ⟨hij, hji⟩
        exact absurd hji (Nat.not_lt.mpr hij)

/-- The messages with the ACK vector of one of them replaced. -/
def ackedMsgs (w : Wnd) (seq vec : Nat) : Nat → Msg :=
  Function.update w.msg (seq % w.cap) { w.msg (seq % w.cap) with curAckVec := vec }

/-- The number of messages that `arq__send_wnd_ack` removes. -/
def ackRetired (w : Wnd) (seq vec : Nat) : Nat :=
  if ackInWnd w seq then (sendWndRetire w w.size 0 (ackedMsgs w seq vec)).2 else 0

section

variable {d : Dims} {sw : SendWnd} {base : Nat} {content : List UInt8}

/-- The index of the message that an ACK in the window names. -/
theorem SendLayout.ack_index (hl : SendLayout d sw.w base content) {seq : Nat}
    (hin : ackInWnd sw.w seq) :
    seq - sw.w.seq < sw.w.size ∧ seq % sw.w.cap = (base + (seq - sw.w.seq)) % d.cap := by
  unfold ackInWnd at hin
  refine ⟨by omega, ?_⟩
  rw [← hl.slot]
  congr 1
  omega

/-- The messages after an ACK in the window. -/
theorem sendWndAck_msgs (hl : SendLayout d sw.w base content) {seq : Nat} (vec : Nat)
    (hin : ackInWnd sw.w seq) :
    ackRetired sw.w seq vec ≤ sw.w.size ∧
      (∀ i, i < ackRetired sw.w seq vec → msgAcked sw.w (ackedMsgs sw.w seq vec) i) ∧
      (ackRetired sw.w seq vec < sw.w.size →
        ¬ msgAcked sw.w (ackedMsgs sw.w seq vec) (ackRetired sw.w seq vec)) ∧
      ∀ i, i < d.cap → (sendWndAck sw seq vec).w.msg ((base + i) % d.cap) =
        if i < ackRetired sw.w seq vec then msgEmpty d.full
        else ackedMsgs sw.w seq vec ((base + i) % d.cap) := by
  have hsize := hl.size_le
  obtain ⟨-, hhi, hall, hstop, hmsg⟩ := sendWndRetire_spec sw.w sw.w.size 0
    (ackedMsgs sw.w seq vec) (by rw [hl.shape.cap]; omega)
  rw [Nat.zero_add] at hhi hstop
  have hret : ackRetired sw.w seq vec =
      (sendWndRetire sw.w sw.w.size 0 (ackedMsgs sw.w seq vec)).2 := if_pos hin
  have hack : (sendWndAck sw seq vec).w.msg =
      (sendWndRetire sw.w sw.w.size 0 (ackedMsgs sw.w seq vec)).1 := by
    rw [sendWndAck, if_pos hin]
    rfl
  rw [hret, hack]
  refine ⟨hhi, fun i hi => hall i (Nat.zero_le i) hi, hstop, ?_⟩
  intro i hi
  have := hmsg i (by rwa [hl.shape.cap])
  rw [hl.slot, hl.shape.full] at this
  rw [this]
  simp only [Nat.zero_le, true_and]

theorem ackedMsgs_len (w : Wnd) (seq vec j : Nat) : (ackedMsgs w seq vec j).len = (w.msg j).len := by
  unfold ackedMsgs
  by_cases hj : j = seq % w.cap
  · rw [hj, Function.update_self]
  · rw [Function.update_of_ne hj]

/-- The window moves on by as many messages as are removed, in the order of their numbers. -/
theorem sendWndAck_layout (hl : SendLayout d sw.w base content) (seq vec : Nat) :
    (sendWndAck sw seq vec).w.size = sw.w.size - ackRetired sw.w seq vec ∧
      SendLayout d (sendWndAck sw seq vec).w (base + ackRetired sw.w seq vec)
        (content.drop (ackRetired sw.w seq vec * d.msgLen)) := by
  by_cases hin : ackInWnd sw.w seq
  · obtain ⟨hr, -, -, hmsg⟩ := sendWndAck_msgs hl vec hin
    obtain ⟨hidx, hslot⟩ := hl.ack_index hin
    have hsizeLe := hl.size_le
    have hcapLe := d.cap_le
    have hret : ackRetired sw.w seq vec =
        (sendWndRetire sw.w sw.w.size 0 (ackedMsgs sw.w seq vec)).2 := if_pos hin
    have hack : (sendWndAck sw seq vec).w =
        { sw.w with
          msg := (sendWndAck sw seq vec).w.msg
          size := u16 (sub32 sw.w.size (ackRetired sw.w seq vec))
          seq := (sw.w.seq + ackRetired sw.w seq vec) % seqSpace } := by
      rw [hret, sendWndAck, if_pos hin]
      rfl
    have hsize : u16 (sub32 sw.w.size (ackRetired sw.w seq vec)) =
        sw.w.size - ackRetired sw.w seq vec := by
      rw [sub32_of_le hr, u16_of_lt (by omega)]
    generalize ackRetired sw.w seq vec = r at *
    refine ⟨by rw [hack]; exact hsize, ?_, ?_, ?_, ?_, ?_, ?_, ?_⟩
    · rw [hack]
      exact ⟨hl.shape.cap, hl.shape.msgLen, hl.shape.segLen, hl.shape.full⟩
    · rw [hack]
      dsimp only
      rw [hl.seq, Nat.mod_add_mod]
    · rw [hack]
      dsimp only
      rw [hsize, hl.size, List.length_drop, segCount_sub d.msgLen_pos]
    · have := hl.fits
      rw [List.length_drop]
      omega
    · intro i hi
      rw [hack] at hi
      dsimp only at hi
      rw [hsize] at hi
      rw [Nat.add_assoc, hmsg (r + i) (by omega), if_neg (by omega), ackedMsgs_len,
        hl.len (r + i) (by omega), List.length_drop, Nat.add_mul, Nat.sub_sub]
    · intro x hx
      rw [List.length_drop] at hx
      rw [List.getElem_drop, hack]
      dsimp only
      rw [← hl.bytes (r * d.msgLen + x) (by omega)]
      congr 1
      have hslot' := @ring_bytes d.cap d.msgLen base r 0 d.msgLen_pos
      rw [Nat.add_zero, Nat.add_zero] at hslot'
      rw [← hslot', Nat.mod_add_mod, Nat.add_assoc]
    · intro i hi hicap
      rw [hack] at hi
      dsimp only at hi
      rw [hsize] at hi
      rw [Nat.add_assoc]
      by_cases hwrap : r + i < d.cap
      · rw [hmsg (r + i) hwrap, if_neg (by omega), ackedMsgs, Function.update_of_ne,
          hl.idle (r + i) (by omega) hwrap]
        rw [hslot]
        intro heq
        have := ring_inj hwrap (by omega) heq
        omega
      · obtain ⟨k, hk⟩ : ∃ k, r + i = d.cap + k := ⟨r + i - d.cap, by omega⟩
        have hplace : (base + (r + i)) % d.cap = (base + k) % d.cap := by
          rw [hk, show base + (d.cap + k) = d.cap + (base + k) by omega, Nat.add_mod_left]
        rw [hplace, hmsg k (by omega), if_pos (by omega)]
  · have hnot : sendWndAck sw seq vec = sw := if_neg hin
    have hzero : ackRetired sw.w seq vec = 0 := if_neg hin
    rw [hnot, hzero]
    refine ⟨rfl, ?_⟩
    simpa using hl

end

end NanoArq
