import NanoArq.Sender.AckExact

/-!
# Two ACKs in both orders

`arq__send_wnd_ack` stores the vector of an ACK in place of the one that the message has. An older
ACK that arrives late therefore takes bits back, unless its message is gone by then.

* `ackWnd_in`: an ACK in the window stores its vector and removes the complete messages at the front,
  whose number `Leads` describes.
* `dropMsgs_record`: the next ACK, if its message is still there, acts on the window as if both
  vectors had been stored before any message was removed.
* `ackOrderFree_unwrapped`: what is left of the condition where the window does not pass `4095`.
* `ack_order_iff`: when the order of two ACKs makes no difference.
-/

namespace NanoArq

open Lib

/-! ## Removing messages from the front -/

/-- The window with the messages `M` instead of its own, and without the first `n` of them. -/
def dropMsgs (w : Wnd) (M : Nat → Msg) (n : Nat) : Wnd :=
  { w with
    msg := fun j => if ∃ i, i < n ∧ (w.seq + i) % w.cap = j then msgEmpty w.fullAckVec else M j
    size := w.size - n
    seq := (w.seq + n) % seqSpace }

/-- With the messages `M`, the first `n` of the window are complete and the next one is not. -/
structure Leads (w : Wnd) (M : Nat → Msg) (n : Nat) : Prop where
  le_size : n ≤ w.size
  acked : ∀ i, i < n → msgAcked w M i
  maximal : n < w.size → ¬ msgAcked w M n

/-- The base and the number of messages are within the widths of their fields. -/
structure WndFits (w : Wnd) : Prop where
  seq_lt : w.seq < seqSpace
  size_le : w.size ≤ w.cap
  cap_lt : w.cap < 65536

/-- The messages `M` with the vector of message `seq` replaced. -/
def recordVec (w : Wnd) (M : Nat → Msg) (seq vec : Nat) : Nat → Msg :=
  Function.update M (seq % w.cap) { M (seq % w.cap) with curAckVec := vec }

section

variable {w : Wnd} {M : Nat → Msg} {n m seq vec : Nat}

theorem WndFits.drop (h : WndFits w) (M : Nat → Msg) (n : Nat) : WndFits (dropMsgs w M n) where
  seq_lt := Nat.mod_lt _ (by decide)
  size_le := (Nat.sub_le _ _).trans h.size_le
  cap_lt := h.cap_lt

theorem Leads.unique (h : Leads w M n) (h' : Leads w M m) : n = m := by
  have hle := h.le_size
  have hle' := h'.le_size
  rcases Nat.lt_trichotomy n m with hlt | heq | hgt
  · exact absurd (h'.acked n hlt) (h.maximal (by omega))
  · exact heq
  · exact absurd (h.acked m hgt) (h'.maximal (by omega))

/-- A message lies among the leading ones if it and all before it are complete. -/
theorem Leads.lt_iff (h : Leads w M n) {i : Nat} (hi : i < w.size) :
    i < n ↔ ∀ j, j ≤ i → msgAcked w M j := by
  constructor
  · intro hlt j hj
    exact h.acked j (by omega)
  · intro hall
    by_contra hge
    have hle : n ≤ i := by omega
    exact h.maximal (by omega) (hall n hle)

theorem sendWndRetire_outside (hcap : 0 < w.cap) {j : Nat} (hj : w.cap ≤ j) :
    ∀ (n i : Nat) (M : Nat → Msg), (sendWndRetire w n i M).1 j = M j := by
  intro n
  induction n with
  | zero =>
    intro i M
    rfl
  | succ n ih =>
    intro i M
    have hne : j ≠ (w.seq + i) % w.cap := by
      have := Nat.mod_lt (w.seq + i) hcap
      omega
    unfold sendWndRetire
    dsimp only
    split
    · rfl
    · rw [ih]
      exact Function.update_of_ne hne ..

/-- What the retirement loop does, as one removal. -/
theorem sendWndRetire_leads (hsize : w.size ≤ w.cap) (hpos : 0 < w.size) (M : Nat → Msg) :
    Leads w M (sendWndRetire w w.size 0 M).2 ∧
      (sendWndRetire w w.size 0 M).1 = (dropMsgs w M (sendWndRetire w w.size 0 M).2).msg := by
  obtain ⟨-, hle, hacked, hmax, hmsg⟩ := sendWndRetire_spec w w.size 0 M (by omega)
  rw [Nat.zero_add] at hle hmax
  have hcap : 0 < w.cap := by omega
  refine ⟨⟨hle, fun i hi => hacked i (Nat.zero_le i) hi, hmax⟩, ?_⟩
  have hout := fun j (hj : w.cap ≤ j) => sendWndRetire_outside hcap hj w.size 0 M
  generalize sendWndRetire w w.size 0 M = r at *
  ext1 j
  by_cases hj : j < w.cap
  · obtain ⟨i, hi, rfl⟩ : ∃ i, i < w.cap ∧ (w.seq + i) % w.cap = j := ring_surj hj w.seq
    rw [hmsg i hi]
    refine if_congr ?_ rfl rfl
    constructor
    · rintro ⟨-, hlt⟩
      exact ⟨i, hlt, rfl⟩
    · rintro ⟨k, hk, heq⟩
      have hki : k = i := ring_inj (by omega) hi heq
      exact ⟨Nat.zero_le i, hki ▸ hk⟩
  · rw [hout j (by omega)]
    refine (if_neg ?_).symm
    rintro ⟨k, -, heq⟩
    have := Nat.mod_lt (w.seq + k) hcap
    omega

/-! ## One ACK -/

/-- `arq__send_wnd_ack` without the timers. -/
def ackWnd (w : Wnd) (seq vec : Nat) : Wnd :=
  (sendWndAck { w := w, rtx := fun _ => 0, tiny := 0, tinyOn := false } seq vec).w

theorem sendWndAck_wnd (sw : SendWnd) (seq vec : Nat) :
    (sendWndAck sw seq vec).w = ackWnd sw.w seq vec := by
  unfold ackWnd sendWndAck
  split <;> rfl

theorem ackWnd_out (hout : ¬ ackInWnd w seq) (vec : Nat) : ackWnd w seq vec = w := by
  rw [ackWnd, sendWndAck, if_neg hout]

theorem ackWnd_in (hw : WndFits w) (hin : ackInWnd w seq) (vec : Nat) :
    ∃ n, Leads w (recordVec w w.msg seq vec) n ∧
      ackWnd w seq vec = dropMsgs w (recordVec w w.msg seq vec) n := by
  have hpos : 0 < w.size := Nat.pos_of_ne_zero fun h => hin (Or.inl h)
  obtain ⟨hleads, hmsg⟩ := sendWndRetire_leads hw.size_le hpos (recordVec w w.msg seq vec)
  have hack : ackWnd w seq vec = { w with
      msg := (sendWndRetire w w.size 0 (recordVec w w.msg seq vec)).1
      size := u16 (sub32 w.size (sendWndRetire w w.size 0 (recordVec w w.msg seq vec)).2)
      seq := (w.seq + (sendWndRetire w w.size 0 (recordVec w w.msg seq vec)).2) % seqSpace } := by
    rw [ackWnd, sendWndAck, if_pos hin]
    rfl
  refine ⟨_, hleads, ?_⟩
  have hle := hleads.le_size
  have hfits := hw.size_le
  have hcap := hw.cap_lt
  rw [hack, hmsg, sub32_of_le hle, u16_of_lt (by omega)]
  rfl

/-! ## Another ACK for a message that is still there -/

/-- Removing `k` messages after `n`, as long as the base does not wrap. -/
theorem dropMsgs_dropMsgs (hlt : w.seq + n < seqSpace) (A M : Nat → Msg) (k : Nat) :
    dropMsgs (dropMsgs w M n) (dropMsgs w A n).msg k = dropMsgs w A (n + k) := by
  have hseq : (dropMsgs w M n).seq = w.seq + n := Nat.mod_eq_of_lt hlt
  have hbase : ((w.seq + n) % seqSpace + k) % seqSpace = (w.seq + (n + k)) % seqSpace := by
    rw [Nat.mod_add_mod, Nat.add_assoc]
  have hmsg : (dropMsgs (dropMsgs w M n) (dropMsgs w A n).msg k).msg = (dropMsgs w A (n + k)).msg := by
    ext1 j
    change (if ∃ i, i < k ∧ ((dropMsgs w M n).seq + i) % w.cap = j then msgEmpty w.fullAckVec
      else if ∃ i, i < n ∧ (w.seq + i) % w.cap = j then msgEmpty w.fullAckVec else A j) =
      if ∃ i, i < n + k ∧ (w.seq + i) % w.cap = j then msgEmpty w.fullAckVec else A j
    rw [hseq]
    by_cases h : ∃ i, i < n + k ∧ (w.seq + i) % w.cap = j
    · rw [if_pos h]
      obtain ⟨i, hi, hj⟩ := h
      by_cases hin : i < n
      · rw [if_pos (show ∃ i, i < n ∧ (w.seq + i) % w.cap = j from ⟨i, hin, hj⟩), ite_self]
      · refine if_pos ⟨i - n, by omega, ?_⟩
        rw [← hj]
        congr 1
        omega
    · rw [if_neg h, if_neg, if_neg]
      · rintro ⟨i, hi, hj⟩
        exact h ⟨i, by omega, hj⟩
      · rintro ⟨i, hi, hj⟩
        exact h ⟨n + i, by omega, by rw [← hj, Nat.add_assoc]⟩
  have heq : dropMsgs (dropMsgs w M n) (dropMsgs w A n).msg k =
      { w with
        msg := (dropMsgs (dropMsgs w M n) (dropMsgs w A n).msg k).msg
        size := w.size - n - k
        seq := ((w.seq + n) % seqSpace + k) % seqSpace } := rfl
  rw [heq, hmsg, Nat.sub_sub, hbase]
  rfl

theorem dropMsgs_slot (hw : WndFits w) (M : Nat → Msg) {i : Nat} (hni : n ≤ i) (hi : i < w.size) :
    (dropMsgs w M n).msg ((w.seq + i) % w.cap) = M ((w.seq + i) % w.cap) := by
  refine if_neg ?_
  rintro ⟨k, hk, heq⟩
  have hle := hw.size_le
  have := ring_inj (by omega) (by omega) heq
  omega

theorem Leads.drop (hw : WndFits w) (hlt : w.seq + n < seqSpace) (hle : n ≤ w.size)
    {A M : Nat → Msg} {k : Nat} (hacked : ∀ i, i < n → msgAcked w A i)
    (h : Leads (dropMsgs w M n) (dropMsgs w A n).msg k) : Leads w A (n + k) := by
  have hseq : (dropMsgs w M n).seq = w.seq + n := Nat.mod_eq_of_lt hlt
  have hsize : (dropMsgs w M n).size = w.size - n := rfl
  have hmsg : ∀ i, n + i < w.size →
      (msgAcked (dropMsgs w M n) (dropMsgs w A n).msg i ↔ msgAcked w A (n + i)) := by
    intro i hi
    have hslot := dropMsgs_slot hw A (Nat.le_add_right n i) hi
    unfold msgAcked
    rw [hseq, Nat.add_assoc]
    exact Iff.of_eq (by rw [show (dropMsgs w M n).cap = w.cap from rfl, hslot])
  have hkle := h.le_size
  rw [hsize] at hkle
  refine ⟨by omega, ?_, ?_⟩
  · intro i hi
    by_cases hin : i < n
    · exact hacked i hin
    · have := (hmsg (i - n) (by omega)).mp (h.acked (i - n) (by omega))
      rwa [Nat.add_sub_cancel' (by omega)] at this
  · intro hk
    rw [← hmsg k hk]
    exact h.maximal (by omega)

/-- The slot of a message of the window that the removal leaves. -/
theorem recordVec_drop (hw : WndFits w) (M : Nat → Msg) (hlo : w.seq + n ≤ seq)
    (hhi : seq < w.seq + w.size) (vec : Nat) :
    recordVec (dropMsgs w M n) (dropMsgs w M n).msg seq vec =
      (dropMsgs w (recordVec w M seq vec) n).msg := by
  have hslot : ∀ A, (dropMsgs w A n).msg (seq % w.cap) = A (seq % w.cap) := by
    intro A
    have := dropMsgs_slot hw A (show n ≤ seq - w.seq by omega) (by omega)
    rwa [Nat.add_sub_cancel' (by omega)] at this
  have hcap : (dropMsgs w M n).cap = w.cap := rfl
  ext1 j
  by_cases hj : j = seq % w.cap
  · rw [hj, hslot, recordVec, hcap, hslot, Function.update_self, recordVec, Function.update_self]
  · rw [recordVec, hcap, Function.update_of_ne hj]
    have hother : recordVec w M seq vec j = M j := Function.update_of_ne hj ..
    unfold dropMsgs
    dsimp only
    rw [hother]

/-- The ACK for a message that is still in the window acts as if its vector had been stored before
the messages in front were removed. -/
theorem ackWnd_drop (hw : WndFits w) (hn : Leads w M n) (hlo : w.seq + n ≤ seq)
    (hhi : seq < w.seq + w.size) (hseq : seq < seqSpace) (vec : Nat) :
    ∃ m, Leads w (recordVec w M seq vec) m ∧
      ackWnd (dropMsgs w M n) seq vec = dropMsgs w (recordVec w M seq vec) m := by
  have hlt : w.seq + n < seqSpace := by omega
  have hbase : (dropMsgs w M n).seq = w.seq + n := Nat.mod_eq_of_lt hlt
  have hsize : (dropMsgs w M n).size = w.size - n := rfl
  have hin : ackInWnd (dropMsgs w M n) seq := by
    unfold ackInWnd
    rw [hbase, hsize]
    omega
  have hacked : ∀ i, i < n → msgAcked w (recordVec w M seq vec) i := by
    intro i hi
    have hne : (w.seq + i) % w.cap ≠ seq % w.cap := by
      intro heq
      rw [show seq = w.seq + (seq - w.seq) by omega] at heq
      have hle := hw.size_le
      have := ring_inj (by omega) (by omega) heq
      omega
    unfold msgAcked recordVec
    rw [Function.update_of_ne hne]
    exact hn.acked i hi
  obtain ⟨k, hk, heq⟩ := ackWnd_in (hw.drop M n) hin vec
  rw [recordVec_drop hw M hlo hhi] at hk heq
  refine ⟨n + k, hk.drop hw hlt hn.le_size hacked, ?_⟩
  rw [heq, dropMsgs_dropMsgs hlt]

end

/-! ## What the order may change -/

/-- The base, the number of messages and the messages are the same. -/
def SameMessages (cap : Nat) (w w' : Wnd) : Prop :=
  w.seq = w'.seq ∧ w.size = w'.size ∧ ∀ j, j < cap → w.msg j = w'.msg j

/-- With `vec` as the vector of message `seq`, every message from the first to number `last` is
complete. -/
def AckCompletes (w : Wnd) (seq vec last : Nat) : Prop :=
  ∀ i, w.seq + i ≤ last → msgAcked w (recordVec w w.msg seq vec) i

/-- The message that `seq` names has the vector `vec`. -/
def AckKeeps (w : Wnd) (seq vec : Nat) : Prop := (w.msg (seq % w.cap)).curAckVec = vec

/-- The ACK is outside the window, or it repeats a vector and no message waits to be removed. -/
def AckVoid (w : Wnd) (seq vec : Nat) : Prop :=
  ackInWnd w seq → AckKeeps w seq vec ∧ ¬ msgAcked w w.msg 0

/-- Two ACKs of which only one is used: both have no effect, or the same one. -/
def PairVoid (w : Wnd) (seq₁ vec₁ seq₂ vec₂ : Nat) : Prop :=
  (ackInWnd w seq₁ → ackInWnd w seq₂ → AckKeeps w seq₁ vec₁ ∧ AckKeeps w seq₂ vec₂) ∧
    (ackInWnd w seq₁ → ¬ ackInWnd w seq₂ → AckVoid w seq₁ vec₁) ∧
    (ackInWnd w seq₂ → ¬ ackInWnd w seq₁ → AckVoid w seq₂ vec₂)

/-- The ACK `(late, vec')` has no effect after the ACK `(seq, vec)`. -/
def LateVoid (w : Wnd) (seq vec late vec' : Nat) : Prop :=
  ∀ n, Leads w (recordVec w w.msg seq vec) n →
    AckVoid (dropMsgs w (recordVec w w.msg seq vec) n) late vec'

/-- Two ACKs for one message of the window. -/
def SameMsgOrder (w : Wnd) (seq vec₁ vec₂ : Nat) : Prop :=
  vec₁ = vec₂ ∨ (AckCompletes w seq vec₁ seq ∧ LateVoid w seq vec₁ seq vec₂) ∨
    (AckCompletes w seq vec₂ seq ∧ LateVoid w seq vec₂ seq vec₁)

/-- An ACK that removes the message of the other one takes no vector away. -/
def NotUndone (w : Wnd) (seq vec late vec' : Nat) : Prop :=
  AckCompletes w seq vec late → vec' = (w.msg (late % w.cap)).fullAckVec ∧
    (¬ AckCompletes w late vec' seq → LateVoid w seq vec late vec')

/-- Two ACKs for two messages of the window. -/
def OtherMsgOrder (w : Wnd) (seq₁ vec₁ seq₂ vec₂ : Nat) : Prop :=
  NotUndone w seq₁ vec₁ seq₂ vec₂ ∧ NotUndone w seq₂ vec₂ seq₁ vec₁ ∧
    (AckCompletes w seq₁ vec₁ seq₂ → AckCompletes w seq₂ vec₂ seq₁ →
      ∀ n, Leads w w.msg n → PairVoid (dropMsgs w w.msg n) seq₁ vec₁ seq₂ vec₂)

/-- The order of the two ACKs makes no difference. -/
def AckOrderFree (w : Wnd) (seq₁ vec₁ seq₂ vec₂ : Nat) : Prop :=
  if ackInWnd w seq₁ ∧ ackInWnd w seq₂ then
    if seq₁ = seq₂ then SameMsgOrder w seq₁ vec₁ vec₂ else OtherMsgOrder w seq₁ vec₁ seq₂ vec₂
  else
    (ackInWnd w seq₁ → LateVoid w seq₁ vec₁ seq₂ vec₂) ∧
      (ackInWnd w seq₂ → LateVoid w seq₂ vec₂ seq₁ vec₁)

/-- The same where the window does not pass `4095`, so that a number that has left it does not designate
a message again. -/
def AckOrderPlain (w : Wnd) (seq₁ vec₁ seq₂ vec₂ : Nat) : Prop :=
  ackInWnd w seq₁ → ackInWnd w seq₂ →
    if seq₁ = seq₂ then
      vec₁ = vec₂ ∨ AckCompletes w seq₁ vec₁ seq₁ ∨ AckCompletes w seq₁ vec₂ seq₁
    else
      (AckCompletes w seq₁ vec₁ seq₂ → vec₂ = (w.msg (seq₂ % w.cap)).fullAckVec) ∧
        (AckCompletes w seq₂ vec₂ seq₁ → vec₁ = (w.msg (seq₁ % w.cap)).fullAckVec)

theorem SameMessages.refl (cap : Nat) (w : Wnd) : SameMessages cap w w :=
  ⟨rfl, rfl, fun _ _ => rfl⟩

theorem SameMessages.comm {cap : Nat} {w w' : Wnd} :
    SameMessages cap w w' ↔ SameMessages cap w' w := by
  have hsymm : ∀ v v', SameMessages cap v v' → SameMessages cap v' v := by
    rintro v v' ⟨hseq, hsize, hmsg⟩
    exact ⟨hseq.symm, hsize.symm, fun j hj => (hmsg j hj).symm⟩
  exact ⟨hsymm _ _, hsymm _ _⟩

/-! ## ACKs without effect -/

section

variable {w : Wnd} {M : Nat → Msg} {n seq vec late vec' : Nat}

theorem recordVec_of_keeps (h : (M (seq % w.cap)).curAckVec = vec) : recordVec w M seq vec = M := by
  unfold recordVec
  rw [← h]
  exact Function.update_eq_self ..

theorem recordVec_last (M : Nat → Msg) (seq vec vec' : Nat) :
    recordVec w (recordVec w M seq vec) seq vec' = recordVec w M seq vec' := by
  unfold recordVec
  rw [Function.update_idem, Function.update_self]

/-- The index of a number in the window, and its slot. -/
theorem ackInWnd_index (hin : ackInWnd w seq) :
    w.seq ≤ seq ∧ seq < w.seq + w.size ∧ (w.seq + (seq - w.seq)) % w.cap = seq % w.cap := by
  unfold ackInWnd at hin
  refine ⟨by omega, by omega, ?_⟩
  rw [Nat.add_sub_cancel' (by omega)]

theorem AckCompletes_iff (hin : ackInWnd w late) (h : Leads w (recordVec w w.msg seq vec) n) :
    AckCompletes w seq vec late ↔ late < w.seq + n := by
  obtain ⟨hlo, hhi, -⟩ := ackInWnd_index hin
  have hlt := h.lt_iff (i := late - w.seq) (by omega)
  constructor
  · intro hall
    have := hlt.mpr fun j hj => hall j (by omega)
    omega
  · intro hn i hi
    exact hlt.mp (by omega) i (by omega)

theorem ackWnd_size_le (hw : WndFits w) (seq vec : Nat) : (ackWnd w seq vec).size ≤ w.size := by
  by_cases hin : ackInWnd w seq
  · obtain ⟨n, -, heq⟩ := ackWnd_in hw hin vec
    rw [heq]
    exact Nat.sub_le _ _
  · rw [ackWnd_out hin]

theorem ackVoid_iff (hw : WndFits w) :
    SameMessages w.cap (ackWnd w seq vec) w ↔ AckVoid w seq vec := by
  by_cases hin : ackInWnd w seq
  · obtain ⟨n, hn, heq⟩ := ackWnd_in hw hin vec
    obtain ⟨hlo, hhi, hslot⟩ := ackInWnd_index hin
    have hcap := hw.size_le
    have hle := hn.le_size
    constructor
    · rintro ⟨-, hsize, hmsg⟩ -
      rw [heq] at hsize hmsg
      have hzero : n = 0 := by
        have : w.size - n = w.size := hsize
        omega
      subst hzero
      have hkeep : AckKeeps w seq vec := by
        have h := hmsg (seq % w.cap) (Nat.mod_lt _ (by omega))
        rw [← hslot, dropMsgs_slot hw _ (Nat.zero_le _) (by omega), hslot, recordVec,
          Function.update_self] at h
        exact (congrArg Msg.curAckVec h).symm
      refine ⟨hkeep, ?_⟩
      have := hn.maximal (by omega)
      rwa [recordVec_of_keeps hkeep] at this
    · intro hvoid
      obtain ⟨hkeep, hhead⟩ := hvoid hin
      rw [recordVec_of_keeps hkeep] at hn heq
      have hzero : n = 0 := by
        by_contra hne
        exact hhead (hn.acked 0 (by omega))
      subst hzero
      rw [heq]
      refine ⟨Nat.mod_eq_of_lt hw.seq_lt, rfl, ?_⟩
      intro j _
      have hnone : ¬ ∃ i, i < 0 ∧ (w.seq + i) % w.cap = j := by
        rintro ⟨i, hi, -⟩
        exact absurd hi (Nat.not_lt_zero i)
      unfold dropMsgs
      dsimp only
      rw [if_neg hnone]
  · rw [ackWnd_out hin]
    exact iff_of_true (.refl _ _) fun h => absurd h hin

theorem lateVoid_iff (hw : WndFits w) (hn : Leads w (recordVec w w.msg seq vec) n) :
    SameMessages w.cap (ackWnd (dropMsgs w (recordVec w w.msg seq vec) n) late vec')
      (dropMsgs w (recordVec w w.msg seq vec) n) ↔ LateVoid w seq vec late vec' := by
  refine (ackVoid_iff (hw.drop _ n)).trans ⟨?_, fun h => h n hn⟩
  intro h m hm
  rwa [← hn.unique hm]

/-! ## One message -/

/-- The last vector counts if the message is still there. -/
theorem ackWnd_again (hw : WndFits w) (hin : ackInWnd w seq) (hseq : seq < seqSpace)
    (hn : Leads w (recordVec w w.msg seq vec) n) (hstays : w.seq + n ≤ seq) (vec' : Nat) :
    ackWnd (dropMsgs w (recordVec w w.msg seq vec) n) seq vec' = ackWnd w seq vec' := by
  obtain ⟨-, hhi, -⟩ := ackInWnd_index hin
  obtain ⟨m, hm, heq⟩ := ackWnd_drop hw hn hstays hhi hseq vec'
  obtain ⟨k, hk, heq'⟩ := ackWnd_in hw hin vec'
  rw [recordVec_last] at hm heq
  rw [heq, heq', hm.unique hk]

/-- After a vector that leaves the message in the window, the other one counts alone. -/
theorem sameMsg_late (hw : WndFits w) (hin : ackInWnd w seq) (hseq : seq < seqSpace)
    (hopen : ¬ AckCompletes w seq vec' seq) :
    SameMessages w.cap (ackWnd (ackWnd w seq vec) seq vec') (ackWnd (ackWnd w seq vec') seq vec) ↔
      LateVoid w seq vec seq vec' := by
  obtain ⟨n, hn, heq⟩ := ackWnd_in hw hin vec
  obtain ⟨m, hm, heq'⟩ := ackWnd_in hw hin vec'
  rw [AckCompletes_iff hin hm] at hopen
  have hlast := ackWnd_again hw hin hseq hm (by omega) vec
  rw [← heq', heq] at hlast
  rw [hlast, heq]
  exact lateVoid_iff hw hn

theorem sameMsg_order (hw : WndFits w) (hin : ackInWnd w seq) (hseq : seq < seqSpace)
    (vec vec' : Nat) :
    SameMessages w.cap (ackWnd (ackWnd w seq vec) seq vec') (ackWnd (ackWnd w seq vec') seq vec) ↔
      SameMsgOrder w seq vec vec' := by
  obtain ⟨hlo, hhi, hslot⟩ := ackInWnd_index hin
  by_cases hvec : vec = vec'
  · subst hvec
    exact iff_of_true (.refl _ _) (Or.inl rfl)
  by_cases h : AckCompletes w seq vec seq <;> by_cases h' : AckCompletes w seq vec' seq
  · -- Only one vector completes the message.
    have hfull : ∀ v, AckCompletes w seq v seq → v = (w.msg (seq % w.cap)).fullAckVec := by
      intro v hv
      have := hv (seq - w.seq) (by omega)
      rwa [msgAcked, hslot, recordVec, Function.update_self] at this
    exact absurd ((hfull vec h).trans (hfull vec' h').symm) hvec
  · rw [sameMsg_late hw hin hseq h']
    constructor
    · exact fun hlate => Or.inr (Or.inl ⟨h, hlate⟩)
    · rintro (heq | ⟨-, hlate⟩ | ⟨hdone, -⟩)
      · exact absurd heq hvec
      · exact hlate
      · exact absurd hdone h'
  · rw [SameMessages.comm, sameMsg_late hw hin hseq h]
    constructor
    · exact fun hlate => Or.inr (Or.inr ⟨h', hlate⟩)
    · rintro (heq | ⟨hdone, -⟩ | ⟨-, hlate⟩)
      · exact absurd heq hvec
      · exact absurd hdone h
      · exact hlate
  · refine iff_of_false ?_ ?_
    · -- The message stays in both orders, with the vector that came last.
      rw [sameMsg_late hw hin hseq h']
      intro hlate
      obtain ⟨n, hn, -⟩ := ackWnd_in hw hin vec
      rw [AckCompletes_iff hin hn] at h
      have hbase : (dropMsgs w (recordVec w w.msg seq vec) n).seq = w.seq + n :=
        Nat.mod_eq_of_lt (by omega)
      have hsize : (dropMsgs w (recordVec w w.msg seq vec) n).size = w.size - n := rfl
      have hkeep := (hlate n hn (by unfold ackInWnd; rw [hbase, hsize]; omega)).1
      have hstored := dropMsgs_slot (n := n) hw (recordVec w w.msg seq vec) (i := seq - w.seq)
        (by omega) (by omega)
      rw [hslot, recordVec, Function.update_self] at hstored
      exact hvec ((congrArg Msg.curAckVec hstored).symm.trans hkeep)
    · rintro (heq | ⟨hdone, -⟩ | ⟨hdone, -⟩)
      · exact hvec heq
      · exact h hdone
      · exact h' hdone

/-! ## Two messages -/

section

variable {seq₁ seq₂ vec₁ vec₂ : Nat}

theorem ackInWnd_slot_ne (hw : WndFits w) (h₁ : ackInWnd w seq₁) (h₂ : ackInWnd w seq₂)
    (hne : seq₁ ≠ seq₂) : seq₁ % w.cap ≠ seq₂ % w.cap := by
  obtain ⟨hlo₁, hhi₁, hslot₁⟩ := ackInWnd_index h₁
  obtain ⟨hlo₂, hhi₂, hslot₂⟩ := ackInWnd_index h₂
  have hcap := hw.size_le
  intro heq
  rw [← hslot₁, ← hslot₂] at heq
  have := ring_inj (by omega) (by omega) heq
  omega

theorem recordVec_comm (hslot : seq₁ % w.cap ≠ seq₂ % w.cap) (M : Nat → Msg) (vec₁ vec₂ : Nat) :
    recordVec w (recordVec w M seq₁ vec₁) seq₂ vec₂ =
      recordVec w (recordVec w M seq₂ vec₂) seq₁ vec₁ := by
  unfold recordVec
  rw [Function.update_of_ne hslot.symm, Function.update_of_ne hslot, Function.update_comm hslot]

/-- A message that an ACK for another one removes has its full vector already. -/
theorem AckCompletes.full (hw : WndFits w) (h₁ : ackInWnd w seq₁) (h₂ : ackInWnd w seq₂)
    (hne : seq₁ ≠ seq₂) (h : AckCompletes w seq₁ vec₁ seq₂) :
    (w.msg (seq₂ % w.cap)).curAckVec = (w.msg (seq₂ % w.cap)).fullAckVec := by
  obtain ⟨hlo, -, hslot⟩ := ackInWnd_index h₂
  have := h (seq₂ - w.seq) (by omega)
  rwa [msgAcked, hslot, recordVec, Function.update_of_ne (ackInWnd_slot_ne hw h₁ h₂ hne).symm] at this

/-- Both vectors count if the first ACK leaves the message of the second in the window. -/
theorem ackWnd_both (hw : WndFits w) (h₁ : ackInWnd w seq₁) (h₂ : ackInWnd w seq₂)
    (hseq : seq₂ < seqSpace) (hopen : ¬ AckCompletes w seq₁ vec₁ seq₂) (vec₂ : Nat) :
    ∃ m, Leads w (recordVec w (recordVec w w.msg seq₁ vec₁) seq₂ vec₂) m ∧
      ackWnd (ackWnd w seq₁ vec₁) seq₂ vec₂ =
        dropMsgs w (recordVec w (recordVec w w.msg seq₁ vec₁) seq₂ vec₂) m := by
  obtain ⟨-, hhi, -⟩ := ackInWnd_index h₂
  obtain ⟨n, hn, heq⟩ := ackWnd_in hw h₁ vec₁
  rw [AckCompletes_iff h₂ hn] at hopen
  rw [heq]
  exact ackWnd_drop hw hn (by omega) hhi hseq vec₂

/-- An ACK that takes the full vector of a message away keeps the window from moving past it. -/
theorem taken_vector_stops (hw : WndFits w) (h₁ : ackInWnd w seq₁) (h₂ : ackInWnd w seq₂)
    (hdone : AckCompletes w seq₁ vec₁ seq₂) (htaken : vec₂ ≠ (w.msg (seq₂ % w.cap)).fullAckVec)
    {A : Nat → Msg} {m : Nat} (hm : Leads w A m)
    (hA : A (seq₂ % w.cap) = { w.msg (seq₂ % w.cap) with curAckVec := vec₂ }) :
    w.seq + m ≤ seq₂ ∧ (ackWnd (ackWnd w seq₁ vec₁) seq₂ vec₂).size < w.size - m := by
  obtain ⟨hlo, hhi, hslot⟩ := ackInWnd_index h₂
  obtain ⟨n, hn, heq⟩ := ackWnd_in hw h₁ vec₁
  rw [AckCompletes_iff h₂ hn] at hdone
  have hmle : m ≤ seq₂ - w.seq := by
    by_contra hgt
    have := hm.acked (seq₂ - w.seq) (by omega)
    rw [msgAcked, hslot, hA] at this
    exact htaken this
  have hsize := ackWnd_size_le (hw.drop (recordVec w w.msg seq₁ vec₁) n) seq₂ vec₂
  have hleft : (dropMsgs w (recordVec w w.msg seq₁ vec₁) n).size = w.size - n := rfl
  rw [← heq] at hsize hleft
  have hle := hn.le_size
  omega

/-- One of the two messages is removed by the ACK for the other one. -/
theorem otherMsg_late (hw : WndFits w) (h₁ : ackInWnd w seq₁) (h₂ : ackInWnd w seq₂)
    (hseq : seq₁ < seqSpace) (hne : seq₁ ≠ seq₂) (hdone : AckCompletes w seq₁ vec₁ seq₂)
    (hopen : ¬ AckCompletes w seq₂ vec₂ seq₁) :
    SameMessages w.cap (ackWnd (ackWnd w seq₁ vec₁) seq₂ vec₂)
        (ackWnd (ackWnd w seq₂ vec₂) seq₁ vec₁) ↔
      vec₂ = (w.msg (seq₂ % w.cap)).fullAckVec ∧ LateVoid w seq₁ vec₁ seq₂ vec₂ := by
  have hslot := ackInWnd_slot_ne hw h₁ h₂ hne
  obtain ⟨m, hm, heq⟩ := ackWnd_both hw h₂ h₁ hseq hopen vec₁
  rw [← recordVec_comm hslot] at hm heq
  have hkept : (recordVec w w.msg seq₁ vec₁) (seq₂ % w.cap) = w.msg (seq₂ % w.cap) :=
    Function.update_of_ne hslot.symm ..
  by_cases hfull : vec₂ = (w.msg (seq₂ % w.cap)).fullAckVec
  · -- The vector is stored already, so that only the other ACK counts.
    have hstored : recordVec w (recordVec w w.msg seq₁ vec₁) seq₂ vec₂ =
        recordVec w w.msg seq₁ vec₁ := by
      apply recordVec_of_keeps
      rw [hkept, hfull]
      exact hdone.full hw h₁ h₂ hne
    rw [hstored] at hm heq
    obtain ⟨n, hn, heq₁⟩ := ackWnd_in hw h₁ vec₁
    obtain rfl := hn.unique hm
    rw [heq, heq₁, lateVoid_iff hw hn]
    exact ⟨fun h => ⟨hfull, h⟩, fun h => h.2⟩
  · refine iff_of_false ?_ fun h => hfull h.1
    rintro ⟨-, hsize, -⟩
    have hlt := (taken_vector_stops hw h₁ h₂ hdone hfull hm (by
      rw [recordVec, Function.update_self, hkept])).2
    rw [hsize, heq] at hlt
    exact absurd hlt (Nat.lt_irrefl _)

/-- An ACK that takes back the vector of a message which the other ACK would remove. -/
theorem otherMsg_taken (hw : WndFits w) (h₁ : ackInWnd w seq₁) (h₂ : ackInWnd w seq₂)
    (hseq : seq₂ < seqSpace) (hdone : AckCompletes w seq₁ vec₁ seq₂)
    (hback : AckCompletes w seq₂ vec₂ seq₁)
    (htaken : vec₂ ≠ (w.msg (seq₂ % w.cap)).fullAckVec) :
    ¬ SameMessages w.cap (ackWnd (ackWnd w seq₁ vec₁) seq₂ vec₂)
        (ackWnd (ackWnd w seq₂ vec₂) seq₁ vec₁) := by
  obtain ⟨m, hm, heq⟩ := ackWnd_in hw h₂ vec₂
  obtain ⟨hstop, hlt⟩ := taken_vector_stops hw h₁ h₂ hdone htaken hm (by
    rw [recordVec, Function.update_self])
  rw [AckCompletes_iff h₁ hm] at hback
  -- The first message is gone by then, and its number is not in the window.
  have hbase : (dropMsgs w (recordVec w w.msg seq₂ vec₂) m).seq = w.seq + m :=
    Nat.mod_eq_of_lt (by omega)
  have hout : ¬ ackInWnd (dropMsgs w (recordVec w w.msg seq₂ vec₂) m) seq₁ := fun h => by
    have := (ackInWnd_index h).1
    omega
  rintro ⟨-, hsize, -⟩
  rw [hsize, heq, ackWnd_out hout] at hlt
  exact absurd hlt (Nat.lt_irrefl _)

/-- Two ACKs of which each is applied alone have the same result if they change no vector. -/
theorem pair_keeps (hw : WndFits w) (h₁ : ackInWnd w seq₁) (h₂ : ackInWnd w seq₂)
    (hne : seq₁ ≠ seq₂)
    (hsame : SameMessages w.cap (ackWnd w seq₂ vec₂) (ackWnd w seq₁ vec₁)) :
    AckKeeps w seq₁ vec₁ := by
  obtain ⟨hlo, hhi, hslot⟩ := ackInWnd_index h₁
  obtain ⟨n, hn, heq⟩ := ackWnd_in hw h₁ vec₁
  obtain ⟨m, hm, heq'⟩ := ackWnd_in hw h₂ vec₂
  rw [heq, heq'] at hsame
  obtain ⟨-, hsize, hmsg⟩ := hsame
  have hnm : m = n := by
    have hle := hn.le_size
    have hle' := hm.le_size
    have : w.size - m = w.size - n := hsize
    omega
  subst hnm
  have hcap := hw.size_le
  have hother : recordVec w w.msg seq₂ vec₂ (seq₁ % w.cap) = w.msg (seq₁ % w.cap) :=
    Function.update_of_ne (ackInWnd_slot_ne hw h₁ h₂ hne) ..
  have hown : recordVec w w.msg seq₁ vec₁ (seq₁ % w.cap) =
      { w.msg (seq₁ % w.cap) with curAckVec := vec₁ } := Function.update_self ..
  by_cases hgone : seq₁ - w.seq < m
  · have hfull := hn.acked _ hgone
    have hcur := hm.acked _ hgone
    rw [msgAcked, hslot, hown] at hfull
    rw [msgAcked, hslot, hother] at hcur
    exact hcur.trans hfull.symm
  · have hstored := hmsg (seq₁ % w.cap) (Nat.mod_lt _ (by omega))
    rw [← hslot, dropMsgs_slot hw _ (by omega) (by omega), dropMsgs_slot hw _ (by omega) (by omega),
      hslot, hown, hother] at hstored
    exact congrArg Msg.curAckVec hstored

theorem pairVoid_iff (hw : WndFits w) (hne : seq₁ ≠ seq₂) :
    SameMessages w.cap (ackWnd w seq₂ vec₂) (ackWnd w seq₁ vec₁) ↔
      PairVoid w seq₁ vec₁ seq₂ vec₂ := by
  unfold PairVoid
  by_cases h₁ : ackInWnd w seq₁ <;> by_cases h₂ : ackInWnd w seq₂
  · simp only [h₁, h₂, not_true_eq_false, forall_const, false_implies, and_true]
    constructor
    · intro hsame
      exact ⟨pair_keeps hw h₁ h₂ hne hsame, pair_keeps hw h₂ h₁ hne.symm (SameMessages.comm.mp hsame)⟩
    · rintro ⟨hkeep₁, hkeep₂⟩
      obtain ⟨n, hn, heq⟩ := ackWnd_in hw h₁ vec₁
      obtain ⟨m, hm, heq'⟩ := ackWnd_in hw h₂ vec₂
      rw [recordVec_of_keeps hkeep₁] at hn heq
      rw [recordVec_of_keeps hkeep₂] at hm heq'
      rw [heq, heq', hm.unique hn]
      exact .refl _ _
  · rw [ackWnd_out h₂, SameMessages.comm, ackVoid_iff hw]
    simp only [h₁, h₂, not_false_eq_true, forall_const, false_implies, true_and, and_true]
  · rw [ackWnd_out h₁, ackVoid_iff hw]
    simp only [h₁, h₂, not_false_eq_true, forall_const, false_implies, true_and]
  · rw [ackWnd_out h₁, ackWnd_out h₂]
    simp only [h₁, h₂, false_implies, and_self, iff_true]
    exact .refl _ _

/-- Each ACK removes the message of the other one. -/
theorem otherMsg_both (hw : WndFits w) (h₁ : ackInWnd w seq₁) (h₂ : ackInWnd w seq₂)
    (hne : seq₁ ≠ seq₂) (hdone : AckCompletes w seq₁ vec₁ seq₂)
    (hback : AckCompletes w seq₂ vec₂ seq₁) (hfull₁ : vec₁ = (w.msg (seq₁ % w.cap)).fullAckVec)
    (hfull₂ : vec₂ = (w.msg (seq₂ % w.cap)).fullAckVec) :
    SameMessages w.cap (ackWnd (ackWnd w seq₁ vec₁) seq₂ vec₂)
        (ackWnd (ackWnd w seq₂ vec₂) seq₁ vec₁) ↔
      ∀ n, Leads w w.msg n → PairVoid (dropMsgs w w.msg n) seq₁ vec₁ seq₂ vec₂ := by
  -- Both vectors are stored already.
  have hkeep₁ : AckKeeps w seq₁ vec₁ := (hback.full hw h₂ h₁ hne.symm).trans hfull₁.symm
  have hkeep₂ : AckKeeps w seq₂ vec₂ := (hdone.full hw h₁ h₂ hne).trans hfull₂.symm
  obtain ⟨n, hn, heq⟩ := ackWnd_in hw h₁ vec₁
  obtain ⟨m, hm, heq'⟩ := ackWnd_in hw h₂ vec₂
  rw [recordVec_of_keeps hkeep₁] at hn heq
  rw [recordVec_of_keeps hkeep₂] at hm heq'
  obtain rfl := hn.unique hm
  rw [heq, heq']
  refine (pairVoid_iff (hw.drop w.msg n) hne).trans ⟨?_, fun h => h n hn⟩
  intro h k hk
  rwa [← hn.unique hk]

theorem otherMsg_order (hw : WndFits w) (h₁ : ackInWnd w seq₁) (h₂ : ackInWnd w seq₂)
    (hseq₁ : seq₁ < seqSpace) (hseq₂ : seq₂ < seqSpace) (hne : seq₁ ≠ seq₂) (vec₁ vec₂ : Nat) :
    SameMessages w.cap (ackWnd (ackWnd w seq₁ vec₁) seq₂ vec₂)
        (ackWnd (ackWnd w seq₂ vec₂) seq₁ vec₁) ↔
      OtherMsgOrder w seq₁ vec₁ seq₂ vec₂ := by
  unfold OtherMsgOrder NotUndone
  by_cases hdone : AckCompletes w seq₁ vec₁ seq₂ <;>
    by_cases hback : AckCompletes w seq₂ vec₂ seq₁
  · simp only [hdone, hback, not_true_eq_false, forall_const, false_implies, and_true]
    by_cases hfull₂ : vec₂ = (w.msg (seq₂ % w.cap)).fullAckVec
    · by_cases hfull₁ : vec₁ = (w.msg (seq₁ % w.cap)).fullAckVec
      · rw [otherMsg_both hw h₁ h₂ hne hdone hback hfull₁ hfull₂]
        exact ⟨fun h => ⟨hfull₂, hfull₁, h⟩, fun h => h.2.2⟩
      · refine iff_of_false ?_ fun h => hfull₁ h.2.1
        rw [SameMessages.comm]
        exact otherMsg_taken hw h₂ h₁ hseq₁ hback hdone hfull₁
    · refine iff_of_false ?_ fun h => hfull₂ h.1
      exact otherMsg_taken hw h₁ h₂ hseq₂ hdone hback hfull₂
  · rw [otherMsg_late hw h₁ h₂ hseq₁ hne hdone hback]
    simp only [hdone, hback, not_false_eq_true, forall_const, false_implies, and_true]
  · rw [SameMessages.comm, otherMsg_late hw h₂ h₁ hseq₂ hne.symm hback hdone]
    simp only [hdone, hback, not_false_eq_true, forall_const, false_implies, and_true, true_and]
  · obtain ⟨n, hn, heq⟩ := ackWnd_both hw h₁ h₂ hseq₂ hdone vec₂
    obtain ⟨m, hm, heq'⟩ := ackWnd_both hw h₂ h₁ hseq₁ hback vec₁
    rw [← recordVec_comm (ackInWnd_slot_ne hw h₁ h₂ hne)] at hm heq'
    rw [heq, heq', hn.unique hm]
    simp only [hdone, hback, false_implies, and_self, iff_true]
    exact .refl _ _

/-! ## Windows that do not wrap -/

/-- A number outside the window, or of a message removed, is outside the window that is left. -/
theorem dropMsgs_out (hwrap : w.seq + w.size ≤ seqSpace) (hle : n ≤ w.size)
    (hgone : ¬ ackInWnd w seq ∨ seq < w.seq + n) (M : Nat → Msg) : ¬ ackInWnd (dropMsgs w M n) seq := by
  have hseq : (dropMsgs w M n).seq = (w.seq + n) % seqSpace := rfl
  have hsize : (dropMsgs w M n).size = w.size - n := rfl
  unfold ackInWnd at hgone ⊢
  rw [hseq, hsize]
  by_cases hall : n = w.size
  · omega
  · rw [Nat.mod_eq_of_lt (by omega)]
    omega

/-- The messages that an ACK completes at the front are removed. -/
theorem AckCompletes.removed (hwnd : ackInWnd w late) (h : AckCompletes w seq vec late)
    (hn : Leads w (recordVec w w.msg seq vec) n) : late < w.seq + n := by
  have hlate : w.seq ≤ late ∧ late - w.seq < w.size := by
    unfold ackInWnd at hwnd
    omega
  have := (hn.lt_iff hlate.2).mpr fun j hj => h j (by omega)
  omega

theorem lateVoid_of_unwrapped (hwrap : w.seq + w.size ≤ seqSpace)
    (hgone : ackInWnd w late → AckCompletes w seq vec late) : LateVoid w seq vec late vec' := by
  intro n hn hin
  refine absurd hin (dropMsgs_out hwrap hn.le_size ?_ _)
  by_cases hwnd : ackInWnd w late
  · exact Or.inr ((hgone hwnd).removed hwnd hn)
  · exact Or.inl hwnd

theorem pairVoid_of_unwrapped (hw : WndFits w) (hwrap : w.seq + w.size ≤ seqSpace)
    (h₁ : ackInWnd w seq₁) (h₂ : ackInWnd w seq₂) (hne : seq₁ ≠ seq₂)
    (hdone : AckCompletes w seq₁ vec₁ seq₂) (hback : AckCompletes w seq₂ vec₂ seq₁)
    (hfull₁ : vec₁ = (w.msg (seq₁ % w.cap)).fullAckVec)
    (hfull₂ : vec₂ = (w.msg (seq₂ % w.cap)).fullAckVec) (hn : Leads w w.msg n) :
    PairVoid (dropMsgs w w.msg n) seq₁ vec₁ seq₂ vec₂ := by
  have hkeep₁ : AckKeeps w seq₁ vec₁ := (hback.full hw h₂ h₁ hne.symm).trans hfull₁.symm
  have hkeep₂ : AckKeeps w seq₂ vec₂ := (hdone.full hw h₁ h₂ hne).trans hfull₂.symm
  have hout₂ : ¬ ackInWnd (dropMsgs w w.msg n) seq₂ :=
    dropMsgs_out hwrap hn.le_size (Or.inr (hdone.removed h₂ (by rwa [recordVec_of_keeps hkeep₁]))) _
  have hout₁ : ¬ ackInWnd (dropMsgs w w.msg n) seq₁ :=
    dropMsgs_out hwrap hn.le_size (Or.inr (hback.removed h₁ (by rwa [recordVec_of_keeps hkeep₂]))) _
  exact ⟨fun h => absurd h hout₁, fun h => absurd h hout₁, fun h => absurd h hout₂⟩

theorem ackOrderFree_unwrapped (hw : WndFits w) (hwrap : w.seq + w.size ≤ seqSpace)
    (seq₁ vec₁ seq₂ vec₂ : Nat) :
    AckOrderFree w seq₁ vec₁ seq₂ vec₂ ↔ AckOrderPlain w seq₁ vec₁ seq₂ vec₂ := by
  unfold AckOrderFree AckOrderPlain
  by_cases hboth : ackInWnd w seq₁ ∧ ackInWnd w seq₂
  · obtain ⟨h₁, h₂⟩ := hboth
    simp only [h₁, h₂, and_self, if_true, forall_const]
    split
    · rename_i heq
      unfold SameMsgOrder
      refine or_congr Iff.rfl (or_congr ?_ ?_)
      · exact and_iff_left_of_imp fun h => lateVoid_of_unwrapped hwrap fun _ => h
      · exact and_iff_left_of_imp fun h => lateVoid_of_unwrapped hwrap fun _ => h
    · rename_i hne
      unfold OtherMsgOrder NotUndone
      constructor
      · rintro ⟨hundone₁, hundone₂, -⟩
        exact ⟨fun h => (hundone₁ h).1, fun h => (hundone₂ h).1⟩
      · rintro ⟨hfull₂, hfull₁⟩
        refine ⟨fun h => ⟨hfull₂ h, fun _ => lateVoid_of_unwrapped hwrap fun _ => h⟩,
          fun h => ⟨hfull₁ h, fun _ => lateVoid_of_unwrapped hwrap fun _ => h⟩, fun hdone hback n hn => ?_⟩
        exact pairVoid_of_unwrapped hw hwrap h₁ h₂ hne hdone hback (hfull₁ hback) (hfull₂ hdone) hn
  · rw [if_neg hboth]
    refine iff_of_true ⟨fun h₁ => ?_, fun h₂ => ?_⟩ fun h₁ h₂ => absurd ⟨h₁, h₂⟩ hboth
    · exact lateVoid_of_unwrapped hwrap fun h₂ => absurd ⟨h₁, h₂⟩ hboth
    · exact lateVoid_of_unwrapped hwrap fun h₁ => absurd ⟨h₁, h₂⟩ hboth

end

/-! ## The theorem -/

theorem ackWnd_order (hw : WndFits w) {seq₁ seq₂ : Nat} (hseq₁ : seq₁ < seqSpace)
    (hseq₂ : seq₂ < seqSpace) (vec₁ vec₂ : Nat) :
    SameMessages w.cap (ackWnd (ackWnd w seq₁ vec₁) seq₂ vec₂)
        (ackWnd (ackWnd w seq₂ vec₂) seq₁ vec₁) ↔
      AckOrderFree w seq₁ vec₁ seq₂ vec₂ := by
  unfold AckOrderFree
  by_cases h₁ : ackInWnd w seq₁ <;> by_cases h₂ : ackInWnd w seq₂
  · rw [if_pos ⟨h₁, h₂⟩]
    by_cases heq : seq₁ = seq₂
    · rw [if_pos heq]
      subst heq
      exact sameMsg_order hw h₁ hseq₁ vec₁ vec₂
    · rw [if_neg heq]
      exact otherMsg_order hw h₁ h₂ hseq₁ hseq₂ heq vec₁ vec₂
  · obtain ⟨n, hn, heq⟩ := ackWnd_in hw h₁ vec₁
    rw [if_neg fun h => h₂ h.2, ackWnd_out h₂, heq, lateVoid_iff hw hn]
    exact ⟨fun h => ⟨fun _ => h, fun h' => absurd h' h₂⟩, fun h => h.1 h₁⟩
  · obtain ⟨n, hn, heq⟩ := ackWnd_in hw h₂ vec₂
    rw [if_neg fun h => h₁ h.1, ackWnd_out h₁, heq, SameMessages.comm, lateVoid_iff hw hn]
    exact ⟨fun h => ⟨fun h' => absurd h' h₁, fun _ => h⟩, fun h => h.2 h₂⟩
  · rw [if_neg fun h => h₁ h.1, ackWnd_out h₁, ackWnd_out h₂, ackWnd_out h₁]
    exact iff_of_true (.refl _ _) ⟨fun h => absurd h h₁, fun h => absurd h h₂⟩

end

/-- **The order of two ACKs** makes no difference to the messages of a send window if and only if
neither takes back what the other one has acknowledged. -/
theorem ack_order_iff (cap msgLen segLen : Nat) (hcap : 0 < u16 cap) (seat sw : SendWnd)
    (hrun : SendRun (sendWndOpen seat cap msgLen segLen) sw) (seq₁ vec₁ seq₂ vec₂ : Nat)
    (hseq₁ : seq₁ < seqSpace) (hseq₂ : seq₂ < seqSpace) :
    (SameMessages sw.w.cap (sendWndAck (sendWndAck sw seq₁ vec₁) seq₂ vec₂).w
        (sendWndAck (sendWndAck sw seq₂ vec₂) seq₁ vec₁).w ↔
      AckOrderFree sw.w seq₁ vec₁ seq₂ vec₂) ∧
      (sw.w.seq + sw.w.size ≤ seqSpace →
        (SameMessages sw.w.cap (sendWndAck (sendWndAck sw seq₁ vec₁) seq₂ vec₂).w
            (sendWndAck (sendWndAck sw seq₂ vec₂) seq₁ vec₁).w ↔
          AckOrderPlain sw.w seq₁ vec₁ seq₂ vec₂)) := by
  have hb := hrun.bounded hcap
  have hfits : WndFits sw.w := by
    refine ⟨hb.seq_lt, hb.size_le, ?_⟩
    rw [hb.dims.cap_eq]
    exact Nat.mod_lt _ (by decide)
  simp only [sendWndAck_wnd]
  have horder := ackWnd_order hfits hseq₁ hseq₂ vec₁ vec₂
  exact ⟨horder, fun hwrap => horder.trans (ackOrderFree_unwrapped hfits hwrap seq₁ vec₁ seq₂ vec₂)⟩

/-- The first of four messages is removed, and one segment of the third is acknowledged. -/
def laterAckSample : SendWnd :=
  [SendOp.send [1, 2, 3, 4, 5, 6, 7] 0, .ack 0 3, .ack 2 1].foldl sendOpStep
    (sendWndOpen (zeroSeat (smallCfg 1 2 4)).sendWnd 4 2 1)

theorem ack_order_iff_sample :
    (laterAckSample.w.seq = 1 ∧ laterAckSample.w.size = 3 ∧ (laterAckSample.w.msg 2).curAckVec = 1) ∧
      (SameMessages laterAckSample.w.cap (sendWndAck (sendWndAck laterAckSample 1 3) 2 3).w
          (sendWndAck (sendWndAck laterAckSample 2 3) 1 3).w ↔
        AckOrderFree laterAckSample.w 1 3 2 3) ∧
      (laterAckSample.w.seq + laterAckSample.w.size ≤ seqSpace →
        (SameMessages laterAckSample.w.cap (sendWndAck (sendWndAck laterAckSample 1 3) 2 3).w
            (sendWndAck (sendWndAck laterAckSample 2 3) 1 3).w ↔
          AckOrderPlain laterAckSample.w 1 3 2 3)) :=
  ⟨by decide +kernel,
    ack_order_iff 4 2 1 (by decide) (zeroSeat (smallCfg 1 2 4)).sendWnd laterAckSample
      (Run.exec ⟨trivial, trivial, trivial, trivial⟩) 1 3 2 3 (by decide) (by decide)⟩

/-- A window that holds one complete message of three segments. -/
def ackOrderSample : SendWnd :=
  sendOpStep (sendWndOpen (zeroSeat (smallCfg 1 3 1)).sendWnd 1 3 1) (.send [1, 2, 3] 0)

/-- The ACK with vector `1` was sent before the one with vector `3`. If it arrives after it, the
second segment counts as lost again. -/
theorem delayed_ack_unacknowledges :
    SendRun (sendWndOpen (zeroSeat (smallCfg 1 3 1)).sendWnd 1 3 1) ackOrderSample ∧
      (ackOrderSample.w.msg 0).fullAckVec = 7 ∧ 3 &&& 7 = 3 ∧ 1 &&& 7 = 1 ∧
      ((sendWndAck (sendWndAck ackOrderSample 0 1) 0 3).w.msg 0).curAckVec = 3 ∧
      ((sendWndAck (sendWndAck ackOrderSample 0 3) 0 1).w.msg 0).curAckVec = 1 ∧
      ¬ SameMessages ackOrderSample.w.cap (sendWndAck (sendWndAck ackOrderSample 0 1) 0 3).w
        (sendWndAck (sendWndAck ackOrderSample 0 3) 0 1).w := by
  refine ⟨SendRun.next .start (.send [1, 2, 3] 0), by decide +kernel, by decide, by decide,
    by decide +kernel, by decide +kernel, ?_⟩
  rintro ⟨-, -, hmsg⟩
  have h := congrArg Msg.curAckVec (hmsg 0 (by decide +kernel))
  revert h
  decide +kernel

end NanoArq
