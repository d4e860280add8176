import NanoArq.Sender.Targets

/-!
# Every data frame is genuine

A data frame is genuine when it names a message of the send window, a segment of that message
which is not acknowledged, and carries exactly the accepted bytes of that segment
(`GenuineFrame`).

Two things break this. The send pointer is kept when an ACK removes its message, and goes on
inside the empty or reused slot; and an ACK for a message that still awaits its flush clears the
message's timer, so that it is sent with the ACK vector of a complete message. `CleanPoll` is the
absence of both. `data_frames_genuine` holds for every run of clean polls.

The invariant `SendSound`: a message that awaits its flush is the last one, and its
retransmission timer runs in step with the tinygram timer, so that it is flushed before it is
selected.
-/

namespace NanoArq

open Lib

/-! ## The condition -/

/-- The message with this sequence number holds bytes, and its target ACK vector is still that of a
longer message. -/
def awaitsFlush (w : Wnd) (seq : Nat) : Prop :=
  (w.msg (seq % w.cap)).len ≠ 0 ∧
    vecOf w.segLen (w.msg (seq % w.cap)).len < (w.msg (seq % w.cap)).fullAckVec

instance (w : Wnd) (seq : Nat) : Decidable (awaitsFlush w seq) :=
  inferInstanceAs (Decidable (_ ∧ _))

/-- A valid send pointer is not in the slot of a message that awaits its flush, and it stays in
its message only if that is still in the window. -/
def PointerSound (arq : Arq) (dt : Nat) : Prop :=
  arq.sendWndPtr.valid = true →
    ¬ awaitsFlush (pollTimers arq dt).w arq.sendWndPtr.seq ∧
      (ptrInside arq.sendWndPtr
          ((pollTimers arq dt).w.msg (arq.sendWndPtr.seq % (pollTimers arq dt).w.cap)) →
        inWindow (pollTimers arq dt).w arq.sendWndPtr.seq)

instance (arq : Arq) (dt : Nat) : Decidable (PointerSound arq dt) :=
  inferInstanceAs (Decidable (_ → _))

/-- The poll handles no ACK for a message that awaits its flush, and a poll that may write a frame
finds the send pointer sound. -/
def CleanPoll (arq : Arq) (dt : Nat) : Prop :=
  (pollAcks arq → ¬ awaitsFlush arq.sendWnd.w (pollRh arq).ackNum) ∧
    (sendFrameFree arq → PointerSound arq dt)

instance (arq : Arq) (dt : Nat) : Decidable (CleanPoll arq dt) :=
  inferInstanceAs (Decidable ((_ → _) ∧ (_ → _)))

def CleanPolls (arq : Arq) : Call → Prop
  | .poll dt => CleanPoll arq dt
  | _ => True

instance (arq : Arq) : (c : Call) → Decidable (CleanPolls arq c)
  | .poll dt => inferInstanceAs (Decidable (CleanPoll arq dt))
  | .send _ | .flush | .recv _ | .sendPtrGet | .sendPtrRelease | .recvFill _ | .connect | .reset =>
    inferInstanceAs (Decidable True)

/-! ## The invariant -/

structure SendSound (d : Dims) (sw : SendWnd) (base : Nat) (content : List UInt8) : Prop where
  targets : SendTargets d sw base content
  cur : ∀ i, i < sw.w.size → (sw.w.msg ((base + i) % d.cap)).curAckVec < seqSpace
  awaits : ∀ i, i < sw.w.size →
    vecOf d.segLen (sw.w.msg ((base + i) % d.cap)).len <
        (sw.w.msg ((base + i) % d.cap)).fullAckVec →
      sw.tinyOn = true ∧ sw.rtx ((base + i) % d.cap) = sw.tiny

section

variable {d : Dims} {sw : SendWnd} {arq : Arq} {base : Nat} {content : List UInt8}

/-- Only the last message can await its flush. -/
theorem SendSound.awaits_last (hs : SendSound d sw base content) {i : Nat} (hi : i < sw.w.size)
    (haw : vecOf d.segLen (sw.w.msg ((base + i) % d.cap)).len <
      (sw.w.msg ((base + i) % d.cap)).fullAckVec) : i = sw.w.size - 1 := by
  by_contra hne
  have hl := hs.targets.layout
  have hnext := hl.lt_size.mp (show i + 1 < sw.w.size by omega)
  have hlen : (sw.w.msg ((base + i) % d.cap)).len = d.msgLen := by
    rw [hl.len i hi]
    rw [Nat.add_mul] at hnext
    omega
  have := hs.targets.complete hi hlen
  omega

theorem SendSound.send (hs : SendSound d sw base content) (data : List UInt8) (tiny : Nat) :
    SendSound d (sendWndSend sw data tiny).1 base
      (content ++ data.take (sendWndSend sw data tiny).2) := by
  by_cases hdata : data.length = 0
  · rw [sendWndSend_nil _ hdata]
    simpa using hs
  obtain ⟨htargets, hcur, hawaits⟩ := hs
  have hl := htargets.layout
  have htargets' := htargets.send data tiny
  obtain ⟨htaken, t, n, rem, hsp⟩ := sendWndSend_spec hl hdata tiny
  have hl' := hsp.layout hl
  rw [htaken] at htargets' ⊢
  generalize (sendWndSend sw data tiny).1 = sw' at hsp hl' htargets' ⊢
  generalize data.take (sendTaken d content data) = taken at hsp hl' htargets' ⊢
  have hsizeLe := hsp.size_le
  have hsizeEq := hsp.size_eq
  have hlast := hsp.last
  have hremLt := hsp.rem_lt
  have hcur' : ∀ i, i < sw'.w.size → (sw'.w.msg ((base + i) % d.cap)).curAckVec < seqSpace := by
    intro i hi
    rw [(hsp.vectors (by omega)).1]
    by_cases hold : i < sw.w.size
    · exact hcur i hold
    · rw [hl.idle i (by omega) (by omega)]
      exact show 0 < seqSpace by decide
  refine ⟨htargets', hcur', ?_⟩
  intro i hi haw
  -- A message that awaits its flush is incomplete, so it is the last one.
  have hil : i = t + n ∧ rem ≠ 0 := by
    have hnot : ¬ (sw'.w.msg ((base + i) % d.cap)).len = d.msgLen := by
      intro hlen
      have := htargets'.complete hi hlen
      omega
    rw [hl'.len i hi, hsp.split] at hnot
    by_contra hne
    have hlt : i < t + n := by
      split at hsizeEq <;> omega
    have := Nat.mul_le_mul_right d.msgLen (show i + 1 ≤ t + n by omega)
    rw [Nat.add_mul] at this
    omega
  obtain ⟨rfl, h0⟩ := hil
  rw [if_neg h0] at hsizeEq
  refine ⟨by rw [hsp.tinyOn, decide_eq_true h0], ?_⟩
  rw [hsp.rtx _ (by omega), hsp.tiny, if_neg (by omega)]
  by_cases hgrow : sw.w.size < sw'.w.size
  · rw [if_pos ⟨rfl, h0, hgrow⟩, if_pos ⟨h0, hgrow⟩]
  · -- The message was there before, and already awaited its flush.
    have hold : t + n < sw.w.size := by omega
    rw [if_neg (fun h => hgrow h.2.2), if_neg (fun h => hgrow h.2)]
    refine (hawaits _ hold ?_).2
    obtain ⟨hpos', hle'⟩ := hl'.len_bounds hi
    rw [(hsp.vectors (by omega)).2] at haw
    refine Nat.lt_of_le_of_lt (vecOf_mono ?_ hle') haw
    rw [hl.len _ hold, hl'.len _ hi, List.length_append]
    omega

/-- After a flush no message awaits one. -/
theorem SendSound.flush (hs : SendSound d sw base content) :
    SendSound d (sendWndFlush sw) base content ∧
      ∀ i, i < (sendWndFlush sw).w.size →
        ¬ vecOf d.segLen ((sendWndFlush sw).w.msg ((base + i) % d.cap)).len <
          ((sendWndFlush sw).w.msg ((base + i) % d.cap)).fullAckVec := by
  have hl := hs.targets.layout
  have hsize : (sendWndFlush sw).w.size = sw.w.size := by
    rw [sendWndFlush_w]
  have hdone : ∀ i, i < (sendWndFlush sw).w.size →
      ¬ vecOf d.segLen ((sendWndFlush sw).w.msg ((base + i) % d.cap)).len <
        ((sendWndFlush sw).w.msg ((base + i) % d.cap)).fullAckVec := by
    intro i hi haw
    rw [hsize] at hi
    have hne : sw.w.size ≠ 0 := by omega
    obtain ⟨hpos, -⟩ := hl.len_bounds hi
    rw [sendWndFlush_msg, hl.last_slot hne, hl.shape.segLen] at haw
    by_cases hlast : i = sw.w.size - 1
    · rw [if_pos ⟨hne, by omega, by rw [hlast]⟩] at haw
      exact lt_irrefl _ haw
    · rw [if_neg] at haw
      · exact hlast (hs.awaits_last hi haw)
      · rintro ⟨-, -, heq⟩
        have hcap := hl.size_le
        exact hlast (ring_inj (by omega) (by omega) heq)
  refine ⟨⟨hs.targets.flush, ?_, ?_⟩, hdone⟩
  · intro i hi
    rw [hsize] at hi
    rw [sendWndFlush_msg]
    split <;> exact hs.cur i hi
  · intro i hi haw
    exact absurd haw (hdone i hi)

theorem sendWndAck_timers (sw : SendWnd) (seq vec : Nat) :
    (sendWndAck sw seq vec).tiny = sw.tiny ∧ (sendWndAck sw seq vec).tinyOn = sw.tinyOn ∧
      ∀ j, j ≠ seq % sw.w.cap → (sendWndAck sw seq vec).rtx j = sw.rtx j := by
  unfold sendWndAck
  split
  · refine ⟨rfl, rfl, ?_⟩
    intro j hj
    dsimp only
    split
    · exact Function.update_of_ne hj _ _
    · rfl
  · exact ⟨rfl, rfl, fun _ _ => rfl⟩

/-- An ACK for a message that awaits no flush. -/
theorem SendSound.ack (hs : SendSound d arq.sendWnd base content)
    (hok : pollAcks arq → ¬ awaitsFlush arq.sendWnd.w (pollRh arq).ackNum) :
    SendSound d (pollAcked arq) (base + pollRetired arq)
      (content.drop (pollRetired arq * d.msgLen)) := by
  obtain ⟨htargets, hcur, hawaits⟩ := hs
  have hl := htargets.layout
  obtain ⟨-, -, -, hmsg⟩ := pollAcked_msgs hl
  obtain ⟨hsize, -⟩ := pollAcked_layout hl
  have hcap := hl.size_le
  have hmsgs : ∀ i, i < (pollAcked arq).w.size →
      (pollAcked arq).w.msg ((base + pollRetired arq + i) % d.cap) =
        pollMsgs arq ((base + (pollRetired arq + i)) % d.cap) := by
    intro i hi
    rw [Nat.add_assoc, hmsg _ (by omega) (by omega)]
  refine ⟨htargets.ack, ?_, ?_⟩
  · intro i hi
    rw [hmsgs i hi]
    rcases (pollMsgs_vectors arq ((base + (pollRetired arq + i)) % d.cap)).2 with h | ⟨-, -, h⟩
    · rw [h]
      exact hcur _ (by omega)
    · rw [h]
      exact pollRh_curAckVec_lt arq
  · intro i hi haw
    rw [hmsgs i hi, (pollMsgs_vectors _ _).1, pollMsgs_len] at haw
    have hold := hawaits (pollRetired arq + i) (by omega) haw
    rw [Nat.add_assoc]
    by_cases hin : pollAcks arq
    · have hacked : pollAcked arq = sendWndAck arq.sendWnd (pollRh arq).ackNum
          (pollRh arq).curAckVec := if_pos hin.1
      obtain ⟨htiny, htinyOn, hrtx⟩ := sendWndAck_timers arq.sendWnd (pollRh arq).ackNum
        (pollRh arq).curAckVec
      rw [hacked, htiny, htinyOn, hrtx]
      · exact hold
      · -- The ACK names another message.
        intro heq
        obtain ⟨hpos, -⟩ := hl.len_bounds (show pollRetired arq + i < arq.sendWnd.w.size by omega)
        refine hok hin ⟨?_, ?_⟩
        · rw [← heq]
          omega
        · rw [← heq, hl.shape.segLen]
          exact haw
    · rw [pollAcked_of_not hin]
      exact hold

/-- After the timers a message that awaits its flush has time left. -/
theorem SendSound.timers (hs : SendSound d arq.sendWnd base content)
    (hok : pollAcks arq → ¬ awaitsFlush arq.sendWnd.w (pollRh arq).ackNum) (dt : Nat) :
    SendSound d (pollTimers arq dt) (base + pollRetired arq)
        (content.drop (pollRetired arq * d.msgLen)) ∧
      ∀ i, i < (pollTimers arq dt).w.size →
        (pollTimers arq dt).rtx ((base + pollRetired arq + i) % d.cap) = 0 →
          ¬ vecOf d.segLen
              ((pollTimers arq dt).w.msg ((base + pollRetired arq + i) % d.cap)).len <
            ((pollTimers arq dt).w.msg ((base + pollRetired arq + i) % d.cap)).fullAckVec := by
  obtain ⟨⟨hl, hfull⟩, hcur, hawaits⟩ := hs.ack hok
  have hstep : SendSound d (sendWndStep (pollAcked arq) dt) (base + pollRetired arq)
      (content.drop (pollRetired arq * d.msgLen)) := by
    refine ⟨⟨hl, hfull⟩, hcur, ?_⟩
    intro i hi haw
    obtain ⟨hon, hrtx⟩ := hawaits i hi haw
    refine ⟨hon, ?_⟩
    rw [sendWndStep_rtx hl dt hi, hrtx]
    change _ = if (pollAcked arq).tinyOn then subSat (pollAcked arq).tiny dt
      else (pollAcked arq).tiny
    rw [if_pos hon, subSat_eq]
  rw [pollTimers_eq]
  split
  · obtain ⟨hflush, hdone⟩ := hstep.flush
    refine ⟨⟨⟨hflush.targets.layout, hflush.targets.full⟩, hflush.cur, ?_⟩, ?_⟩
    · intro i hi haw
      exact absurd haw (hdone i hi)
    · intro i hi _
      exact hdone i hi
  · rename_i hexpired
    refine ⟨hstep, ?_⟩
    intro i hi hrtx haw
    obtain ⟨hon, hrtx'⟩ := hstep.awaits i hi haw
    exact hexpired ⟨hon, by rw [← hrtx', hrtx]⟩

/-! ## The pointer after a poll -/

/-- The pointer is on a segment of a message in the window that is not acknowledged. -/
structure PointsAt (d : Dims) (sw : SendWnd) (base : Nat) (p : SendWndPtr) : Prop where
  index : wndIndex sw.w p.seq < sw.w.size
  seg : p.seg < segCount d.segLen (sw.w.msg (p.seq % sw.w.cap)).len
  zero : (sw.w.msg (p.seq % sw.w.cap)).curAckVec.testBit p.seg = false

theorem pow_lt_pow_sub {a c : Nat} (h : 2 ^ a - 1 < 2 ^ c - 1) : a < c := by
  by_contra hge
  have := Nat.pow_le_pow_right (show 0 < 2 by omega) (Nat.not_lt.mp hge)
  omega

theorem SendSound.next (hs : SendSound d sw base content)
    (hready : ∀ i, i < sw.w.size → sw.rtx ((base + i) % d.cap) = 0 →
      ¬ vecOf d.segLen (sw.w.msg ((base + i) % d.cap)).len <
        (sw.w.msg ((base + i) % d.cap)).fullAckVec)
    {p : SendWndPtr} (hseg : p.valid = true → p.seg ≤ 12)
    (hptr : p.valid = true → ¬ awaitsFlush sw.w p.seq ∧
      (ptrInside p (sw.w.msg (p.seq % sw.w.cap)) → inWindow sw.w p.seq))
    (hvalid : (sendWndPtrNext p sw).1.valid = true) :
    PointsAt d sw base (sendWndPtrNext p sw).1 := by
  have hl := hs.targets.layout
  rcases sendWndPtrNext_cases p sw with ⟨hp, hin, hres⟩ | ⟨p', hres⟩
  · obtain ⟨haw, hwnd⟩ := hptr hp
    have hidx := hwnd hin
    have hslot := hl.slot_of_seq p.seq
    obtain ⟨hpos, -⟩ := hl.len_bounds hidx
    obtain ⟨c, hfull, -, hc⟩ := hs.targets.count hidx
    have hflushed : ¬ vecOf d.segLen (sw.w.msg (p.seq % sw.w.cap)).len <
        (sw.w.msg (p.seq % sw.w.cap)).fullAckVec := by
      intro h
      rw [← hl.shape.segLen] at h
      refine haw ⟨?_, h⟩
      rw [hslot]
      omega
    rw [← hslot] at hc
    have hc := hc hflushed
    have hcur := hs.cur _ hidx
    rw [← hslot] at hfull hcur
    obtain ⟨-, hzero, -⟩ := @ptrAdvance_spec p (sw.w.msg (p.seq % sw.w.cap))
      (Nat.lt_of_lt_of_le hcur (by decide)) ((hseg hp).trans (by omega))
    unfold ptrInside at hin
    rw [hfull] at hin
    rw [hres]
    exact ⟨hidx, Nat.lt_of_lt_of_le (pow_lt_pow_sub hin) hc, hzero⟩
  · obtain ⟨i, hi, hseq, hrtx, hopen, hctz⟩ := search_selected hl hres hvalid
    have hcap := hl.size_le
    have hcapLe := d.cap_le
    have hidx : wndIndex sw.w (sendWndPtrNext p sw).1.seq = i := by
      rw [hseq]
      exact hl.index_of_seq (show i < 4096 by omega)
    have hslot := hl.slot_of_seq (sendWndPtrNext p sw).1.seq
    rw [hidx] at hslot
    obtain ⟨c, hfull, -, hc⟩ := hs.targets.count hi
    have hc := hc (hready i hi hrtx)
    have hcur : (sw.w.msg ((base + i) % d.cap)).curAckVec < 4096 := hs.cur i hi
    obtain ⟨hzero, -⟩ := ctz_not32 (show (sw.w.msg ((base + i) % d.cap)).curAckVec < 4294967295
      by omega)
    rw [hfull] at hopen
    refine ⟨by rw [hidx]; exact hi, ?_, ?_⟩ <;> rw [hslot, hctz]
    · exact Nat.lt_of_lt_of_le (lt_of_first_zero hzero hopen) hc
    · exact hzero.zero

/-! ## Runs -/

/-- The send side of a sender all of whose polls were clean. -/
structure HistSound (d : Dims) (h : SendHist) : Prop where
  wnd : SendSound d h.arq.sendWnd h.base h.content
  ptr : h.arq.sendWndPtr.valid = true → h.arq.sendWndPtr.seg ≤ 12

variable {h : SendHist}

/-- The segment under the pointer, when a clean poll has moved it. -/
theorem HistSound.points (hs : HistSound d h) {dt : Nat} (hok : CleanPoll h.arq dt)
    (hfree : sendFrameFree h.arq)
    (hvalid : (sendWndPtrNext h.arq.sendWndPtr (pollTimers h.arq dt)).1.valid = true) :
    PointsAt d (pollTimers h.arq dt) (h.base + pollRetired h.arq)
      (sendWndPtrNext h.arq.sendWndPtr (pollTimers h.arq dt)).1 := by
  obtain ⟨htimers, hready⟩ := hs.wnd.timers hok.1 dt
  exact htimers.next hready hs.ptr (hok.2 hfree) hvalid

theorem PointsAt.seg_le {p : SendWndPtr} (hp : PointsAt d sw base p)
    (hl : SendLayout d sw.w base content) : p.seg ≤ 12 := by
  have hslot := hl.slot_of_seq p.seq
  obtain ⟨-, hle⟩ := hl.len_bounds hp.index
  rw [← hslot] at hle
  have := (vecOf_eq hle).2
  have := d.segs_le
  have := hp.seg
  omega

theorem HistSound.poll (b : Build) (hs : HistSound d h) {dt : Nat} (hok : CleanPoll h.arq dt) :
    HistSound d (sendHistStep b h (.poll dt)) := by
  obtain ⟨htimers, -⟩ := hs.wnd.timers hok.1 dt
  have hlayout := sendHistStep_layout b hs.wnd.targets.layout (.poll dt)
  have hw : (sendHistStep b h (.poll dt)).arq.sendWnd = (pollWork b h.arq dt).sendWnd := rfl
  have hptr : (sendHistStep b h (.poll dt)).arq.sendWndPtr = (pollWork b h.arq dt).sendWndPtr := rfl
  have hbase : (sendHistStep b h (.poll dt)).base = h.base + pollRetired h.arq :=
    congrArg (h.base + ·) (poll_retired b hs.wnd.targets.layout dt).1
  rw [hw] at hlayout
  rw [hbase] at hlayout
  constructor
  · rw [hw, hbase]
    refine ⟨⟨hlayout, ?_⟩, ?_, ?_⟩
    · rw [pollWork_sendWnd_w]
      exact htimers.targets.full
    · rw [pollWork_sendWnd_w]
      exact htimers.cur
    · intro i hi haw
      rw [pollWork_sendWnd_w] at hi haw
      obtain ⟨hon, hrtx⟩ := htimers.awaits i hi haw
      rw [pollWork_sendWnd]
      split
      · -- The timer of the completed message is restarted; it is not this one.
        rename_i hcompleted
        obtain ⟨hsound, -⟩ := hok.2 hcompleted.1 (sendWndPtrNext_completed hcompleted.2)
        refine ⟨hon, ?_⟩
        dsimp only
        rw [Function.update_of_ne]
        · exact hrtx
        · intro heq
          obtain ⟨hpos, -⟩ := htimers.targets.layout.len_bounds hi
          refine hsound ⟨?_, ?_⟩
          · rw [← heq]
            omega
          · rw [← heq, htimers.targets.layout.shape.segLen]
            exact haw
      · exact ⟨hon, hrtx⟩
  · rw [hptr, pollWork_sendWndPtr]
    split
    · rename_i hfree
      intro hvalid
      exact (hs.points hok hfree hvalid).seg_le htimers.targets.layout
    · exact hs.ptr

theorem HistSound.start (hl : SendLayout d arq.sendWnd.w 0 []) (hsize : arq.sendWnd.w.size = 0)
    (hptr : arq.sendWndPtr.valid = false) : HistSound d (.start arq) := by
  refine ⟨⟨⟨hl, ?_⟩, ?_, ?_⟩, ?_⟩
  · intro i hi
    exact absurd hi (by rw [SendHist.start, hsize]; omega)
  · intro i hi
    exact absurd hi (by rw [SendHist.start, hsize]; omega)
  · intro i hi
    exact absurd hi (by rw [SendHist.start, hsize]; omega)
  · intro hvalid
    exact absurd hvalid (by rw [SendHist.start, hptr]; decide)

theorem HistSound.init {b : Build} {cfg : Cfg} {seat arq₀ : Arq}
    (hinit : arqInit b cfg seat = .ok arq₀) (hdims : cfg.Has d cfg.sendWindowSizeInMessages) :
    HistSound d (.start arq₀) := by
  refine .start (arqInit_sendLayout hinit hdims) ?_ ?_ <;> rw [arqInit_ok hinit] <;> rfl

theorem HistSound.step (b : Build) (hs : HistSound d h) (c : Call) (hok : CleanPolls h.arq c) :
    HistSound d (sendHistStep b h c) := by
  have hother : (∀ data, c ≠ .send data) → c ≠ .flush → (∀ dt, c ≠ .poll dt) → c ≠ .reset →
      SendSound d (perform b h.arq c).sendWnd h.base h.content ∧
        ((perform b h.arq c).sendWndPtr.valid = true → (perform b h.arq c).sendWndPtr.seg ≤ 12) := by
    intro hsend hflush hpoll hreset
    obtain ⟨hsw, hsp⟩ := perform_sendWnd b h.arq hsend hflush hpoll hreset
    rw [hsw, hsp]
    exact ⟨hs.wnd, hs.ptr⟩
  cases c with
  | send data =>
    constructor <;> simp only [sendHistStep, perform, arqSend]
    · split
      · simpa using hs.wnd
      · exact hs.wnd.send data _
    · split <;> exact hs.ptr
  | flush => exact ⟨hs.wnd.flush.1, hs.ptr⟩
  | poll dt => exact hs.poll b hok
  | reset => exact .start (wndRst_layout hs.wnd.targets.layout.shape) rfl rfl
  | recv | sendPtrGet | sendPtrRelease | recvFill | connect =>
    obtain ⟨hwnd, hptr⟩ := hother (by simp) (by simp) (by simp) (by simp)
    exact ⟨hwnd, hptr⟩

end

/-! ## The theorem -/

/-- The data frame is a segment of a message in the window, as it was accepted, and not
acknowledged. -/
structure GenuineFrame (w : Wnd) (content : List UInt8) (hd : FrameHdr) (payload : List UInt8) :
    Prop where
  inWindow : inWindow w hd.seqNum
  segId : hd.segId < segCount w.segLen (messageOf w content hd.seqNum).length
  msgLen : hd.msgLen = segCount w.segLen (messageOf w content hd.seqNum).length
  unacked : (w.msg (hd.seqNum % w.cap)).curAckVec.testBit hd.segId = false
  payload : payload =
    ((messageOf w content hd.seqNum).drop (hd.segId * w.segLen)).take w.segLen

theorem HistSound.genuine {d : Dims} {h : SendHist} (b : Build) (hs : HistSound d h) {dt : Nat}
    (hok : CleanPoll h.arq dt) {hd : FrameHdr} {payload : List UInt8}
    (hframe : pollFrame (pollWork b h.arq dt) = some (hd, payload)) (hseg : hd.seg = true) :
    GenuineFrame (sendHistStep b h (.poll dt)).arq.sendWnd.w
      (sendHistStep b h (.poll dt)).content hd payload := by
  obtain ⟨hfree, hvalid, hdata⟩ := (pollFrame_data b h.arq dt).2 hd payload hframe hseg
  have hpoints := hs.points hok hfree hvalid
  have hw : (sendHistStep b h (.poll dt)).arq.sendWnd.w = (pollTimers h.arq dt).w :=
    pollWork_sendWnd_w b h.arq dt
  have hl := sendHistStep_layout b hs.wnd.targets.layout (.poll dt)
  rw [hw] at hl ⊢
  obtain ⟨-, hseqNum, hsegId, hmsgLen, -, hpayload⟩ := hdata
  generalize (sendWndPtrNext h.arq.sendWndPtr (pollTimers h.arq dt)).1 = p at *
  obtain ⟨hidx, hlt, hzero⟩ := hpoints
  have hlen := hl.message_length hidx
  rw [hl.shape.segLen] at hmsgLen
  refine ⟨?_, ?_, ?_, ?_, ?_⟩ <;> rw [hseqNum]
  · exact hidx
  · rw [hlen, hsegId, hl.shape.segLen]
    exact hlt
  · rw [hlen, hmsgLen, hl.shape.segLen]
  · rw [hsegId]
    exact hzero
  · rw [hpayload, hsegId, hl.shape.segLen]
    exact hl.segment hidx hlt

theorem histSound_run {b : Build} {cfg : Cfg} {seat arq₀ : Arq} {d : Dims}
    (hinit : arqInit b cfg seat = .ok arq₀) (hdims : cfg.Has d cfg.sendWindowSizeInMessages)
    {h : SendHist} (hrun : Run (sendHistStep b) (fun h c => CleanPolls h.arq c) (.start arq₀) h) :
    HistSound d h := by
  refine hrun.invariant (.init hinit hdims) ?_
  intro h c hs hc
  exact hs.step b c hc

/-- **Every emitted data frame is genuine**, in every run in which the polls are clean. -/
theorem data_frames_genuine (b : Build) (cfg : Cfg) (seat arq₀ : Arq)
    (hinit : arqInit b cfg seat = .ok arq₀) (hcfg : cfg.SendRegular) (h : SendHist)
    (hrun : Run (sendHistStep b) (fun h c => CleanPolls h.arq c) (.start arq₀) h) (dt : Nat)
    (hok : CleanPoll h.arq dt) (hd : FrameHdr) (payload : List UInt8)
    (hframe : pollFrame (pollWork b h.arq dt) = some (hd, payload)) (hseg : hd.seg = true) :
    GenuineFrame (sendHistStep b h (.poll dt)).arq.sendWnd.w
      (sendHistStep b h (.poll dt)).content hd payload := by
  obtain ⟨d, hdims⟩ := hcfg.dims hinit
  exact (histSound_run hinit hdims hrun).genuine b hok hframe hseg

theorem data_frames_genuine_sample :
    let h := sampleCalls.foldl (sendHistStep ⟨false⟩) (.start (freshArq ⟨false⟩ (smallCfg 1 2 4)))
    GenuineFrame (sendHistStep ⟨false⟩ h (.poll 2)).arq.sendWnd.w
      (sendHistStep ⟨false⟩ h (.poll 2)).content
      { frameHdrInit with segLen := 1, msgLen := 2, segId := 1, seg := true } [8] :=
  data_frames_genuine ⟨false⟩ (smallCfg 1 2 4) (zeroSeat _) _ (arqInit_zeroSeat (by decide))
    ⟨⟨2, by decide, by decide⟩, by decide, by decide⟩ _ (Run.exec (by decide +kernel)) 2
    (by decide +kernel) _ _ (by decide +kernel) rfl

/-- One message of one segment is transmitted, and its ACK arrives. -/
def stalePointerCalls : List Call :=
  [.send [7], .flush, .poll 0, .sendPtrGet, .sendPtrRelease,
    .recvFill (ackBytes (smallCfg 1 2 1) 0 1)]

/-- The poll that handles the ACK empties the window and writes a data frame for a second segment
of the message that is gone. -/
theorem stale_pointer_frame :
    let h := stalePointerCalls.foldl (sendHistStep ⟨false⟩)
      (.start (freshArq ⟨false⟩ (smallCfg 1 2 1)))
    Guarded (sendHistStep ⟨false⟩) HonestAcks (.start (freshArq ⟨false⟩ (smallCfg 1 2 1)))
        (stalePointerCalls ++ [.poll 0]) ∧
      pollFrame (pollWork ⟨false⟩ h.arq 0) =
        some ({ frameHdrInit with segLen := 1, segId := 1, seg := true }, [0]) ∧
      (sendHistStep ⟨false⟩ h (.poll 0)).arq.sendWnd.w.size = 0 ∧
      ¬ GenuineFrame (sendHistStep ⟨false⟩ h (.poll 0)).arq.sendWnd.w
        (sendHistStep ⟨false⟩ h (.poll 0)).content
        { frameHdrInit with segLen := 1, segId := 1, seg := true } [0] :=
  ⟨by decide +kernel, by decide +kernel, by decide +kernel,
    fun hg => absurd hg.inWindow (by decide +kernel)⟩

end NanoArq
