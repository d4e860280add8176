import NanoArq.Sender.Pointer
import Mathlib.Data.List.Nodup

/-!
# A transmission sweep

With nothing but free send frames, `arq__send_poll` walks through the messages of the window that
are due and sends the segments of each that are not acknowledged.

* `Owed`: what a window and a send pointer still have to send. `sendPoll_owed` is the step: a poll
  sends the first segment owed, and owes the rest.
* `sweep_exact`: from an invalid send pointer the polls send `dueSegments` in order, and nothing
  after them.
-/

namespace NanoArq

/-! ## Scanning -/

section

variable {β : Type*} {n i : Nat} {f : Nat → List β}

/-- The first index that is selected contributes first. -/
theorem range_flatMap_first {q q' : Nat → Prop} [DecidablePred q] [DecidablePred q'] (hi : i < n)
    (hq : q i) (hfirst : ∀ k, k < i → ¬ q k) (hq' : ∀ k, k < n → (q' k ↔ q k ∧ k ≠ i)) :
    (List.range n).flatMap (fun k => if q k then f k else []) =
      f i ++ (List.range n).flatMap (fun k => if q' k then f k else []) := by
  obtain ⟨r, rfl⟩ := Nat.exists_eq_add_of_le (Nat.succ_le_of_lt hi)
  have hbefore : ∀ p : Nat → Prop, ∀ _ : DecidablePred p, (∀ k, k < i → ¬ p k) →
      (List.range i).flatMap (fun k => if p k then f k else []) = [] := by
    intro p _ hp
    rw [List.flatMap_eq_nil_iff]
    intro k hk
    exact if_neg (hp k (List.mem_range.mp hk))
  have hnew : ¬ q' i := fun h => ((hq' i (by omega)).mp h).2 rfl
  rw [List.range_add, List.range_succ, List.flatMap_append, List.flatMap_append, List.flatMap_append,
    List.flatMap_append, List.flatMap_singleton, List.flatMap_singleton, if_pos hq, if_neg hnew,
    hbefore q _ hfirst, hbefore q' _ fun k hk h => hfirst k hk ((hq' k (by omega)).mp h).1]
  simp only [List.nil_append, List.flatMap_map]
  congr 1
  apply List.flatMap_congr
  intro k hk
  have hlt := List.mem_range.mp hk
  have hiff := hq' (i.succ + k) (by omega)
  by_cases hsel : q (i.succ + k)
  · rw [if_pos hsel, if_pos (hiff.mpr ⟨hsel, by omega⟩)]
  · rw [if_neg hsel, if_neg fun h => hsel (hiff.mp h).1]

theorem range_flatMap_none {q : Nat → Prop} [DecidablePred q] (hq : ∀ k, k < n → ¬ q k) :
    (List.range n).flatMap (fun k => if q k then f k else []) = [] := by
  rw [List.flatMap_eq_nil_iff]
  intro k hk
  exact if_neg (hq k (List.mem_range.mp hk))

end

/-- The segments of a message of `n` segments from `s` on that `m` has not had acknowledged. -/
def unackedFrom (m : Msg) (n s : Nat) : List Nat :=
  (List.range' s (n - s)).filter fun seg => !m.curAckVec.testBit seg

section

variable {m : Msg} {n s j : Nat}

theorem unackedFrom_next (hs : s ≤ j) (hj : j < n) (hzero : m.curAckVec.testBit j = false)
    (hones : ∀ i, s ≤ i → i < j → m.curAckVec.testBit i = true) :
    unackedFrom m n s = j :: unackedFrom m n (j + 1) := by
  have hsplit : List.range' s (n - s) =
      List.range' s (j - s) ++ j :: List.range' (j + 1) (n - (j + 1)) := by
    rw [← List.range'_succ, show n - s = (j - s) + (n - (j + 1) + 1) by omega,
      ← List.range'_append_1, Nat.add_sub_cancel' hs]
  have hnone : (List.range' s (j - s)).filter (fun seg => !m.curAckVec.testBit seg) = [] := by
    rw [List.filter_eq_nil_iff]
    intro i hi
    have hrange := List.mem_range'_1.mp hi
    rw [hones i hrange.1 (by omega)]
    decide
  rw [unackedFrom, hsplit, List.filter_append, hnone, List.nil_append, List.filter_cons, hzero]
  rfl

theorem unackedFrom_none (hones : ∀ i, s ≤ i → i < n → m.curAckVec.testBit i = true) :
    unackedFrom m n s = [] := by
  rw [unackedFrom, List.filter_eq_nil_iff]
  intro i hi
  have hrange := List.mem_range'_1.mp hi
  rw [hones i hrange.1 (by omega)]
  decide

end

/-! ## What is due -/

/-- The sequence number of the message at index `i` of the window. -/
def Wnd.seqAt (w : Wnd) (i : Nat) : Nat := (i + w.seq) % seqSpace

/-- The message with sequence number `seq`. -/
def Wnd.msgAt (w : Wnd) (seq : Nat) : Msg := w.msg (seq % w.cap)

/-- The number of segments of the message with sequence number `seq`. -/
def Wnd.segsAt (w : Wnd) (seq : Nat) : Nat := segCount w.segLen (w.msgAt seq).len

/-- The message with sequence number `seq` is to be sent: its timer is not running and it is not
acknowledged. -/
def SendDue (sw : SendWnd) (seq : Nat) : Prop :=
  sw.rtx (seq % sw.w.cap) = 0 ∧ (sw.w.msgAt seq).curAckVec < (sw.w.msgAt seq).fullAckVec

instance (sw : SendWnd) (seq : Nat) : Decidable (SendDue sw seq) :=
  inferInstanceAs (Decidable (_ ∧ _))

/-- The segments from `s` on that message `seq` has not had acknowledged, under its number. -/
def Wnd.unacked (w : Wnd) (seq s : Nat) : List (Nat × Nat) :=
  (unackedFrom (w.msgAt seq) (w.segsAt seq) s).map (Prod.mk seq)

/-- The segments that are due, by message in window order and by ascending index. -/
def dueSegments (sw : SendWnd) : List (Nat × Nat) :=
  (List.range sw.w.size).flatMap fun i =>
    if SendDue sw (sw.w.seqAt i) then sw.w.unacked (sw.w.seqAt i) 0 else []

/-- What is left to send: the rest of the message under a valid pointer, and the messages that the
search can select. -/
def owed (sw : SendWnd) (sp : SendWndPtr) : List (Nat × Nat) :=
  (if sp.valid then sw.w.unacked sp.seq (sp.seg + 1) else []) ++
    (List.range sw.w.size).flatMap fun i =>
      if ptrSelects sp sw i then sw.w.unacked (sw.w.seqAt i) 0 else []

/-- A window whose messages that are due have the targets of their lengths. -/
structure SweepWnd (sw : SendWnd) : Prop where
  cap_pos : 0 < sw.w.cap
  cap_dvd : sw.w.cap ∣ seqSpace
  size_le : sw.w.size ≤ sw.w.cap
  target : ∀ i, i < sw.w.size → SendDue sw (sw.w.seqAt i) →
    (sw.w.msgAt (sw.w.seqAt i)).fullAckVec < 65536 ∧
      (sw.w.msgAt (sw.w.seqAt i)).fullAckVec = 2 ^ sw.w.segsAt (sw.w.seqAt i) - 1

/-- The pointer is invalid or in a message that is due. -/
def SweepPtr (sw : SendWnd) (sp : SendWndPtr) : Prop :=
  sp.valid = true → ∃ i, i < sw.w.size ∧ sp.seq = sw.w.seqAt i ∧ SendDue sw sp.seq ∧
    sp.seg < sw.w.segsAt sp.seq

section

variable {sw sw' : SendWnd} {sp p q : SendWndPtr} {i k : Nat}

theorem SweepWnd.slot_inj (h : SweepWnd sw) (hi : i < sw.w.size) (hk : k < sw.w.size)
    (heq : sw.w.seqAt i % sw.w.cap = sw.w.seqAt k % sw.w.cap) : i = k := by
  have hsize := h.size_le
  unfold Wnd.seqAt at heq
  rw [Nat.mod_mod_of_dvd _ h.cap_dvd, Nat.mod_mod_of_dvd _ h.cap_dvd, Nat.add_comm i,
    Nat.add_comm k] at heq
  exact Lib.ring_inj (by omega) (by omega) heq

theorem SweepWnd.len_pos (h : SweepWnd sw) (hi : i < sw.w.size)
    (hdue : SendDue sw (sw.w.seqAt i)) : 0 < (sw.w.msgAt (sw.w.seqAt i)).len := by
  obtain ⟨-, hfull⟩ := h.target i hi hdue
  have hlt := hdue.2
  by_contra hzero
  have hsegs : sw.w.segsAt (sw.w.seqAt i) = 0 := by
    rw [Wnd.segsAt, Nat.eq_zero_of_not_pos hzero, segCount, Nat.zero_add]
    cases hs : sw.w.segLen with
    | zero => rfl
    | succ n => exact Nat.div_eq_of_lt (by omega)
  rw [hsegs] at hfull
  simp only [pow_zero, Nat.sub_self] at hfull
  omega

theorem ptrSelects_iff (h : SweepWnd sw) (p : SendWndPtr) (hi : i < sw.w.size) :
    ptrSelects p sw i ↔
      ¬ (p.valid = true ∧ p.seq = sw.w.seqAt i) ∧ SendDue sw (sw.w.seqAt i) :=
  ⟨fun ⟨hskip, hrtx, _, hopen⟩ => ⟨hskip, hrtx, hopen⟩,
    fun ⟨hskip, hdue⟩ => ⟨hskip, hdue.1, h.len_pos hi hdue, hdue.2⟩⟩

theorem owed_invalid (h : SweepWnd sw) (hinvalid : sp.valid = false) :
    owed sw sp = dueSegments sw := by
  rw [owed, dueSegments, hinvalid, if_neg Bool.false_ne_true, List.nil_append]
  apply List.flatMap_congr
  intro i hi
  have hiff := ptrSelects_iff h sp (List.mem_range.mp hi)
  rw [hinvalid] at hiff
  by_cases hdue : SendDue sw (sw.w.seqAt i)
  · rw [if_pos hdue, if_pos (hiff.mpr ⟨by simp, hdue⟩)]
  · rw [if_neg hdue, if_neg fun hsel => hdue (hiff.mp hsel).2]

/-- The vectors and the number of segments of a message that is due. -/
theorem SweepWnd.segs_le (h : SweepWnd sw) (hi : i < sw.w.size)
    (hdue : SendDue sw (sw.w.seqAt i)) :
    sw.w.segsAt (sw.w.seqAt i) ≤ 16 ∧ (sw.w.msgAt (sw.w.seqAt i)).curAckVec < 65536 ∧
      (sw.w.msgAt (sw.w.seqAt i)).curAckVec < 2 ^ sw.w.segsAt (sw.w.seqAt i) - 1 := by
  obtain ⟨hfull, htarget⟩ := h.target i hi hdue
  have hopen := hdue.2
  rw [htarget] at hfull hopen
  refine ⟨?_, by omega, hopen⟩
  by_contra hlong
  have hpow := Nat.pow_le_pow_right Nat.two_pos (Nat.lt_of_not_le hlong)
  omega

/-! ## One poll -/

/-- Inside its message the pointer moves to the next segment that is due. -/
theorem owed_inside (h : SweepWnd sw) (hat : SweepPtr sw sp) (hvalid : sp.valid = true)
    (hin : ptrInside sp (sw.w.msgAt sp.seq)) :
    SweepPtr sw { sp with seg := ptrAdvance sp (sw.w.msgAt sp.seq) } ∧
      owed sw sp = (sp.seq, ptrAdvance sp (sw.w.msgAt sp.seq)) ::
        owed sw { sp with seg := ptrAdvance sp (sw.w.msgAt sp.seq) } := by
  obtain ⟨i, hi, hseq, hdue, hseg⟩ := hat hvalid
  rw [hseq] at hdue hseg
  obtain ⟨hsegs, hcur, -⟩ := h.segs_le hi hdue
  obtain ⟨-, htarget⟩ := h.target i hi hdue
  rw [← hseq] at hdue hseg hsegs hcur htarget
  obtain ⟨hlt, hzero, hones⟩ := @ptrAdvance_spec sp (sw.w.msgAt sp.seq) hcur (by omega)
  have hinside : ptrAdvance sp (sw.w.msgAt sp.seq) < sw.w.segsAt sp.seq := by
    unfold ptrInside at hin
    rw [htarget] at hin
    by_contra hge
    have hpow := Nat.pow_le_pow_right Nat.two_pos (Nat.not_lt.mp hge)
    omega
  refine ⟨fun _ => ⟨i, hi, hseq, hdue, hinside⟩, ?_⟩
  simp only [owed, if_pos hvalid]
  rw [Wnd.unacked, unackedFrom_next hlt hinside hzero fun i hi => hones i (by omega)]
  rfl

/-- A pointer that leaves its message has sent all of it. -/
theorem unacked_outside (h : SweepWnd sw) (hat : SweepPtr sw sp) (hvalid : sp.valid = true)
    (hout : ¬ ptrInside sp (sw.w.msgAt sp.seq)) : sw.w.unacked sp.seq (sp.seg + 1) = [] := by
  obtain ⟨i, hi, hseq, hdue, hseg⟩ := hat hvalid
  rw [hseq] at hdue hseg
  obtain ⟨hsegs, hcur, -⟩ := h.segs_le hi hdue
  obtain ⟨-, htarget⟩ := h.target i hi hdue
  rw [← hseq] at hseg hsegs hcur htarget
  obtain ⟨-, -, hones⟩ := @ptrAdvance_spec sp (sw.w.msgAt sp.seq) hcur (by omega)
  have hbeyond : sw.w.segsAt sp.seq ≤ ptrAdvance sp (sw.w.msgAt sp.seq) := by
    unfold ptrInside at hout
    rw [htarget] at hout
    by_contra hlt
    have hpow := Nat.pow_lt_pow_right Nat.one_lt_two (Nat.lt_of_not_le hlt)
    have := Nat.one_le_two_pow (n := ptrAdvance sp (sw.w.msgAt sp.seq))
    omega
  rw [Wnd.unacked, unackedFrom_none fun i hi hlt => hones i hi (by omega)]
  rfl

/-- What the search takes from the messages that it can select; `sw'` is the window in which just
these are due. -/
theorem owed_search (h : SweepWnd sw) (hw : sw'.w = sw.w)
    (hsel : ∀ i, i < sw.w.size → (SendDue sw' (sw.w.seqAt i) ↔ ptrSelects p sw i)) :
    SweepWnd sw' ∧ SweepPtr sw' (sendWndPtrSearch p sw) ∧
      ((sendWndPtrSearch p sw).valid = false → owed sw' (sendWndPtrSearch p sw) = []) ∧
      ((List.range sw.w.size).flatMap fun i =>
          if ptrSelects p sw i then sw.w.unacked (sw.w.seqAt i) 0 else []) =
        (if (sendWndPtrSearch p sw).valid then
            [((sendWndPtrSearch p sw).seq, (sendWndPtrSearch p sw).seg)] else []) ++
          owed sw' (sendWndPtrSearch p sw) := by
  have hdue : ∀ i, i < sw.w.size → SendDue sw' (sw.w.seqAt i) → SendDue sw (sw.w.seqAt i) :=
    fun i hi hd => ((ptrSelects_iff h p hi).mp ((hsel i hi).mp hd)).2
  have hwnd : SweepWnd sw' := by
    refine ⟨hw ▸ h.cap_pos, hw ▸ h.cap_dvd, hw ▸ h.size_le, ?_⟩
    rw [hw]
    exact fun i hi hd => h.target i hi (hdue i hi hd)
  have hselects : ∀ (q : SendWndPtr) i, i < sw.w.size → (ptrSelects q sw' i ↔
      ¬ (q.valid = true ∧ q.seq = sw.w.seqAt i) ∧ SendDue sw' (sw.w.seqAt i)) := by
    intro q i hi
    have hiff := ptrSelects_iff hwnd q (hw.symm ▸ hi)
    rwa [hw] at hiff
  refine ⟨hwnd, ?_⟩
  rcases sendWndPtrSearch_cases p sw with ⟨i, hi, hsome, hfirst, hres⟩ | ⟨hnone, hres⟩
  · have hdue' := (hsel i hi).mpr hsome
    obtain ⟨hsegs, hcur, hopen⟩ := h.segs_le hi (hdue i hi hdue')
    obtain ⟨hzero, -⟩ := ctz_not32 (show (sw.w.msgAt (sw.w.seqAt i)).curAckVec < 4294967295 by omega)
    have hseg := lt_of_first_zero hzero hopen
    have hseqlt : sw.w.seqAt i < 4096 := Nat.mod_lt _ (Nat.two_pow_pos 12)
    -- the pointer the search returns, with its conversions undone
    have hq : sendWndPtrSearch p sw = { seq := sw.w.seqAt i
                                        seg := ctz (not32 (sw.w.msgAt (sw.w.seqAt i)).curAckVec)
                                        valid := true } := by
      rw [hres, ptrAt]
      change SendWndPtr.mk (u16 (sw.w.seqAt i))
        (u16 (ctz (not32 (sw.w.msgAt (sw.w.seqAt i)).curAckVec))) true = _
      rw [u16_of_lt (by omega), u16_of_lt (by omega)]
    rw [hq]
    refine ⟨fun _ => ⟨i, hw.symm ▸ hi, by rw [hw], hdue', ?_⟩,
      fun hinvalid => absurd hinvalid.symm Bool.false_ne_true, ?_⟩
    · rw [hw]
      exact hseg
    · rw [@range_flatMap_first _ _ _ _ _
        (ptrSelects { seq := sw.w.seqAt i
                      seg := ctz (not32 (sw.w.msgAt (sw.w.seqAt i)).curAckVec)
                      valid := true } sw') _ _ hi hsome hfirst ?_]
      · simp only [owed, if_true, hw]
        rw [Wnd.unacked, unackedFrom_next (Nat.zero_le _) hseg hzero.zero fun i _ => hzero.ones i]
        simp only [List.map_cons, List.cons_append, List.nil_append, Wnd.unacked]
      · intro k hk
        rw [hselects _ k hk, ← hsel k hk, and_comm]
        refine and_congr_right fun _ => not_congr ⟨fun heq => ?_, fun heq => ⟨rfl, by rw [heq]⟩⟩
        exact h.slot_inj hk hi (congrArg (· % sw.w.cap) heq.2.symm)
  · have hempty : owed sw' (sendWndPtrSearch p sw) = [] := by
      rw [hres]
      simp only [owed, Bool.false_eq_true, if_false, List.nil_append]
      rw [hw]
      apply range_flatMap_none
      intro i hi hs
      exact hnone i hi ((hsel i hi).mp ((hselects _ i hi).mp hs).2)
    refine ⟨?_, fun _ => hempty, ?_⟩
    · rw [hres]
      exact fun hvalid => absurd hvalid Bool.false_ne_true
    · rw [hempty, range_flatMap_none hnone, hres]
      rfl

/-- The state of a sweep between two polls. -/
structure Sweeping (sw : SendWnd) (sp : SendWndPtr) : Prop where
  wnd : SweepWnd sw
  ptr : SweepPtr sw sp
  tinyOn : sw.tinyOn = false

theorem sendPollTimers_still {rh : FrameHdr} (htiny : sw.tinyOn = false) (hack : rh.ack = false) :
    sendPollTimers sw rh 0 = sw := by
  have hstep : ∀ l : List Nat, ∀ rtx : Nat → Nat, l.foldl (fun rtx i =>
      Function.update rtx ((sw.w.seq + i) % sw.w.cap)
        (subSat (rtx ((sw.w.seq + i) % sw.w.cap)) 0)) rtx = rtx := by
    intro l
    induction l with
    | nil => exact fun _ => rfl
    | cons i l ih =>
      intro rtx
      rw [List.foldl_cons, subSat_eq, Nat.sub_zero, Function.update_eq_self]
      exact ih rtx
  unfold sendPollTimers sendWndStep
  rw [hack]
  simp only [Bool.false_eq_true, if_false, htiny, false_and]
  rw [hstep, ← htiny]

/-- The header of a segment, in a free header. -/
def Wnd.segHdr (w : Wnd) (sh : FrameHdr) (s : Nat × Nat) : FrameHdr :=
  { sh with msgLen := w.segsAt s.1, seqNum := s.1, segId := s.2, seg := true }

/-- What `arq__send_poll` asks to be emitted, if anything. -/
def sendEmits (r : SendWnd × SendWndPtr × Option FrameHdr × Bool) : Option FrameHdr :=
  if r.2.2.2 then r.2.2.1 else none

theorem sendEmits_ptr {sh : FrameHdr} (hseg : sh.seg = false) (sw : SendWnd) (sp : SendWndPtr) :
    (if (sendPollHdr sw sp sh).seg then some (sendPollHdr sw sp sh) else none) =
      (if sp.valid then [(sp.seq, sp.seg)] else []).head?.map (sw.w.segHdr sh) := by
  unfold sendPollHdr
  cases sp.valid with
  | true => rfl
  | false => simp [hseg]

/-- **One poll.** It sends the first segment owed, if there is one, and owes the rest. -/
theorem sendPoll_owed (h : Sweeping sw sp) {sh rh : FrameHdr} {rtx : Nat} (hrtx : 0 < rtx)
    (hsh : sh.seg = false) (hack : rh.ack = false) :
    let r := sendPoll sw sp (some sh) rh 0 rtx
    Sweeping r.1 r.2.1 ∧ r.1.w = sw.w ∧ owed r.1 r.2.1 = (owed sw sp).tail ∧
      sendEmits r = (owed sw sp).head?.map (sw.w.segHdr sh) := by
  obtain ⟨hwnd, hptr, htiny⟩ := h
  dsimp only
  rw [sendEmits, sendPoll_sh, sendPoll_sendWnd, sendPoll_sendWndPtr,
    sendPollTimers_still htiny hack, Option.isSome_some, if_pos rfl, sendEmits_ptr hsh]
  -- a search that leaves just the selectable messages due has sent the first of them
  have hsearch : ∀ (p : SendWndPtr) (sw' : SendWnd), sw'.w = sw.w → sw'.tinyOn = false →
      (if sp.valid then sw.w.unacked sp.seq (sp.seg + 1) else []) = [] →
      (∀ i, ptrSelects p sw i ↔ ptrSelects sp sw i) →
      (∀ i, i < sw.w.size → (SendDue sw' (sw.w.seqAt i) ↔ ptrSelects p sw i)) →
      Sweeping sw' (sendWndPtrSearch p sw) ∧ sw'.w = sw.w ∧
        owed sw' (sendWndPtrSearch p sw) = (owed sw sp).tail ∧
        (if (sendWndPtrSearch p sw).valid then
            [((sendWndPtrSearch p sw).seq, (sendWndPtrSearch p sw).seg)] else []).head?.map
          (sw.w.segHdr sh) = (owed sw sp).head?.map (sw.w.segHdr sh) := by
    intro p sw' hw htiny' hdone hsame hsel
    obtain ⟨hwnd', hptr', hend, hlist⟩ := owed_search hwnd hw hsel
    have howed : owed sw sp =
        (if (sendWndPtrSearch p sw).valid then
            [((sendWndPtrSearch p sw).seq, (sendWndPtrSearch p sw).seg)] else []) ++
          owed sw' (sendWndPtrSearch p sw) := by
      rw [← hlist, owed, hdone, List.nil_append]
      simp only [hsame]
    refine ⟨⟨hwnd', hptr', htiny'⟩, hw, ?_⟩
    cases hvalid : (sendWndPtrSearch p sw).valid with
    | true =>
      rw [howed, hvalid]
      exact ⟨rfl, rfl⟩
    | false =>
      rw [howed, hvalid, hend hvalid]
      exact ⟨rfl, rfl⟩
  by_cases hvalid : sp.valid = true
  · by_cases hin : ptrInside sp (sw.w.msgAt sp.seq)
    · have hnext : sendWndPtrNext sp sw =
          ({ sp with seg := ptrAdvance sp (sw.w.msgAt sp.seq) }, .insideMsg) := by
        rw [sendWndPtrNext, if_pos hvalid]
        exact if_pos hin
      obtain ⟨hptr', howed⟩ := owed_inside hwnd hptr hvalid hin
      rw [hnext, howed, if_neg fun h => PtrNextResult.noConfusion h.2]
      refine ⟨⟨hwnd, hptr', htiny⟩, rfl, rfl, ?_⟩
      rw [if_pos hvalid]
      rfl
    · have hnext : sendWndPtrNext sp sw =
          (sendWndPtrSearch { sp with seg := ptrAdvance sp (sw.w.msgAt sp.seq) } sw,
            .completedMsg) := by
        rw [sendWndPtrNext, if_pos hvalid]
        exact if_neg hin
      obtain ⟨i, hi, hseq, -, -⟩ := hptr hvalid
      rw [hnext, if_pos ⟨rfl, rfl⟩]
      refine hsearch _ _ rfl htiny ?_ (fun _ => Iff.rfl) ?_
      · rw [if_pos hvalid]
        exact unacked_outside hwnd hptr hvalid hin
      · -- the message left behind has its timer running, the others keep theirs
        intro k hk
        rw [ptrSelects_iff hwnd _ hk]
        unfold SendDue
        dsimp only
        rw [hseq]
        by_cases hik : k = i
        · rw [hik, Function.update_self]
          exact iff_of_false (fun hdue => absurd hdue.1 (by omega)) fun hsel => hsel.1 ⟨hvalid, rfl⟩
        · have hslot : sw.w.seqAt k % sw.w.cap ≠ sw.w.seqAt i % sw.w.cap :=
            fun heq => hik (hwnd.slot_inj hk hi heq)
          rw [Function.update_of_ne hslot]
          refine ⟨fun hdue => ⟨fun heq => hslot (congrArg (· % sw.w.cap) heq.2.symm), hdue⟩,
            fun hsel => hsel.2⟩
  · have hnext : sendWndPtrNext sp sw = (sendWndPtrSearch sp sw, .insideMsg) := by
      rw [sendWndPtrNext, if_neg hvalid]
    rw [hnext, if_neg fun h => PtrNextResult.noConfusion h.2]
    refine hsearch _ _ rfl htiny (if_neg hvalid) (fun _ => Iff.rfl) ?_
    intro k hk
    rw [ptrSelects_iff hwnd sp hk]
    simp [hvalid]

end

/-! ## The sweep -/

/-- The window and the pointer after `k` polls in which no time passes; poll `k` finds the free
header `sh k` and the received header `rh k`. -/
def sweep (rtx : Nat) (sh rh : Nat → FrameHdr) (sw : SendWnd) (sp : SendWndPtr) :
    Nat → SendWnd × SendWndPtr
  | 0 => (sw, sp)
  | k + 1 =>
    let s := sweep rtx sh rh sw sp k
    let r := sendPoll s.1 s.2 (some (sh k)) (rh k) 0 rtx
    (r.1, r.2.1)

/-- What poll `k` of the sweep asks to be emitted. -/
def sweepEmits (rtx : Nat) (sh rh : Nat → FrameHdr) (sw : SendWnd) (sp : SendWndPtr) (k : Nat) :
    Option FrameHdr :=
  let s := sweep rtx sh rh sw sp k
  sendEmits (sendPoll s.1 s.2 (some (sh k)) (rh k) 0 rtx)

section

variable {sw : SendWnd} {sp : SendWndPtr} {rtx : Nat} {sh rh : Nat → FrameHdr}

theorem sweep_owed (h : Sweeping sw sp) (hrtx : 0 < rtx) (hsh : ∀ k, (sh k).seg = false)
    (hrh : ∀ k, (rh k).ack = false) (k : Nat) :
    Sweeping (sweep rtx sh rh sw sp k).1 (sweep rtx sh rh sw sp k).2 ∧
      (sweep rtx sh rh sw sp k).1.w = sw.w ∧
      owed (sweep rtx sh rh sw sp k).1 (sweep rtx sh rh sw sp k).2 = (owed sw sp).drop k := by
  induction k with
  | zero => exact ⟨h, rfl, rfl⟩
  | succ k ih =>
    obtain ⟨hk, hw, howed⟩ := ih
    obtain ⟨hk', hw', howed', -⟩ := sendPoll_owed hk hrtx (hsh k) (hrh k)
    refine ⟨hk', hw'.trans hw, howed'.trans ?_⟩
    rw [howed, List.tail_drop]

theorem mem_unacked {w : Wnd} {seq s : Nat} {x : Nat × Nat} (hx : x ∈ w.unacked seq s) :
    x.1 = seq := by
  obtain ⟨seg, -, rfl⟩ := List.mem_map.mp hx
  rfl

theorem dueSegments_nodup (h : SweepWnd sw) : (dueSegments sw).Nodup := by
  have hunacked : ∀ i, (sw.w.unacked (sw.w.seqAt i) 0).Nodup := by
    intro i
    apply List.Nodup.map (fun a b hab => (Prod.mk.inj hab).2)
    exact (List.nodup_range' 1 Nat.one_pos).filter _
  rw [dueSegments, List.nodup_flatMap]
  refine ⟨?_, ?_⟩
  · intro i _
    split
    · exact hunacked i
    · exact List.nodup_nil
  · -- segments of different messages carry different numbers
    refine List.nodup_range.pairwise_of_forall_ne ?_
    intro i hi k hk hik
    have hne : sw.w.seqAt i ≠ sw.w.seqAt k := fun heq => hik (h.slot_inj (List.mem_range.mp hi)
      (List.mem_range.mp hk) (congrArg (· % sw.w.cap) heq))
    intro x hxi hxk
    dsimp only at hxi hxk
    split at hxi
    · split at hxk
      · exact hne ((mem_unacked hxi).symm.trans (mem_unacked hxk))
      · exact List.not_mem_nil hxk
    · exact List.not_mem_nil hxi

/-- **A sweep.** From an invalid send pointer, with nothing arriving and no time passing, the polls
emit the segments that are due in order, each once, and then nothing. -/
theorem sweep_exact (hwnd : SweepWnd sw) (hinvalid : sp.valid = false) (htiny : sw.tinyOn = false)
    (hrtx : 0 < rtx) (hsh : ∀ k, (sh k).seg = false) (hrh : ∀ k, (rh k).ack = false) :
    (dueSegments sw).Nodup ∧
      ∀ k, sweepEmits rtx sh rh sw sp k = (dueSegments sw)[k]?.map (sw.w.segHdr (sh k)) := by
  have hstart : Sweeping sw sp :=
    ⟨hwnd, fun hvalid => absurd (hinvalid.symm.trans hvalid) Bool.false_ne_true, htiny⟩
  refine ⟨dueSegments_nodup hwnd, fun k => ?_⟩
  obtain ⟨hk, hw, howed⟩ := sweep_owed hstart hrtx hsh hrh k
  obtain ⟨-, -, -, hemits⟩ := sendPoll_owed hk hrtx (hsh k) (hrh k)
  rw [howed, owed_invalid hwnd hinvalid, List.head?_drop, hw] at hemits
  exact hemits

/-- Two messages in flight, the first of three segments with the second acknowledged. -/
def sweepSample : SendWnd where
  w :=
    { msg := fun i => if i = 1 then ⟨3, 2, 7⟩ else ⟨1, 0, 1⟩
      buf := fun _ => 0
      seq := 4095
      cap := 2
      size := 2
      msgLen := 3
      segLen := 1
      fullAckVec := 7 }
  rtx := fun _ => 0
  tiny := 0
  tinyOn := false

theorem sweep_exact_sample :
    (dueSegments sweepSample).Nodup ∧
      ∀ k, sweepEmits 5 (fun _ => frameHdrInit) (fun _ => frameHdrInit) sweepSample sendWndPtrRst k =
        (dueSegments sweepSample)[k]?.map (sweepSample.w.segHdr frameHdrInit) :=
  sweep_exact ⟨Nat.two_pos, two_dvd_seqSpace, Nat.le.refl, by decide⟩ rfl rfl (Nat.succ_pos 4)
    (fun _ => rfl) (fun _ => rfl)

example : dueSegments sweepSample = [(4095, 0), (4095, 2), (0, 0)] := by decide

end

end NanoArq
