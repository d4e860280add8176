import NanoArq.Link.Exchange

/-!
# Recovery

Frames may have been lost. When no more are lost, turns of the two sides bring every byte across that
the left side has accepted: each round of them gets at least the first message of its window across and
its ACK back.

* `Exchange.hear_all`: the right side takes all frames that are on their way to it.
* `Exchange.drain`: the right side sends the ACKs that are flagged.
* `Exchange.round`: the first message leaves the left side's window.
-/

namespace NanoArq

open Lib

/-! ## The right side listens -/

/-- What the right side has of the frames `fs` that it took, and what it answers to them. -/
structure Listened (d : Dims) (M : Nat → List UInt8) (read : Nat) (rw rw' : RecvWnd)
    (fs ql ql' : List (FrameHdr × List UInt8)) (got got' : List (Nat × Nat)) : Prop where
  grows : ∀ s ∈ got, s ∈ got'
  stores : ∀ k j, read ≤ k → k < read + d.cap → (∃ f ∈ fs, Carries f (k % seqSpace, j)) → (k, j) ∈ got'
  answers : ∀ k, read ≤ k → k < read + d.cap →
    (∀ j, j < segCount d.segLen (M k).length → (k, j) ∈ got) →
      (Answered d M rw ql k ∨ ∃ f ∈ fs, ∃ j, Carries f (k % seqSpace, j)) → Answered d M rw' ql' k

section

variable {b : Build} {cfg : Cfg} {d : Dims} {hcap : d.cap ≤ 2048} {M : Nat → List UInt8} {p : Duplex}
  {f : FrameHdr × List UInt8} {qr ql ql' ql'' fs fs' rest : List (FrameHdr × List UInt8)}
  {got got' got'' : List (Nat × Nat)} {base last read dt k : Nat} {rw rw' rw'' : RecvWnd}

theorem Listened.refl : Listened d M read rw rw [] ql ql got got := by
  refine ⟨fun _ hs => hs, ?_, ?_⟩
  · rintro k j - - ⟨f, hf, -⟩
    cases hf
  · rintro k - - - (h | ⟨f, hf, -⟩)
    · exact h
    · cases hf

theorem Listened.trans (h : Listened d M read rw rw' fs ql ql' got got')
    (h' : Listened d M read rw' rw'' fs' ql' ql'' got' got'') :
    Listened d M read rw rw'' (fs ++ fs') ql ql'' got got'' := by
  refine ⟨fun s hs => h'.grows s (h.grows s hs), ?_, ?_⟩
  · rintro k j hlo hhi ⟨f, hf, hcarries⟩
    rcases List.mem_append.mp hf with hf | hf
    · exact h'.grows _ (h.stores k j hlo hhi ⟨f, hf, hcarries⟩)
    · exact h'.stores k j hlo hhi ⟨f, hf, hcarries⟩
  · intro k hlo hhi hall hanswered
    refine h'.answers k hlo hhi (fun j hj => h.grows _ (hall j hj)) ?_
    obtain hold | ⟨f, hf, hcarries⟩ := hanswered
    · exact Or.inl (h.answers k hlo hhi hall (Or.inl hold))
    · rcases List.mem_append.mp hf with hf | hf
      · exact Or.inl (h.answers k hlo hhi hall (Or.inr ⟨f, hf, hcarries⟩))
      · exact Or.inr ⟨f, hf, hcarries⟩

theorem Exchange.fits (h : Exchange b cfg d hcap M p qr ql got base last read) (k : Nat) :
    MsgFits (d.recv hcap) (M k) := by
  obtain ⟨low, hcrossing⟩ := h.across
  exact hcrossing.fits k

/-- Taking bytes from the wire changes nothing but the receive frame. -/
theorem Exchange.listen_right (hs : Plain b cfg d)
    (h : Exchange b cfg d hcap M p qr ql got base last read) :
    Exchange b cfg d hcap M (p.swap.listen b).swap qr ql got base last read := by
  obtain ⟨low, hcrossing⟩ := h.across
  have harq : (p.swap.listen b).swap.right.arq = perform b p.right.arq (.recvFill (p.toRight.take p.toRight.length)) :=
    rfl
  refine ⟨(h.wired.swap.listen hs.symmetric).swap, ⟨low, Crossing.listen_receiver (p := p.swap) hcrossing⟩,
    h.base_eq, h.live, h.targets, ?_, h.fresh, h.replies, h.read_le, h.last_eq, h.room, h.leftFree,
    ?_⟩
  · rw [harq, perform_recvFill]
    exact ⟨h.silent.size, h.silent.ptr⟩
  · rw [harq, perform_recvFill]
    exact h.rightFree

/-- The right side takes the next frame that is on its way to it. -/
theorem Exchange.hear_right (hs : Plain b cfg d)
    (h : Exchange b cfg d hcap M p (f :: qr) ql got base last read) :
    ∃ q ql' got', Reaches b p q ∧ Exchange b cfg d hcap M q qr ql' got' base last read ∧ q.left = p.left ∧
      Listened d M read p.right.arq.recvWnd q.right.arq.recvWnd [f] ql ql' got got' := by
  have hlistened := h.listen_right hs
  have hheard := h.wired.swap.heard (b := b) h.leftFree (List.cons_ne_nil f qr)
  have hrw : (p.swap.listen b).swap.right.arq.recvWnd = p.right.arq.recvWnd := by
    change (perform b p.right.arq (.recvFill (p.toRight.take p.toRight.length))).recvWnd = _
    rw [perform_recvFill]
  have hcfg : (p.swap.listen b).swap.right.arq.cfg = cfg :=
    (hlistened.wired.right.sound hs.symmetric).cfg_eq
  obtain ⟨rest, got', htakes, hreach, h', hgot⟩ := hlistened.speak_right hs cfg.interSegmentTimeout
  have htook : rest = qr ∧ (f.1.seg = true → ∃ r, pollSegment (p.swap.listen b).swap.right.arq = some r ∧
      f = (r.hdr, r.seg)) := by
    obtain ⟨hnone, -⟩ | ⟨r, hqueue, hread, hsuccess⟩ := htakes
    · exact absurd hnone hheard
    · obtain ⟨rfl, rfl⟩ := List.cons.inj hqueue
      refine ⟨rfl, fun hseg => ⟨r, ?_, rfl⟩⟩
      rw [pollSegment, hread, Option.filter_some, if_pos (decide_eq_true ⟨hsuccess, hseg⟩)]
  obtain ⟨rfl, hsegment⟩ := htook
  have hstores : ∀ k j, read ≤ k → k < read + d.cap → Carries f (k % seqSpace, j) →
      (k, j) ∈ got' ∧ (pollReceived (p.swap.listen b).swap.right.arq cfg.interSegmentTimeout).ack
        (k % d.cap) = true := by
    rintro k j hlo hhi ⟨hseg, hnum, rfl⟩
    obtain ⟨r, hr, rfl⟩ := hsegment hseg
    obtain ⟨hmem, hflag⟩ := hgot.stores r hr k hlo hhi hnum
    exact ⟨hmem, hflag (by rw [hcfg])⟩
  refine ⟨_, _, got', (Reaches.listen b p.swap).swap.trans hreach, h', rfl, hgot.grows, ?_, ?_⟩
  · rintro k j hlo hhi ⟨f', hf', hcarries⟩
    obtain rfl := List.mem_singleton.mp hf'
    exact (hstores k j hlo hhi hcarries).1
  · rintro k hlo hhi hall (hanswered | ⟨f', hf', j, hcarries⟩)
    · rw [← hrw] at hanswered
      exact hlistened.keeps_answer hs hgot hlo hhi hall hanswered
    · obtain rfl := List.mem_singleton.mp hf'
      exact hlistened.answers hs hgot hlo hhi (fun j hj => hgot.grows _ (hall j hj))
        (hstores k j hlo hhi hcarries).2

/-- The right side takes all frames that are on their way to it. -/
theorem Exchange.hear_all (hs : Plain b cfg d)
    (h : Exchange b cfg d hcap M p qr ql got base last read) :
    ∃ q ql' got', Reaches b p q ∧ Exchange b cfg d hcap M q [] ql' got' base last read ∧ q.left = p.left ∧
      Listened d M read p.right.arq.recvWnd q.right.arq.recvWnd qr ql ql' got got' := by
  induction qr generalizing p ql got with
  | nil => exact ⟨p, ql, got, .refl, h, rfl, .refl⟩
  | cons f qr ih =>
    obtain ⟨p₁, ql₁, got₁, hreach₁, h₁, hleft₁, hlistened₁⟩ := h.hear_right hs
    obtain ⟨q, ql', got', hreach, h', hleft, hlistened⟩ := ih h₁
    exact ⟨q, ql', got', hreach₁.trans hreach, h', hleft.trans hleft₁, hlistened₁.trans hlistened⟩

/-- The right side sends the ACKs that are flagged, until none is left. -/
theorem Exchange.drain (hs : Plain b cfg d)
    (h : Exchange b cfg d hcap M p [] ql got base last read) :
    ∃ q ql' got', Reaches b p q ∧ Exchange b cfg d hcap M q [] ql' got' base last read ∧ q.left = p.left ∧
      q.right.arq.needPoll = false ∧ (∀ s ∈ got, s ∈ got') ∧ ∀ k, read ≤ k → k < read + d.cap →
        (∀ j, j < segCount d.segLen (M k).length → (k, j) ∈ got) → Answered d M p.right.arq.recvWnd ql k →
          ∃ f ∈ ql', AcksAll d M k f := by
  induction hn : flagCount p.right.arq.recvWnd using Nat.strong_induction_on generalizing p ql got with
  | _ n ih =>
    obtain ⟨rest, got₁, htakes, hreach₁, h₁, hheard⟩ := h.speak_right hs 0
    have hread : pollRead p.right.arq = none := by
      obtain ⟨hnone, -⟩ | ⟨r, hqueue, -, -⟩ := htakes
      · exact hnone
      · cases hqueue
    obtain rfl := htakes.none hread
    cases hreport : pollReport p.right.arq 0 with
    | some r =>
      have hless : flagCount (p.swap.speak b 0).swap.right.arq.recvWnd < n := by
        have hcap : 0 < p.right.arq.recvWnd.w.cap := by
          rw [h.recv_layout.cap_eq]
          exact d.cap_pos
        have hsegment : pollSegment p.right.arq = none := by
          rw [pollSegment, hread]
          rfl
        rw [← hn]
        refine lt_of_eq_of_lt (congrArg flagCount ?_) (poll_flagCount b hcap hsegment hreport)
        exact takeFrame_recvWnd _
      obtain ⟨q, ql', got', hreach, h', hleft, hpoll, hgrows, hacks⟩ := ih _ hless h₁ rfl
      refine ⟨q, ql', got', hreach₁.trans hreach, h', hleft, hpoll, fun s hs => hgrows s (hheard.grows s hs),
        fun k hlo hhi hall hanswered => ?_⟩
      exact hacks k hlo hhi (fun j hj => hheard.grows _ (hall j hj))
        (h.keeps_answer hs hheard hlo hhi hall hanswered)
    | none =>
      have hframe : pollFrame (pollWork b p.right.arq 0) = none := by
        rw [h.silent.frame hs.connections, hreport]
        rfl
      refine ⟨_, _, got₁, hreach₁, h₁, rfl, ?_, hheard.grows, fun k hlo hhi hall hanswered => ?_⟩
      · exact Duplex.speak_needPoll (p := p.swap) h.rightFree hframe
      · obtain hflag | ⟨f, hf, hacks⟩ := hanswered
        · have hlayout := hheard.layout
          have hslide := hlayout.slide_le
          have hfront := hlayout.front k 0 (hheard.grows _ (hall 0 (h.fits k).segs_pos))
          have hslot : ((pollReceived p.right.arq 0).w.seq + (k - (read - (pollReceived p.right.arq 0).slide))) %
              (pollReceived p.right.arq 0).w.cap = k % d.cap := by
            rw [hlayout.cap_eq, hlayout.seq, ring_mod (d.recv hcap).cap_dvd,
              show read - (pollReceived p.right.arq 0).slide + (k - (read - (pollReceived p.right.arq 0).slide)) = k by
                omega]
            rfl
          have hclear := poll_unreported h.rightFree hreport
            (i := k - (read - (pollReceived p.right.arq 0).slide)) (by omega)
          rw [hslot, pollReceived_flag_stays hflag] at hclear
          cases hclear
        · exact ⟨f, List.mem_append_left _ hf, hacks⟩

end

/-! ## The left side listens -/

section

variable {b : Build} {cfg : Cfg} {d : Dims} {hcap : d.cap ≤ 2048} {M : Nat → List UInt8} {p : Duplex}
  {f : FrameHdr × List UInt8} {qr ql rest : List (FrameHdr × List UInt8)} {got : List (Nat × Nat)}
  {base last read dt k : Nat}

theorem Exchange.listen_left (hs : Plain b cfg d)
    (h : Exchange b cfg d hcap M p qr ql got base last read) :
    Exchange b cfg d hcap M (p.listen b) qr ql got base last read := by
  obtain ⟨low, hcrossing⟩ := h.across
  have hkept : (p.listen b).left.arq = { p.left.arq with
      recvFrame := (p.listen b).left.arq.recvFrame
      needPoll := (p.listen b).left.arq.needPoll } := perform_recvFill b p.left.arq _
  refine ⟨h.wired.listen hs.symmetric, ⟨low, hcrossing.listen_sender⟩, h.base_eq, ?_, ?_, h.silent,
    h.fresh, h.replies, h.read_le, ?_, h.room, ?_, h.rightFree⟩ <;> rw [hkept]
  · exact h.live
  · exact h.targets
  · exact h.last_eq
  · exact h.leftFree

/-- An ACK for all of the first message takes it out of the window. -/
theorem Exchange.retires (h : Exchange b cfg d hcap M p qr ql got base last read) (hlt : base < last)
    (hack : (pollRh p.left.arq).ack = true) (hnum : (pollRh p.left.arq).ackNum = base % seqSpace)
    (hvec : (pollRh p.left.arq).curAckVec = 2 ^ segCount d.segLen (M base).length - 1) :
    0 < pollRetired p.left.arq := by
  have hl := h.live.layout
  have hsize : 0 < p.left.arq.sendWnd.w.size := by
    have := h.last_eq
    omega
  have hin : pollAcks p.left.arq := by
    refine ⟨hack, ?_⟩
    rw [hnum, ← hl.seq]
    unfold ackInWnd
    omega
  obtain ⟨-, -, hstop, -⟩ := pollAcked_msgs hl
  by_contra hzero
  obtain hzero : pollRetired p.left.arq = 0 := by omega
  rw [hzero] at hstop
  refine hstop hin hsize ?_
  have hlen := h.msg_len hsize
  have hfull := h.targets 0 hsize
  rw [Nat.add_zero] at hlen hfull
  have hslot : (pollRh p.left.arq).ackNum % p.left.arq.sendWnd.w.cap = base % d.cap := by
    rw [hnum, hl.shape.cap, Nat.mod_mod_of_dvd _ d.cap_dvd]
  obtain ⟨-, hle⟩ := hl.len_bounds hsize
  rw [Nat.add_zero] at hle
  unfold msgAcked
  rw [hl.slot, Nat.add_zero, (pollMsgs_vectors _ _).1, hfull, (vecOf_eq hle).1, hlen, ← hvec, pollMsgs,
    if_pos hin, ackedMsgs, hslot, Function.update_self]

/-- The left side takes the next frame that is on its way to it, and sends what is due then. -/
theorem Exchange.hear_left (hs : Plain b cfg d)
    (h : Exchange b cfg d hcap M p qr (f :: ql) got base last read) (hrest : Resting p.left.arq) :
    ∃ q new base', Reaches b p q ∧ Exchange b cfg d hcap M q (qr ++ new) ql got base' last read ∧
      Resting q.left.arq ∧ base ≤ base' ∧ (base < last → AcksAll d M base f → base < base') := by
  have hheard := h.wired.heard (b := b) h.rightFree (List.cons_ne_nil f ql)
  have hlistened := h.listen_left hs
  have hkept : (p.listen b).left.arq = { p.left.arq with
      recvFrame := (p.listen b).left.arq.recvFrame
      needPoll := (p.listen b).left.arq.needPoll } := perform_recvFill b p.left.arq _
  have hsweep : Sweeping (pollTimers (p.listen b).left.arq 0) (p.listen b).left.arq.sendWndPtr := by
    refine hlistened.sweeping ?_ ?_
    · rw [hkept]
      exact hrest.ptr
    · rw [hkept]
      exact fun hon => absurd hon (by rw [hrest.tinyOn]; simp)
  obtain ⟨rest, htakes, q, new, hreach, h', hrest', -, -⟩ := hlistened.sweep hs hsweep
  obtain ⟨hnone, -⟩ | ⟨r, hqueue, hread, -⟩ := htakes
  · exact absurd hnone hheard
  obtain ⟨rfl, rfl⟩ := List.cons.inj hqueue
  refine ⟨q, new, _, (Reaches.listen b p).trans hreach, h', hrest', Nat.le_add_right _ _, ?_⟩
  rintro hlt ⟨hack, hnum, hvec⟩
  have hrh : pollRh (p.listen b).left.arq = r.hdr := by
    rw [pollRh, hread]
  have := hlistened.retires hlt (by rw [hrh]; exact hack) (by rw [hrh]; exact hnum) (by rw [hrh]; exact hvec)
  omega

/-- The left side takes frames until its first message leaves the window. -/
theorem Exchange.hear_ack (hs : Plain b cfg d)
    (h : Exchange b cfg d hcap M p qr ql got base last read) (hrest : Resting p.left.arq) (hlt : base < last)
    (hacks : ∃ f ∈ ql, AcksAll d M base f) :
    ∃ q qr' ql' base', Reaches b p q ∧ Exchange b cfg d hcap M q qr' ql' got base' last read ∧
      Resting q.left.arq ∧ base < base' := by
  induction ql generalizing p qr with
  | nil =>
    obtain ⟨f, hf, -⟩ := hacks
    cases hf
  | cons f ql ih =>
    obtain ⟨q, new, base', hreach, h', hrest', hle, hretires⟩ := h.hear_left hs hrest
    rcases Nat.lt_or_eq_of_le hle with hmoved | rfl
    · exact ⟨q, _, _, base', hreach, h', hrest', hmoved⟩
    obtain ⟨f', hf', hall⟩ := hacks
    rcases List.mem_cons.mp hf' with rfl | hf'
    · exact absurd (hretires hlt hall) (lt_irrefl _)
    obtain ⟨q', qr', ql', base', hreach', h'', hrest'', hmoved⟩ := ih h' hrest' ⟨f', hf', hall⟩
    exact ⟨q', qr', ql', base', hreach.trans hreach', h'', hrest'', hmoved⟩

end

/-! ## The right side reads -/

/-- A read of what the first `m` messages still hold, when all of them are complete. -/
theorem Assembled.read_to {d : RecvDims} {M : Nat → List UInt8} {r : Reassembly} {n m : Nat}
    (h : Assembled d M r n) (hM : ∀ k, MsgFits d (M k)) (hle : n ≤ m)
    (hdone : ∀ k, k < m → Complete d M r.Got k) {r' : Reassembly}
    (hout : r'.out = r.out ++ (recvWndRecv r.rw ((concat M m).length - r.out.length)).2) {n' : Nat}
    (h' : Assembled d M r' n') : n' = m ∧ concat M m <+: r'.out := by
  obtain ⟨e, he⟩ := h.layout.leading hM
  have hme : m ≤ e := by
    by_contra hlt
    exact he.ends (hdone e (by omega))
  have hlong := (concat_mono M hme).length_le
  obtain ⟨hbytes, hread⟩ := h.read hM he ((concat M m).length - r.out.length)
  have hlen := congrArg List.length hbytes
  rw [List.length_take, List.length_drop] at hlen
  have hne : ∀ k, M k ≠ [] := fun k => List.ne_nil_of_length_pos (hM k).pos
  have hwhole := wholeMessages_eq hne (hM m).pos
  rw [Nat.add_zero] at hwhole
  rw [← hout] at hread
  have hout' := congrArg List.length hout
  rw [List.length_append] at hout'
  rcases Nat.le_total r.out.length (concat M m).length with hshort | hpast
  · have heq : r'.out.length = (concat M m).length := by omega
    refine ⟨?_, List.prefix_of_prefix_length_le (concat_mono M hme) hread heq.ge⟩
    rw [← h'.read_eq hM, heq, hwhole]
  · -- More than these messages was read before.
    have heq : r'.out.length = r.out.length := by omega
    refine ⟨?_, List.prefix_of_prefix_length_le (concat_mono M hme) hread (by omega)⟩
    have hmono := wholeMessages_mono M hpast
    rw [hwhole, h.read_eq hM] at hmono
    rw [← h'.read_eq hM, heq, h.read_eq hM]
    omega

section

variable {b : Build} {cfg : Cfg} {d : Dims} {hcap : d.cap ≤ 2048} {M : Nat → List UInt8} {p : Duplex}
  {qr ql : List (FrameHdr × List UInt8)} {got : List (Nat × Nat)} {base last read : Nat}

/-- The right side hands over all messages that have left the other side's window. -/
theorem Exchange.hand_over (hs : Plain b cfg d) (h : Exchange b cfg d hcap M p [] ql got base last read)
    (hpoll : p.right.arq.needPoll = false) :
    ∃ q, Reaches b p q ∧ Exchange b cfg d hcap M q [] ql got base last base ∧ q.left = p.left ∧
      concat M base <+: q.right.returned := by
  obtain ⟨low, hcrossing⟩ := h.across
  have hassembled : Assembled (d.recv hcap) M ⟨p.right.arq.recvWnd, got, p.right.returned⟩ read := by
    obtain ⟨past, told, rfl, ht⟩ := hcrossing.transfer
    exact ht.receiver
  obtain ⟨qr', -, hqr, hwired⟩ := h.wired.swap.call hs.symmetric
    (c := .recv ((concat M base).length - p.right.returned.length)) (by simp)
  rw [hqr (by simp)] at hwired
  obtain ⟨read', hcrossing'⟩ := hcrossing.recv (b := b) ((concat M base).length - p.right.returned.length)
  have hkept : ∀ n, Silent (perform b p.right.arq (.recv n)) ∧ sendFrameFree (perform b p.right.arq (.recv n)) := by
    intro n
    simp only [perform, arqRecv, hpoll, Bool.false_eq_true, if_false]
    exact ⟨⟨h.silent.size, h.silent.ptr⟩, h.rightFree⟩
  have hread : read' = base ∧
      concat M base <+: (stationStep b p.right
        (.recv ((concat M base).length - p.right.returned.length))).returned := by
    have hassembled' := hcrossing'.transfer
    obtain ⟨past, told, rfl, ht⟩ := hassembled'
    refine hassembled.read_to h.fits h.read_le (fun k hk => hcrossing.done k (by rw [h.base_eq]; exact hk))
      ?_ ht.receiver
    simp only [stationStep, arqRecv, hpoll, Bool.false_eq_true, if_false]
  obtain ⟨rfl, hprefix⟩ := hread
  have hsize := h.live.layout.size_le
  have hlast := h.last_eq
  have hreach := Reaches.move (b := b) (p := p.swap)
    (c := .recv ((concat M read').length - p.right.returned.length)) trivial (by simp)
  refine ⟨_, hreach.swap, ⟨hwired.swap, ⟨low, hcrossing'⟩, h.base_eq,
    h.live, h.targets, ?_, by simp, h.replies, le_rfl, h.last_eq, by omega, h.leftFree, ?_⟩, rfl,
    hprefix⟩
  · change Silent (stationStep b p.right _).arq
    rw [stationStep_arq]
    exact (hkept _).1
  · change sendFrameFree (stationStep b p.right _).arq
    rw [stationStep_arq]
    exact (hkept _).2

end

/-! ## Rounds -/

section

variable {b : Build} {cfg : Cfg} {d : Dims} {hcap : d.cap ≤ 2048} {M : Nat → List UInt8} {p : Duplex}
  {qr ql : List (FrameHdr × List UInt8)} {got : List (Nat × Nat)} {base last read : Nat}

/-- What the left side has had acknowledged of its first message, the right side has got. -/
theorem Exchange.acked_got (h : Exchange b cfg d hcap M p qr ql got base last read) (hlt : base < last) {j : Nat}
    (hj : (p.left.arq.sendWnd.w.msg (base % d.cap)).curAckVec.testBit j = true) : (base, j) ∈ got := by
  obtain ⟨low, hcrossing⟩ := h.across
  obtain ⟨past, told, -, ht⟩ := hcrossing.transfer
  have hlast := h.last_eq
  have hacked := ht.acked 0 (by change 0 < p.left.arq.sendWnd.w.size; omega) j
  rw [Nat.add_zero, h.base_eq] at hacked
  exact (hacked hj).1

/-- The first message of the left side is not acknowledged entirely. -/
theorem Exchange.unacked (h : Exchange b cfg d hcap M p qr ql got base last read) (hlt : base < last) :
    ∃ j, j < segCount d.segLen (M base).length ∧
      (p.left.arq.sendWnd.w.msg (base % d.cap)).curAckVec.testBit j = false := by
  have hl := h.live.layout
  have hlast := h.last_eq
  have hsize : 0 < p.left.arq.sendWnd.w.size := by omega
  have hhead := h.live.head hsize
  have hlen := h.msg_len hsize
  have hfull := h.targets 0 hsize
  obtain ⟨-, hle⟩ := hl.len_bounds hsize
  rw [Nat.add_zero] at hlen hfull hle
  rw [hfull, (vecOf_eq hle).1, hlen] at hhead
  by_contra hnone
  have hones := le_of_ones (x := (p.left.arq.sendWnd.w.msg (base % d.cap)).curAckVec)
    (n := segCount d.segLen (M base).length) fun j hj => by
      by_contra hzero
      exact hnone ⟨j, hj, by simpa using hzero⟩
  omega

/-- The left side sends its first message once more, and the right side takes it. -/
theorem Exchange.retransmit (hs : Plain b cfg d) (h : Exchange b cfg d hcap M p [] ql got base last read)
    (hrest : Resting p.left.arq) (hlt : base < last) (hroom : base < read + d.cap) :
    ∃ q ql' got', Reaches b p q ∧ Exchange b cfg d hcap M q [] ql' got' base last read ∧ Resting q.left.arq ∧
      (∀ j, j < segCount d.segLen (M base).length → (base, j) ∈ got') ∧
      ((∀ j, j < segCount d.segLen (M base).length → (base, j) ∈ got) →
        Answered d M q.right.arq.recvWnd ql' base) := by
  have hlast := h.last_eq
  have hread := h.read_le
  obtain ⟨p₁, new, hreach₁, h₁, hrest₁, hright, hcarries⟩ := h.resend hs hrest (by omega)
  obtain ⟨q, ql', got', hreach, h', hleft, hlistened⟩ := h₁.hear_all hs
  refine ⟨q, ql', got', hreach₁.trans hreach, h', ?_, fun j hj => ?_, fun hall => ?_⟩
  · rw [hleft]
    exact hrest₁
  · cases hbit : (p.left.arq.sendWnd.w.msg (base % d.cap)).curAckVec.testBit j with
    | true => exact hlistened.grows _ (h.acked_got hlt hbit)
    | false => exact hlistened.stores base j hread hroom (hcarries j hj hbit)
  · obtain ⟨j, hj, hbit⟩ := h.unacked hlt
    obtain ⟨f, hf, hcarry⟩ := hcarries j hj hbit
    exact hlistened.answers base hread hroom hall (Or.inr ⟨f, hf, j, hcarry⟩)

/-- **One round**: the first message of the left side leaves its window. -/
theorem Exchange.round (hs : Plain b cfg d) (h : Exchange b cfg d hcap M p [] ql got base last read)
    (hrest : Resting p.left.arq) (hlt : base < last) :
    ∃ q ql' got' base' read', Reaches b p q ∧ Exchange b cfg d hcap M q [] ql' got' base' last read' ∧
      Resting q.left.arq ∧ base < base' := by
  -- The application has read no more than what the sender has given up.
  obtain ⟨p₁, ql₁, got₁, hreach₁, h₁, hleft₁, hpoll₁, -, -⟩ := h.drain hs
  obtain ⟨p₂, hreach₂, h₂, hleft₂, -⟩ := h₁.hand_over hs hpoll₁
  have hrest₂ : Resting p₂.left.arq := by
    rw [hleft₂, hleft₁]
    exact hrest
  have hroom : base < base + d.cap := Nat.lt_add_of_pos_right d.cap_pos
  -- The message arrives, and is answered when a segment of it arrives again.
  obtain ⟨p₃, ql₃, got₃, hreach₃, h₃, hrest₃, hall₃, -⟩ := h₂.retransmit hs hrest₂ hlt hroom
  obtain ⟨p₄, ql₄, got₄, hreach₄, h₄, hrest₄, hall₄, hanswered⟩ := h₃.retransmit hs hrest₃ hlt hroom
  obtain ⟨p₅, ql₅, got₅, hreach₅, h₅, hleft₅, -, -, hacks⟩ := h₄.drain hs
  have hrest₅ : Resting p₅.left.arq := by
    rw [hleft₅]
    exact hrest₄
  obtain ⟨p₆, qr₆, ql₆, base', hreach₆, h₆, hrest₆, hmoved⟩ := h₅.hear_ack hs hrest₅ hlt
    (hacks base le_rfl hroom hall₄ (hanswered hall₃))
  obtain ⟨q, ql', got', hreach₇, h₇, hleft₇, -⟩ := h₆.hear_all hs
  refine ⟨q, ql', got', base', base, ?_, h₇, ?_, hmoved⟩
  · exact (((((hreach₁.trans hreach₂).trans hreach₃).trans hreach₄).trans hreach₅).trans hreach₆).trans hreach₇
  · rw [hleft₇]
    exact hrest₆

/-- All messages leave the left side's window, and the application has what they held. -/
theorem Exchange.complete (hs : Plain b cfg d) (h : Exchange b cfg d hcap M p [] ql got base last read)
    (hrest : Resting p.left.arq) :
    ∃ q ql' got', Reaches b p q ∧ Exchange b cfg d hcap M q [] ql' got' last last last ∧ Resting q.left.arq ∧
      concat M last <+: q.right.returned := by
  induction hn : last - base using Nat.strong_induction_on generalizing p ql got base read with
  | _ n ih =>
    have hlast := h.last_eq
    rcases Nat.lt_or_ge base last with hlt | hge
    · obtain ⟨p₁, ql₁, got₁, base', read', hreach₁, h₁, hrest₁, hmoved⟩ := h.round hs hrest hlt
      obtain ⟨q, ql', got', hreach, h', hrest', hall⟩ := ih (last - base') (by omega) h₁ hrest₁ rfl
      exact ⟨q, ql', got', hreach₁.trans hreach, h', hrest', hall⟩
    · obtain rfl : base = last := by omega
      obtain ⟨p₁, ql₁, got₁, hreach₁, h₁, hleft₁, hpoll₁, -, -⟩ := h.drain hs
      obtain ⟨p₂, hreach₂, h₂, hleft₂, hall⟩ := h₁.hand_over hs hpoll₁
      refine ⟨p₂, ql₁, got₁, hreach₁.trans hreach₂, h₂, ?_, hall⟩
      rw [hleft₂, hleft₁]
      exact hrest

end

end NanoArq
