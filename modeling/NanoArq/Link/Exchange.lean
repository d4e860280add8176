import NanoArq.Link.Turn
import NanoArq.Receiver.Replies
import NanoArq.Sender.Resend

/-!
# Data one way, ACKs the other

The left side has messages to send and the right side has none, and nothing is accepted while they
are exchanged. `Exchange` is what the turns of the two sides keep in this case.

* `Exchange.speak_left`, `Exchange.speak_right`: a turn of a side keeps it, and is within the condition.
* `Exchange.sweep`: turns of the left side send all segments that are owed.
* `Exchange.hear_left`, `Exchange.hear_right`: a side takes a frame that is on its way.
-/

namespace NanoArq

open Lib

/-- A build without connections, and a configuration with windows of at most `1024` messages and a
retransmission timer. -/
structure Plain (b : Build) (cfg : Cfg) (d : Dims) : Prop where
  connections : b.useConnections = false
  symmetric : cfg.Symmetric
  dims : cfg.Has d cfg.sendWindowSizeInMessages
  cap_le : d.cap ≤ 1024
  rtx : 0 < cfg.retransmissionTimeout

/-- The messages `M` cross to the right, of which the left side holds those from `base` to `last` and the
right side has handed over the first `read`. -/
structure Exchange (b : Build) (cfg : Cfg) (d : Dims) (hcap : d.cap ≤ 2048) (M : Nat → List UInt8)
    (p : Duplex) (qr ql : List (FrameHdr × List UInt8)) (got : List (Nat × Nat)) (base last read : Nat) :
    Prop where
  wired : Wired b cfg p qr ql
  across : ∃ low, Crossing d hcap M p.left p.right qr ql got low read
  base_eq : p.left.hist.base = base
  live : SendLive d p.left.arq.sendWnd base p.left.hist.content
  targets : ExactTargets d p.left.arq.sendWnd base
  silent : Silent p.right.arq
  fresh : ∀ f ∈ qr, f.1.seg = true → ∃ k, read ≤ k ∧ k < read + 2 * d.cap ∧ f.1.seqNum = k % seqSpace
  replies : ∀ f ∈ ql, f.1.seg = false
  read_le : read ≤ base
  last_eq : base + p.left.arq.sendWnd.w.size = last
  room : last ≤ read + 2 * d.cap
  leftFree : sendFrameFree p.left.arq
  rightFree : sendFrameFree p.right.arq

/-! ## What a poll reads -/

section

variable {arq : Arq} {q rest : List (FrameHdr × List UInt8)}

theorem Takes.mem (h : Takes arq q rest) {f : FrameHdr × List UInt8} (hf : f ∈ rest) : f ∈ q := by
  obtain ⟨-, rfl⟩ | ⟨r, rfl, -, -⟩ := h
  · exact hf
  · exact List.mem_cons_of_mem _ hf

/-- The segment that a poll takes is in the first frame. -/
theorem Takes.segment (h : Takes arq q rest) {f : FrameRead} (hf : pollSegment arq = some f) :
    q = (f.hdr, f.seg) :: rest ∧ f.hdr.seg = true := by
  obtain ⟨hread, -⟩ | ⟨r, rfl, hread, -⟩ := h
  · rw [pollSegment, hread] at hf
    cases hf
  · rw [pollSegment, hread] at hf
    obtain ⟨hsame, hcond⟩ := Option.filter_eq_some_iff.mp hf
    obtain rfl := Option.some.inj hsame
    exact ⟨rfl, (of_decide_eq_true hcond).2⟩

theorem Takes.no_segment (h : Takes arq q rest) (hq : ∀ f ∈ q, f.1.seg = false) : pollSegment arq = none := by
  cases hsegment : pollSegment arq with
  | none => rfl
  | some f =>
    obtain ⟨rfl, hseg⟩ := h.segment hsegment
    rw [hq _ List.mem_cons_self] at hseg
    cases hseg

/-- After a poll the receive frame is open for bytes. -/
theorem pollRead_perform (b : Build) (arq : Arq) (dt : Nat) : pollRead (perform b arq (.poll dt)) = none := by
  change (if (pollWork b arq dt).recvFrame.state = .fullFramePresent then _ else none) = none
  refine if_neg ?_
  rw [pollWork_recvFrame]
  split
  · rw [recvFrameRst]
    simp
  · assumption

end

/-! ## Targets that are exact -/

section

variable {d : Dims} {sw : SendWnd} {arq : Arq} {base : Nat} {content : List UInt8}

theorem ExactTargets.not_awaits (h : ExactTargets d sw base) (hl : SendLayout d sw.w base content) {seq : Nat}
    (hin : ackInWnd sw.w seq) : ¬ awaitsFlush sw.w seq := by
  intro hawaits
  obtain ⟨hidx, hslot⟩ := hl.ack_index hin
  have hlt := hawaits.2
  rw [hslot, hl.shape.segLen, h _ hidx] at hlt
  exact lt_irrefl _ hlt

theorem ExactTargets.covered (h : ExactTargets d arq.sendWnd base)
    (hl : SendLayout d arq.sendWnd.w base content) : AckedCovered arq := by
  intro i hi _
  rw [hl.slot, hl.shape.segLen, h i hi]

end

/-- The number of a frame that a clean poll writes is that of a message of the window. -/
theorem HistSound.number {d : Dims} {h : SendHist} (b : Build) (hs : HistSound d h) {dt : Nat}
    (hok : CleanPoll h.arq dt) {f : FrameHdr × List UInt8} (hframe : pollFrame (pollWork b h.arq dt) = some f)
    (hseg : f.1.seg = true) (hseq : f.1.seqNum < seqSpace) :
    ∃ i, i < (sendHistStep b h (.poll dt)).arq.sendWnd.w.size ∧
      f.1.seqNum = ((sendHistStep b h (.poll dt)).base + i) % seqSpace := by
  have hin := (hs.genuine b hok hframe hseg).inWindow
  have hnum := (sendHistStep_layout b hs.wnd.targets.layout (.poll dt)).seq
  refine ⟨_, hin, ?_⟩
  unfold wndIndex seqSpace at *
  omega

/-! ## A turn of the left side -/

section

variable {b : Build} {cfg : Cfg} {d : Dims} {hcap : d.cap ≤ 2048} {M : Nat → List UInt8} {p : Duplex}
  {qr ql rest : List (FrameHdr × List UInt8)} {got : List (Nat × Nat)} {base last read dt i j : Nat}

theorem Exchange.msg_len (h : Exchange b cfg d hcap M p qr ql got base last read)
    (hi : i < p.left.arq.sendWnd.w.size) :
    (p.left.arq.sendWnd.w.msg ((base + i) % d.cap)).len = (M (base + i)).length := by
  obtain ⟨low, hcrossing⟩ := h.across
  obtain ⟨past, told, rfl, ht⟩ := hcrossing.transfer
  have hl := h.live.layout
  rw [← h.base_eq, ← ht.past_length, messageAt_window (by rw [← hl.size]; exact hi), ht.past_length,
    h.base_eq, hl.len i hi, length_chunk, chunkLen]

/-- The ACKs in flight fit the messages that they name. -/
theorem Exchange.fittingAck (h : Exchange b cfg d hcap M p qr ql got base last read)
    (htakes : Takes p.left.arq ql rest) : FittingAck p.left.arq := by
  intro hack hin
  obtain ⟨low, hcrossing⟩ := h.across
  have hlen := fun i => h.msg_len (i := i)
  obtain ⟨past, told, rfl, ht⟩ := hcrossing.transfer
  have hl := h.live.layout
  obtain ⟨hidx, hslot⟩ := hl.ack_index hin
  obtain ⟨told', hle, -, hnoted⟩ := htakes.ack_read ht.acks_from
  have hvec : (pollMsgs p.left.arq ((pollRh p.left.arq).ackNum % p.left.arq.sendWnd.w.cap)).curAckVec =
      (pollRh p.left.arq).curAckVec := by
    rw [pollMsgs, if_pos ⟨hack, hin⟩, ackedMsgs, Function.update_self]
  rw [hslot] at hvec ⊢
  obtain ⟨-, hle'⟩ := hl.len_bounds hidx
  have hsegs := (vecOf_eq hle').1
  have hfull := h.targets _ hidx
  have hbound : (pollRh p.left.arq).curAckVec < 2 ^ segCount d.segLen
      (p.left.arq.sendWnd.w.msg ((base + ((pollRh p.left.arq).ackNum - p.left.arq.sendWnd.w.seq)) %
        d.cap)).len := by
    refine lt_two_pow_of_bits fun j hj => ?_
    rw [← hvec] at hj
    have hgot := (ht.noted (i := (pollRh p.left.arq).ackNum - p.left.arq.sendWnd.w.seq) hle hnoted hidx
      (by rw [h.base_eq]; exact hj)).1
    rw [h.base_eq] at hgot
    have hread := h.read_le
    have hfront := ht.receiver.layout.front _ j hgot
    have hsize := ht.receiver.layout.size_le
    rw [hlen _ hidx]
    exact (ht.receiver.layout.slot _ (by omega) (by omega)).lt j hgot
  rw [hl.shape.segLen, AckFits, hfull, hsegs]
  exact ⟨by omega, by omega, fun _ => rfl⟩

/-- A turn of the left side whose pointer is in a sweep. -/
theorem Exchange.speak_left (hs : Plain b cfg d) (h : Exchange b cfg d hcap M p qr ql got base last read)
    (hsweep : Sweeping (pollTimers p.left.arq dt) p.left.arq.sendWndPtr) :
    ∃ rest, Takes p.left.arq ql rest ∧ Reaches b p (p.speak b dt) ∧
      Exchange b cfg d hcap M (p.speak b dt) (qr ++ (pollFrame (pollWork b p.left.arq dt)).toList) rest got
        (base + pollRetired p.left.arq) last read := by
  obtain ⟨low, hcrossing⟩ := h.across
  have hl := h.live.layout
  obtain ⟨hsize, hl'⟩ := pollTimers_layout hl dt
  have hexact := h.targets.timers hl dt
  have hretired := (pollAcked_msgs hl).1
  have hclean : CleanPoll p.left.arq dt :=
    ⟨fun hacks => h.targets.not_awaits hl hacks.2, fun _ => hsweep.pointerSound hl' hexact⟩
  obtain ⟨rest, htakes, hseq, hwired⟩ := h.wired.speak hs.symmetric dt fun rest htakes => by
    intro f hread _ hseg
    obtain ⟨hnone, -⟩ | ⟨r, rfl, hread', -⟩ := htakes
    · rw [hnone] at hread
      cases hread
    · obtain rfl := Option.some.inj (hread'.symm.trans hread)
      rw [h.replies _ List.mem_cons_self] at hseg
      cases hseg
  have hok : ReliableMove p.left (.poll dt) := by
    refine ⟨⟨hclean, ?_⟩, fun _ => h.targets.covered hl⟩
    rw [htakes.no_segment h.replies]
    simp
  have hcrossing' := hcrossing.speak_sender hok htakes
    (fun j hj => h.wired.left.target hs.symmetric hj) hseq
  have hhist := sendHistStep_poll b (h := p.left.hist) (by rw [h.base_eq]; exact hl) dt
  have hbase : (sendHistStep b p.left.hist (.poll dt)).base = base + pollRetired p.left.arq := by
    rw [hhist, ← h.base_eq]
    rfl
  obtain ⟨hfree, hwnd, hptr, -, -⟩ := takeFrame_spec (perform b p.left.arq (.poll dt))
  have hw : (p.speak b dt).left.arq.sendWnd.w = (pollTimers p.left.arq dt).w := by
    rw [Duplex.speak_arq, hwnd]
    exact pollWork_sendWnd_w b p.left.arq dt
  have hlive : SendLive d (p.speak b dt).left.arq.sendWnd (base + pollRetired p.left.arq)
      (p.speak b dt).left.hist.content := by
    have hstep := SendLive.step (d := d) b (h := p.left.hist) (by rw [h.base_eq]; exact h.live) (.poll dt)
      (h.fittingAck htakes)
    rw [hbase, sendHistStep_arq] at hstep
    rw [Duplex.speak_arq, hwnd, Duplex.speak_left]
    exact hstep
  refine ⟨rest, htakes, .speak hok, hwired, ⟨low, hcrossing'⟩, hbase, hlive, ?_, h.silent, ?_,
    fun f hf => h.replies f (htakes.mem hf), h.read_le.trans (Nat.le_add_right _ _), ?_, h.room, hfree,
    h.rightFree⟩
  · rw [ExactTargets, hw]
    exact hexact
  · intro f hf hseg
    rcases List.mem_append.mp hf with hold | hnew
    · exact h.fresh f hold hseg
    obtain ⟨past, told, -, ht⟩ := hcrossing.transfer
    have hframe := Option.mem_toList.mp hnew
    obtain ⟨i, hi, hnum⟩ := ht.sender.number b hclean hframe hseg (hseq f hframe)
    rw [sendHistStep_arq] at hi
    change i < (pollWork b p.left.arq dt).sendWnd.w.size at hi
    rw [pollWork_sendWnd_w, hsize] at hi
    rw [hbase] at hnum
    have hread := h.read_le
    have hlast := h.last_eq
    have hroom := h.room
    exact ⟨_, by omega, by omega, hnum⟩
  · rw [hw, hsize]
    have hlast := h.last_eq
    omega

end

/-! ## A sweep of the left side -/

/-- The frame carries the segment `s.2` of the message with the number `s.1`. -/
def Carries (f : FrameHdr × List UInt8) (s : Nat × Nat) : Prop :=
  f.1.seg = true ∧ f.1.seqNum = s.1 ∧ f.1.segId = s.2

/-- No frame waits to be read, no message is being sent, and the tinygram timer is off. -/
structure Resting (arq : Arq) : Prop where
  read : pollRead arq = none
  ptr : arq.sendWndPtr.valid = false
  tinyOn : arq.sendWnd.tinyOn = false

section

variable {arq : Arq} {q rest : List (FrameHdr × List UInt8)} {dt : Nat}

theorem Takes.none (h : Takes arq q rest) (hread : pollRead arq = none) : rest = q := by
  obtain ⟨-, heq⟩ | ⟨r, -, hsome, -⟩ := h
  · exact heq
  · rw [hread] at hsome
    cases hsome

theorem pollRh_none (hread : pollRead arq = none) : pollRh arq = frameHdrInit := by
  rw [pollRh, hread]

theorem pollRetired_none (hread : pollRead arq = none) : pollRetired arq = 0 := by
  rw [pollRetired, pollRh_none hread]
  rfl

theorem pollTimers_none (hread : pollRead arq = none) (htiny : arq.sendWnd.tinyOn = false) :
    pollTimers arq 0 = arq.sendWnd := by
  rw [pollTimers, pollRh_none hread]
  exact sendPollTimers_still htiny rfl

end

section

variable {b : Build} {cfg : Cfg} {d : Dims} {hcap : d.cap ≤ 2048} {M : Nat → List UInt8} {p : Duplex}
  {qr ql rest : List (FrameHdr × List UInt8)} {got : List (Nat × Nat)} {base last read dt i j : Nat}

/-- What a turn of a sweep sends, and what it leaves to send. -/
theorem Exchange.speak_owed (hs : Plain b cfg d) (h : Exchange b cfg d hcap M p qr ql got base last read)
    (hsweep : Sweeping (pollTimers p.left.arq dt) p.left.arq.sendWndPtr) :
    let arq := (p.speak b dt).left.arq
    let todo := owed (pollTimers p.left.arq dt) p.left.arq.sendWndPtr
    pollRead arq = none ∧ Sweeping arq.sendWnd arq.sendWndPtr ∧ owed arq.sendWnd arq.sendWndPtr = todo.tail ∧
      (∀ s ∈ todo.head?, ∃ f ∈ (pollFrame (pollWork b p.left.arq dt)).toList, Carries f s) ∧
      (todo = [] → arq.sendWndPtr.valid = false) := by
  have hrtx : 0 < p.left.arq.cfg.retransmissionTimeout := by
    rw [(h.wired.left.sound hs.symmetric).cfg_eq]
    exact hs.rtx
  obtain ⟨hsweep', -, howed, hhead, hend⟩ := poll_owed b hsweep h.leftFree hrtx
  obtain ⟨-, hwnd, hptr, hrecv, -⟩ := takeFrame_spec (perform b p.left.arq (.poll dt))
  dsimp only
  rw [Duplex.speak_arq, hwnd, hptr]
  refine ⟨?_, hsweep', howed, fun s hsmem => ?_, hend⟩
  · rw [← pollRead_perform b p.left.arq dt, pollRead, pollRead, hrecv, takeFrame_eq]
  · obtain ⟨f, hframe, hcarries⟩ := hhead s hsmem
    exact ⟨f, Option.mem_toList.mpr hframe, hcarries⟩

/-- Turns of the left side send all segments that are owed after the timers of the first. -/
theorem Exchange.sweep (hs : Plain b cfg d) (h : Exchange b cfg d hcap M p qr ql got base last read)
    (hsweep : Sweeping (pollTimers p.left.arq dt) p.left.arq.sendWndPtr) :
    ∃ rest, Takes p.left.arq ql rest ∧ ∃ q new, Reaches b p q ∧
      Exchange b cfg d hcap M q (qr ++ new) rest got (base + pollRetired p.left.arq) last read ∧
      Resting q.left.arq ∧ q.right = p.right ∧
      ∀ s ∈ owed (pollTimers p.left.arq dt) p.left.arq.sendWndPtr, ∃ f ∈ new, Carries f s := by
  induction howed : owed (pollTimers p.left.arq dt) p.left.arq.sendWndPtr generalizing p qr ql base dt with
  | nil =>
    obtain ⟨rest, htakes, hreach, h'⟩ := h.speak_left hs hsweep
    obtain ⟨hread, hsweep', -, -, hend⟩ := h.speak_owed hs hsweep
    exact ⟨rest, htakes, _, _, hreach, h', ⟨hread, hend howed, hsweep'.tinyOn⟩, rfl, by simp⟩
  | cons s l ih =>
    obtain ⟨rest, htakes, hreach, h'⟩ := h.speak_left hs hsweep
    obtain ⟨hread, hsweep', howed', hhead, -⟩ := h.speak_owed hs hsweep
    rw [howed] at howed' hhead
    have hstill := pollTimers_none hread hsweep'.tinyOn
    rw [← hstill] at hsweep' howed'
    obtain ⟨rest', htakes', q, new, hreach', h'', hrest, hright, hcarries⟩ := ih h' hsweep' howed'
    rw [htakes'.none hread, pollRetired_none hread, List.append_assoc] at h''
    obtain ⟨f, hf, hs⟩ := hhead s rfl
    refine ⟨rest, htakes, q, _, hreach.trans hreach', h'', hrest, hright, ?_⟩
    intro s' hs'
    rcases List.mem_cons.mp hs' with rfl | hs'
    · exact ⟨f, List.mem_append_left _ hf, hs⟩
    · obtain ⟨f', hf', hs''⟩ := hcarries s' hs'
      exact ⟨f', List.mem_append_right _ hf', hs''⟩

/-- A side whose pointer is on no segment begins a sweep. -/
theorem Exchange.sweeping (h : Exchange b cfg d hcap M p qr ql got base last read)
    (hptr : p.left.arq.sendWndPtr.valid = false)
    (htiny : p.left.arq.sendWnd.tinyOn = true → p.left.arq.sendWnd.tiny ≤ dt) :
    Sweeping (pollTimers p.left.arq dt) p.left.arq.sendWndPtr := by
  have hl := h.live.layout
  obtain ⟨-, hl'⟩ := pollTimers_layout hl dt
  refine ⟨(h.targets.timers hl dt).sweepWnd hl', fun hvalid => ?_, pollTimers_tinyOn htiny⟩
  rw [hptr] at hvalid
  cases hvalid

/-- When its timers have run out, the left side sends what is not acknowledged of its first message. -/
theorem Exchange.resend (hs : Plain b cfg d) (h : Exchange b cfg d hcap M p qr ql got base last read)
    (hrest : Resting p.left.arq) (hsize : 0 < p.left.arq.sendWnd.w.size) :
    ∃ q new, Reaches b p q ∧ Exchange b cfg d hcap M q (qr ++ new) ql got base last read ∧ Resting q.left.arq ∧
      q.right = p.right ∧ ∀ j, j < segCount d.segLen (M base).length →
        (p.left.arq.sendWnd.w.msg (base % d.cap)).curAckVec.testBit j = false →
          ∃ f ∈ new, Carries f (base % seqSpace, j) := by
  have hl := h.live.layout
  obtain ⟨dt, hdt⟩ := exists_upper p.left.arq.sendWnd.rtx d.cap
  have hack : (pollRh p.left.arq).ack = false := by
    rw [pollRh_none hrest.read]
    rfl
  have hw : (pollTimers p.left.arq dt).w = p.left.arq.sendWnd.w := pollTimers_w hack hrest.tinyOn
  have hoff := pollTimers_rtx hl hack (fun i _ => hdt _ (Nat.mod_lt _ d.cap_pos)) hsize
  have hsweep : Sweeping (pollTimers p.left.arq dt) p.left.arq.sendWndPtr :=
    h.sweeping hrest.ptr fun hon => absurd hon (by rw [hrest.tinyOn]; simp)
  obtain ⟨rest, htakes, q, new, hreach, h', hrest', hright, hcarries⟩ := h.sweep hs hsweep
  rw [htakes.none hrest.read, pollRetired_none hrest.read] at h'
  refine ⟨q, new, hreach, h', hrest', hright, fun j hj hzero => hcarries _ ?_⟩
  rw [owed_invalid hsweep.wnd hrest.ptr]
  have hlen := h.msg_len hsize
  rw [Nat.add_zero] at hlen hoff
  rw [← hlen] at hj
  have hlive : SendLive d (pollTimers p.left.arq dt) base p.left.hist.content := by
    obtain ⟨h1, h2, h3⟩ := h.live
    exact ⟨by rw [hw]; exact h1, by rw [hw]; exact h2, by rw [hw]; exact h3⟩
  refine hlive.due (by rw [hw]; exact hsize) hoff ?_ ?_
  · rw [hw]
    exact hj
  · rw [hw]
    exact hzero

end

/-! ## A turn of the right side -/

section

variable {d : RecvDims} {M : Nat → List UInt8} {got : Nat → Nat → Prop} {rw : RecvWnd} {read k : Nat}

/-- A message from `read` on is none that was handed over. -/
theorem RecvLayout.notHandedOver (h : RecvLayout d M got read rw) (hcap : d.cap ≤ 1024) (hlo : read ≤ k)
    (hhi : k < read + 2 * d.cap) : NotHandedOver rw (k % seqSpace) := by
  have hslide := h.slide_le
  have hss := h.slide_size
  have hsize := h.size_le
  have hindex : wndIndex rw.w (k % seqSpace) = k - (read - rw.slide) := by
    unfold wndIndex
    rw [h.seq]
    unfold seqSpace
    omega
  unfold NotHandedOver
  rw [hindex]
  unfold seqSpace
  omega

end

/-- What a poll of the receiver `arq` adds to the segments it has. -/
structure Heard (d : Dims) (hcap : d.cap ≤ 2048) (M : Nat → List UInt8) (arq : Arq) (dt : Nat)
    (got got' : List (Nat × Nat)) (read : Nat) : Prop where
  grows : ∀ s ∈ got, s ∈ got'
  layout : RecvLayout (d.recv hcap) M (fun k j => (k, j) ∈ got') read (pollReceived arq dt)
  stores : ∀ f ∈ pollSegment arq, ∀ k, read ≤ k → k < read + d.cap → f.hdr.seqNum = k % seqSpace →
    (k, f.hdr.segId) ∈ got' ∧
      (arq.cfg.interSegmentTimeout ≤ dt → (pollReceived arq dt).ack (k % d.cap) = true)

section

variable {b : Build} {cfg : Cfg} {d : Dims} {hcap : d.cap ≤ 2048} {M : Nat → List UInt8} {p : Duplex}
  {qr ql rest : List (FrameHdr × List UInt8)} {got got' : List (Nat × Nat)} {base last read dt i j k : Nat}

theorem Exchange.recv_layout (h : Exchange b cfg d hcap M p qr ql got base last read) :
    RecvLayout (d.recv hcap) M (fun k j => (k, j) ∈ got) read p.right.arq.recvWnd := by
  obtain ⟨low, hcrossing⟩ := h.across
  obtain ⟨past, told, rfl, ht⟩ := hcrossing.transfer
  exact ht.receiver.layout

theorem Exchange.speak_right (hs : Plain b cfg d) (h : Exchange b cfg d hcap M p qr ql got base last read)
    (dt : Nat) :
    ∃ rest got', Takes p.right.arq qr rest ∧ Reaches b p (p.swap.speak b dt).swap ∧
      Exchange b cfg d hcap M (p.swap.speak b dt).swap rest
        (ql ++ (pollFrame (pollWork b p.right.arq dt)).toList) got' base last read ∧
      Heard d hcap M p.right.arq dt got got' read := by
  obtain ⟨low, hcrossing⟩ := h.across
  obtain ⟨past, told, -, ht⟩ := hcrossing.transfer
  obtain ⟨rest, htakes, hseq, hwired⟩ := h.wired.swap.speak hs.symmetric dt fun rest htakes => by
    rw [hs.dims.segs]
    exact hcrossing.read_fits htakes
  have hlayout := h.recv_layout
  have hcapLe := hs.cap_le
  have hok : ReliableMove p.right (.poll dt) := by
    have hnot : ¬ pollAcks p.right.arq := fun hacks => h.silent.not_acks hacks.2
    refine ⟨⟨⟨fun hacks => absurd hacks hnot, fun _ hvalid => ?_⟩, fun f hf => ?_⟩,
      fun hacks => absurd hacks hnot⟩
    · rw [h.silent.ptr] at hvalid
      cases hvalid
    · obtain ⟨rfl, hseg⟩ := htakes.segment hf
      obtain ⟨k, hlo, hhi, hnum⟩ := h.fresh _ List.mem_cons_self hseg
      dsimp only at hnum
      rw [hnum]
      exact hlayout.notHandedOver hcapLe hlo hhi
  obtain ⟨got', low', hgains, hreceived, hcrossing'⟩ :=
    Crossing.speak_receiver (b := b) (p := p.swap) hs.connections hcrossing hok htakes
  obtain ⟨hfree, hwnd, hptr, -, -⟩ := takeFrame_spec (perform b p.right.arq (.poll dt))
  have hsilent := h.silent.poll b dt
  refine ⟨rest, got', htakes, (Reaches.speak (p := p.swap) hok).swap, ⟨hwired.swap, ⟨low', hcrossing'⟩,
    h.base_eq, h.live, h.targets, ?_, fun f hf => h.fresh f (htakes.mem hf), ?_, h.read_le,
    h.last_eq, h.room, h.leftFree, hfree⟩, hgains.grows, hreceived.layout, ?_⟩
  · refine ⟨?_, ?_⟩
    · exact (congrArg (fun sw : SendWnd => sw.w.size) hwnd).trans hsilent.size
    · exact (congrArg SendWndPtr.valid hptr).trans hsilent.ptr
  · intro f hf
    rcases List.mem_append.mp hf with hold | hnew
    · exact h.replies f hold
    · change f ∈ (pollFrame (pollWork b p.right.arq dt)).toList at hnew
      rw [h.silent.frame hs.connections, Option.mem_toList] at hnew
      obtain ⟨r, -, rfl⟩ := Option.map_eq_some_iff.mp hnew
      rfl
  · intro f hf k hlo hhi hnum
    obtain ⟨k', hlow, ⟨s, hs', hmsg⟩, hof, hstores⟩ := hgains.stores f hf
    -- The frame is of message `k`, and not of one with the same number.
    have hsent := ht.sent_lt s hs'
    have hbase : p.left.hist.base ≤ low + d.cap := by
      by_contra hlt
      have := ht.ahead _ (ht.removed (p.left.hist.base - 1) (by omega)).1
      dsimp only at this
      omega
    obtain rfl : k' = k := by
      have hnum' := hof.seqNum.symm.trans hnum
      have hbase' := h.base_eq
      have hread := h.read_le
      have hlast := h.last_eq
      have hroom := h.room
      have hlow_le := hgains.low_le
      change s.msg < p.left.hist.base + p.left.arq.sendWnd.w.size at hsent
      unfold seqSpace at hnum'
      omega
    have hslide := hlayout.slide_le
    have hss := hlayout.slide_size
    have hsize := hlayout.size_le
    have hcap' : (d.recv hcap).cap = d.cap := rfl
    obtain ⟨rw', hroom, -, -, -⟩ := hlayout.make_room hlo hhi (by omega)
    refine ⟨hstores ?_, fun hdt => ?_⟩
    · exact Option.isSome_iff_exists.mpr ⟨rw', hroom⟩
    · rw [← hcap', ← hlayout.slot_eq k', ← hnum]
      refine pollReceived_flags hf ?_ hdt
      rw [hnum]
      exact Option.isSome_iff_exists.mpr ⟨rw', hroom⟩

/-! ## Answers -/

/-- The frame acknowledges all of message `k`. -/
def AcksAll (d : Dims) (M : Nat → List UInt8) (k : Nat) (f : FrameHdr × List UInt8) : Prop :=
  f.1.ack = true ∧ f.1.ackNum = k % seqSpace ∧ f.1.curAckVec = 2 ^ segCount d.segLen (M k).length - 1

/-- The ACK for message `k` is flagged, or an ACK for all of it is on its way. -/
def Answered (d : Dims) (M : Nat → List UInt8) (rw : RecvWnd) (ql : List (FrameHdr × List UInt8)) (k : Nat) :
    Prop :=
  rw.ack (k % d.cap) = true ∨ ∃ f ∈ ql, AcksAll d M k f

/-- What the right side has of message `k` when it is complete. -/
theorem RecvLayout.reported {rw : RecvWnd} (h : RecvLayout (d.recv hcap) M (fun k j => (k, j) ∈ got) read rw)
    (hM : ∀ k, MsgFits (d.recv hcap) (M k)) (hlo : read ≤ k) (hhi : k < read + d.cap)
    (hall : ∀ j, j < segCount d.segLen (M k).length → (k, j) ∈ got) (hi : i < rw.w.size)
    (hslot : k % d.cap = (rw.w.seq + i) % rw.w.cap) :
    (rw.w.seq + i) % seqSpace = k % seqSpace ∧
      (rw.w.msg (k % d.cap)).curAckVec = 2 ^ segCount d.segLen (M k).length - 1 := by
  have hslide := h.slide_le
  have hfront := h.front k 0 (hall 0 (hM k).segs_pos)
  have hsize := h.size_le
  have hcap' : (d.recv hcap).cap = d.cap := rfl
  refine ⟨?_, ?_⟩
  · have hnum : k = read - rw.slide + i := by
      rw [h.cap_eq, h.seq, ring_mod (d.recv hcap).cap_dvd, hcap'] at hslot
      rcases Nat.le_total k (read - rw.slide + i) with hle | hle
      · exact ring_inj_abs hle (by omega) hslot
      · exact (ring_inj_abs hle (by omega) hslot.symm).symm
    rw [h.seq, Nat.mod_add_mod, ← hnum]
  · have hholds := h.slot k hlo hhi
    rw [hcap'] at hholds
    exact (eq_ones_iff fun j hj => hholds.lt j ((hholds.vec j).mp hj)).mpr
      fun j hj => (hholds.vec j).mpr (hall j hj)

theorem Exchange.answers (hs : Plain b cfg d) (h : Exchange b cfg d hcap M p qr ql got base last read)
    (hheard : Heard d hcap M p.right.arq dt got got' read) (hlo : read ≤ k) (hhi : k < read + d.cap)
    (hall : ∀ j, j < segCount d.segLen (M k).length → (k, j) ∈ got')
    (hflag : (pollReceived p.right.arq dt).ack (k % d.cap) = true) :
    Answered d M (p.swap.speak b dt).swap.right.arq.recvWnd
      (ql ++ (pollFrame (pollWork b p.right.arq dt)).toList) k := by
  obtain ⟨low, hcrossing⟩ := h.across
  have hrecv : (p.swap.speak b dt).swap.right.arq.recvWnd = (perform b p.right.arq (.poll dt)).recvWnd :=
    takeFrame_recvWnd _
  rw [Answered, hrecv]
  obtain hstays | ⟨i, hi, hslot, hreport⟩ := poll_flag b h.rightFree hflag
  · exact Or.inl hstays
  · obtain ⟨hnum, hvec⟩ := hheard.layout.reported hcrossing.fits hlo hhi hall hi hslot
    rw [h.silent.frame hs.connections, hreport, Option.map_some]
    exact Or.inr ⟨_, List.mem_append_right _ (Option.mem_toList.mpr rfl), rfl, hnum, hvec⟩

theorem Exchange.keeps_answer (hs : Plain b cfg d) (h : Exchange b cfg d hcap M p qr ql got base last read)
    (hheard : Heard d hcap M p.right.arq dt got got' read) (hlo : read ≤ k) (hhi : k < read + d.cap)
    (hall : ∀ j, j < segCount d.segLen (M k).length → (k, j) ∈ got)
    (hanswered : Answered d M p.right.arq.recvWnd ql k) :
    Answered d M (p.swap.speak b dt).swap.right.arq.recvWnd
      (ql ++ (pollFrame (pollWork b p.right.arq dt)).toList) k := by
  obtain hflag | ⟨f, hf, hacks⟩ := hanswered
  · exact h.answers hs hheard hlo hhi (fun j hj => hheard.grows _ (hall j hj))
      (pollReceived_flag_stays hflag dt)
  · exact Or.inr ⟨f, List.mem_append_left _ hf, hacks⟩

end

end NanoArq
