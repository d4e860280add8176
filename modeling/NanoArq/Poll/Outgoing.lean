import NanoArq.Poll.ConnStep
import NanoArq.Sender.Poll

/-!
# The outgoing header of one poll

The three producers of a poll fill in one header: the receive poll its ACK (`recvPollAck`), the
send poll its segment (`sendPollHdr`), the connection its flags. `pollWork_sh` follows the header
through the three, and each producer's work is tied to the frame that the poll writes:

* `pollAck_carried`: an ACK flag that the poll clears,
* `pollPtr_carried`: a segment to which the poll moves the send pointer,
* `connPoll_counted`: a transmission of the handshake that the poll counts.
-/

namespace NanoArq

open Lib

/-! ## The connection keeps the other flags -/

/-- The header `sh'` still acknowledges what `sh` does. -/
def AckKept (sh sh' : Option FrameHdr) : Prop :=
  ∀ h, sh = some h → ∃ h', sh' = some h' ∧ (h.ack = true → h'.ack = true)

theorem AckKept.refl (sh : Option FrameHdr) : AckKept sh sh := fun h hsh => ⟨h, hsh, id⟩

theorem AckKept.trans {sh sh' sh'' : Option FrameHdr} (h : AckKept sh sh') (h' : AckKept sh' sh'') :
    AckKept sh sh'' := by
  intro a ha
  obtain ⟨c, hc, hac⟩ := h a ha
  obtain ⟨d, hd, hcd⟩ := h' c hc
  exact ⟨d, hd, hcd ∘ hac⟩

section

variable {cfg : Cfg} {dt : Nat} {rh : FrameHdr} {ctx : ConnCtx}

theorem connRetransmit_ack {flags : FrameHdr → FrameHdr} (mark : ConnUnion → ConnUnion)
    (hflags : ∀ h, h.ack = true → (flags h).ack = true) :
    AckKept ctx.sh (connRetransmit cfg dt flags mark ctx).sh := by
  obtain ⟨-, heq⟩ | ⟨sh, hsh, hsent, -⟩ := @connRetransmit_cases cfg dt ctx flags mark
  · rw [heq]
    exact AckKept.refl _
  · intro h hh
    rw [hsh] at hh
    cases hh
    exact ⟨flags sh, hsent, hflags sh⟩

theorem connRstSentNote_ack : AckKept ctx.sh (connRstSentNote cfg dt rh ctx).sh := by
  unfold connRstSentNote
  split_ifs
  · exact AckKept.refl _
  · exact AckKept.refl _
  · exact AckKept.refl _
  · exact connRetransmit_ack id fun _ h => h

theorem rstSentAnswer_keeps (ctx : ConnCtx) :
    (rstSentAnswer ctx).conn.u = ctx.conn.u ∧
      (ctx.emit = true → (rstSentAnswer ctx).emit = true) ∧
      ∀ h, ctx.sh = some h → ∃ h', (rstSentAnswer ctx).sh = some h' ∧ h'.rst = h.rst ∧
        (h.ack = true → h'.ack = true) := by
  cases hsh : ctx.sh with
  | none =>
    rw [rstSentAnswer_busy hsh, hsh]
    exact ⟨rfl, id, fun h hh => by cases hh⟩
  | some sh =>
    rw [rstSentAnswer_free hsh]
    split
    · refine ⟨rfl, fun _ => rfl, ?_⟩
      rintro h hh
      cases hh
      exact ⟨_, rfl, rfl, fun _ => rfl⟩
    · refine ⟨rfl, id, ?_⟩
      rintro h hh
      cases hh
      exact ⟨sh, hsh, rfl, id⟩

theorem connPollState_ack : AckKept ctx.sh (connPollState cfg dt rh ctx).1.sh := by
  unfold connPollState
  split
  · unfold connPollStateClosed
    split_ifs <;> exact AckKept.refl _
  · by_cases h : rh.seg = true ∨ (rh.ack = true ∧ ¬ rh.rst = true)
    · unfold connPollStateRstSent
      rw [if_pos h]
      exact AckKept.refl _
    · rw [connPollStateRstSent_eq h]
      intro a ha
      obtain ⟨c, hc, hac⟩ := @connRstSentNote_ack cfg dt rh ctx a ha
      obtain ⟨d, hd, -, hcd⟩ := (rstSentAnswer_keeps _).2.2 c hc
      exact ⟨d, hd, hcd ∘ hac⟩
  · unfold connPollStateRstRecvd
    split_ifs
    · exact AckKept.refl _
    · exact AckKept.refl _
    · exact AckKept.refl _
    · exact connRetransmit_ack _ fun _ _ => rfl
  · exact AckKept.refl _

theorem connPoll_ack (b : Build) (conn : Conn) (sh : Option FrameHdr) (rh : FrameHdr) (dt : Nat)
    (cfg : Cfg) : AckKept sh (connPoll b conn sh rh dt cfg).sh := by
  unfold connPoll
  split
  · simp only [connPollGo]
    have h₁ := @connPollState_ack cfg dt rh { conn := conn, sh := sh, emit := false, event := .none }
    split
    · have h₂ := @connPollState_ack cfg dt rh (connPollState cfg dt rh
        { conn := conn, sh := sh, emit := false, event := .none }).1
      split <;> exact h₁.trans h₂
    · exact h₁
  · exact AckKept.refl _

/-! ## Counting transmissions -/

/-- The connection emits a frame with the RST flag, and with the ACK flag if `ack`. -/
def SendsRst (ctx : ConnCtx) (ack : Prop) : Prop :=
  ctx.emit = true ∧ ∃ h, ctx.sh = some h ∧ h.rst = true ∧ (ack → h.ack = true)

theorem connRetransmit_counted {flags : FrameHdr → FrameHdr} {mark : ConnUnion → ConnUnion}
    {ack : Prop} (hflags : ∀ h, (flags h).rst = true ∧ (ack → (flags h).ack = true)) :
    (connRetransmit cfg dt flags mark ctx).conn.u.cnt = ctx.conn.u.cnt ∨
      SendsRst (connRetransmit cfg dt flags mark ctx) ack := by
  obtain ⟨-, heq⟩ | ⟨sh, -, hsent, hemit, -⟩ := @connRetransmit_cases cfg dt ctx flags mark
  · rw [heq]
    exact Or.inl rfl
  · exact Or.inr ⟨hemit, flags sh, hsent, hflags sh⟩

theorem connRstSentNote_counted :
    (connRstSentNote cfg dt rh ctx).conn.u.cnt = ctx.conn.u.cnt ∨
      SendsRst (connRstSentNote cfg dt rh ctx) False := by
  unfold connRstSentNote
  split_ifs
  · exact Or.inl rfl
  · exact Or.inl rfl
  · exact Or.inl rfl
  · exact connRetransmit_counted fun _ => ⟨rfl, False.elim⟩

theorem rstSent_counted :
    (connPollStateRstSent cfg dt rh ctx).1.conn.u.cnt = ctx.conn.u.cnt ∨
      SendsRst (connPollStateRstSent cfg dt rh ctx).1 False := by
  by_cases h : rh.seg = true ∨ (rh.ack = true ∧ ¬ rh.rst = true)
  · unfold connPollStateRstSent
    rw [if_pos h]
    exact Or.inl rfl
  · rw [connPollStateRstSent_eq h]
    obtain ⟨hu, hemit, hsh⟩ := rstSentAnswer_keeps (connRstSentNote cfg dt rh ctx)
    obtain hcnt | ⟨hsent, h', hh', hrst, -⟩ := @connRstSentNote_counted cfg dt rh ctx
    · exact Or.inl (by rw [hu, hcnt])
    · obtain ⟨h'', hh'', hrst', -⟩ := hsh h' hh'
      exact Or.inr ⟨hemit hsent, h'', hh'', hrst'.trans hrst, False.elim⟩

theorem rstRecvd_counted :
    (connPollStateRstRecvd cfg dt rh ctx).1.conn.u.cnt = ctx.conn.u.cnt ∨
      SendsRst (connPollStateRstRecvd cfg dt rh ctx).1 True := by
  unfold connPollStateRstRecvd
  split_ifs
  · exact Or.inl rfl
  · exact Or.inl rfl
  · exact Or.inl rfl
  · exact connRetransmit_counted fun _ => ⟨rfl, fun _ => rfl⟩

/-- A poll counts a transmission of the handshake only when it emits it. A closed connection that
receives the first RST starts to count at zero. -/
theorem connPoll_counted (b : Build) (conn : Conn) (sh : Option FrameHdr) (rh : FrameHdr)
    (dt : Nat) (cfg : Cfg) :
    (conn.state ≠ .closed →
      (connPoll b conn sh rh dt cfg).conn.u.cnt = conn.u.cnt ∨
        SendsRst (connPoll b conn sh rh dt cfg) (conn.state = .rstRecvd)) ∧
    (conn.state = .closed →
      (connPoll b conn sh rh dt cfg).conn = conn ∨ (connPoll b conn sh rh dt cfg).conn.u.cnt = 0 ∨
        SendsRst (connPoll b conn sh rh dt cfg) True) := by
  unfold connPoll
  split
  · have hemits : ∀ {r : ConnCtx} {ack : Prop}, SendsRst r ack →
        SendsRst { r with emit := r.sh.isSome && r.emit } ack := by
      rintro r ack ⟨hemit, h, hh, hflags⟩
      refine ⟨?_, h, hh, hflags⟩
      rw [hh, hemit]
      rfl
    dsimp only
    constructor
    · intro hclosed
      by_cases hsent : conn.state = .rstSent
      · rw [connPollGo_rstSent hsent]
        obtain hcnt | hsends := @rstSent_counted cfg dt rh
          { conn := conn, sh := sh, emit := false, event := .none }
        · exact Or.inl hcnt
        · obtain ⟨hemit, h, hh, hrst, -⟩ := hemits hsends
          exact Or.inr ⟨hemit, h, hh, hrst, fun hr => by rw [hsent] at hr; cases hr⟩
      · by_cases hrecvd : conn.state = .rstRecvd
        · rw [connPollGo_rstRecvd hrecvd]
          obtain hcnt | hsends := @rstRecvd_counted cfg dt rh
            { conn := conn, sh := sh, emit := false, event := .none }
          · exact Or.inl hcnt
          · obtain ⟨hemit, h, hh, hrst, hack⟩ := hemits hsends
            exact Or.inr ⟨hemit, h, hh, hrst, fun _ => hack trivial⟩
        · rw [connPollGo_other hclosed hsent hrecvd]
          exact Or.inl rfl
    · intro hclosed
      rw [connPollGo_closed hclosed]
      split_ifs
      · exact Or.inl rfl
      · obtain hcnt | hsends := @rstRecvd_counted cfg dt rh
          (rstReceived { conn := conn, sh := sh, emit := false, event := .none })
        · exact Or.inr (Or.inl hcnt)
        · exact Or.inr (Or.inr (hemits hsends))
      · exact Or.inl rfl
  · exact ⟨fun _ => Or.inl rfl, fun _ => Or.inl rfl⟩

end

/-! ## The header through the three polls -/

/-- The receive window of a poll before it looks for an ACK to send: the received frame is stored
and the inter-segment timer has run. -/
def pollReceived (arq : Arq) (dt : Nat) : RecvWnd :=
  recvPollTimer (recvPollFrame arq.recvWnd arq.recvFrame arq.cfg.checksum frameHdrInit
    arq.cfg.interSegmentTimeout).1 dt

/-- The outgoing header that the connection is given when the send frame is free. -/
def pollConnSh (arq : Arq) (dt : Nat) : FrameHdr :=
  sendPollHdr (pollTimers arq dt) (sendWndPtrNext arq.sendWndPtr (pollTimers arq dt)).1
    (recvPollAck (pollReceived arq dt) frameHdrInit).2

section

variable {b : Build} {arq : Arq} {dt : Nat}

theorem pollWork_sh (hfree : sendFrameFree arq) :
    (pollWork b arq dt).sh =
        (connPoll b arq.conn (some (pollConnSh arq dt)) (pollRh arq) dt arq.cfg).sh ∧
      (pollWork b arq dt).emit = ((recvPollAck (pollReceived arq dt) frameHdrInit).2.ack ||
        (pollConnSh arq dt).seg ||
        (connPoll b arq.conn (some (pollConnSh arq dt)) (pollRh arq) dt arq.cfg).emit) := by
  have hrh : (pollRecv arq dt).rh = pollRh arq := pollWork_rh b arq dt
  have hsh : pollRecv arq dt =
      { recvWnd := (recvPollAck (pollReceived arq dt) frameHdrInit).1
        recvFrame := (pollRecv arq dt).recvFrame
        sh := some (recvPollAck (pollReceived arq dt) frameHdrInit).2
        rh := (pollRecv arq dt).rh
        emit := (recvPollAck (pollReceived arq dt) frameHdrInit).2.ack } := by
    unfold pollRecv pollSh
    rw [if_pos hfree]
    rfl
  have hsend := sendPoll_sh arq.sendWnd arq.sendWndPtr
    (recvPollAck (pollReceived arq dt) frameHdrInit).2 (pollRh arq) dt
    arq.cfg.retransmissionTimeout
  have hwork : (pollWork b arq dt).sh = (connPoll b arq.conn (sendPoll arq.sendWnd arq.sendWndPtr
      (pollRecv arq dt).sh (pollRecv arq dt).rh dt arq.cfg.retransmissionTimeout).2.2.1
      (pollRecv arq dt).rh dt arq.cfg).sh := rfl
  have hemit : (pollWork b arq dt).emit = ((pollRecv arq dt).emit ||
      (sendPoll arq.sendWnd arq.sendWndPtr (pollRecv arq dt).sh (pollRecv arq dt).rh dt
        arq.cfg.retransmissionTimeout).2.2.2 ||
      (connPoll b arq.conn (sendPoll arq.sendWnd arq.sendWndPtr (pollRecv arq dt).sh
        (pollRecv arq dt).rh dt arq.cfg.retransmissionTimeout).2.2.1
        (pollRecv arq dt).rh dt arq.cfg).emit) := rfl
  rw [hwork, hemit, hrh]
  rw [hsh]
  dsimp only
  rw [hsend]
  exact ⟨rfl, rfl⟩

theorem pollWork_sh_busy (hfree : ¬ sendFrameFree arq) : (pollWork b arq dt).sh = none := by
  have hsh : (pollRecv arq dt).sh = none := by
    unfold pollRecv pollSh
    rw [if_neg hfree]
    rfl
  have hwork : (pollWork b arq dt).sh = (connPoll b arq.conn (sendPoll arq.sendWnd arq.sendWndPtr
      (pollRecv arq dt).sh (pollRecv arq dt).rh dt arq.cfg.retransmissionTimeout).2.2.1
      (pollRecv arq dt).rh dt arq.cfg).sh := rfl
  rw [hsh] at hwork
  obtain ⟨r, a, hflags⟩ := connPoll_flags b arq.conn none (pollRecv arq dt).rh dt arq.cfg
  rw [hwork]
  exact hflags

/-- A poll writes no frame while the send frame is in use. -/
theorem pollFrame_busy (hfree : ¬ sendFrameFree arq) : pollFrame (pollWork b arq dt) = none := by
  rw [pollFrame, pollWork_sh_busy hfree]

/-- A header that is to be emitted is written, with the length of its segment filled in. -/
theorem pollFrame_emit {p : Polled} {sh : FrameHdr} (hsh : p.sh = some sh) (hemit : p.emit = true) :
    ∃ n payload, pollFrame p = some ({ sh with segLen := n }, payload) ∧
      (sh.seg = false → n = sh.segLen) ∧
      (sh.seg = true → n = (wndSeg p.sendWnd.w sh.seqNum sh.segId).2) := by
  rw [pollFrame, hsh]
  dsimp only
  rw [if_pos hemit]
  by_cases hseg : sh.seg = true
  · rw [if_pos hseg]
    exact ⟨_, _, rfl, fun h => absurd (hseg.symm.trans h) (by simp), fun _ => rfl⟩
  · rw [if_neg hseg]
    exact ⟨sh.segLen, [], rfl, fun _ => rfl, fun h => absurd h hseg⟩

theorem recvPollAck_cases (rw : RecvWnd) (sh : FrameHdr) :
    (∃ i, i < rw.w.size ∧ rw.ack ((rw.w.seq + i) % rw.w.cap) = true ∧
      recvPollAck rw sh =
        ({ rw with ack := Function.update rw.ack ((rw.w.seq + i) % rw.w.cap) false },
          { sh with
            ack := true
            ackNum := (rw.w.seq + i) % seqSpace
            curAckVec := (rw.w.msg ((rw.w.seq + i) % rw.w.cap)).curAckVec })) ∨
      (∀ i, i < rw.w.size → rw.ack ((rw.w.seq + i) % rw.w.cap) = false) ∧
        recvPollAck rw sh = (rw, { sh with ack := false }) := by
  unfold recvPollAck recvWndAck
  cases hfind : (List.range rw.w.size).find? (fun i => rw.ack ((rw.w.seq + i) % rw.w.cap)) with
  | none =>
    refine Or.inr ⟨?_, rfl⟩
    intro i hi
    simpa using List.find?_eq_none.mp hfind i (List.mem_range.mpr hi)
  | some i =>
    have hack := List.find?_some hfind
    exact Or.inl ⟨i, List.mem_range.mp (List.mem_of_find?_eq_some hfind), hack, rfl⟩

/-! ## The work of each producer and the frame -/

/-- The frame acknowledges the message in `slot` of the window `w`. -/
structure CarriesAck (w : Wnd) (slot : Nat) (hd : FrameHdr) : Prop where
  ack : hd.ack = true
  ackNum : ∃ i, i < w.size ∧ slot = (w.seq + i) % w.cap ∧ hd.ackNum = (w.seq + i) % seqSpace
  curAckVec : hd.curAckVec = (w.msg slot).curAckVec

theorem pollWork_recvWnd (b : Build) (arq : Arq) (dt : Nat) :
    (pollWork b arq dt).recvWnd =
      if sendFrameFree arq then (recvPollAck (pollReceived arq dt) frameHdrInit).1
      else pollReceived arq dt := by
  have hrecv : (pollWork b arq dt).recvWnd = (pollRecv arq dt).recvWnd := rfl
  rw [hrecv]
  unfold pollRecv pollSh
  split <;> rfl

/-- The header that a poll writes is the one the three producers filled in. -/
theorem pollFrame_hdr {hd : FrameHdr} {payload : List UInt8}
    (h : pollFrame (pollWork b arq dt) = some (hd, payload)) :
    ∃ n r a, hd = { pollConnSh arq dt with segLen := n, rst := r, ack := a } ∧
      ((pollConnSh arq dt).seg = false → n = (pollConnSh arq dt).segLen) := by
  by_cases hfree : sendFrameFree arq
  · obtain ⟨r, a, hflags⟩ := connPoll_flags b arq.conn (some (pollConnSh arq dt)) (pollRh arq) dt
      arq.cfg
    have hsh := (@pollWork_sh b arq dt hfree).1
    rw [hflags, Option.map_some] at hsh
    have hemit : (pollWork b arq dt).emit = true := by
      by_contra hne
      rw [pollFrame, hsh] at h
      dsimp only at h
      rw [if_neg hne] at h
      cases h
    obtain ⟨n, seg, hframe, hlen, -⟩ := pollFrame_emit hsh hemit
    rw [hframe] at h
    cases h
    exact ⟨n, r, a, rfl, hlen⟩
  · rw [pollFrame_busy hfree] at h
    cases h

theorem recvPollAck_segLen (rw : RecvWnd) : (recvPollAck rw frameHdrInit).2.segLen = 0 ∧
    (recvPollAck rw frameHdrInit).2.seg = false := by
  obtain ⟨i, -, -, heq⟩ | ⟨-, heq⟩ := recvPollAck_cases rw frameHdrInit
  · rw [heq]
    exact ⟨rfl, rfl⟩
  · rw [heq]
    exact ⟨rfl, rfl⟩

theorem pollFrame_payload {p : Polled} {hd : FrameHdr} {payload : List UInt8}
    (h : pollFrame p = some (hd, payload)) :
    (hd.seg = true ∧ payload.length = hd.segLen) ∨ (hd.seg = false ∧ payload = []) := by
  unfold pollFrame at h
  cases hsh : p.sh with
  | none =>
    rw [hsh] at h
    cases h
  | some sh =>
    rw [hsh] at h
    dsimp only at h
    split_ifs at h with _ hseg
    · cases h
      exact Or.inl ⟨hseg, by simp⟩
    · cases h
      exact Or.inr ⟨by simpa using hseg, rfl⟩

theorem pollFrame_plain {hd : FrameHdr} {payload : List UInt8}
    (h : pollFrame (pollWork b arq dt) = some (hd, payload)) (hseg : hd.seg = false) :
    hd.segLen = 0 := by
  obtain ⟨n, r, a, rfl, hlen⟩ := pollFrame_hdr h
  have hzero : (pollConnSh arq dt).segLen = 0 := by
    unfold pollConnSh sendPollHdr
    split <;> exact (recvPollAck_segLen _).1
  exact (hlen hseg).trans hzero

/-- The ACK of a frame is the one that the receive poll reports, where no connection sets the flag. -/
theorem pollFrame_acks (hb : b.useConnections = false) {hd : FrameHdr} {payload : List UInt8}
    (h : pollFrame (pollWork b arq dt) = some (hd, payload)) (hack : hd.ack = true) :
    (recvWndAck (pollReceived arq dt)).2 = some (hd.ackNum, hd.curAckVec) := by
  by_cases hfree : sendFrameFree arq
  · have hconn : (connPoll b arq.conn (some (pollConnSh arq dt)) (pollRh arq) dt arq.cfg).sh =
        some (pollConnSh arq dt) := by
      simp only [connPoll, hb, Bool.false_eq_true, if_false]
    have hsh := (@pollWork_sh b arq dt hfree).1
    rw [hconn] at hsh
    have hhd : ∃ n, hd = { pollConnSh arq dt with segLen := n } := by
      rw [pollFrame, hsh] at h
      dsimp only at h
      split_ifs at h <;> cases h <;> exact ⟨_, rfl⟩
    obtain ⟨n, rfl⟩ := hhd
    have hkept : (pollConnSh arq dt).ack = (recvPollAck (pollReceived arq dt) frameHdrInit).2.ack ∧
        (pollConnSh arq dt).ackNum = (recvPollAck (pollReceived arq dt) frameHdrInit).2.ackNum ∧
        (pollConnSh arq dt).curAckVec =
          (recvPollAck (pollReceived arq dt) frameHdrInit).2.curAckVec := by
      unfold pollConnSh sendPollHdr
      split <;> exact ⟨rfl, rfl, rfl⟩
    dsimp only at hack ⊢
    rw [hkept.1] at hack
    rw [hkept.2.1, hkept.2.2]
    unfold recvPollAck at hack ⊢
    generalize recvWndAck (pollReceived arq dt) = reported at hack ⊢
    obtain ⟨rw', o⟩ := reported
    cases o with
    | none => cases hack
    | some p => rfl
  · rw [pollFrame_busy hfree] at h
    cases h

/-- The segment of the frame has the length that the header gives. -/
theorem pollFrame_length {hd : FrameHdr} {payload : List UInt8}
    (h : pollFrame (pollWork b arq dt) = some (hd, payload)) : payload.length = hd.segLen := by
  obtain ⟨-, hlen⟩ | ⟨hseg, rfl⟩ := pollFrame_payload h
  · exact hlen
  · exact (pollFrame_plain h hseg).symm

/-- A poll writes at most one segment of the window. -/
theorem pollFrame_segLen {hd : FrameHdr} {payload : List UInt8}
    (h : pollFrame (pollWork b arq dt) = some (hd, payload)) :
    hd.segLen ≤ (pollTimers arq dt).w.segLen := by
  cases hseg : hd.seg with
  | true =>
    obtain ⟨-, -, hdata⟩ := (pollFrame_data b arq dt).2 hd payload h hseg
    rw [hdata.segLen]
    exact Nat.min_le_left _ _
  | false =>
    rw [pollFrame_plain h hseg]
    exact Nat.zero_le _

theorem pollAck_carried {slot : Nat} (hpending : (pollReceived arq dt).ack slot = true)
    (hcleared : (pollWork b arq dt).recvWnd.ack slot = false) :
    ∃ hd payload, pollFrame (pollWork b arq dt) = some (hd, payload) ∧
      CarriesAck (pollWork b arq dt).recvWnd.w slot hd := by
  by_cases hfree : sendFrameFree arq
  · rw [pollWork_recvWnd, if_pos hfree] at hcleared ⊢
    obtain ⟨hsh, hemit⟩ := @pollWork_sh b arq dt hfree
    obtain ⟨i, hi, hack, heq⟩ | ⟨-, heq⟩ := recvPollAck_cases (pollReceived arq dt) frameHdrInit
    · have hslot : slot = ((pollReceived arq dt).w.seq + i) % (pollReceived arq dt).w.cap := by
        by_contra hne
        rw [heq] at hcleared
        dsimp only at hcleared
        rw [Function.update_of_ne hne, hpending] at hcleared
        cases hcleared
      have hconn : (pollConnSh arq dt).ack = true ∧
          (pollConnSh arq dt).ackNum = ((pollReceived arq dt).w.seq + i) % seqSpace ∧
          (pollConnSh arq dt).curAckVec = ((pollReceived arq dt).w.msg slot).curAckVec := by
        unfold pollConnSh sendPollHdr
        rw [heq, hslot]
        split <;> exact ⟨rfl, rfl, rfl⟩
      obtain ⟨h', hh', hkept⟩ := connPoll_ack b arq.conn (some (pollConnSh arq dt)) (pollRh arq) dt
        arq.cfg _ rfl
      have hsent : (pollWork b arq dt).emit = true := by
        rw [hemit, heq]
        simp
      obtain ⟨n, payload, hframe, -⟩ := pollFrame_emit (hsh.trans hh') hsent
      obtain ⟨n', r, a, hhd, -⟩ := pollFrame_hdr hframe
      refine ⟨_, payload, hframe, ?_, ⟨i, ?_⟩, ?_⟩
      · exact hkept hconn.1
      · rw [heq, hhd]
        exact ⟨hi, hslot, hconn.2.1⟩
      · rw [heq, hhd]
        exact hconn.2.2
    · rw [heq, hpending] at hcleared
      cases hcleared
  · rw [pollWork_recvWnd, if_neg hfree, hpending] at hcleared
    cases hcleared

theorem pollPtr_carried (b : Build) (arq : Arq) (dt : Nat) :
    (pollWork b arq dt).sendWndPtr = arq.sendWndPtr ∨
      (pollWork b arq dt).sendWndPtr.valid = false ∨
      ∃ hd payload, pollFrame (pollWork b arq dt) = some (hd, payload) ∧
        DataFrame (pollWork b arq dt).sendWnd (pollWork b arq dt).sendWndPtr hd payload := by
  rw [pollWork_sendWndPtr]
  split
  · rename_i hfree
    cases hvalid : (sendWndPtrNext arq.sendWndPtr (pollTimers arq dt)).1.valid with
    | false => exact Or.inr (Or.inl rfl)
    | true =>
      obtain ⟨hd, payload, hframe, hseg⟩ := (pollFrame_data b arq dt).1 ⟨hfree, hvalid⟩
      obtain ⟨-, -, hdata⟩ := (pollFrame_data b arq dt).2 hd payload hframe hseg
      refine Or.inr (Or.inr ⟨hd, payload, hframe, hdata.seg, hdata.seqNum, hdata.segId, ?_, ?_, ?_⟩)
      · rw [pollWork_sendWnd_w]
        exact hdata.msgLen
      · rw [pollWork_sendWnd_w]
        exact hdata.segLen
      · rw [pollWork_sendWnd_w]
        exact hdata.payload
  · exact Or.inl rfl

/-- The outgoing header that the connection is given. -/
def pollConnIn (arq : Arq) (dt : Nat) : Option FrameHdr :=
  if sendFrameFree arq then some (pollConnSh arq dt) else none

theorem pollWork_conn (b : Build) (arq : Arq) (dt : Nat) :
    (pollWork b arq dt).conn =
        (connPoll b arq.conn (pollConnIn arq dt) (pollRh arq) dt arq.cfg).conn ∧
      (pollWork b arq dt).event =
        (connPoll b arq.conn (pollConnIn arq dt) (pollRh arq) dt arq.cfg).event := by
  have hrh : (pollRecv arq dt).rh = pollRh arq := pollWork_rh b arq dt
  have hsend : (sendPoll arq.sendWnd arq.sendWndPtr (pollRecv arq dt).sh (pollRh arq) dt
      arq.cfg.retransmissionTimeout).2.2.1 = pollConnIn arq dt := by
    unfold pollRecv pollSh pollConnIn
    by_cases hfree : sendFrameFree arq
    · rw [if_pos hfree, if_pos hfree]
      exact congrArg Prod.fst (sendPoll_sh arq.sendWnd arq.sendWndPtr
        (recvPollAck (pollReceived arq dt) frameHdrInit).2 (pollRh arq) dt
        arq.cfg.retransmissionTimeout)
    · rw [if_neg hfree, if_neg hfree]
      rfl
  rw [← hsend, ← hrh]
  exact ⟨rfl, rfl⟩

/-- The frame of a poll carries the RST that its connection sends. -/
theorem pollRst_carried {ack : Prop}
    (h : SendsRst (connPoll b arq.conn (pollConnIn arq dt) (pollRh arq) dt arq.cfg) ack) :
    ∃ hd payload, pollFrame (pollWork b arq dt) = some (hd, payload) ∧ hd.rst = true ∧
      (ack → hd.ack = true) := by
  obtain ⟨hemit, sh, hsh, hrst, hack⟩ := h
  unfold pollConnIn at hemit hsh
  by_cases hfree : sendFrameFree arq
  · rw [if_pos hfree] at hemit hsh
    obtain ⟨hwork, hwritten⟩ := @pollWork_sh b arq dt hfree
    have hsent : (pollWork b arq dt).emit = true := by
      rw [hwritten, hemit, Bool.or_true]
    obtain ⟨n, payload, hframe, -⟩ := pollFrame_emit (hwork.trans hsh) hsent
    exact ⟨_, payload, hframe, hrst, hack⟩
  · rw [if_neg hfree] at hsh
    obtain ⟨r, a, hflags⟩ := connPoll_flags b arq.conn none (pollRh arq) dt arq.cfg
    rw [hflags] at hsh
    cases hsh

end

end NanoArq
