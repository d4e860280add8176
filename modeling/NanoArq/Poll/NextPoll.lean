import NanoArq.Poll.HandOff
import NanoArq.Poll.Times
import NanoArq.Poll.Timers

/-!
# The next poll

`Settled` describes an instance right after a poll (`backendPoll_settled`). Polled again before the
deadline that `arq__next_poll` reported, it only lets time pass (`Settled.poll`), and the polls add
up (`Settled.poll_add`).
-/

namespace NanoArq

open Lib

/-- Message `i` of the window waits to be sent. -/
def sendable (sw : SendWnd) (i : Nat) : Prop :=
  let idx := (i + sw.w.seq) % seqSpace % sw.w.cap
  sw.rtx idx = 0 ∧ (sw.w.msg idx).len > 0 ∧ (sw.w.msg idx).curAckVec < (sw.w.msg idx).fullAckVec

/-- The three producers have nothing for a free send frame. -/
structure NothingToSend (b : Build) (arq : Arq) : Prop where
  ptr : arq.sendWndPtr.valid = false
  messages : ∀ i, i < arq.sendWnd.w.size → ¬ sendable arq.sendWnd i
  acks : ∀ i, i < arq.recvWnd.w.size →
    arq.recvWnd.ack ((arq.recvWnd.w.seq + i) % arq.recvWnd.w.cap) = false
  conn : b.useConnections = true → arq.conn.state = .rstSent →
    arq.conn.u.rstAck = false ∧ arq.conn.u.simultaneous = false

/-- An instance right after a poll. -/
structure Settled (b : Build) (arq : Arq) : Prop where
  polled : arq.needPoll = false
  accumulating : arq.recvFrame.state = .accumulating
  dvd : arq.sendWnd.w.cap ∣ seqSpace
  size_le : arq.sendWnd.w.size ≤ arq.sendWnd.w.cap
  tiny : arq.sendWnd.tinyOn = true → 0 < arq.sendWnd.tiny
  interSeg : arq.recvWnd.interSegAckOn = true → 0 < arq.recvWnd.interSegAck
  free : sendFrameFree arq → NothingToSend b arq

/-- The instance after some time in which no timer runs out. -/
def advance (b : Build) (arq : Arq) (d : Nat) : Arq :=
  { arq with
    sendWnd := sendWndStep arq.sendWnd d
    recvWnd := recvPollTimer arq.recvWnd d
    conn := if b.useConnections then connStep arq.conn d else arq.conn }

section

variable {b : Build} {arq : Arq} {d d₁ d₂ : Nat}

/-! ## Before the deadline -/

/-- The deadline that a poll of this instance reported. -/
def reported (b : Build) (arq : Arq) : Nat := nextPoll b arq.sendWnd arq.recvWnd arq.conn

theorem lt_of_running (hd : d < reported b arq) {t : Nat}
    (ht : t ∈ runningTimers b arq.sendWnd arq.recvWnd arq.conn) : d < t := by
  rw [reported, nextPoll_eq] at hd
  exact hd.trans_le (deadline_le ht)

theorem mem_running_rtx {sw : SendWnd} {rw : RecvWnd} {c : Conn} {i : Nat} (hi : i < sw.w.size)
    (hpos : 0 < sw.rtx ((sw.w.seq + i) % sw.w.cap)) :
    sw.rtx ((sw.w.seq + i) % sw.w.cap) ∈ runningTimers b sw rw c := by
  simp only [runningTimers, List.mem_append, List.mem_filter, List.mem_map, List.mem_range]
  exact Or.inl (Or.inl (Or.inl ⟨⟨i, hi, rfl⟩, by simpa using hpos⟩))

theorem Settled.tiny_lt (h : Settled b arq) (hd : d < reported b arq)
    (hon : arq.sendWnd.tinyOn = true) : d < arq.sendWnd.tiny := by
  refine lt_of_running hd ?_
  simp only [runningTimers, List.mem_append]
  refine Or.inl (Or.inl (Or.inr ?_))
  rw [if_pos ⟨hon, h.tiny hon⟩]
  exact List.mem_singleton_self _

theorem Settled.interSeg_lt (h : Settled b arq) (hd : d < reported b arq)
    (hon : arq.recvWnd.interSegAckOn = true) : d < arq.recvWnd.interSegAck := by
  refine lt_of_running hd ?_
  simp only [runningTimers, List.mem_append]
  refine Or.inl (Or.inr ?_)
  rw [if_pos ⟨hon, h.interSeg hon⟩]
  exact List.mem_singleton_self _

theorem conn_lt (hd : d < reported b arq) (hb : b.useConnections = true)
    (hstate : (arq.conn.state = .rstSent ∧ arq.conn.u.rstAck = false ∧
      arq.conn.u.simultaneous = false) ∨ arq.conn.state = .rstRecvd) : d < arq.conn.u.tmr := by
  refine lt_of_running hd ?_
  simp only [runningTimers, List.mem_append]
  refine Or.inr ?_
  rw [if_pos hb]
  unfold connTimers
  obtain ⟨hs, hack, hsim⟩ | hs := hstate
  · rw [hs]
    dsimp only
    rw [if_pos (by simp [hack, hsim])]
    exact List.mem_singleton_self _
  · rw [hs]
    exact List.mem_singleton_self _

/-! ## One poll before the deadline -/

theorem Settled.pollRh (h : Settled b arq) : pollRh arq = frameHdrInit := by
  rw [NanoArq.pollRh, pollRead_of_accumulating h.accumulating]

theorem Settled.received (h : Settled b arq) (d : Nat) :
    pollReceived arq d = recvPollTimer arq.recvWnd d := by
  unfold pollReceived recvPollFrame
  rw [h.accumulating, if_neg (by simp)]

theorem Settled.stepped (h : Settled b arq) (hd : d < reported b arq) :
    pollTimers arq d = sendWndStep arq.sendWnd d := by
  unfold pollTimers sendPollTimers
  rw [h.pollRh]
  dsimp only
  rw [if_neg]
  · rfl
  · rintro ⟨hon, htiny⟩
    have hon' : arq.sendWnd.tinyOn = true := hon
    have hlt := h.tiny_lt hd hon'
    have hstep : (sendWndStep arq.sendWnd d).tiny = arq.sendWnd.tiny - d := by
      unfold sendWndStep
      dsimp only
      rw [if_pos hon', subSat_eq]
    change (sendWndStep arq.sendWnd d).tiny = 0 at htiny
    omega

/-- A message whose timer has not run out is not sent. -/
theorem Settled.not_sendable (h : Settled b arq) (hd : d < reported b arq) {i : Nat}
    (hi : i < arq.sendWnd.w.size) (hno : ¬ sendable arq.sendWnd i) :
    ¬ sendable (sendWndStep arq.sendWnd d) i := by
  have hslot : (i + arq.sendWnd.w.seq) % seqSpace % arq.sendWnd.w.cap =
      (arq.sendWnd.w.seq + i) % arq.sendWnd.w.cap := by
    rw [Nat.mod_mod_of_dvd _ h.dvd, Nat.add_comm]
  rintro ⟨hrtx, hmsg⟩
  refine hno ⟨?_, hmsg⟩
  by_contra hne
  rw [hslot] at hne
  have hlt := lt_of_running hd (mem_running_rtx hi (Nat.pos_of_ne_zero hne))
  change (sendWndStep arq.sendWnd d).rtx ((i + arq.sendWnd.w.seq) % seqSpace % arq.sendWnd.w.cap) = 0
    at hrtx
  rw [hslot, sendWndStep_rtx_eq h.size_le, if_pos ⟨i, hi, rfl⟩] at hrtx
  omega

theorem sendWndPtrNext_idle {p : SendWndPtr} {sw : SendWnd} (hp : p.valid = false)
    (hno : ∀ i, i < sw.w.size → ¬ sendable sw i) : sendWndPtrNext p sw = (p, .insideMsg) := by
  have hsearch : sendWndPtrSearch p sw = p := by
    obtain ⟨i, hi, ⟨-, hsel⟩, -, -⟩ | ⟨-, heq⟩ := sendWndPtrSearch_cases p sw
    · exact absurd hsel (hno i hi)
    · rw [heq, ← hp]
  unfold sendWndPtrNext
  rw [if_neg (by simp [hp]), hsearch]

theorem recvPollTimer_before {rw : RecvWnd} (h : rw.interSegAckOn = true → d < rw.interSegAck) :
    recvPollTimer rw d = { rw with
      interSegAck := if rw.interSegAckOn then rw.interSegAck - d else rw.interSegAck } := by
  unfold recvPollTimer
  by_cases hon : rw.interSegAckOn = true
  · have := h hon
    rw [if_pos hon, subSat_eq, if_neg (by omega), if_pos hon]
  · rw [if_neg hon, if_neg hon]

theorem Settled.connIdle (h : Settled b arq) (hd : d < reported b arq)
    (hb : b.useConnections = true) : ConnIdle arq.conn (pollConnIn arq d) d := by
  have hfree : pollConnIn arq d ≠ none → sendFrameFree arq := by
    intro hsome
    by_contra hbusy
    rw [pollConnIn, if_neg hbusy] at hsome
    exact hsome rfl
  refine ⟨fun hsome hs => (h.free (hfree hsome)).conn hb hs, ?_⟩
  rintro hsome (hs | hs)
  · obtain ⟨hack, hsim⟩ := (h.free (hfree hsome)).conn hb hs
    exact conn_lt hd hb (Or.inl ⟨hs, hack, hsim⟩)
  · exact conn_lt hd hb (Or.inr hs)

theorem Settled.noAck (h : Settled b arq) (hd : d < reported b arq) (hfree : sendFrameFree arq) :
    recvPollAck (pollReceived arq d) frameHdrInit =
      (pollReceived arq d, { frameHdrInit with ack := false }) := by
  have hrecv := h.received d
  rw [recvPollTimer_before (h.interSeg_lt hd)] at hrecv
  obtain ⟨i, hi, hset, -⟩ | ⟨-, heq⟩ := recvPollAck_cases (pollReceived arq d) frameHdrInit
  · rw [hrecv] at hi hset
    exact absurd (hset.symm.trans ((h.free hfree).acks i hi)) (by simp)
  · exact heq

theorem Settled.ptrStays (h : Settled b arq) (hd : d < reported b arq) (hfree : sendFrameFree arq) :
    sendWndPtrNext arq.sendWndPtr (pollTimers arq d) = (arq.sendWndPtr, .insideMsg) := by
  have hnothing := h.free hfree
  rw [h.stepped hd]
  exact sendWndPtrNext_idle hnothing.ptr fun i hi => h.not_sendable hd hi (hnothing.messages i hi)

/-- The connection lets time pass as well. -/
theorem Settled.connPoll (h : Settled b arq) (hd : d < reported b arq) :
    NanoArq.connPoll b arq.conn (pollConnIn arq d) (NanoArq.pollRh arq) d arq.cfg =
      { conn := if b.useConnections then connStep arq.conn d else arq.conn
        sh := pollConnIn arq d
        emit := false
        event := .none } := by
  rw [h.pollRh]
  by_cases hb : b.useConnections = true
  · exact connPoll_idle (h.connIdle hd hb)
  · unfold NanoArq.connPoll
    rw [if_neg hb, if_neg hb]

/-- The poll has nothing to write. -/
theorem Settled.pollFrame (h : Settled b arq) (hd : d < reported b arq) :
    NanoArq.pollFrame (pollWork b arq d) = none := by
  by_cases hfree : sendFrameFree arq
  · have hsh : pollConnSh arq d = { frameHdrInit with ack := false } := by
      unfold pollConnSh sendPollHdr
      rw [h.ptrStays hd hfree, h.noAck hd hfree, if_neg (by simp [(h.free hfree).ptr])]
    have hin : pollConnIn arq d = some (pollConnSh arq d) := if_pos hfree
    obtain ⟨hwork, hemit⟩ := @pollWork_sh b arq d hfree
    rw [← hin, h.connPoll hd, h.noAck hd hfree, hsh] at hemit
    rw [NanoArq.pollFrame, hemit]
    split <;> rfl
  · exact pollFrame_busy hfree

theorem Settled.poll (h : Settled b arq) (hd : d < reported b arq) :
    backendPoll b arq d = (advance b arq d,
      { event := .none
        sendReady := decide (arq.sendFrame.len > 0)
        recvReady := recvWndPending arq.recvWnd
        nextPoll := reported b (advance b arq d) }) := by
  have hconn := pollWork_conn b arq d
  rw [h.connPoll hd] at hconn
  have hsend : (pollWork b arq d).sendWnd = sendWndStep arq.sendWnd d := by
    rw [pollWork_sendWnd, h.stepped hd]
    split
    · rename_i hfree
      have hptr := h.ptrStays hd hfree.1
      rw [h.stepped hd] at hptr
      rw [hptr] at hfree
      cases hfree.2
    · rfl
  have hptr : (pollWork b arq d).sendWndPtr = arq.sendWndPtr := by
    rw [pollWork_sendWndPtr]
    split
    · rename_i hfree
      rw [h.ptrStays hd hfree]
    · rfl
  have hrecv : (pollWork b arq d).recvWnd = recvPollTimer arq.recvWnd d := by
    rw [pollWork_recvWnd]
    split
    · rename_i hfree
      rw [h.noAck hd hfree, h.received]
    · rw [h.received]
  have hframe : (pollWork b arq d).recvFrame = arq.recvFrame := by
    rw [pollWork_recvFrame, h.accumulating, if_neg (by simp)]
  have hpending : recvWndPending (recvPollTimer arq.recvWnd d) = recvWndPending arq.recvWnd := by
    rw [recvPollTimer_before (h.interSeg_lt hd)]
    rfl
  unfold backendPoll
  dsimp only
  rw [h.pollFrame hd, hsend, hptr, hrecv, hframe, hconn.1, hconn.2, hpending, ← h.polled]
  rfl

/-! ## Polls add up -/

theorem Settled.pollWork_add (h : Settled b arq) (hd : d₁ < reported b arq) (d₂ : Nat) :
    pollWork b (advance b arq d₁) d₂ = pollWork b arq (d₁ + d₂) := by
  have hrecvFrame : ∀ rw : RecvWnd, recvPollFrame rw arq.recvFrame arq.cfg.checksum frameHdrInit
      arq.cfg.interSegmentTimeout = (rw, arq.recvFrame, frameHdrInit) := by
    intro rw
    unfold recvPollFrame
    rw [h.accumulating, if_neg (by simp)]
  have hrecv : ∀ sh, recvPoll (recvPollTimer arq.recvWnd d₁) arq.recvFrame arq.cfg.checksum sh
      frameHdrInit d₂ arq.cfg.interSegmentTimeout =
      recvPoll arq.recvWnd arq.recvFrame arq.cfg.checksum sh frameHdrInit (d₁ + d₂)
        arq.cfg.interSegmentTimeout := by
    intro sh
    unfold recvPoll
    rw [hrecvFrame, hrecvFrame]
    dsimp only
    rw [recvPollTimer_add (h.interSeg_lt hd)]
  have hrh : ∀ sh dt, (recvPoll arq.recvWnd arq.recvFrame arq.cfg.checksum sh frameHdrInit dt
      arq.cfg.interSegmentTimeout).rh = frameHdrInit := by
    intro sh dt
    rw [recvPoll_rh, hrecvFrame]
  have htimers : sendPollTimers (sendWndStep arq.sendWnd d₁) frameHdrInit d₂ =
      sendPollTimers arq.sendWnd frameHdrInit (d₁ + d₂) := by
    unfold sendPollTimers
    dsimp only [frameHdrInit]
    simp only [Bool.false_eq_true, if_false]
    rw [sendWndStep_add h.size_le]
  have hsend : ∀ sh, sendPoll (sendWndStep arq.sendWnd d₁) arq.sendWndPtr sh frameHdrInit d₂
      arq.cfg.retransmissionTimeout = sendPoll arq.sendWnd arq.sendWndPtr sh frameHdrInit (d₁ + d₂)
        arq.cfg.retransmissionTimeout := by
    intro sh
    unfold sendPoll
    rw [htimers]
  unfold pollWork
  dsimp only [advance]
  rw [hrecv]
  have hfree : sendFrameFree (advance b arq d₁) = sendFrameFree arq := rfl
  simp only [advance] at hfree
  simp only [hfree, hrh, hsend, connPoll_add]

theorem Settled.poll_add (h : Settled b arq) (hd : d₁ < reported b arq) (d₂ : Nat) :
    backendPoll b (advance b arq d₁) d₂ = backendPoll b arq (d₁ + d₂) := by
  unfold backendPoll
  rw [h.pollWork_add hd]
  rfl

/-! ## The deadline moves -/

theorem Settled.timers_advance (h : Settled b arq) (hd : d < reported b arq) :
    runningTimers b (advance b arq d).sendWnd (advance b arq d).recvWnd (advance b arq d).conn =
      (runningTimers b arq.sendWnd arq.recvWnd arq.conn).map fun t => t - d := by
  have hrtx : ((List.range arq.sendWnd.w.size).map fun i =>
        (sendWndStep arq.sendWnd d).rtx ((arq.sendWnd.w.seq + i) % arq.sendWnd.w.cap)).filter
          (fun t => 0 < t) =
      (((List.range arq.sendWnd.w.size).map fun i =>
        arq.sendWnd.rtx ((arq.sendWnd.w.seq + i) % arq.sendWnd.w.cap)).filter (fun t => 0 < t)).map
          fun t => t - d := by
    rw [← filter_pos_map_sub, List.map_map]
    · congr 1
      apply List.map_congr_left
      intro i hi
      exact (sendWndStep_rtx_eq h.size_le _ _).trans (if_pos ⟨i, List.mem_range.mp hi, rfl⟩)
    · intro t ht hpos
      obtain ⟨i, hi, rfl⟩ := List.mem_map.mp ht
      exact lt_of_running hd (mem_running_rtx (List.mem_range.mp hi) hpos)
  have htiny : (if (sendWndStep arq.sendWnd d).tinyOn ∧ (sendWndStep arq.sendWnd d).tiny > 0 then
        [(sendWndStep arq.sendWnd d).tiny] else []) =
      (if arq.sendWnd.tinyOn ∧ arq.sendWnd.tiny > 0 then [arq.sendWnd.tiny] else []).map
        fun t => t - d := by
    by_cases hon : arq.sendWnd.tinyOn = true
    · have hlt := h.tiny_lt hd hon
      have hstep : (sendWndStep arq.sendWnd d).tiny = arq.sendWnd.tiny - d := by
        unfold sendWndStep
        dsimp only
        rw [if_pos hon, subSat_eq]
      rw [hstep, if_pos ⟨hon, by omega⟩, if_pos ⟨hon, by omega⟩]
      rfl
    · rw [if_neg fun h => hon h.1, if_neg fun h => hon h.1]
      rfl
  have hseg : (if (recvPollTimer arq.recvWnd d).interSegAckOn ∧
        (recvPollTimer arq.recvWnd d).interSegAck > 0 then
        [(recvPollTimer arq.recvWnd d).interSegAck] else []) =
      (if arq.recvWnd.interSegAckOn ∧ arq.recvWnd.interSegAck > 0 then [arq.recvWnd.interSegAck]
        else []).map fun t => t - d := by
    rw [recvPollTimer_before (h.interSeg_lt hd)]
    dsimp only
    by_cases hon : arq.recvWnd.interSegAckOn = true
    · have hlt := h.interSeg_lt hd hon
      rw [if_pos hon, if_pos ⟨hon, by omega⟩, if_pos ⟨hon, by omega⟩]
      rfl
    · rw [if_neg fun h => hon h.1, if_neg fun h => hon h.1]
      rfl
  unfold runningTimers advance
  rw [List.map_append, List.map_append, List.map_append]
  dsimp only
  rw [htiny, hseg]
  refine congrArg₂ _ (congrArg₂ _ (congrArg₂ _ hrtx rfl) rfl) ?_
  split
  · exact connTimers_step _ _
  · rfl

end

/-! ## After a poll -/

section

variable {b : Build} {cfg : Cfg} {arq : Arq} {dt : Nat}

theorem sendWndPtrNext_none {p : SendWndPtr} {sw : SendWnd} {rtx : Nat} (hrtx : 0 < rtx)
    (hvalid : (sendWndPtrNext p sw).1.valid = false) {i : Nat} (hi : i < sw.w.size) :
    ¬ sendable (if (sendWndPtrNext p sw).2 = .completedMsg then
        { sw with rtx := Function.update sw.rtx (p.seq % sw.w.cap) rtx } else sw) i := by
  have hsearch : ∀ p' : SendWndPtr, (sendWndPtrSearch p' sw).valid = false →
      ¬ ptrSelects p' sw i := by
    intro p' hno
    obtain ⟨k, -, -, -, heq⟩ | ⟨hnone, -⟩ := sendWndPtrSearch_cases p' sw
    · rw [heq] at hno
      cases hno
    · exact hnone i hi
  unfold sendWndPtrNext at hvalid ⊢
  by_cases hp : p.valid = true
  · rw [if_pos hp] at hvalid ⊢
    dsimp only at hvalid ⊢
    by_cases hin : ptrInside p (sw.w.msg (p.seq % sw.w.cap))
    · rw [if_pos hin] at hvalid
      exact absurd (hp.symm.trans hvalid) (by simp)
    · rw [if_neg hin] at hvalid ⊢
      rw [if_pos rfl]
      rintro ⟨hzero, hmsg⟩
      dsimp only at hzero hmsg
      by_cases hslot : (i + sw.w.seq) % seqSpace % sw.w.cap = p.seq % sw.w.cap
      · rw [hslot, Function.update_self] at hzero
        omega
      · rw [Function.update_of_ne hslot] at hzero
        refine hsearch _ hvalid ⟨?_, hzero, hmsg⟩
        rintro ⟨-, hseq⟩
        exact hslot (by rw [← hseq])
  · rw [if_neg hp] at hvalid ⊢
    rw [if_neg (by simp)]
    intro hsend
    exact hsearch p hvalid ⟨fun h => hp h.1, hsend⟩

theorem rstRecvd_not_rstSent {rh : FrameHdr} {ctx : ConnCtx} (hstate : ctx.conn.state = .rstRecvd) :
    (connPollStateRstRecvd cfg dt rh ctx).1.conn.state ≠ .rstSent := by
  unfold connPollStateRstRecvd
  split_ifs
  · simp
  · simp
  · simp
  · intro hsent
    dsimp only at hsent
    obtain ⟨-, heq⟩ | ⟨sh, -, -, -, -, ⟨heq, -⟩ | ⟨heq, -⟩⟩ :=
      @connRetransmit_cases cfg dt ctx (fun sh => { sh with rst := true, ack := true })
        fun u => { u with rstAck := true }
    · rw [heq, hstate] at hsent
      cases hsent
    · rw [heq, hstate] at hsent
      cases hsent
    · rw [heq] at hsent
      cases hsent

/-- When the send frame is free the handshake does not wait with its answer. -/
theorem connPoll_answered {c : Conn} {sh rh : FrameHdr} (hb : b.useConnections = true)
    (hsent : (connPoll b c (some sh) rh dt cfg).conn.state = .rstSent) :
    (connPoll b c (some sh) rh dt cfg).conn.u.rstAck = false ∧
      (connPoll b c (some sh) rh dt cfg).conn.u.simultaneous = false := by
  unfold connPoll at hsent ⊢
  rw [if_pos hb] at hsent ⊢
  dsimp only at hsent ⊢
  generalize hctx : ({ conn := c, sh := some sh, emit := false, event := .none } : ConnCtx) = ctx
    at hsent ⊢
  have hsh : ctx.sh = some sh := by rw [← hctx]
  by_cases hc : ctx.conn.state = .rstSent
  · rw [connPollGo_rstSent hc] at hsent ⊢
    by_cases hdesync : rh.seg = true ∨ (rh.ack = true ∧ ¬ rh.rst = true)
    · unfold connPollStateRstSent at hsent
      rw [if_pos hdesync] at hsent
      cases hsent
    · rw [connPollStateRstSent_eq hdesync] at hsent ⊢
      obtain ⟨sh', hsh', -⟩ := @connRstSentNote_ack cfg dt rh ctx sh hsh
      rw [rstSentAnswer_free hsh'] at hsent ⊢
      split at hsent
      · cases hsent
      · rename_i hno
        rw [if_neg hno]
        simpa [and_comm] using hno
  · exfalso
    by_cases hr : ctx.conn.state = .rstRecvd
    · rw [connPollGo_rstRecvd hr] at hsent
      exact rstRecvd_not_rstSent hr hsent
    · by_cases hcl : ctx.conn.state = .closed
      · rw [connPollGo_closed hcl] at hsent
        split_ifs at hsent
        · exact hc hsent
        · exact rstRecvd_not_rstSent rfl hsent
        · exact hc hsent
      · rw [connPollGo_other hcl hc hr] at hsent
        exact hc hsent

theorem sendPollTimers_tiny (sw : SendWnd) (rh : FrameHdr) (dt : Nat)
    (hon : (sendPollTimers sw rh dt).tinyOn = true) : 0 < (sendPollTimers sw rh dt).tiny := by
  unfold sendPollTimers at hon ⊢
  generalize (if rh.ack then sendWndAck sw rh.ackNum rh.curAckVec else sw) = acked at hon ⊢
  dsimp only at hon ⊢
  split at hon
  · cases hon
  · rename_i hno
    rw [if_neg hno]
    exact Nat.pos_of_ne_zero fun hzero => hno ⟨hon, hzero⟩

theorem recvPollTimer_pos (rw : RecvWnd) (dt : Nat) (hon : (recvPollTimer rw dt).interSegAckOn = true) :
    0 < (recvPollTimer rw dt).interSegAck := by
  unfold recvPollTimer at hon ⊢
  split_ifs at hon ⊢ with h₁ h₂
  · exact Nat.pos_of_ne_zero h₂
  · exact absurd hon h₁

/-- What a poll relies on to leave a settled instance behind. -/
structure PollReady (cfg : Cfg) (arq : Arq) : Prop where
  cfg_eq : arq.cfg = cfg
  send : SendBounded cfg.sendWindowSizeInMessages
    (cfg.messageLengthInSegments * cfg.segmentLengthInBytes) cfg.segmentLengthInBytes arq.sendWnd

theorem backendPoll_settled (h : PollReady cfg arq) (hcap : 0 < u16 cfg.sendWindowSizeInMessages)
    (hdvd : u16 cfg.sendWindowSizeInMessages ∣ seqSpace) (hrtx : 0 < cfg.retransmissionTimeout)
    (hfit : frameLen cfg.segmentLengthInBytes < 65536) (dt : Nat) :
    Settled b (backendPoll b arq dt).1 := by
  have htimers : SendBounded cfg.sendWindowSizeInMessages
      (cfg.messageLengthInSegments * cfg.segmentLengthInBytes) cfg.segmentLengthInBytes
      (pollTimers arq dt) :=
    Run.invariant h.send (fun _ op hs _ => hs.step hcap op) (SendRun.timers _ _ _)
  have hw := pollWork_sendWnd_w b arq dt
  have hrecv := pollWork_recvWnd b arq dt
  refine ⟨rfl, backendPoll_accumulating b arq dt, ?_, ?_, ?_, ?_, ?_⟩
  · change (pollWork b arq dt).sendWnd.w.cap ∣ seqSpace
    rw [hw, htimers.dims.cap_eq]
    exact hdvd
  · change (pollWork b arq dt).sendWnd.w.size ≤ (pollWork b arq dt).sendWnd.w.cap
    rw [hw]
    exact htimers.size_le
  · change (pollWork b arq dt).sendWnd.tinyOn = true → 0 < (pollWork b arq dt).sendWnd.tiny
    rw [pollWork_sendWnd]
    split <;> exact sendPollTimers_tiny _ _ _
  · have hpos := recvPollTimer_pos (recvPollFrame arq.recvWnd arq.recvFrame arq.cfg.checksum
      frameHdrInit arq.cfg.interSegmentTimeout).1 dt
    change (pollWork b arq dt).recvWnd.interSegAckOn = true → 0 < (pollWork b arq dt).recvWnd.interSegAck
    rw [hrecv]
    split
    · rw [recvPollAck_recvWnd, recvWndAck_w]
      exact hpos
    · exact hpos
  · intro hfree'
    obtain ⟨hnone, hsame⟩ | ⟨hd, payload, -, -, -, hlen, -⟩ :=
      @backendPoll_writes b arq dt _ _ _ h.send.dims hfit
    · have hfree : sendFrameFree arq := by
        unfold sendFrameFree at hfree' ⊢
        rwa [hsame] at hfree'
      obtain ⟨hwork, hemit⟩ := @pollWork_sh b arq dt hfree
      have hin : pollConnIn arq dt = some (pollConnSh arq dt) := if_pos hfree
      -- a poll with a free send frame that writes nothing has nothing to emit
      have hquiet : (pollWork b arq dt).emit = false := by
        by_contra hne
        obtain ⟨h', hh', -⟩ := connPoll_ack b arq.conn (some (pollConnSh arq dt)) (pollRh arq) dt
          arq.cfg _ rfl
        obtain ⟨n, payload, hframe, -⟩ := pollFrame_emit (hwork.trans hh') (by simpa using hne)
        rw [hframe] at hnone
        cases hnone
      rw [hquiet] at hemit
      obtain ⟨⟨hack, hseg⟩, -⟩ : ((recvPollAck (pollReceived arq dt) frameHdrInit).2.ack = false ∧
          (pollConnSh arq dt).seg = false) ∧ _ := by
        simpa only [Bool.or_eq_false_iff] using hemit.symm
      have hvalid : (sendWndPtrNext arq.sendWndPtr (pollTimers arq dt)).1.valid = false := by
        by_contra hv
        unfold pollConnSh sendPollHdr at hseg
        rw [if_pos (by simpa using hv)] at hseg
        cases hseg
      obtain ⟨hconn, -⟩ := pollWork_conn b arq dt
      refine ⟨?_, ?_, ?_, ?_⟩
      · change (pollWork b arq dt).sendWndPtr.valid = false
        rw [pollWork_sendWndPtr, if_pos hfree]
        exact hvalid
      · change ∀ i, i < (pollWork b arq dt).sendWnd.w.size → ¬ sendable (pollWork b arq dt).sendWnd i
        intro i hi
        rw [hw] at hi
        have hno := sendWndPtrNext_none hrtx hvalid hi
        rw [pollWork_sendWnd, h.cfg_eq]
        simpa only [hfree, true_and] using hno
      · change ∀ i, i < (pollWork b arq dt).recvWnd.w.size → (pollWork b arq dt).recvWnd.ack
          (((pollWork b arq dt).recvWnd.w.seq + i) % (pollWork b arq dt).recvWnd.w.cap) = false
        rw [hrecv, if_pos hfree]
        obtain ⟨i, -, -, heq⟩ | ⟨hno, heq⟩ := recvPollAck_cases (pollReceived arq dt) frameHdrInit
        · rw [heq] at hack
          cases hack
        · rw [heq]
          exact hno
      · intro hb
        change (pollWork b arq dt).conn.state = .rstSent → (pollWork b arq dt).conn.u.rstAck = false ∧
          (pollWork b arq dt).conn.u.simultaneous = false
        rw [hconn, hin]
        exact connPoll_answered hb
    · have hempty := hfree'.1
      rw [hlen, frameLen_eq] at hempty
      omega

end

/-! ## The deadline of a poll -/

section

variable {b : Build} {cfg : Cfg} {arq : Arq} {d : Nat}

/-- Some timer runs that `arq__next_poll` counts. -/
def TimerRunning (b : Build) (arq : Arq) : Prop :=
  runningTimers b arq.sendWnd arq.recvWnd arq.conn ≠ []

theorem TimesBounded.running_le {cap : Nat} (h : TimesBounded cap arq) (hpos : 0 < cap)
    (hcap : arq.sendWnd.w.cap = cap) :
    ∀ t ∈ runningTimers b arq.sendWnd arq.recvWnd arq.conn, t ≤ timeInfinity := by
  intro t ht
  simp only [runningTimers, List.mem_append] at ht
  obtain ((ht | ht) | ht) | ht := ht
  · obtain ⟨i, -, rfl⟩ := List.mem_map.mp (List.mem_filter.mp ht).1
    refine h.send.rtx _ ?_
    rw [hcap]
    exact Nat.mod_lt _ hpos
  · split at ht
    · rw [List.mem_singleton.mp ht]
      exact h.send.tiny
    · cases ht
  · split at ht
    · rw [List.mem_singleton.mp ht]
      exact h.recv
    · cases ht
  · split at ht
    · unfold connTimers at ht
      split at ht
      · rename_i hstate
        split at ht
        · rw [List.mem_singleton.mp ht]
          exact h.conn (Or.inl hstate)
        · cases ht
      · rename_i hstate
        rw [List.mem_singleton.mp ht]
        exact h.conn (Or.inr hstate)
      · cases ht
    · cases ht

theorem Settled.reported_advance (h : Settled b arq) (hd : d < reported b arq)
    (hle : ∀ t ∈ runningTimers b arq.sendWnd arq.recvWnd arq.conn, t ≤ timeInfinity) :
    (TimerRunning b arq → reported b (advance b arq d) = reported b arq - d) ∧
      (¬ TimerRunning b arq → reported b (advance b arq d) = timeInfinity) := by
  unfold reported
  rw [nextPoll_eq, nextPoll_eq, h.timers_advance hd]
  refine ⟨fun hrunning => deadline_advance hrunning hle, fun hnone => ?_⟩
  rw [not_not.mp hnone]
  rfl

/-- A poll that only lets time pass, after one with the outputs `last`. -/
structure QuietPoll (b : Build) (arq : Arq) (last : PollOut) (d : Nat) : Prop where
  frame : pollFrame (pollWork b arq d) = none
  sendFrame : (backendPoll b arq d).1.sendFrame = arq.sendFrame
  event : (backendPoll b arq d).2.event = .none
  sendReady : (backendPoll b arq d).2.sendReady = last.sendReady
  recvReady : (backendPoll b arq d).2.recvReady = last.recvReady
  nextPoll : TimerRunning b arq → (backendPoll b arq d).2.nextPoll = last.nextPoll - d
  noTimer : ¬ TimerRunning b arq → (backendPoll b arq d).2.nextPoll = timeInfinity

/-- Below a reported deadline polls are quiet and add up. The bound on the frame length is the
range of its 16-bit field; `arq__frame_len` asserts a smaller one. -/
theorem next_poll_sound {seat arq₀ : Arq} (hinit : arqInit b cfg seat = .ok arq₀)
    (hdvd : cfg.sendWindowSizeInMessages ∣ seqSpace) (hrtx : 0 < cfg.retransmissionTimeout)
    (htimes : TimesFit cfg) (hfit : frameLen cfg.segmentLengthInBytes < 65536)
    (hrun : Run (perform b) (fun _ _ => True) arq₀ arq) (dt d₁ : Nat)
    (hd : d₁ < (backendPoll b arq dt).2.nextPoll) :
    QuietPoll b (backendPoll b arq dt).1 (backendPoll b arq dt).2 d₁ ∧
      ∀ d₂, backendPoll b (backendPoll b (backendPoll b arq dt).1 d₁).1 d₂ =
        backendPoll b (backendPoll b arq dt).1 (d₁ + d₂) := by
  have hle : cfg.sendWindowSizeInMessages ≤ 4096 := Nat.le_of_dvd (by decide) hdvd
  have hu16 : u16 cfg.sendWindowSizeInMessages = cfg.sendWindowSizeInMessages := u16_of_lt (by omega)
  have hcap : 0 < u16 cfg.sendWindowSizeInMessages := by
    rw [hu16]
    exact (checkCfg_pos (arqInit_check hinit)).2.2.1
  have hcfg₀ : arq₀.cfg = cfg := by
    rw [arqInit_ok hinit]
    rfl
  have hinv : ∀ {arq}, Run (perform b) (fun _ _ => True) arq₀ arq →
      PollReady cfg arq ∧ TimesBounded (u16 cfg.sendWindowSizeInMessages) arq := by
    intro arq hrun
    have hready : ∀ {arq}, Run (perform b) (fun _ _ => True) arq₀ arq → PollReady cfg arq := by
      intro arq hrun
      obtain ⟨seat', hsend⟩ := instance_sendRun hinit hrun
      exact ⟨(run_cfg hrun).trans hcfg₀, hsend.bounded hcap⟩
    refine ⟨hready hrun, ?_⟩
    induction hrun with
    | start =>
      rw [arqInit_ok hinit]
      exact rstArq_times rfl
    | next hrun c _ ih =>
      have hok := hready hrun
      refine ih.perform ?_ hok.send.dims.cap_eq c
      rw [hok.cfg_eq]
      exact htimes
  obtain ⟨hready, -⟩ := hinv hrun
  obtain ⟨hready', hbounded⟩ := hinv (hrun.next (.poll dt) trivial)
  have hsettled : Settled b (backendPoll b arq dt).1 :=
    backendPoll_settled hready hcap (by rwa [hu16]) hrtx hfit dt
  have hrunning : ∀ t ∈ runningTimers b (backendPoll b arq dt).1.sendWnd (backendPoll b arq dt).1.recvWnd
      (backendPoll b arq dt).1.conn, t ≤ timeInfinity :=
    hbounded.running_le hcap hready'.send.dims.cap_eq
  have hd' : d₁ < reported b (backendPoll b arq dt).1 := hd
  obtain ⟨hmoves, hnone⟩ := hsettled.reported_advance hd' hrunning
  have hpoll := hsettled.poll hd'
  refine ⟨⟨hsettled.pollFrame hd', ?_, ?_, ?_, ?_, ?_, ?_⟩, ?_⟩
  · rw [hpoll]
    rfl
  · rw [hpoll]
  · rw [hpoll]
    rfl
  · rw [hpoll]
    rfl
  · intro hrun
    rw [hpoll]
    exact hmoves hrun
  · intro hrun
    rw [hpoll]
    exact hnone hrun
  · intro d₂
    rw [hpoll]
    exact hsettled.poll_add hd' d₂

/-- One message is sent and not acknowledged: the retransmission is due in five. -/
theorem next_poll_sound_sample :
    let arq := [Call.send [7], .poll 0, .sendPtrGet, .sendPtrRelease].foldl (perform ⟨true⟩)
      (freshArq ⟨true⟩ (smallCfg 1 1 1))
    (backendPoll ⟨true⟩ arq 0).2.nextPoll = 5 ∧
      QuietPoll ⟨true⟩ (backendPoll ⟨true⟩ arq 0).1 (backendPoll ⟨true⟩ arq 0).2 3 ∧
      ∀ d₂, backendPoll ⟨true⟩ (backendPoll ⟨true⟩ (backendPoll ⟨true⟩ arq 0).1 3).1 d₂ =
        backendPoll ⟨true⟩ (backendPoll ⟨true⟩ arq 0).1 (3 + d₂) := by
  have hrun : Run (perform ⟨true⟩) (fun _ _ => True) (freshArq ⟨true⟩ (smallCfg 1 1 1))
      ([Call.send [7], .poll 0, .sendPtrGet, .sendPtrRelease].foldl (perform ⟨true⟩)
        (freshArq ⟨true⟩ (smallCfg 1 1 1))) :=
    .exec ⟨trivial, trivial, trivial, trivial, trivial⟩
  exact ⟨by decide +kernel, next_poll_sound (arqInit_zeroSeat rfl) (by decide) (by decide)
    ⟨by decide, by decide, by decide, by decide⟩ (by decide) hrun 0 3 (by decide +kernel)⟩

end

end NanoArq
