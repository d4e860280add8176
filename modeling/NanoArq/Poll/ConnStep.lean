import NanoArq.Poll.Stages

/-!
# One poll of the connection

What `arq__conn_poll` does in each state: the two rounds of the callback loop as one equation per
state (`connPollGo_closed` and its companions), and what a retransmission can change.
-/

namespace NanoArq

section

variable {cfg : Cfg} {dt : Nat} {ctx : ConnCtx} {rh : FrameHdr}

/-! ## Retransmissions -/

/-- A retransmission raises at most the event of a handshake without response. -/
theorem connRetransmit_event (flags : FrameHdr → FrameHdr) (mark : ConnUnion → ConnUnion) :
    ((connRetransmit cfg dt flags mark ctx).event = ctx.event ∧
        (connRetransmit cfg dt flags mark ctx).conn.state = ctx.conn.state) ∨
      (connRetransmit cfg dt flags mark ctx).event = .connFailedNoResponse := by
  unfold connRetransmit
  cases ctx.sh with
  | none => exact Or.inl ⟨rfl, rfl⟩
  | some sh =>
    dsimp only
    split_ifs
    · exact Or.inr rfl
    · exact Or.inl ⟨rfl, rfl⟩
    · exact Or.inl ⟨rfl, rfl⟩

/-- The retransmission of the RST notes nothing about the peer. -/
theorem connRetransmit_noted (flags : FrameHdr → FrameHdr) :
    (connRetransmit cfg dt flags id ctx).conn.u.rstAck = ctx.conn.u.rstAck ∧
      (connRetransmit cfg dt flags id ctx).conn.u.simultaneous = ctx.conn.u.simultaneous := by
  unfold connRetransmit
  cases ctx.sh with
  | none => exact ⟨rfl, rfl⟩
  | some sh =>
    dsimp only
    split_ifs <;> exact ⟨rfl, rfl⟩

/-- A retransmission that is not due advances the timer; one that is due writes its flags, counts
and restarts the timer, and may give up. -/
theorem connRetransmit_cases (flags : FrameHdr → FrameHdr) (mark : ConnUnion → ConnUnion) :
    ((ctx.sh = none ∨ ctx.conn.u.tmr - dt ≠ 0) ∧ connRetransmit cfg dt flags mark ctx =
        { ctx with conn := { ctx.conn with u := { ctx.conn.u with tmr := ctx.conn.u.tmr - dt } } }) ∨
      ∃ sh, ctx.sh = some sh ∧ (connRetransmit cfg dt flags mark ctx).sh = some (flags sh) ∧
        (connRetransmit cfg dt flags mark ctx).emit = true ∧
        (connRetransmit cfg dt flags mark ctx).conn.u =
          { mark { ctx.conn.u with tmr := ctx.conn.u.tmr - dt } with
            cnt := (ctx.conn.u.cnt + 1) % 4294967296
            tmr := cfg.connectionRstPeriod } ∧
        (((connRetransmit cfg dt flags mark ctx).conn.state = ctx.conn.state ∧
            (connRetransmit cfg dt flags mark ctx).event = ctx.event) ∨
          ((connRetransmit cfg dt flags mark ctx).conn.state = .closed ∧
            (connRetransmit cfg dt flags mark ctx).event = .connFailedNoResponse)) := by
  obtain ⟨conn, sh, emit, event⟩ := ctx
  unfold connRetransmit
  cases sh with
  | none => exact Or.inl ⟨Or.inl rfl, by simp⟩
  | some sh =>
    dsimp only
    by_cases htmr : subSat conn.u.tmr dt = 0
    · rw [if_pos htmr]
      refine Or.inr ⟨sh, rfl, ?_⟩
      rw [subSat_eq] at htmr ⊢
      rw [htmr]
      split
      · exact ⟨rfl, rfl, rfl, Or.inr ⟨rfl, rfl⟩⟩
      · exact ⟨rfl, rfl, rfl, Or.inl ⟨rfl, rfl⟩⟩
    · rw [if_neg htmr]
      rw [subSat_eq] at htmr
      exact Or.inl ⟨Or.inr htmr, by simp⟩

/-! ## The callback loop -/

/-- When the callback of the state asks for no other round, one round decides. -/
theorem connPollGo_stop (h : (connPollState cfg dt rh ctx).2 = .stop) :
    (connPollGo cfg dt rh 2 ctx).1 = (connPollState cfg dt rh ctx).1 := by
  simp only [connPollGo]
  rw [if_neg]
  rw [h]
  decide

/-- The connection that has just received the first RST. -/
def rstReceived (ctx : ConnCtx) : ConnCtx :=
  { ctx with
    conn := { state := .rstRecvd, u := { ctx.conn.u with tmr := 0, cnt := 0, rstAck := false } } }

theorem connPollGo_closed (hstate : ctx.conn.state = .closed) :
    (connPollGo cfg dt rh 2 ctx).1 =
      if rh.ack = true ∨ rh.seg = true then { ctx with event := .connFailedDesync }
      else if rh.rst = true then (connPollStateRstRecvd cfg dt rh (rstReceived ctx)).1
      else ctx := by
  have hround : connPollState cfg dt rh ctx = connPollStateClosed rh ctx := by
    unfold connPollState
    rw [hstate]
  have hnext : connPollState cfg dt rh (rstReceived ctx) =
      connPollStateRstRecvd cfg dt rh (rstReceived ctx) := rfl
  split_ifs with h₁ h₂
  · rw [connPollGo_stop, hround, connPollStateClosed, if_pos h₁]
    rw [hround, connPollStateClosed, if_pos h₁]
  · have hcont : connPollStateClosed rh ctx = (rstReceived ctx, .continue) := by
      rw [connPollStateClosed, if_neg h₁, if_pos h₂]
      rfl
    have hstop := connPollStateRstRecvd_stop cfg dt rh (rstReceived ctx)
    simp only [connPollGo, hround, hcont, hnext, if_true, hstop]
    rfl
  · rw [connPollGo_stop, hround, connPollStateClosed, if_neg h₁, if_neg h₂]
    rw [hround, connPollStateClosed, if_neg h₁, if_neg h₂]

theorem connPollGo_rstSent (hstate : ctx.conn.state = .rstSent) :
    (connPollGo cfg dt rh 2 ctx).1 = (connPollStateRstSent cfg dt rh ctx).1 := by
  have hround : connPollState cfg dt rh ctx = connPollStateRstSent cfg dt rh ctx := by
    unfold connPollState
    rw [hstate]
  rw [connPollGo_stop, hround]
  rw [hround, connPollStateRstSent_stop]

theorem connPollGo_rstRecvd (hstate : ctx.conn.state = .rstRecvd) :
    (connPollGo cfg dt rh 2 ctx).1 = (connPollStateRstRecvd cfg dt rh ctx).1 := by
  have hround : connPollState cfg dt rh ctx = connPollStateRstRecvd cfg dt rh ctx := by
    unfold connPollState
    rw [hstate]
  rw [connPollGo_stop, hround]
  rw [hround, connPollStateRstRecvd_stop]

/-- The other states have no callback. -/
theorem connPollGo_other (hclosed : ctx.conn.state ≠ .closed) (hsent : ctx.conn.state ≠ .rstSent)
    (hrecvd : ctx.conn.state ≠ .rstRecvd) : (connPollGo cfg dt rh 2 ctx).1 = ctx := by
  have hround : connPollState cfg dt rh ctx = (ctx, .stop) := by
    unfold connPollState
    split
    · rename_i h
      exact absurd h hclosed
    · rename_i h
      exact absurd h hsent
    · rename_i h
      exact absurd h hrecvd
    · rfl
  rw [connPollGo_stop, hround]
  rw [hround]

/-! ## The states of the handshake -/

/-- The last part of `arq__conn_poll_state_rst_sent`. -/
def rstSentAnswer (ctx : ConnCtx) : ConnCtx :=
  match ctx.sh with
  | some sh =>
    if ctx.conn.u.simultaneous ∨ ctx.conn.u.rstAck then
      { conn := { ctx.conn with state := .established }
        sh := some { sh with ack := true }
        emit := true
        event := .connEstablished }
    else ctx
  | none => ctx

theorem connPollStateRstSent_eq (h : ¬ (rh.seg = true ∨ (rh.ack = true ∧ ¬ rh.rst = true))) :
    (connPollStateRstSent cfg dt rh ctx).1 = rstSentAnswer (connRstSentNote cfg dt rh ctx) := by
  unfold connPollStateRstSent rstSentAnswer
  rw [if_neg h]
  dsimp only
  cases (connRstSentNote cfg dt rh ctx).sh with
  | none => rfl
  | some sh =>
    dsimp only
    split <;> rfl

theorem rstSentAnswer_busy (h : ctx.sh = none) : rstSentAnswer ctx = ctx := by
  rw [rstSentAnswer, h]

theorem rstSentAnswer_free {sh : FrameHdr} (h : ctx.sh = some sh) :
    rstSentAnswer ctx =
      if ctx.conn.u.simultaneous ∨ ctx.conn.u.rstAck then
        { conn := { ctx.conn with state := .established }
          sh := some { sh with ack := true }
          emit := true
          event := .connEstablished }
      else ctx := by
  rw [rstSentAnswer, h]

/-- The outcome in `rst_sent` when the peer is in step: what was noted, and an event that no
desynchronised peer causes. -/
theorem connPollStateRstSent_noted (h : ¬ (rh.seg = true ∨ (rh.ack = true ∧ ¬ rh.rst = true))) :
    (connPollStateRstSent cfg dt rh ctx).1.conn.u = (connRstSentNote cfg dt rh ctx).conn.u ∧
      ((connPollStateRstSent cfg dt rh ctx).1.event = (connRstSentNote cfg dt rh ctx).event ∨
        (connPollStateRstSent cfg dt rh ctx).1.event = .connEstablished) := by
  rw [connPollStateRstSent_eq h]
  cases hsh : (connRstSentNote cfg dt rh ctx).sh with
  | none =>
    rw [rstSentAnswer_busy hsh]
    exact ⟨rfl, Or.inl rfl⟩
  | some sh =>
    rw [rstSentAnswer_free hsh]
    split
    · exact ⟨rfl, Or.inr rfl⟩
    · exact ⟨rfl, Or.inl rfl⟩

theorem connRstSentNote_quiet :
    connRstSentNote cfg dt frameHdrInit ctx =
      if ctx.conn.u.rstAck then ctx
      else connRetransmit cfg dt (fun sh => { sh with rst := true }) id ctx := by
  unfold connRstSentNote
  cases h : ctx.conn.u.rstAck <;> simp [frameHdrInit]

end

end NanoArq
