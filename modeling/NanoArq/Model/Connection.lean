import NanoArq.Model.Frame

/-!
# The connection state machine

`arq__conn_poll` with the callbacks of its states, and `arq__conn_next_poll`.

The two members of the union `arq__conn_t.u` overlay each other: `cnt` and `tmr` are their
common first fields, and `sent_rst_ack` of `rst_recvd` is the same byte as `recvd_rst_ack` of
`rst_sent`. `ConnUnion` has one field for each of these places.
-/

namespace NanoArq

/-- `arq_conn_state_t` -/
inductive ConnState where
  | closed
  | rstRecvd
  | rstSent
  | established
  | closeWait
  | lastAck
  | finWait1
  | finWait2
  | closing
  | timeWait
deriving DecidableEq, Repr

/-- The union of `arq__conn_t`. -/
structure ConnUnion where
  cnt : Nat
  tmr : Nat
  /-- `rst_recvd.sent_rst_ack` and `rst_sent.recvd_rst_ack` -/
  rstAck : Bool
  /-- `rst_sent.simultaneous` -/
  simultaneous : Bool
deriving DecidableEq, Repr

/-- `arq__conn_t` -/
structure Conn where
  state : ConnState
  u : ConnUnion
deriving DecidableEq, Repr

/-- What a state callback reads and writes: the connection, the outgoing header (absent when
the send frame is busy), and the outputs `out_emit` and `out_event`. -/
structure ConnCtx where
  conn : Conn
  sh : Option FrameHdr
  emit : Bool
  event : Event
deriving DecidableEq, Repr

/-- `arq__conn_state_next_t` -/
inductive ConnNext where
  | continue
  | stop
deriving DecidableEq, Repr

/-- `arq__conn_poll_state_closed` -/
def connPollStateClosed (rh : FrameHdr) (ctx : ConnCtx) : ConnCtx × ConnNext :=
  if rh.ack ∨ rh.seg then ({ ctx with event := .connFailedDesync }, .stop)
  else if rh.rst then
    ({ ctx with
        conn := { state := .rstRecvd
                  u := { ctx.conn.u with tmr := 0, cnt := 0, rstAck := false } } }, .continue)
  else (ctx, .stop)

/-- The retransmission branch shared by `rst_sent` and `rst_recvd`: step the timer and, when
it has run out and the send frame is free, write `flags` into the outgoing header, count the
attempt and restart the timer; after too many attempts the connection is closed. -/
def connRetransmit (cfg : Cfg) (dt : Nat) (flags : FrameHdr → FrameHdr) (mark : ConnUnion → ConnUnion)
    (ctx : ConnCtx) : ConnCtx :=
  let u := { ctx.conn.u with tmr := subSat ctx.conn.u.tmr dt }
  match ctx.sh with
  | some sh =>
    if u.tmr = 0 then
      let u := { mark u with cnt := (u.cnt + 1) % 4294967296, tmr := cfg.connectionRstPeriod }
      if u.cnt > cfg.connectionRstAttempts then
        { conn := { state := .closed, u := u }
          sh := some (flags sh)
          emit := true
          event := .connFailedNoResponse }
      else { ctx with conn := { ctx.conn with u := u }, sh := some (flags sh), emit := true }
    else { ctx with conn := { ctx.conn with u := u } }
  | none => { ctx with conn := { ctx.conn with u := u } }

/-- The first part of `arq__conn_poll_state_rst_sent` after the desync check: note what the
peer sent, or send the RST again. -/
def connRstSentNote (cfg : Cfg) (dt : Nat) (rh : FrameHdr) (ctx : ConnCtx) : ConnCtx :=
  if rh.rst ∧ rh.ack then
    { ctx with conn := { ctx.conn with u := { ctx.conn.u with rstAck := true } } }
  else if rh.rst then
    { ctx with conn := { ctx.conn with u := { ctx.conn.u with simultaneous := true } } }
  else if ¬ ctx.conn.u.rstAck then
    connRetransmit cfg dt (fun sh => { sh with rst := true }) id ctx
  else ctx

/-- `arq__conn_poll_state_rst_sent` -/
def connPollStateRstSent (cfg : Cfg) (dt : Nat) (rh : FrameHdr) (ctx : ConnCtx) :
    ConnCtx × ConnNext :=
  if rh.seg ∨ (rh.ack ∧ ¬ rh.rst) then
    ({ ctx with
        event := .connFailedDesync
        conn := { ctx.conn with state := .closed } }, .stop)
  else
    let ctx := connRstSentNote cfg dt rh ctx
    match ctx.sh with
    | some sh =>
      if ctx.conn.u.simultaneous ∨ ctx.conn.u.rstAck then
        ({ conn := { ctx.conn with state := .established }
           sh := some { sh with ack := true }
           emit := true
           event := .connEstablished }, .stop)
      else (ctx, .stop)
    | none => (ctx, .stop)

/-- `arq__conn_poll_state_rst_recvd` -/
def connPollStateRstRecvd (cfg : Cfg) (dt : Nat) (rh : FrameHdr) (ctx : ConnCtx) :
    ConnCtx × ConnNext :=
  if rh.seg then
    ({ ctx with
        conn := { ctx.conn with state := .closed }
        event := .connFailedDesync }, .stop)
  else if rh.ack then
    if ctx.conn.u.rstAck then
      ({ ctx with
          conn := { ctx.conn with state := .established }
          event := .connEstablished }, .stop)
    else
      ({ ctx with
          conn := { ctx.conn with state := .closed }
          event := .connFailedDesync }, .stop)
  else
    (connRetransmit cfg dt (fun sh => { sh with rst := true, ack := true })
      (fun u => { u with rstAck := true }) ctx, .stop)

/-- `arq__conn_poll_state_cb_get`, applied: `established` and the states that have no callback
of their own do nothing. -/
def connPollState (cfg : Cfg) (dt : Nat) (rh : FrameHdr) (ctx : ConnCtx) : ConnCtx × ConnNext :=
  match ctx.conn.state with
  | .closed => connPollStateClosed rh ctx
  | .rstSent => connPollStateRstSent cfg dt rh ctx
  | .rstRecvd => connPollStateRstRecvd cfg dt rh ctx
  | _ => (ctx, .stop)

/-- The callback loop of `arq__conn_poll`, for at most `fuel` rounds. -/
def connPollGo (cfg : Cfg) (dt : Nat) (rh : FrameHdr) : Nat → ConnCtx → ConnCtx × ConnNext
  | 0, ctx => (ctx, .continue)
  | fuel + 1, ctx =>
    let r := connPollState cfg dt rh ctx
    if r.2 = .continue then connPollGo cfg dt rh fuel r.1 else r

/-- `arq__conn_poll`: the connection, the outgoing header, the event, and whether a frame is
to be emitted. Two rounds of the callback loop always suffice (`connPollGo_two`). -/
def connPoll (b : Build) (conn : Conn) (sh : Option FrameHdr) (rh : FrameHdr) (dt : Nat)
    (cfg : Cfg) : ConnCtx :=
  if b.useConnections then
    let r := (connPollGo cfg dt rh 2 { conn := conn, sh := sh, emit := false, event := .none }).1
    { r with emit := r.sh.isSome && r.emit }
  else { conn := conn, sh := sh, emit := false, event := .none }

/-- `arq__conn_next_poll` -/
def connNextPoll (c : Conn) : Nat :=
  match c.state with
  | .rstSent =>
    if ¬ c.u.rstAck ∧ ¬ c.u.simultaneous then min timeInfinity c.u.tmr else timeInfinity
  | .rstRecvd => min timeInfinity c.u.tmr
  | _ => timeInfinity

/-! ## The callback loop stops -/

theorem connPollStateRstSent_stop (cfg : Cfg) (dt : Nat) (rh : FrameHdr) (ctx : ConnCtx) :
    (connPollStateRstSent cfg dt rh ctx).2 = .stop := by
  unfold connPollStateRstSent
  split
  · rfl
  · dsimp only
    split
    · split <;> rfl
    · rfl

theorem connPollStateRstRecvd_stop (cfg : Cfg) (dt : Nat) (rh : FrameHdr) (ctx : ConnCtx) :
    (connPollStateRstRecvd cfg dt rh ctx).2 = .stop := by
  unfold connPollStateRstRecvd
  split_ifs <;> rfl

/-- Only `closed` asks for another round, and it has then moved to `rst_recvd`. -/
theorem connPollState_continue {cfg : Cfg} {dt : Nat} {rh : FrameHdr} {ctx : ConnCtx}
    (h : (connPollState cfg dt rh ctx).2 = .continue) :
    ctx.conn.state = .closed ∧ (connPollState cfg dt rh ctx).1.conn.state = .rstRecvd := by
  unfold connPollState at h ⊢
  split at h
  · rename_i hs
    refine ⟨hs, ?_⟩
    unfold connPollStateClosed at h ⊢
    split_ifs at h ⊢ with h₁ h₂
    rfl
  · rw [connPollStateRstSent_stop] at h
    cases h
  · rw [connPollStateRstRecvd_stop] at h
    cases h
  · cases h

/-- Two rounds of the callback loop end with `stop`, and further rounds change nothing. -/
theorem connPollGo_two (cfg : Cfg) (dt : Nat) (rh : FrameHdr) (ctx : ConnCtx) (fuel : Nat) :
    connPollGo cfg dt rh (fuel + 2) ctx = connPollGo cfg dt rh 2 ctx ∧
      (connPollGo cfg dt rh 2 ctx).2 = .stop := by
  simp only [connPollGo]
  by_cases h : (connPollState cfg dt rh ctx).2 = .continue
  · obtain ⟨-, hr⟩ := connPollState_continue h
    have hstop : ¬ (connPollState cfg dt rh (connPollState cfg dt rh ctx).1).2 = .continue := by
      intro hc
      obtain ⟨hcl, -⟩ := connPollState_continue hc
      rw [hr] at hcl
      cases hcl
    simp only [h, if_true, hstop, if_false]
    exact ⟨trivial, by cases hn : (connPollState cfg dt rh _).2 <;> simp_all⟩
  · simp only [h, if_false]
    exact ⟨trivial, by cases hn : (connPollState cfg dt rh ctx).2 <;> simp_all⟩

end NanoArq
