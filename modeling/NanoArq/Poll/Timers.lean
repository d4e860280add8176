import NanoArq.Lib.Deadline
import NanoArq.Poll.Outgoing

/-!
# The timers of an instance

`runningTimers` are the timers that `arq__next_poll` looks at (`nextPoll_eq`). The operations that
advance timers are additive in the time that passes: `recvPollTimer_add`, `sendWndStep_add` and
`connPoll_add`.
-/

namespace NanoArq

open Lib

/-! ## Running timers -/

/-- The timer of the handshake. It does not run any more once the peer has answered. -/
def connTimers (c : Conn) : List Nat :=
  match c.state with
  | .rstSent => if ¬ c.u.rstAck ∧ ¬ c.u.simultaneous then [c.u.tmr] else []
  | .rstRecvd => [c.u.tmr]
  | _ => []

/-- The timers that run: retransmission, tinygram, inter-segment, handshake. -/
def runningTimers (b : Build) (sw : SendWnd) (rw : RecvWnd) (c : Conn) : List Nat :=
  ((List.range sw.w.size).map fun i => sw.rtx ((sw.w.seq + i) % sw.w.cap)).filter (fun t => 0 < t) ++
    (if sw.tinyOn ∧ sw.tiny > 0 then [sw.tiny] else []) ++
    (if rw.interSegAckOn ∧ rw.interSegAck > 0 then [rw.interSegAck] else []) ++
    (if b.useConnections then connTimers c else [])

theorem connNextPoll_eq (c : Conn) : connNextPoll c = deadline timeInfinity (connTimers c) := by
  obtain ⟨state, u⟩ := c
  cases state with
  | rstSent =>
    unfold connNextPoll connTimers
    dsimp only
    split <;> rfl
  | _ => rfl

theorem nextPoll_eq (b : Build) (sw : SendWnd) (rw : RecvWnd) (c : Conn) :
    nextPoll b sw rw c = deadline timeInfinity (runningTimers b sw rw c) := by
  have hrtx := deadline_filter_pos timeInfinity
    ((List.range sw.w.size).map fun i => sw.rtx ((sw.w.seq + i) % sw.w.cap))
  rw [List.foldl_map] at hrtx
  have hone : ∀ (p : Prop) [Decidable p] (np t : Nat),
      (if p then min np t else np) = deadline np (if p then [t] else []) := by
    intro p _ np t
    split <;> rfl
  have hconn : ∀ ts, (if b.useConnections then min (deadline timeInfinity ts) (connNextPoll c)
        else deadline timeInfinity ts) =
      deadline (deadline timeInfinity ts) (if b.useConnections then connTimers c else []) := by
    intro ts
    split
    · rw [connNextPoll_eq, min_deadline (deadline_le_inf _ _)]
    · rfl
  unfold nextPoll runningTimers
  dsimp only
  rw [hrtx, hone (sw.tinyOn = true ∧ sw.tiny > 0), ← deadline_append,
    hone (rw.interSegAckOn = true ∧ rw.interSegAck > 0), ← deadline_append, hconn, ← deadline_append]

/-! ## Time is additive -/

section

variable {b : Build} {cfg : Cfg} {d d₁ d₂ : Nat}

theorem recvPollTimer_add {rw : RecvWnd} (h : rw.interSegAckOn = true → d₁ < rw.interSegAck)
    (d₂ : Nat) : recvPollTimer (recvPollTimer rw d₁) d₂ = recvPollTimer rw (d₁ + d₂) := by
  cases hon : rw.interSegAckOn with
  | false => simp [recvPollTimer, hon]
  | true =>
    have hlt := h hon
    have hfirst : recvPollTimer rw d₁ = { rw with interSegAck := rw.interSegAck - d₁ } := by
      unfold recvPollTimer
      rw [if_pos hon, subSat_eq, if_neg (by omega)]
    rw [hfirst]
    unfold recvPollTimer
    dsimp only
    rw [if_pos hon, if_pos hon, subSat_eq, subSat_eq, Nat.sub_sub]

theorem sendWndStep_add {sw : SendWnd} (hsize : sw.w.size ≤ sw.w.cap) (d₁ d₂ : Nat) :
    sendWndStep (sendWndStep sw d₁) d₂ = sendWndStep sw (d₁ + d₂) := by
  have hrtx : (sendWndStep (sendWndStep sw d₁) d₂).rtx = (sendWndStep sw (d₁ + d₂)).rtx := by
    have hstep : (sendWndStep sw d₁).w.size ≤ (sendWndStep sw d₁).w.cap := hsize
    funext j
    rw [sendWndStep_rtx_eq hsize, sendWndStep_rtx_eq hstep, sendWndStep_rtx_eq hsize]
    change (if ∃ i < sw.w.size, (sw.w.seq + i) % sw.w.cap = j then _ else _) = _
    split
    · rw [Nat.sub_sub]
    · rfl
  have htiny : (sendWndStep (sendWndStep sw d₁) d₂).tiny = (sendWndStep sw (d₁ + d₂)).tiny := by
    unfold sendWndStep
    dsimp only
    split
    · rw [subSat_eq, subSat_eq, subSat_eq, Nat.sub_sub]
    · rfl
  calc sendWndStep (sendWndStep sw d₁) d₂
      = { sw with
          rtx := (sendWndStep (sendWndStep sw d₁) d₂).rtx
          tiny := (sendWndStep (sendWndStep sw d₁) d₂).tiny } := rfl
    _ = { sw with
          rtx := (sendWndStep sw (d₁ + d₂)).rtx, tiny := (sendWndStep sw (d₁ + d₂)).tiny } := by
        rw [hrtx, htiny]
    _ = sendWndStep sw (d₁ + d₂) := rfl

/-- What a poll without a received frame makes of a connection whose timer does not run out. -/
def connStep (c : Conn) (d : Nat) : Conn :=
  match c.state with
  | .rstSent => if c.u.rstAck then c else { c with u := { c.u with tmr := c.u.tmr - d } }
  | .rstRecvd => { c with u := { c.u with tmr := c.u.tmr - d } }
  | _ => c

theorem connStep_rstSent {c : Conn} (hc : c.state = .rstSent) (d : Nat) :
    connStep c d =
      if c.u.rstAck then c else { c with u := { c.u with tmr := c.u.tmr - d } } := by
  obtain ⟨state, u⟩ := c
  cases hc
  rfl

theorem connStep_rstRecvd {c : Conn} (hc : c.state = .rstRecvd) (d : Nat) :
    connStep c d = { c with u := { c.u with tmr := c.u.tmr - d } } := by
  obtain ⟨state, u⟩ := c
  cases hc
  rfl

theorem connStep_other {c : Conn} (hsent : c.state ≠ .rstSent) (hrecvd : c.state ≠ .rstRecvd)
    (d : Nat) : connStep c d = c := by
  unfold connStep
  split
  · rename_i hc
    exact absurd hc hsent
  · rename_i hc
    exact absurd hc hrecvd
  · rfl

theorem connStep_state (c : Conn) (d : Nat) : (connStep c d).state = c.state := by
  unfold connStep
  split
  · split <;> rfl
  · rfl
  · rfl

theorem connTimers_step (c : Conn) (d : Nat) :
    connTimers (connStep c d) = (connTimers c).map fun t => t - d := by
  obtain ⟨state, cnt, tmr, rstAck, simultaneous⟩ := c
  cases state with
  | rstSent => cases rstAck <;> cases simultaneous <;> rfl
  | _ => rfl

theorem connRetransmit_add (flags : FrameHdr → FrameHdr) (mark : ConnUnion → ConnUnion)
    (ctx : ConnCtx) :
    connRetransmit cfg d₂ flags mark
        { ctx with conn := { ctx.conn with u := { ctx.conn.u with tmr := ctx.conn.u.tmr - d₁ } } } =
      connRetransmit cfg (d₁ + d₂) flags mark ctx := by
  unfold connRetransmit
  simp only [subSat_eq, Nat.sub_sub]

theorem connPoll_add (b : Build) (c : Conn) (sh : Option FrameHdr) (cfg : Cfg) (d₁ d₂ : Nat) :
    connPoll b (if b.useConnections then connStep c d₁ else c) sh frameHdrInit d₂ cfg =
      connPoll b c sh frameHdrInit (d₁ + d₂) cfg := by
  unfold connPoll
  split
  · have hgo : (connPollGo cfg d₂ frameHdrInit 2
        { conn := connStep c d₁, sh := sh, emit := false, event := .none }).1 =
        (connPollGo cfg (d₁ + d₂) frameHdrInit 2
          { conn := c, sh := sh, emit := false, event := .none }).1 := by
      have hdesync : ¬ (frameHdrInit.seg = true ∨
          (frameHdrInit.ack = true ∧ ¬ frameHdrInit.rst = true)) := by decide
      have hstate := connStep_state c d₁
      cases hc : c.state with
      | rstSent =>
        rw [connPollGo_rstSent (by exact hstate.trans hc), connPollGo_rstSent (by exact hc),
          connPollStateRstSent_eq hdesync, connPollStateRstSent_eq hdesync,
          connRstSentNote_quiet, connRstSentNote_quiet]
        congr 1
        rw [connStep_rstSent hc]
        dsimp only
        by_cases hack : c.u.rstAck = true
        · rw [if_pos hack, if_pos hack, if_pos hack]
        · rw [if_neg hack, if_neg hack, if_neg hack]
          exact connRetransmit_add _ _ { conn := c, sh := sh, emit := false, event := .none }
      | rstRecvd =>
        rw [connPollGo_rstRecvd (by exact hstate.trans hc), connPollGo_rstRecvd (by exact hc)]
        rw [connStep_rstRecvd hc]
        unfold connPollStateRstRecvd
        simp only [frameHdrInit, Bool.false_eq_true, if_false]
        exact connRetransmit_add _ _ { conn := c, sh := sh, emit := false, event := .none }
      | closed =>
        rw [connPollGo_closed (by exact hstate.trans hc), connPollGo_closed (by exact hc),
          connStep_other (by simp [hc]) (by simp [hc])]
        rfl
      | established | closeWait | lastAck | finWait1 | finWait2 | closing | timeWait =>
        rw [connStep_other (by simp [hc]) (by simp [hc]),
          connPollGo_other (by simp [hc]) (by simp [hc]) (by simp [hc]),
          connPollGo_other (by simp [hc]) (by simp [hc]) (by simp [hc])]
    rw [hgo]
  · rfl

/-- The handshake has nothing to send or report for a while. -/
structure ConnIdle (c : Conn) (sh : Option FrameHdr) (d : Nat) : Prop where
  answered : sh ≠ none → c.state = .rstSent → c.u.rstAck = false ∧ c.u.simultaneous = false
  due : sh ≠ none → c.state = .rstSent ∨ c.state = .rstRecvd → d < c.u.tmr

theorem connRetransmit_idle_step {flags : FrameHdr → FrameHdr} {mark : ConnUnion → ConnUnion}
    {ctx : ConnCtx} (h : ctx.sh ≠ none → d < ctx.conn.u.tmr) :
    connRetransmit cfg d flags mark ctx =
      { ctx with conn := { ctx.conn with u := { ctx.conn.u with tmr := ctx.conn.u.tmr - d } } } := by
  unfold connRetransmit
  cases hsh : ctx.sh with
  | none => simp
  | some sh =>
    have hlt := h (by simp [hsh])
    dsimp only
    rw [if_neg (by rw [subSat_eq]; omega), subSat_eq]

theorem connPoll_idle {c : Conn} {sh : Option FrameHdr} (h : ConnIdle c sh d) :
    connPoll b c sh frameHdrInit d cfg =
      { conn := if b.useConnections then connStep c d else c
        sh := sh
        emit := false
        event := .none } := by
  unfold connPoll
  split
  · have hgo : (connPollGo cfg d frameHdrInit 2
        { conn := c, sh := sh, emit := false, event := .none }).1 =
        { conn := connStep c d, sh := sh, emit := false, event := .none } := by
      have hdesync : ¬ (frameHdrInit.seg = true ∨
          (frameHdrInit.ack = true ∧ ¬ frameHdrInit.rst = true)) := by decide
      cases hc : c.state with
      | rstSent =>
        rw [connPollGo_rstSent (by exact hc), connPollStateRstSent_eq hdesync, connRstSentNote_quiet]
        rw [connStep_rstSent hc]
        dsimp only
        have hstill : ∀ c' : Conn, c'.u.rstAck = c.u.rstAck → c'.u.simultaneous = c.u.simultaneous →
            rstSentAnswer { conn := c', sh := sh, emit := false, event := .none } =
              { conn := c', sh := sh, emit := false, event := .none } := by
          intro c' hack hsim
          cases hsh : sh with
          | none => exact rstSentAnswer_busy rfl
          | some sh' =>
            obtain ⟨hack', hsim'⟩ := h.answered (by simp [hsh]) hc
            rw [rstSentAnswer_free rfl, if_neg]
            simp [hack, hsim, hack', hsim']
        by_cases hack : c.u.rstAck = true
        · rw [if_pos hack, if_pos hack]
          exact hstill c rfl rfl
        · rw [if_neg hack, if_neg hack, connRetransmit_idle_step fun hsh => h.due hsh (Or.inl hc)]
          exact hstill _ rfl rfl
      | rstRecvd =>
        rw [connPollGo_rstRecvd (by exact hc)]
        rw [connStep_rstRecvd hc]
        unfold connPollStateRstRecvd
        simp only [frameHdrInit, Bool.false_eq_true, if_false]
        exact connRetransmit_idle_step fun hsh => h.due hsh (Or.inr hc)
      | closed =>
        rw [connPollGo_closed (by exact hc), connStep_other (by simp [hc]) (by simp [hc])]
        rfl
      | established | closeWait | lastAck | finWait1 | finWait2 | closing | timeWait =>
        rw [connPollGo_other (by simp [hc]) (by simp [hc]) (by simp [hc]),
          connStep_other (by simp [hc]) (by simp [hc])]
    rw [hgo]
    simp
  · rfl

end

end NanoArq
