import NanoArq.Lib.Pacer
import NanoArq.Poll.Outgoing
import NanoArq.Sender.History

/-!
# Attempts to connect

While nothing arrives from the peer, an instance in `rst_sent` or `rst_recvd` sends its RST or
RST/ACK as the paced attempts of `Lib.Pacer`: `Attempting` relates the two, and
`Attempting.poll` says that a poll of the connection is a step of the pacer.

`attempts_paced` is the law of a whole run of calls, for an instance that has called `arq_connect`
and for one that has received the peer's RST.
-/

namespace NanoArq

open Lib

/-- The connection `c` entered the state `st` and has since made the attempts counted by `p`. -/
structure Attempting (st : ConnState) (limit : Nat) (c : Conn) (p : Pacer) : Prop where
  cnt : c.u.cnt = p.cnt
  state : c.state = if p.cnt ≤ limit then st else .closed
  tmr : p.cnt ≤ limit → c.u.tmr = p.tmr
  noted : st = .rstSent → c.u.rstAck = false ∧ c.u.simultaneous = false

/-- The flags of an attempt. -/
def attemptFlags (st : ConnState) (sh : FrameHdr) : FrameHdr :=
  if st = .rstRecvd then { sh with rst := true, ack := true } else { sh with rst := true }

/-- What an attempt, or a poll without one, leaves behind. -/
structure AttemptPoll (st : ConnState) (cfg : Cfg) (p : Pacer) (dt : Nat) (sh : Option FrameHdr)
    (r : ConnCtx) : Prop where
  next : Attempting st cfg.connectionRstAttempts r.conn
    (p.step cfg.connectionRstPeriod cfg.connectionRstAttempts dt sh.isSome)
  emit : r.emit = p.fires cfg.connectionRstAttempts dt sh.isSome
  event : r.event =
    if p.fires cfg.connectionRstAttempts dt sh.isSome = true ∧ p.cnt = cfg.connectionRstAttempts
    then .connFailedNoResponse else .none
  sh : r.sh =
    if p.fires cfg.connectionRstAttempts dt sh.isSome = true then sh.map (attemptFlags st) else sh

section

variable {st : ConnState} {cfg : Cfg} {c : Conn} {p : Pacer} {dt : Nat}

theorem Attempting.retransmit (h : Attempting st cfg.connectionRstAttempts c p)
    (hlimit : cfg.connectionRstAttempts < 4294967295) (halive : p.cnt ≤ cfg.connectionRstAttempts)
    {mark : ConnUnion → ConnUnion}
    (hmark : st = .rstSent → ∀ u, (mark u).rstAck = u.rstAck ∧ (mark u).simultaneous = u.simultaneous)
    (sh : Option FrameHdr) :
    AttemptPoll st cfg p dt sh
      (connRetransmit cfg dt (attemptFlags st) mark ⟨c, sh, false, .none⟩) := by
  have hstate := h.state
  have htmr := h.tmr halive
  have hcnt := h.cnt
  rw [if_pos halive] at hstate
  have hquiet : p.fires cfg.connectionRstAttempts dt sh.isSome = false →
      connRetransmit cfg dt (attemptFlags st) mark ⟨c, sh, false, .none⟩ =
        ⟨{ c with u := { c.u with tmr := c.u.tmr - dt } }, sh, false, .none⟩ →
      AttemptPoll st cfg p dt sh
        (connRetransmit cfg dt (attemptFlags st) mark ⟨c, sh, false, .none⟩) := by
    intro hf heq
    rw [heq]
    refine ⟨?_, hf.symm, by simp [hf], by simp [hf]⟩
    rw [Pacer.step, hf]
    refine ⟨hcnt, ?_, fun _ => ?_, h.noted⟩
    · exact hstate.trans (if_pos halive).symm
    · exact congrArg (· - dt) htmr
  cases sh with
  | none =>
    apply hquiet
    · simp [Pacer.fires]
    · unfold connRetransmit
      simp
  | some sh =>
    by_cases hout : p.tmr - dt = 0
    · have hf : p.fires cfg.connectionRstAttempts dt (some sh).isSome = true := by
        simp [Pacer.fires, halive, hout]
      have hnext : (c.u.cnt + 1) % 4294967296 = p.cnt + 1 := by
        rw [hcnt, Nat.mod_eq_of_lt (by omega)]
      unfold connRetransmit
      dsimp only
      rw [if_pos (by rw [subSat_eq, htmr, hout]), hnext]
      by_cases hlast : p.cnt + 1 > cfg.connectionRstAttempts
      · rw [if_pos hlast]
        refine ⟨?_, hf.symm, ?_, (if_pos hf).symm⟩
        · rw [Pacer.step, if_pos hf]
          refine ⟨rfl, (if_neg (by exact Nat.not_le.mpr hlast)).symm, fun hle => ?_, fun hs => ?_⟩
          · exact absurd hle (Nat.not_le.mpr hlast)
          · obtain ⟨hack, hsim⟩ := hmark hs { c.u with tmr := subSat c.u.tmr dt }
            obtain ⟨hack', hsim'⟩ := h.noted hs
            exact ⟨hack.trans hack', hsim.trans hsim'⟩
        · rw [if_pos ⟨hf, by omega⟩]
      · rw [if_neg hlast]
        refine ⟨?_, hf.symm, ?_, (if_pos hf).symm⟩
        · rw [Pacer.step, if_pos hf]
          refine ⟨rfl, ?_, fun _ => rfl, fun hs => ?_⟩
          · exact hstate.trans (if_pos (Nat.not_lt.mp hlast)).symm
          · obtain ⟨hack, hsim⟩ := hmark hs { c.u with tmr := subSat c.u.tmr dt }
            obtain ⟨hack', hsim'⟩ := h.noted hs
            exact ⟨hack.trans hack', hsim.trans hsim'⟩
        · rw [if_neg fun hcond => by omega]
    · apply hquiet
      · simp [Pacer.fires, hout]
      · unfold connRetransmit
        dsimp only
        rw [if_neg (by rw [subSat_eq, htmr]; exact hout), subSat_eq]

/-- The two flag writers of the source are the flags of an attempt. -/
theorem attemptFlags_rstSent : attemptFlags .rstSent = fun sh => { sh with rst := true } := rfl

theorem attemptFlags_rstRecvd :
    attemptFlags .rstRecvd = fun sh => { sh with rst := true, ack := true } := rfl

theorem rstSentAnswer_silent {ctx : ConnCtx} (hack : ctx.conn.u.rstAck = false)
    (hsim : ctx.conn.u.simultaneous = false) : rstSentAnswer ctx = ctx := by
  cases hsh : ctx.sh with
  | none => exact rstSentAnswer_busy hsh
  | some sh =>
    rw [rstSentAnswer_free hsh, if_neg]
    simp [hack, hsim]

/-- A peer that has not acknowledged is sent the RST/ACK again. -/
theorem connPollStateRstRecvd_quiet {rh : FrameHdr} {ctx : ConnCtx} (hseg : rh.seg = false)
    (hack : rh.ack = false) :
    (connPollStateRstRecvd cfg dt rh ctx).1 =
      connRetransmit cfg dt (attemptFlags .rstRecvd) (fun u => { u with rstAck := true }) ctx := by
  rw [connPollStateRstRecvd, if_neg (by simp [hseg]), if_neg (by simp [hack]), attemptFlags_rstRecvd]

theorem AttemptPoll.of_poll {b : Build} (hb : b.useConnections = true) {rh : FrameHdr}
    {sh : Option FrameHdr} {r : ConnCtx}
    (hr : (connPollGo cfg dt rh 2 ⟨c, sh, false, .none⟩).1 = r)
    (h : AttemptPoll st cfg p dt sh r) : AttemptPoll st cfg p dt sh (connPoll b c sh rh dt cfg) := by
  have hpoll : connPoll b c sh rh dt cfg = { r with emit := r.sh.isSome && r.emit } := by
    rw [connPoll, if_pos hb]
    dsimp only
    rw [hr]
  rw [hpoll]
  refine ⟨h.next, ?_, h.event, h.sh⟩
  dsimp only
  rw [h.sh, h.emit]
  cases sh with
  | none => simp [Pacer.fires]
  | some sh =>
    split
    · rfl
    · rfl

/-- A poll that hears nothing is a step of the pacer. -/
theorem Attempting.poll (h : Attempting st cfg.connectionRstAttempts c p)
    (hst : st = .rstSent ∨ st = .rstRecvd) (hlimit : cfg.connectionRstAttempts < 4294967295)
    {b : Build} (hb : b.useConnections = true) (dt : Nat) (sh : Option FrameHdr) :
    AttemptPoll st cfg p dt sh (connPoll b c sh frameHdrInit dt cfg) := by
  by_cases halive : p.cnt ≤ cfg.connectionRstAttempts
  · have hstate := h.state
    rw [if_pos halive] at hstate
    obtain rfl | rfl := hst
    · have hsend := @Attempting.retransmit _ cfg c p dt h hlimit halive id
        (fun _ _ => ⟨rfl, rfl⟩) sh
      obtain ⟨hack, -⟩ := h.noted rfl
      refine AttemptPoll.of_poll hb ?_ hsend
      rw [connPollGo_rstSent hstate, connPollStateRstSent_eq (by simp [frameHdrInit]),
        connRstSentNote_quiet, if_neg (by simp [hack]), ← attemptFlags_rstSent]
      obtain ⟨hack', hsim'⟩ := hsend.next.noted rfl
      exact rstSentAnswer_silent hack' hsim'
    · have hsend := @Attempting.retransmit _ cfg c p dt h hlimit halive
        (fun u => { u with rstAck := true }) (fun hs => by cases hs) sh
      refine AttemptPoll.of_poll hb ?_ hsend
      rw [connPollGo_rstRecvd hstate]
      exact connPollStateRstRecvd_quiet rfl rfl
  · have hstate := h.state
    rw [if_neg halive] at hstate
    have hf : p.fires cfg.connectionRstAttempts dt sh.isSome = false := by
      simp [Pacer.fires, halive]
    refine AttemptPoll.of_poll hb (connPollGo_closed hstate) ?_
    refine ⟨?_, hf.symm, by simp [hf, frameHdrInit], by simp [hf, frameHdrInit]⟩
    rw [Pacer.step, hf]
    exact ⟨h.cnt, h.state, fun hle => absurd hle halive, h.noted⟩

/-- The poll that receives the peer's RST makes the first attempt, if the send frame is free. -/
theorem attempting_first {b : Build} (hb : b.useConnections = true)
    (hlimit : cfg.connectionRstAttempts < 4294967295) (hclosed : c.state = .closed) {rh : FrameHdr}
    (hrst : rh.rst = true) (hack : rh.ack = false) (hseg : rh.seg = false) (dt : Nat)
    (sh : Option FrameHdr) : AttemptPoll .rstRecvd cfg ⟨0, 0⟩ dt sh (connPoll b c sh rh dt cfg) := by
  have hentered : Attempting .rstRecvd cfg.connectionRstAttempts
      { state := .rstRecvd, u := { c.u with tmr := 0, cnt := 0, rstAck := false } } ⟨0, 0⟩ :=
    ⟨rfl, (if_pos (Nat.zero_le _)).symm, fun _ => rfl, fun hs => by cases hs⟩
  have hsend := @Attempting.retransmit _ cfg _ _ dt hentered hlimit (Nat.zero_le _)
    (fun u => { u with rstAck := true }) (fun hs => by cases hs) sh
  refine AttemptPoll.of_poll hb ?_ hsend
  rw [connPollGo_closed hclosed, if_neg (by simp [hack, hseg]), if_pos hrst]
  exact connPollStateRstRecvd_quiet hseg hack

end

/-! ## Calls -/

def callTime : Call → Nat
  | .poll dt => dt
  | _ => 0

def callFree (arq : Arq) : Call → Bool
  | .poll _ => decide (sendFrameFree arq)
  | _ => false

/-- A call writes a frame with the RST flag. -/
def callRst (b : Build) (arq : Arq) : Call → Bool
  | .poll dt => (pollFrame (pollWork b arq dt)).any fun f => f.1.rst
  | _ => false

/-- `arq__conn_poll` requests a frame. -/
def callAsks (b : Build) (arq : Arq) : Call → Bool
  | .poll dt => (connPoll b arq.conn (pollConnIn arq dt) (pollRh arq) dt arq.cfg).emit
  | _ => false

def callEvent (b : Build) (arq : Arq) : Call → Event
  | .poll dt => (backendPoll b arq dt).2.event
  | _ => .none

/-- The call neither opens nor resets the connection, and if it is a poll no frame has arrived. -/
def Unheard (arq : Arq) : Call → Prop
  | .poll _ => arq.recvFrame.state = .accumulating
  | .connect => False
  | .reset => False
  | _ => True

/-- The instance after the first `k` calls. -/
def callRun (b : Build) (calls : Nat → Call) (arq : Arq) : Nat → Arq
  | 0 => arq
  | k + 1 => perform b (callRun b calls arq k) (calls k)

/-- What a call does while the instance attempts to connect. -/
structure AttemptCall (b : Build) (st : ConnState) (arq : Arq) (p : Pacer) (c : Call) : Prop where
  next : Attempting st arq.cfg.connectionRstAttempts (perform b arq c).conn
    (p.step arq.cfg.connectionRstPeriod arq.cfg.connectionRstAttempts (callTime c) (callFree arq c))
  rst : callRst b arq c = p.fires arq.cfg.connectionRstAttempts (callTime c) (callFree arq c)
  asks : callAsks b arq c = p.fires arq.cfg.connectionRstAttempts (callTime c) (callFree arq c)
  event : callEvent b arq c =
    if p.fires arq.cfg.connectionRstAttempts (callTime c) (callFree arq c) = true ∧
        p.cnt = arq.cfg.connectionRstAttempts
    then .connFailedNoResponse else .none

section

variable {b : Build} {st : ConnState} {arq : Arq} {p : Pacer} {dt : Nat}

theorem pollConnSh_rst (arq : Arq) (dt : Nat) : (pollConnSh arq dt).rst = false := by
  have hack : (recvPollAck (pollReceived arq dt) frameHdrInit).2.rst = false := by
    obtain ⟨i, -, -, heq⟩ | ⟨-, heq⟩ := recvPollAck_cases (pollReceived arq dt) frameHdrInit
    · rw [heq]
      rfl
    · rw [heq]
      rfl
  unfold pollConnSh sendPollHdr
  split <;> exact hack

theorem pollConnIn_isSome (arq : Arq) (dt : Nat) :
    (pollConnIn arq dt).isSome = decide (sendFrameFree arq) := by
  unfold pollConnIn
  by_cases hfree : sendFrameFree arq
  · rw [if_pos hfree, decide_eq_true hfree]
    rfl
  · rw [if_neg hfree, decide_eq_false hfree]
    rfl

theorem pollFrame_rst (p : Polled) :
    ((pollFrame p).any fun f => f.1.rst) = (p.emit && p.sh.any fun sh => sh.rst) := by
  unfold pollFrame
  cases p.sh with
  | none => simp
  | some sh =>
    dsimp only
    cases p.emit with
    | false => rfl
    | true =>
      rw [if_pos rfl]
      split <;> rfl

/-- A frame is written with the RST flag just when the connection puts it there. -/
theorem AttemptPoll.rst (h : AttemptPoll st arq.cfg p dt (pollConnIn arq dt)
      (connPoll b arq.conn (pollConnIn arq dt) (pollRh arq) dt arq.cfg)) :
    callRst b arq (.poll dt) =
      p.fires arq.cfg.connectionRstAttempts dt (decide (sendFrameFree arq)) := by
  have hemit := h.emit
  have hsh := h.sh
  rw [pollConnIn_isSome] at hemit hsh
  rw [callRst, pollFrame_rst]
  by_cases hfree : sendFrameFree arq
  · have hin : pollConnIn arq dt = some (pollConnSh arq dt) := if_pos hfree
    obtain ⟨hwork, hwritten⟩ := @pollWork_sh b arq dt hfree
    rw [← hin] at hwork hwritten
    rw [hwork, hwritten, hsh, hemit]
    cases p.fires arq.cfg.connectionRstAttempts dt (decide (sendFrameFree arq)) with
    | true =>
      rw [if_pos rfl, hin, Bool.or_true]
      unfold attemptFlags
      rw [Option.map_some, Option.any_some]
      split <;> rfl
    | false =>
      rw [if_neg Bool.false_ne_true, hin, Option.any_some, pollConnSh_rst, Bool.and_false]
  · rw [pollWork_sh_busy hfree, decide_eq_false hfree]
    simp [Pacer.fires]

theorem AttemptCall.of_poll (h : AttemptPoll st arq.cfg p dt (pollConnIn arq dt)
      (connPoll b arq.conn (pollConnIn arq dt) (pollRh arq) dt arq.cfg)) :
    AttemptCall b st arq p (.poll dt) := by
  have hfree := pollConnIn_isSome arq dt
  obtain ⟨hconn, hevent⟩ := pollWork_conn b arq dt
  have hrst := h.rst
  obtain ⟨hnext, hemit, hev, -⟩ := h
  rw [hfree] at hnext hemit hev
  refine ⟨?_, hrst, hemit, ?_⟩
  · change Attempting st _ (pollWork b arq dt).conn _
    rw [hconn]
    exact hnext
  · exact hevent.trans hev

theorem Attempting.call (h : Attempting st arq.cfg.connectionRstAttempts arq.conn p)
    (hst : st = .rstSent ∨ st = .rstRecvd) (hlimit : arq.cfg.connectionRstAttempts < 4294967295)
    (hb : b.useConnections = true) {c : Call} (hc : Unheard arq c) : AttemptCall b st arq p c := by
  have hkeep : ∀ {c : Call}, callTime c = 0 → callFree arq c = false → callRst b arq c = false →
      callAsks b arq c = false → callEvent b arq c = .none → (perform b arq c).conn = arq.conn →
      AttemptCall b st arq p c := by
    intro c htime hfree hrst hasks hevent hconn
    have hf : p.fires arq.cfg.connectionRstAttempts (callTime c) (callFree arq c) = false := by
      rw [hfree]
      simp [Pacer.fires]
    refine ⟨?_, hrst.trans hf.symm, hasks.trans hf.symm, by simp [hevent, hf]⟩
    rw [hconn, Pacer.step, hf, htime]
    exact h
  cases c with
  | poll dt =>
    apply AttemptCall.of_poll
    have hrh : pollRh arq = frameHdrInit := by
      rw [pollRh, pollRead_of_accumulating hc]
    rw [hrh]
    exact h.poll hst hlimit hb dt (pollConnIn arq dt)
  | connect => exact absurd hc id
  | reset => exact absurd hc id
  | send | flush | recv | sendPtrGet | sendPtrRelease | recvFill =>
    exact hkeep rfl rfl rfl rfl rfl (perform_conn b arq (by simp) (by simp) (by simp))

end

/-! ## The law of a run -/

/-- The attempts of a run, in which the call `k` is `calls k`: `connection_rst_period` apart, at most
`connection_rst_attempts + 1` of them, and given up with the last one. -/
structure AttemptLaw (b : Build) (st : ConnState) (cfg : Cfg) (calls : Nat → Call) (arq : Arq) :
    Prop where
  paced : Paced cfg.connectionRstPeriod cfg.connectionRstAttempts (fun k => callTime (calls k))
    fun k => callRst b (callRun b calls arq k) (calls k)
  asks : ∀ k, callAsks b (callRun b calls arq k) (calls k) =
    callRst b (callRun b calls arq k) (calls k)
  event : ∀ k, callEvent b (callRun b calls arq k) (calls k) =
    if callRst b (callRun b calls arq k) (calls k) = true ∧
        hits (fun k => callRst b (callRun b calls arq k) (calls k)) k = cfg.connectionRstAttempts
    then .connFailedNoResponse else .none
  state : ∀ k, (callRun b calls arq (k + 1)).conn.state =
    if hits (fun k => callRst b (callRun b calls arq k) (calls k)) (k + 1) ≤
        cfg.connectionRstAttempts
    then st else .closed
  finished : ∀ k, (∃ j, j < k ∧
      callEvent b (callRun b calls arq j) (calls j) = .connFailedNoResponse) →
    callAsks b (callRun b calls arq k) (calls k) = false ∧
      callEvent b (callRun b calls arq k) (calls k) = .none

/-- The instance has just called `arq_connect`, or its first call is the poll that receives the
peer's RST; after that no frame arrives. -/
inductive Attempts (b : Build) (arq : Arq) (calls : Nat → Call) : ConnState → Arq → Prop
  | connect (hclosed : arq.conn.state = .closed)
      (hquiet : ∀ k, Unheard (callRun b calls (arqConnect b arq).1 k) (calls k)) :
      Attempts b arq calls .rstSent (arqConnect b arq).1
  | received (hclosed : arq.conn.state = .closed) (dt : Nat) (hfirst : calls 0 = .poll dt)
      (hrst : (pollRh arq).rst = true) (hack : (pollRh arq).ack = false)
      (hseg : (pollRh arq).seg = false)
      (hquiet : ∀ k, Unheard (callRun b calls arq (k + 1)) (calls (k + 1))) :
      Attempts b arq calls .rstRecvd arq

theorem callRun_cfg (b : Build) (calls : Nat → Call) (arq : Arq) (k : Nat) :
    (callRun b calls arq k).cfg = arq.cfg := by
  induction k with
  | zero => rfl
  | succ k ih => rw [callRun, perform_cfg, ih]

theorem hits_le_add (hit : Nat → Bool) (m n : Nat) : hits hit m ≤ hits hit (m + n) := by
  induction n with
  | zero => exact Nat.le_refl _
  | succ n ih => exact Nat.le_trans ih (Nat.le_add_right _ _)

section

variable {b : Build} {st : ConnState} {arq : Arq} {calls : Nat → Call}

/-- The pacer of a run. -/
def attemptPacer (b : Build) (calls : Nat → Call) (arq : Arq) (k : Nat) : Pacer :=
  Pacer.run arq.cfg.connectionRstPeriod arq.cfg.connectionRstAttempts (fun k => callTime (calls k))
    (fun k => callFree (callRun b calls arq k) (calls k)) ⟨0, 0⟩ k

theorem attemptCalls (hb : b.useConnections = true) (hst : st = .rstSent ∨ st = .rstRecvd)
    (hlimit : arq.cfg.connectionRstAttempts < 4294967295)
    (hfirst : AttemptCall b st arq ⟨0, 0⟩ (calls 0))
    (hquiet : ∀ k, Unheard (callRun b calls arq (k + 1)) (calls (k + 1))) (k : Nat) :
    AttemptCall b st (callRun b calls arq k) (attemptPacer b calls arq k) (calls k) := by
  induction k with
  | zero => exact hfirst
  | succ k ih =>
    have hcfg := callRun_cfg b calls arq (k + 1)
    have hnext := ih.next
    rw [callRun_cfg] at hnext
    refine Attempting.call ?_ hst (by rwa [hcfg]) hb (hquiet k)
    rw [hcfg]
    exact hnext

theorem AttemptLaw.of_calls (hcalls : ∀ k,
      AttemptCall b st (callRun b calls arq k) (attemptPacer b calls arq k) (calls k)) :
    AttemptLaw b st arq.cfg calls arq := by
  have hrst : (fun k => callRst b (callRun b calls arq k) (calls k)) =
      Pacer.hit arq.cfg.connectionRstPeriod arq.cfg.connectionRstAttempts
        (fun k => callTime (calls k)) (fun k => callFree (callRun b calls arq k) (calls k))
        ⟨0, 0⟩ := by
    funext k
    rw [(hcalls k).rst, callRun_cfg]
    rfl
  have hcnt : ∀ k, (attemptPacer b calls arq k).cnt =
      hits (fun k => callRst b (callRun b calls arq k) (calls k)) k := by
    intro k
    rw [hrst, attemptPacer, Pacer.run_cnt, Nat.zero_add]
  have hpaced := @Pacer.paced arq.cfg.connectionRstPeriod arq.cfg.connectionRstAttempts
    (fun k => callTime (calls k)) (fun k => callFree (callRun b calls arq k) (calls k)) ⟨0, 0⟩ rfl
  rw [← hrst] at hpaced
  have hasks : ∀ k, callAsks b (callRun b calls arq k) (calls k) =
      callRst b (callRun b calls arq k) (calls k) := fun k => (hcalls k).asks.trans (hcalls k).rst.symm
  have hevent : ∀ k, callEvent b (callRun b calls arq k) (calls k) =
      if callRst b (callRun b calls arq k) (calls k) = true ∧
          hits (fun k => callRst b (callRun b calls arq k) (calls k)) k =
            arq.cfg.connectionRstAttempts
      then .connFailedNoResponse else .none := by
    intro k
    rw [(hcalls k).event, ← (hcalls k).rst, hcnt, callRun_cfg]
  refine ⟨hpaced, hasks, hevent, ?_, ?_⟩
  · intro k
    have hstate := (hcalls k).next.state
    rw [callRun_cfg] at hstate
    rw [← hcnt]
    exact hstate
  · rintro k ⟨j, hjk, hj⟩
    -- the attempt of call `j` was the last one that the bound allows
    have hlast : callRst b (callRun b calls arq j) (calls j) = true ∧
        hits (fun k => callRst b (callRun b calls arq k) (calls k)) j =
          arq.cfg.connectionRstAttempts := by
      by_contra hnot
      rw [hevent, if_neg hnot] at hj
      cases hj
    have hnone : callRst b (callRun b calls arq k) (calls k) = false := by
      by_contra htrue
      rw [Bool.not_eq_false] at htrue
      obtain ⟨n, rfl⟩ := Nat.exists_eq_add_of_le (Nat.succ_le_of_lt hjk)
      have hmono := hits_le_add (fun k => callRst b (callRun b calls arq k) (calls k)) (j + 1) n
      have hbound := hpaced.bounded (j + 1 + n + 1)
      simp only [hits, hlast.1, hlast.2, Bool.toNat_true] at hmono hbound
      simp only [Nat.succ_eq_add_one] at htrue
      rw [htrue, Bool.toNat_true] at hbound
      omega
    exact ⟨(hasks k).trans hnone, by rw [hevent, hnone]; rfl⟩

/-- **Attempts to connect are paced and bounded.** -/
theorem attempts_paced {arq₀ : Arq} (hb : b.useConnections = true)
    (hlimit : arq.cfg.connectionRstAttempts < 4294967295) (h : Attempts b arq calls st arq₀) :
    AttemptLaw b st arq.cfg calls arq₀ := by
  cases h with
  | connect hclosed hquiet =>
    have hconnect : (arqConnect b arq).1 =
        { arq with
          conn := { state := .rstSent
                    u := { cnt := 0, tmr := 0, rstAck := false, simultaneous := false } } } := by
      rw [arqConnect, if_pos hb, if_neg (not_not_intro hclosed)]
    have hcfg : (arqConnect b arq).1.cfg = arq.cfg := by rw [hconnect]
    rw [← hcfg] at hlimit ⊢
    apply AttemptLaw.of_calls
    apply attemptCalls hb (Or.inl rfl) hlimit ?_ fun k => hquiet (k + 1)
    refine Attempting.call ?_ (Or.inl rfl) hlimit hb (hquiet 0)
    rw [hconnect]
    exact ⟨rfl, (if_pos (Nat.zero_le _)).symm, fun _ => rfl, fun _ => ⟨rfl, rfl⟩⟩
  | received hclosed dt hfirst hrst hack hseg hquiet =>
    apply AttemptLaw.of_calls
    apply attemptCalls hb (Or.inr rfl) hlimit ?_ hquiet
    rw [hfirst]
    apply AttemptCall.of_poll
    exact attempting_first hb hlimit hclosed hrst hack hseg dt (pollConnIn arq dt)

theorem callRun_accumulating (hstart : arq.recvFrame.state = .accumulating)
    (hfill : ∀ k data, calls k ≠ .recvFill data) (k : Nat) :
    (callRun b calls arq k).recvFrame.state = .accumulating := by
  induction k with
  | zero => exact hstart
  | succ k ih =>
    rw [callRun]
    obtain hsame | ⟨f, -, hrst⟩ | ⟨data, hdata, -⟩ :=
      perform_recvFrame b (callRun b calls arq k) (calls k)
    · rw [hsame, ih]
    · rw [hrst]
      rfl
    · exact absurd hdata (hfill k data)

/-- A poll, and the two calls that put the frame it has written on the wire. -/
def attemptRound (k : Nat) : Call :=
  if k % 3 = 0 then .poll 4 else if k % 3 = 1 then .sendPtrGet else .sendPtrRelease

theorem attemptRound_ne (k : Nat) (data : List UInt8) : attemptRound k ≠ .recvFill data := by
  unfold attemptRound
  split_ifs <;> exact Call.noConfusion

theorem attemptRound_unheard {arq : Arq} (h : arq.recvFrame.state = .accumulating) (k : Nat) :
    Unheard arq (attemptRound k) := by
  unfold attemptRound
  split_ifs
  · exact h
  · trivial
  · trivial

/-- An instance calls `arq_connect` and sends its frames for ever. The fourth attempt is the last. -/
theorem attempts_paced_sample :
    let arq := (arqConnect ⟨true⟩ (freshArq ⟨true⟩ (smallCfg 1 1 1))).1
    AttemptLaw ⟨true⟩ .rstSent (smallCfg 1 1 1) attemptRound arq ∧
      hits (fun k => callRst ⟨true⟩ (callRun ⟨true⟩ attemptRound arq k) (attemptRound k)) 27 = 3 ∧
      callEvent ⟨true⟩ (callRun ⟨true⟩ attemptRound arq 27) (attemptRound 27) =
        .connFailedNoResponse := by
  refine ⟨?_, by decide +kernel, by decide +kernel⟩
  have hquiet : ∀ k, (callRun ⟨true⟩ attemptRound
      (arqConnect ⟨true⟩ (freshArq ⟨true⟩ (smallCfg 1 1 1))).1 k).recvFrame.state = .accumulating :=
    callRun_accumulating rfl attemptRound_ne
  exact @attempts_paced ⟨true⟩ .rstSent (freshArq ⟨true⟩ (smallCfg 1 1 1)) attemptRound _ rfl
    (by decide) (.connect rfl fun k => attemptRound_unheard (hquiet k) k)

end

end NanoArq
