import NanoArq.Poll.Outgoing
import NanoArq.Reset.Twin

/-!
# What the application knows of its connection

The application sees what `arq_connect` returns and the events that the polls raise, and nothing
else of the connection. In the build with connections that is enough: whatever arrives,

* `ConnMoves`: a poll takes the connection from state to state under the event that says so.
* `connection_followed`: what was concluded from the results is the state of the connection, a
  connection is only established when an RST of the peer was read in this attempt, and an
  established one raises no further event and stays until `arq_reset`.
-/

namespace NanoArq

open Lib

/-! ## One poll -/

/-- A poll takes the connection from the state `s` to `s'` and raises the event. -/
inductive ConnMoves : ConnState → Event → ConnState → Prop
  | stay (s : ConnState) : ConnMoves s .none s
  | answer : ConnMoves .closed .none .rstRecvd
  | establish {s : ConnState} (h : s = .rstSent ∨ s = .rstRecvd) : ConnMoves s .connEstablished .established
  | desync {s : ConnState} (h : s ≠ .established) : ConnMoves s .connFailedDesync .closed
  | giveUp {s : ConnState} (h : s ≠ .established) : ConnMoves s .connFailedNoResponse .closed

/-- The states that an instance can be in. -/
def LiveState (s : ConnState) : Prop :=
  s = .closed ∨ s = .rstSent ∨ s = .rstRecvd ∨ s = .established

section

variable {cfg : Cfg} {dt : Nat} {ctx : ConnCtx} {rh : FrameHdr}

/-- A retransmission leaves the connection in its state, or gives it up. -/
theorem connRetransmit_outcome (flags : FrameHdr → FrameHdr) (mark : ConnUnion → ConnUnion) :
    ((connRetransmit cfg dt flags mark ctx).event = ctx.event ∧
        (connRetransmit cfg dt flags mark ctx).conn.state = ctx.conn.state) ∨
      ((connRetransmit cfg dt flags mark ctx).event = .connFailedNoResponse ∧
        (connRetransmit cfg dt flags mark ctx).conn.state = .closed) := by
  obtain ⟨-, heq⟩ | ⟨sh, -, -, -, -, ⟨hs, he⟩ | ⟨hs, he⟩⟩ :=
    @connRetransmit_cases cfg dt ctx flags mark
  · rw [heq]
    exact Or.inl ⟨rfl, rfl⟩
  · exact Or.inl ⟨he, hs⟩
  · exact Or.inr ⟨he, hs⟩

theorem ConnMoves.of_outcome {s s' : ConnState} {e : Event} (hs : s ≠ .established)
    (h : (e = .none ∧ s' = s) ∨ (e = .connFailedNoResponse ∧ s' = .closed)) : ConnMoves s e s' := by
  obtain ⟨rfl, rfl⟩ | ⟨rfl, rfl⟩ := h
  · exact .stay _
  · exact .giveUp hs

theorem rstRecvd_moves (hevent : ctx.event = .none) (hstate : ctx.conn.state = .rstRecvd) :
    ConnMoves .rstRecvd (connPollStateRstRecvd cfg dt rh ctx).1.event
      (connPollStateRstRecvd cfg dt rh ctx).1.conn.state := by
  unfold connPollStateRstRecvd
  split_ifs
  · exact .desync (by decide)
  · exact .establish (Or.inr rfl)
  · exact .desync (by decide)
  · refine .of_outcome (by decide) ?_
    rw [← hevent, ← hstate]
    exact connRetransmit_outcome _ _

theorem closed_moves (hevent : ctx.event = .none) (hstate : ctx.conn.state = .closed) :
    ConnMoves .closed (connPollGo cfg dt rh 2 ctx).1.event (connPollGo cfg dt rh 2 ctx).1.conn.state := by
  rw [connPollGo_closed hstate]
  split_ifs with hack hrst
  · dsimp only
    rw [hstate]
    exact .desync (by decide)
  · -- the second round sees the frame that opened the connection, without an ACK
    unfold connPollStateRstRecvd
    rw [if_neg fun h => hack (Or.inr h), if_neg fun h => hack (Or.inl h)]
    dsimp only
    obtain ⟨he, hs⟩ | ⟨he, hs⟩ := @connRetransmit_outcome cfg dt (rstReceived ctx)
      (fun sh => { sh with rst := true, ack := true }) (fun u => { u with rstAck := true })
    · rw [he, hs]
      exact hevent ▸ .answer
    · rw [he, hs]
      exact .giveUp (by decide)
  · rw [hevent, hstate]
    exact .stay _

/-- What a side in `rst_sent` notes changes its state only when it gives up. -/
theorem connRstSentNote_outcome :
    ((connRstSentNote cfg dt rh ctx).event = ctx.event ∧
        (connRstSentNote cfg dt rh ctx).conn.state = ctx.conn.state) ∨
      ((connRstSentNote cfg dt rh ctx).event = .connFailedNoResponse ∧
        (connRstSentNote cfg dt rh ctx).conn.state = .closed) := by
  unfold connRstSentNote
  split_ifs
  · exact Or.inl ⟨rfl, rfl⟩
  · exact Or.inl ⟨rfl, rfl⟩
  · exact Or.inl ⟨rfl, rfl⟩
  · exact connRetransmit_outcome _ _

theorem rstSentAnswer_cases (ctx : ConnCtx) :
    rstSentAnswer ctx = ctx ∨
      ((ctx.conn.u.simultaneous = true ∨ ctx.conn.u.rstAck = true) ∧
        (rstSentAnswer ctx).event = .connEstablished ∧
        (rstSentAnswer ctx).conn.state = .established) := by
  cases hsh : ctx.sh with
  | none => exact Or.inl (rstSentAnswer_busy hsh)
  | some sh =>
    rw [rstSentAnswer_free hsh]
    split
    · rename_i h
      exact Or.inr ⟨h, rfl, rfl⟩
    · exact Or.inl rfl

theorem rstSent_moves (hevent : ctx.event = .none) (hstate : ctx.conn.state = .rstSent) :
    ConnMoves .rstSent (connPollStateRstSent cfg dt rh ctx).1.event
      (connPollStateRstSent cfg dt rh ctx).1.conn.state := by
  by_cases hdesync : rh.seg = true ∨ (rh.ack = true ∧ ¬ rh.rst = true)
  · rw [connPollStateRstSent, if_pos hdesync]
    exact .desync (by decide)
  · rw [connPollStateRstSent_eq hdesync]
    obtain heq | ⟨-, he, hs⟩ := rstSentAnswer_cases (connRstSentNote cfg dt rh ctx)
    · rw [heq]
      refine .of_outcome (by decide) ?_
      rw [← hevent, ← hstate]
      exact connRstSentNote_outcome
    · rw [he, hs]
      exact .establish (Or.inl rfl)

/-- **Every poll moves the connection under its event.** -/
theorem connPoll_moves {b : Build} (hb : b.useConnections = true) {c : Conn} (hlive : LiveState c.state)
    (sh : Option FrameHdr) :
    ConnMoves c.state (connPoll b c sh rh dt cfg).event (connPoll b c sh rh dt cfg).conn.state := by
  unfold connPoll
  rw [if_pos hb]
  dsimp only
  rcases hlive with hs | hs | hs | hs
  · rw [hs]
    exact closed_moves rfl hs
  · rw [hs, connPollGo_rstSent hs]
    exact rstSent_moves rfl hs
  · rw [hs, connPollGo_rstRecvd hs]
    exact rstRecvd_moves rfl hs
  · rw [connPollGo_other (by rw [hs]; decide) (by rw [hs]; decide) (by rw [hs]; decide)]
    exact .stay _

theorem ConnMoves.live {s s' : ConnState} {e : Event} (h : ConnMoves s e s') (hlive : LiveState s) :
    LiveState s' := by
  cases h with
  | stay => exact hlive
  | answer => exact Or.inr (Or.inr (Or.inl rfl))
  | establish => exact Or.inr (Or.inr (Or.inr rfl))
  | desync | giveUp => exact Or.inl rfl

/-- What the connection has taken from the peer stems from an RST that was read. -/
structure HeardOf (c : Conn) (heard : Bool) : Prop where
  opened : c.state = .rstRecvd ∨ c.state = .established → heard = true
  noted : c.state = .rstSent → c.u.simultaneous = true ∨ c.u.rstAck = true → heard = true

theorem HeardOf.of_true (c : Conn) : HeardOf c true := ⟨fun _ => rfl, fun _ _ => rfl⟩

theorem HeardOf.of_closed {c : Conn} (h : c.state = .closed) (heard : Bool) : HeardOf c heard := by
  refine ⟨?_, ?_⟩
  · rintro (hs | hs) <;> exact absurd (h.symm.trans hs) (by decide)
  · intro hs
    exact absurd (h.symm.trans hs) (by decide)

theorem HeardOf.asked {heard : Bool} : HeardOf ⟨.rstSent, ⟨0, 0, false, false⟩⟩ heard := by
  refine ⟨?_, ?_⟩
  · rintro (hs | hs) <;> exact ConnState.noConfusion hs
  · rintro - (hs | hs) <;> exact Bool.noConfusion hs

/-- Without an RST a side in `rst_sent` notes nothing. -/
theorem connRstSentNote_noted (hrst : rh.rst = false) :
    (connRstSentNote cfg dt rh ctx).conn.u.rstAck = ctx.conn.u.rstAck ∧
      (connRstSentNote cfg dt rh ctx).conn.u.simultaneous = ctx.conn.u.simultaneous := by
  have hnot : ¬ rh.rst = true := by rw [hrst]; exact Bool.false_ne_true
  unfold connRstSentNote
  rw [if_neg fun h => hnot h.1, if_neg hnot]
  split
  · exact connRetransmit_noted _
  · exact ⟨rfl, rfl⟩

theorem connPoll_heard {b : Build} (hb : b.useConnections = true) {c : Conn} {heard : Bool}
    (hlive : LiveState c.state) (h : HeardOf c heard) (sh : Option FrameHdr) :
    HeardOf (connPoll b c sh rh dt cfg).conn (heard || rh.rst) := by
  cases hrst : rh.rst with
  | true =>
    rw [Bool.or_true]
    exact .of_true _
  | false =>
    have hnot : ¬ rh.rst = true := by rw [hrst]; exact Bool.false_ne_true
    rw [Bool.or_false]
    unfold connPoll
    rw [if_pos hb]
    dsimp only
    obtain ⟨ctx, hctx⟩ : ∃ ctx : ConnCtx, ctx = ⟨c, sh, false, .none⟩ := ⟨_, rfl⟩
    rw [← hctx]
    have hconn : ctx.conn = c := by rw [hctx]
    have hopened : c.state = .rstRecvd ∨ c.state = .established →
        HeardOf (connPollGo cfg dt rh 2 ctx).1.conn heard := by
      intro hs
      rw [h.opened hs]
      exact .of_true _
    rcases hlive with hs | hs | hs | hs
    · refine .of_closed ?_ heard
      rw [connPollGo_closed (by rw [hconn, hs]), if_neg hnot]
      split <;> exact hconn ▸ hs
    · rw [connPollGo_rstSent (by rw [hconn, hs])]
      by_cases hdesync : rh.seg = true ∨ (rh.ack = true ∧ ¬ rh.rst = true)
      · rw [connPollStateRstSent, if_pos hdesync]
        exact .of_closed rfl heard
      rw [connPollStateRstSent_eq hdesync]
      obtain ⟨hrstAck, hsimul⟩ := @connRstSentNote_noted cfg dt ctx rh hrst
      have hflags : (connRstSentNote cfg dt rh ctx).conn.u.simultaneous = true ∨
          (connRstSentNote cfg dt rh ctx).conn.u.rstAck = true → heard = true := by
        rw [hrstAck, hsimul, hconn]
        exact h.noted hs
      obtain heq | ⟨hnoted, -, hup⟩ := rstSentAnswer_cases (connRstSentNote cfg dt rh ctx)
      · rw [heq]
        obtain ⟨-, hstate⟩ | ⟨-, hclosed⟩ := @connRstSentNote_outcome cfg dt ctx rh
        · refine ⟨fun hs' => ?_, fun _ => hflags⟩
          rw [hstate, hconn, hs] at hs'
          exact absurd hs' (by decide)
        · exact .of_closed hclosed heard
      · rw [hflags hnoted]
        exact .of_true _
    · exact hopened (Or.inl hs)
    · exact hopened (Or.inr hs)

end

/-! ## The application -/

/-- What the application takes its connection to be: it has none, has asked for one, or has one. -/
inductive Known where
  | down
  | asked
  | up
deriving DecidableEq, Repr

/-- What a state of the connection is to the application. -/
def knownOf : ConnState → Option Known
  | .closed | .rstRecvd => some .down
  | .rstSent => some .asked
  | .established => some .up
  | _ => none

/-- What an event tells. -/
def Known.after (k : Known) : Event → Known
  | .none => k
  | .connEstablished => .up
  | _ => .down

/-- What the result of a call tells. -/
def Known.next (k : Known) : Call → CallResult → Known
  | .connect, .plain .okPollRequired => .asked
  | .reset, _ => .down
  | .poll _, .polled out => k.after out.event
  | _, _ => k

/-- An instance, what its application knows, and whether an RST of the peer was read in the present
attempt to connect. -/
structure Followed where
  arq : Arq
  known : Known
  heard : Bool

def followedStep (b : Build) (x : Followed) (c : Call) : Followed where
  arq := perform b x.arq c
  known := x.known.next c (callResult b x.arq c)
  heard :=
    match c, callResult b x.arq c with
    | .connect, .plain .okPollRequired => false
    | .reset, _ => false
    | .poll _, .polled out =>
      (x.heard || (pollRh x.arq).rst) && decide (Known.after .up out.event = .up)
    | _, _ => x.heard

/-- What the application knows is so. -/
structure Followed.Sound (x : Followed) : Prop where
  live : LiveState x.arq.conn.state
  known : knownOf x.arq.conn.state = some x.known
  heard : HeardOf x.arq.conn x.heard

section

variable {b : Build} {x : Followed} {c : Call}

theorem ConnMoves.known {s s' : ConnState} {e : Event} {k : Known} (h : ConnMoves s e s')
    (hk : knownOf s = some k) : knownOf s' = some (k.after e) := by
  cases h with
  | stay => exact hk
  | answer => exact hk
  | establish | desync | giveUp => rfl

theorem ConnMoves.closed {s s' : ConnState} {e : Event} (h : ConnMoves s e s')
    (hfailed : Known.after .up e ≠ .up) : s' = .closed := by
  cases h with
  | stay | answer | establish => exact absurd rfl hfailed
  | desync | giveUp => rfl

theorem Followed.Sound.poll (hb : b.useConnections = true) (h : x.Sound) (dt : Nat) :
    (followedStep b x (.poll dt)).Sound := by
  obtain ⟨hconn, hevent⟩ := pollWork_conn b x.arq dt
  have hstep : (perform b x.arq (.poll dt)).conn = (pollWork b x.arq dt).conn := rfl
  have hout : callResult b x.arq (.poll dt) = .polled (backendPoll b x.arq dt).2 := rfl
  have hoe : (backendPoll b x.arq dt).2.event = (pollWork b x.arq dt).event := rfl
  have hmoves := @connPoll_moves x.arq.cfg dt (pollRh x.arq) b hb x.arq.conn h.live
    (pollConnIn x.arq dt)
  have hheard := @connPoll_heard x.arq.cfg dt (pollRh x.arq) b hb x.arq.conn x.heard h.live h.heard
    (pollConnIn x.arq dt)
  rw [← hconn, ← hevent] at hmoves
  rw [← hconn] at hheard
  refine ⟨?_, ?_, ?_⟩
  · exact hmoves.live h.live
  · simp only [followedStep, Known.next, hout, hoe]
    exact hmoves.known h.known
  · simp only [followedStep, hout, hoe]
    rw [hstep]
    generalize (pollWork b x.arq dt).conn = conn at *
    generalize (pollWork b x.arq dt).event = e at *
    by_cases hfailed : Known.after .up e = .up
    · rw [decide_eq_true hfailed, Bool.and_true]
      exact hheard
    · exact .of_closed (hmoves.closed hfailed) _

theorem Followed.Sound.connect (hb : b.useConnections = true) (h : x.Sound) :
    (followedStep b x .connect).Sound := by
  by_cases hclosed : x.arq.conn.state = .closed
  · have hcall : arqConnect b x.arq =
        ({ x.arq with conn := ⟨.rstSent, ⟨0, 0, false, false⟩⟩ }, .okPollRequired) := by
      rw [arqConnect, if_pos hb, if_neg (not_not_intro hclosed)]
    simp only [followedStep, perform, callResult, hcall]
    exact ⟨Or.inr (Or.inl rfl), rfl, .asked⟩
  · have hcall : arqConnect b x.arq = (x.arq, .errNotDisconnected) := by
      rw [arqConnect, if_pos hb, if_pos hclosed]
    simp only [followedStep, perform, callResult, hcall]
    exact h

theorem Followed.Sound.same {y : Followed} (h : x.Sound) (hconn : y.arq.conn = x.arq.conn)
    (hknown : y.known = x.known) (hheard : y.heard = x.heard) : y.Sound := by
  obtain ⟨hlive, hk, hh⟩ := h
  rw [← hconn] at hlive hk hh
  exact ⟨hlive, hknown ▸ hk, hheard ▸ hh⟩

theorem Followed.Sound.step (hb : b.useConnections = true) (h : x.Sound) (c : Call) :
    (followedStep b x c).Sound := by
  cases c with
  | poll dt => exact h.poll hb dt
  | connect => exact h.connect hb
  | reset =>
    have hstate : (perform b x.arq .reset).conn.state = .closed := if_pos hb
    refine ⟨Or.inl hstate, ?_, .of_closed hstate _⟩
    change knownOf (perform b x.arq .reset).conn.state = _
    rw [hstate]
    rfl
  | send | flush | recv | sendPtrGet | sendPtrRelease | recvFill =>
    exact h.same (perform_conn b x.arq (by simp) (by simp) (by simp)) rfl rfl

/-! ## The theorem -/

/-- The event of a call. -/
def CallResult.event : CallResult → Event
  | .polled out => out.event
  | _ => .none

theorem ConnMoves.established {s' : ConnState} {e : Event} (h : ConnMoves .established e s') :
    e = .none := by
  cases h with
  | stay => rfl
  | establish hs => exact absurd hs (by decide)
  | desync hs | giveUp hs => exact absurd rfl hs

theorem Followed.Sound.up (h : x.Sound) (hup : x.known = .up) : x.arq.conn.state = .established := by
  have hknown := h.known
  rw [hup] at hknown
  rcases h.live with hs | hs | hs | hs <;> rw [hs] at hknown ⊢ <;> cases hknown

/-- A call other than a reset leaves a connection that is up, and says nothing about it. -/
theorem Followed.Sound.stays_up (hb : b.useConnections = true) (h : x.Sound) (hup : x.known = .up)
    (hreset : c ≠ .reset) :
    (callResult b x.arq c).event = .none ∧ (followedStep b x c).known = .up := by
  have hstate := h.up hup
  cases c with
  | poll dt =>
    have hmoves := @connPoll_moves x.arq.cfg dt (pollRh x.arq) b hb x.arq.conn h.live
      (pollConnIn x.arq dt)
    rw [hstate, ← (pollWork_conn b x.arq dt).2] at hmoves
    have hevent : (backendPoll b x.arq dt).2.event = .none := hmoves.established
    simp only [followedStep, callResult, CallResult.event, Known.next]
    rw [hevent]
    exact ⟨rfl, hup⟩
  | connect =>
    have hcall : arqConnect b x.arq = (x.arq, .errNotDisconnected) := by
      rw [arqConnect, if_pos hb, if_pos (by rw [hstate]; decide)]
    simp only [followedStep, callResult, hcall]
    exact ⟨rfl, hup⟩
  | reset => exact absurd rfl hreset
  | send | flush | recv | sendPtrGet | sendPtrRelease | recvFill => exact ⟨rfl, hup⟩

/-- What the application can rely on. -/
structure KnowsConnection (b : Build) (x : Followed) : Prop where
  state : knownOf x.arq.conn.state = some x.known
  heard : x.known = .up → x.heard = true
  refused : x.known = .down → callResult b x.arq .connect = .plain .okPollRequired ∨ x.heard = true
  quiet : x.known = .up → ∀ later, Call.reset ∉ later →
    (∀ r ∈ trace (perform b) (callResult b) x.arq later, r.event = .none) ∧
      (later.foldl (followedStep b) x).known = .up

theorem Followed.Sound.knows (hb : b.useConnections = true) (h : x.Sound) : KnowsConnection b x := by
  refine ⟨h.known, ?_, ?_, ?_⟩
  · exact fun hup => h.heard.opened (Or.inr (h.up hup))
  · intro hdown
    have hknown := h.known
    rw [hdown] at hknown
    rcases h.live with hs | hs | hs | hs
    · refine Or.inl ?_
      rw [callResult, arqConnect, if_pos hb, if_neg (not_not_intro hs)]
    · rw [hs] at hknown
      cases hknown
    · exact Or.inr (h.heard.opened (Or.inl hs))
    · rw [hs] at hknown
      cases hknown
  · intro hup later hreset
    induction later generalizing x with
    | nil => exact ⟨fun r hr => absurd hr List.not_mem_nil, hup⟩
    | cons c later ih =>
      obtain ⟨hc, hlater⟩ := not_or.mp (fun hor => hreset (List.mem_cons.mpr hor))
      obtain ⟨hevent, hup'⟩ := @stays_up b x c hb h hup (fun heq => hc heq.symm)
      obtain ⟨hevents, hup''⟩ := ih (h.step hb c) hup' hlater
      refine ⟨?_, hup''⟩
      intro r hr
      rcases List.mem_cons.mp hr with rfl | hr
      · exact hevent
      · exact hevents r hr

end

/-- **The application knows its connection**: in every run, whatever arrives, the results of its calls
tell the state of the connection. It is up only when an RST of the peer was read since it was asked
for, a request that is refused while it is down collides with an attempt of the peer, and when it is
up, it stays so without an event until `arq_reset`. -/
theorem connection_followed (b : Build) (hb : b.useConnections = true) (cfg : Cfg) (seat arq₀ : Arq)
    (hinit : arqInit b cfg seat = .ok arq₀) (x : Followed)
    (hrun : Run (followedStep b) (fun _ _ => True) ⟨arq₀, .down, false⟩ x) : KnowsConnection b x := by
  have hstart : Followed.Sound ⟨arq₀, .down, false⟩ := by
    have hstate : arq₀.conn.state = .closed := by
      rw [arqInit_ok hinit]
      exact if_pos hb
    exact ⟨Or.inl hstate, by rw [hstate]; rfl, .of_closed hstate _⟩
  have hsound := hrun.invariant (I := Followed.Sound) hstart fun y c hy _ => hy.step hb c
  exact hsound.knows hb

/-- The application asks, and the RST/ACK of the peer arrives. -/
def answeredSample : Followed :=
  [Call.connect, .poll 0, .sendPtrGet, .sendPtrRelease,
    .recvFill (encodeFrame (smallCfg 1 1 1).checksum { frameHdrInit with rst := true, ack := true } []),
    .poll 0].foldl (followedStep ⟨true⟩) ⟨freshArq ⟨true⟩ (smallCfg 1 1 1), .down, false⟩

theorem connection_followed_sample :
    (answeredSample.known = .up ∧ answeredSample.heard = true) ∧ KnowsConnection ⟨true⟩ answeredSample :=
  ⟨by decide +kernel, connection_followed ⟨true⟩ rfl (smallCfg 1 1 1) (zeroSeat _) _ (arqInit_zeroSeat rfl)
    _ (.exec (by simp [Guarded]))⟩

end NanoArq
