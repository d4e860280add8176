import NanoArq.Handshake.Protocol
import NanoArq.Poll.ConnStep

/-!
# One poll of the connection as a step of the handshake

`Represents` relates `arq__conn_t` to a party of the protocol. `connPoll_step`: a connection poll
is a step of its party, unless it gives up for lack of a response, or meets a flag that the party
has no step for.
-/

namespace NanoArq.Handshake

/-- The header that carries the flag. -/
def flagHdr : Flag → FrameHdr
  | .rst => { frameHdrInit with rst := true }
  | .rstAck => { frameHdrInit with rst := true, ack := true }
  | .ack => { frameHdrInit with ack := true }

/-- The header that a poll sees: that of the flag, or the initial one. -/
def seenHdr : Option Flag → FrameHdr
  | none => frameHdrInit
  | some f => flagHdr f

/-- The connection is that of the party. A request is counted when it is sent. -/
inductive Represents : Conn → Party → Prop
  | closed {c : Conn} (hs : c.state = .closed) : Represents c .closed
  | opening {c : Conn} {a : Bool} (hs : c.state = .rstSent) (ha : c.u.cnt ≠ 0 → a = true) :
      Represents c (.opening a c.u.simultaneous c.u.rstAck)
  | answering {c : Conn} (hs : c.state = .rstRecvd) (ha : c.u.rstAck = true) :
      Represents c .answering
  | established {c : Conn} (hs : c.state = .established) : Represents c .established

/-- What a connection poll leaves in the outgoing header: nothing, or a flag. -/
def Writes (c : ConnCtx) : Option Flag → Prop
  | none => c.emit = false
  | some f => c.emit = true ∧ c.sh = some (flagHdr f)

section

variable {cfg : Cfg} {dt : Nat} {ctx : ConnCtx} {x : Party} {i : Option Flag}

/-- The context with which `arq__conn_poll` starts: the send frame is busy, or the outgoing header
is still the initial one. -/
structure Fresh (ctx : ConnCtx) : Prop where
  sh : ctx.sh = none ∨ ctx.sh = some frameHdrInit
  emit : ctx.emit = false
  event : ctx.event = .none

/-- The poll is a step of the party `x` that receives `i`. -/
structure Stepped (x : Party) (i : Option Flag) (c : ConnCtx) : Prop where
  in_step : c.event ≠ .connFailedDesync
  step : ∃ x' o, Party.Step x i x' o ∧ Represents c.conn x' ∧ Writes c o ∧
    (o ≠ none → c.sh.isSome = true)

/-- A poll that leaves the header as it was. -/
theorem Fresh.silent (hf : Fresh ctx) {x' : Party} (hstep : Party.Step x i x' none)
    (hrep : Represents ctx.conn x') : Stepped x i ctx := by
  refine ⟨?_, x', none, hstep, hrep, hf.emit, by simp⟩
  rw [hf.event]
  decide

/-- A party that opens and knows of its peer confirms when the send frame is free. -/
theorem Fresh.known (hf : Fresh ctx) {a : Bool} (hs : ctx.conn.state = .rstSent)
    (ha : ctx.conn.u.cnt ≠ 0 → a = true)
    (hknown : ctx.conn.u.simultaneous = true ∨ ctx.conn.u.rstAck = true)
    (hwait : Party.Step x i (.opening a ctx.conn.u.simultaneous ctx.conn.u.rstAck) none)
    (hconfirm : Party.Step x i .established (some .ack)) : Stepped x i (rstSentAnswer ctx) := by
  rcases hf.sh with hsh | hsh
  · rw [rstSentAnswer_busy hsh]
    exact hf.silent hwait (.opening hs ha)
  · rw [rstSentAnswer_free hsh, if_pos hknown]
    exact ⟨by simp, _, some .ack, hconfirm, .established rfl, ⟨rfl, rfl⟩, fun _ => rfl⟩

theorem rstSentAnswer_unknown
    (h : ¬ (ctx.conn.u.simultaneous = true ∨ ctx.conn.u.rstAck = true)) :
    rstSentAnswer ctx = ctx := by
  cases hsh : ctx.sh with
  | none => exact rstSentAnswer_busy hsh
  | some sh => rw [rstSentAnswer_free hsh, if_neg h]

/-- Opening, without a flag: the request is sent or not, or the party confirms. -/
theorem Fresh.opening_quiet (hf : Fresh ctx) {a : Bool} (hs : ctx.conn.state = .rstSent)
    (ha : ctx.conn.u.cnt ≠ 0 → a = true)
    (hev : (connPollStateRstSent cfg dt frameHdrInit ctx).1.event ≠ .connFailedNoResponse) :
    Stepped (.opening a ctx.conn.u.simultaneous ctx.conn.u.rstAck) none
      (connPollStateRstSent cfg dt frameHdrInit ctx).1 := by
  rw [connPollStateRstSent_eq (by decide), connRstSentNote_quiet] at hev ⊢
  by_cases hra : ctx.conn.u.rstAck = true
  · rw [if_pos hra]
    refine hf.known hs ha (Or.inr hra) (.wait _) ?_
    rw [hra]
    exact .confirmNoted
  rw [if_neg hra] at hev ⊢
  rcases @connRetransmit_cases cfg dt ctx (fun sh => { sh with rst := true }) id with
    ⟨-, h⟩ | ⟨sh, hsh, hsh', hemit, hu, hout⟩
  · -- Nothing is due.
    rw [h]
    have hf' : Fresh { ctx with
        conn := { ctx.conn with u := { ctx.conn.u with tmr := ctx.conn.u.tmr - dt } } } :=
      ⟨hf.sh, hf.emit, hf.event⟩
    by_cases hsim : ctx.conn.u.simultaneous = true
    · refine hf'.known hs ha (Or.inl hsim) (.wait _) ?_
      rw [hsim]
      exact .confirm
    · rw [rstSentAnswer_unknown (by simp [hsim, hra])]
      exact hf'.silent (.wait _) (.opening hs ha)
  · -- The request is written.
    have hinit : sh = frameHdrInit := by
      rcases hf.sh with h | h
      · rw [h] at hsh
        cases hsh
      · exact Option.some.inj (hsh.symm.trans h)
    subst hinit
    generalize connRetransmit cfg dt (fun sh => { sh with rst := true }) id ctx = c at *
    have hsim : c.conn.u.simultaneous = ctx.conn.u.simultaneous := by rw [hu]; rfl
    have hra' : c.conn.u.rstAck = ctx.conn.u.rstAck := by rw [hu]; rfl
    by_cases hc : ctx.conn.u.simultaneous = true
    · rw [rstSentAnswer_free hsh', if_pos (Or.inl (hsim.trans hc)), hc]
      exact ⟨by simp, _, some .rstAck, .confirmAgain, .established rfl, ⟨rfl, rfl⟩, fun _ => rfl⟩
    · have hunknown : ¬ (c.conn.u.simultaneous = true ∨ c.conn.u.rstAck = true) := by
        rw [hsim, hra']
        exact not_or.mpr ⟨hc, hra⟩
      rw [rstSentAnswer_unknown hunknown] at hev ⊢
      obtain ⟨hstate, hevent⟩ | ⟨-, hevent⟩ := hout
      · rw [Bool.not_eq_true] at hc hra
        have hopening : Represents c.conn
            (.opening true c.conn.u.simultaneous c.conn.u.rstAck) :=
          .opening (hstate.trans hs) fun _ => rfl
        rw [hsim, hra', hc, hra] at hopening
        rw [hc, hra]
        exact ⟨by rw [hevent, hf.event]; decide, _, some .rst, .ask, hopening, ⟨hemit, hsh'⟩,
          fun _ => by rw [hsh']; rfl⟩
      · exact absurd hevent hev

/-- In `rst_recvd`, without an ACK: the answer is written when it is due. -/
theorem Fresh.answer (hf : Fresh ctx) (hs : ctx.conn.state = .rstRecvd) {rh : FrameHdr}
    (hseg : rh.seg = false) (hack : rh.ack = false)
    (hev : (connPollStateRstRecvd cfg dt rh ctx).1.event ≠ .connFailedNoResponse)
    (hwait : ctx.sh = none ∨ ctx.conn.u.tmr - dt ≠ 0 →
      Party.Step x i .answering none ∧ ctx.conn.u.rstAck = true)
    (hanswer : Party.Step x i .answering (some .rstAck)) :
    Stepped x i (connPollStateRstRecvd cfg dt rh ctx).1 := by
  have hretransmit : (connPollStateRstRecvd cfg dt rh ctx).1 =
      connRetransmit cfg dt (fun sh => { sh with rst := true, ack := true })
        (fun u => { u with rstAck := true }) ctx := by
    rw [connPollStateRstRecvd, if_neg (by simp [hseg]), if_neg (by simp [hack])]
  rw [hretransmit] at hev ⊢
  rcases @connRetransmit_cases cfg dt ctx (fun sh => { sh with rst := true, ack := true })
    (fun u => { u with rstAck := true }) with ⟨hidle, h⟩ | ⟨sh, hsh, hsh', hemit, hu, hout⟩
  · rw [h]
    obtain ⟨hstep, hra⟩ := hwait hidle
    have hf' : Fresh { ctx with
        conn := { ctx.conn with u := { ctx.conn.u with tmr := ctx.conn.u.tmr - dt } } } :=
      ⟨hf.sh, hf.emit, hf.event⟩
    exact hf'.silent hstep (.answering hs hra)
  · have hinit : sh = frameHdrInit := by
      rcases hf.sh with h | h
      · rw [h] at hsh
        cases hsh
      · exact Option.some.inj (hsh.symm.trans h)
    subst hinit
    obtain ⟨hstate, hevent⟩ | ⟨-, hevent⟩ := hout
    · refine ⟨by rw [hevent, hf.event]; decide, .answering, some .rstAck, hanswer,
        .answering (hstate.trans hs) (by rw [hu]), ⟨hemit, hsh'⟩, fun _ => by rw [hsh']; rfl⟩
    · exact absurd hevent hev

/-- **A connection poll is a step of its party**, when the party has a step for the flag it meets,
asks before it lets itself be crossed, and does not give up. -/
theorem connPollGo_step (hf : Fresh ctx) (hrep : Represents ctx.conn x)
    (hstep : (x = .closed → ∀ f, i = some f → f = .rst ∧ ctx.sh.isSome = true) ∧
      (∀ a c r, x = .opening a c r → i ≠ some .ack))
    (hasked : ctx.conn.state = .rstSent → i = some .rst → ctx.conn.u.cnt ≠ 0)
    (hev : (connPollGo cfg dt (seenHdr i) 2 ctx).1.event ≠ .connFailedNoResponse) :
    Stepped x i (connPollGo cfg dt (seenHdr i) 2 ctx).1 := by
  cases hrep with
  | closed hs =>
    rw [connPollGo_closed hs] at hev ⊢
    cases i with
    | none => exact hf.silent (.wait _) (.closed hs)
    | some f =>
      obtain ⟨rfl, hfree⟩ := hstep.1 rfl f rfl
      have hf' : Fresh (rstReceived ctx) := ⟨hf.sh, hf.emit, hf.event⟩
      refine hf'.answer rfl rfl rfl hev ?_ .accept
      rintro (h | h)
      · rw [show ctx.sh = none from h] at hfree
        cases hfree
      · exact absurd (Nat.zero_sub dt) h
  | @opening a hs ha =>
    rw [connPollGo_rstSent hs] at hev ⊢
    cases i with
    | none => exact hf.opening_quiet hs ha hev
    | some f =>
      cases f with
      | rst =>
        obtain rfl := ha (hasked hs rfl)
        have hf' : Fresh { ctx with
            conn := { ctx.conn with u := { ctx.conn.u with simultaneous := true } } } :=
          ⟨hf.sh, hf.emit, hf.event⟩
        rw [connPollStateRstSent_eq (by decide)]
        exact hf'.known hs (fun _ => rfl) (Or.inl rfl) .cross .confirmRst
      | rstAck =>
        have hf' : Fresh { ctx with
            conn := { ctx.conn with u := { ctx.conn.u with rstAck := true } } } :=
          ⟨hf.sh, hf.emit, hf.event⟩
        rw [connPollStateRstSent_eq (by decide)]
        exact hf'.known hs ha (Or.inr rfl) .note .confirmRstAck
      | ack => exact absurd rfl (hstep.2 _ _ _ rfl)
  | answering hs ha =>
    rw [connPollGo_rstRecvd hs] at hev ⊢
    cases i with
    | none => exact hf.answer hs rfl rfl hev (fun _ => ⟨.wait _, ha⟩) (.repeatAnswer (Or.inl rfl))
    | some f =>
      have hcomplete : f ≠ .rst → Stepped .answering (some f)
          (connPollStateRstRecvd cfg dt (seenHdr (some f)) ctx).1 := by
        intro hne
        have hdone : (connPollStateRstRecvd cfg dt (seenHdr (some f)) ctx).1 =
            { ctx with
              conn := { ctx.conn with state := .established }
              event := .connEstablished } := by
          cases f with
          | rst => exact absurd rfl hne
          | rstAck | ack => simp [connPollStateRstRecvd, seenHdr, flagHdr, frameHdrInit, ha]
        rw [hdone]
        exact ⟨by simp, .established, none, .complete hne, .established rfl, hf.emit, by simp⟩
      cases f with
      | rst => exact hf.answer hs rfl rfl hev (fun _ => ⟨.hold, ha⟩) (.repeatAnswer (Or.inr rfl))
      | rstAck => exact hcomplete (by decide)
      | ack => exact hcomplete (by decide)
  | established hs =>
    rw [connPollGo_other (by simp [hs]) (by simp [hs]) (by simp [hs])]
    exact hf.silent (.ignore _) (.established hs)

end

end NanoArq.Handshake
