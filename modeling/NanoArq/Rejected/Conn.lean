import NanoArq.Poll.ConnStep

/-!
# Headers without effect on the connection

`ConnInert` says in which states a header leaves `arq__conn_poll` to do what it does when no frame
has arrived. The handshake answers flags with events that no timer raises, so that most flags have
an effect; the exceptions are an RST/ACK or an RST that repeats what was noted before, the second
one only where it keeps no timer from advancing.
-/

namespace NanoArq

/-- The retransmission of the RST has nothing to do. -/
def RetransmitIdle (free : Prop) (dt tmr : Nat) : Prop :=
  (free ∧ dt = 0 ∧ tmr ≠ 0) ∨ (¬ free ∧ (dt = 0 ∨ tmr = 0))

/-- The header `rh` has no effect on a connection poll whose outgoing header is present when
`free`. -/
def ConnInert (conn : Conn) (free : Prop) (dt : Nat) (rh : FrameHdr) : Prop :=
  match conn.state with
  | .closed => rh.ack = false ∧ rh.seg = false ∧ rh.rst = false
  | .rstSent =>
    rh.seg = false ∧ (rh.ack = true → rh.rst = true ∧ conn.u.rstAck = true) ∧
      (rh.rst = true → rh.ack = false → conn.u.simultaneous = true ∧
        (conn.u.rstAck = true ∨ RetransmitIdle free dt conn.u.tmr))
  | .rstRecvd => rh.ack = false ∧ rh.seg = false
  | _ => True

section

variable {cfg : Cfg} {dt : Nat} {ctx : ConnCtx} {rh : FrameHdr}

theorem connRetransmit_idle (flags : FrameHdr → FrameHdr)
    (h : RetransmitIdle (ctx.sh.isSome = true) dt ctx.conn.u.tmr) :
    connRetransmit cfg dt flags id ctx = ctx := by
  obtain ⟨⟨state, cnt, tmr, rstAck, simultaneous⟩, sh, emit, event⟩ := ctx
  unfold connRetransmit
  cases sh with
  | none =>
    obtain ⟨hfree, -⟩ | ⟨-, htmr⟩ := h
    · cases hfree
    · have : tmr - dt = tmr := by
        dsimp only at htmr
        omega
      simp only [subSat_eq, this]
  | some sh =>
    obtain ⟨-, rfl, htmr⟩ | ⟨hbusy, -⟩ := h
    · simp only [subSat_eq, Nat.sub_zero, if_neg htmr]
    · exact absurd rfl hbusy

theorem connRetransmit_union (flags : FrameHdr → FrameHdr)
    (h : (connRetransmit cfg dt flags id ctx).conn.u = ctx.conn.u) :
    RetransmitIdle (ctx.sh.isSome = true) dt ctx.conn.u.tmr := by
  obtain ⟨⟨state, cnt, tmr, rstAck, simultaneous⟩, sh, emit, event⟩ := ctx
  unfold connRetransmit at h
  have hcnt : (cnt + 1) % 4294967296 ≠ cnt := by omega
  cases sh with
  | none =>
    simp only [subSat_eq, ConnUnion.mk.injEq, true_and, and_true] at h
    exact Or.inr ⟨by simp, by dsimp only; omega⟩
  | some sh =>
    simp only [subSat_eq, id] at h
    split_ifs at h with h₁ h₂
    · exact absurd (congrArg ConnUnion.cnt h) hcnt
    · exact absurd (congrArg ConnUnion.cnt h) hcnt
    · simp only [ConnUnion.mk.injEq, true_and, and_true] at h
      exact Or.inl ⟨rfl, by omega, by dsimp only; omega⟩

/-! ## The states -/

theorem rstSent_quiet_event (hevent : ctx.event = .none) :
    (connPollStateRstSent cfg dt frameHdrInit ctx).1.event ≠ .connFailedDesync := by
  obtain ⟨-, hev⟩ := @connPollStateRstSent_noted cfg dt ctx frameHdrInit (by decide)
  have hnote : (connRstSentNote cfg dt frameHdrInit ctx).event ≠ .connFailedDesync := by
    rw [connRstSentNote_quiet]
    split
    · rw [hevent]
      decide
    · rcases @connRetransmit_event cfg dt ctx (fun sh => { sh with rst := true }) id with ⟨h, -⟩ | h
      · rw [h, hevent]
        decide
      · rw [h]
        decide
  rcases hev with h | h
  · rwa [h]
  · rw [h]
    decide

theorem rstRecvd_quiet_event (hevent : ctx.event = .none) :
    (connPollStateRstRecvd cfg dt frameHdrInit ctx).1.event = .none ∨
      (connPollStateRstRecvd cfg dt frameHdrInit ctx).1.event = .connFailedNoResponse := by
  have hquiet : (connPollStateRstRecvd cfg dt frameHdrInit ctx).1 =
      connRetransmit cfg dt (fun sh => { sh with rst := true, ack := true })
        (fun u => { u with rstAck := true }) ctx := rfl
  rw [hquiet, ← hevent]
  rcases @connRetransmit_event cfg dt ctx (fun sh => { sh with rst := true, ack := true })
    (fun u => { u with rstAck := true }) with ⟨h, -⟩ | h
  · exact Or.inl h
  · exact Or.inr h

/-! ## The poll -/

theorem closed_inert (hstate : ctx.conn.state = .closed) (hev : ctx.event = .none)
    (hconn : (connPollGo cfg dt rh 2 ctx).1.conn = ctx.conn)
    (hevent : (connPollGo cfg dt rh 2 ctx).1.event = ctx.event) :
    rh.ack = false ∧ rh.seg = false ∧ rh.rst = false := by
  rw [connPollGo_closed hstate] at hconn hevent
  split_ifs at hconn hevent with h₁ h₂
  · rw [hev] at hevent
    cases hevent
  · -- The second round answers the RST: it stays in `rst_recvd`, or raises an event.
    rw [connPollStateRstRecvd, if_neg (fun h => h₁ (Or.inr h)), if_neg (fun h => h₁ (Or.inl h))]
      at hconn hevent
    rcases @connRetransmit_event cfg dt (rstReceived ctx) (fun sh => { sh with rst := true, ack := true })
      (fun u => { u with rstAck := true }) with ⟨-, h⟩ | h
    · rw [hconn, hstate] at h
      cases h
    · rw [h, hev] at hevent
      cases hevent
  · simp only [not_or, Bool.not_eq_true] at h₁ h₂
    exact ⟨h₁.1, h₁.2, h₂⟩

theorem rstRecvd_inert (hev : ctx.event = .none)
    (hevent : (connPollStateRstRecvd cfg dt rh ctx).1.event =
      (connPollStateRstRecvd cfg dt frameHdrInit ctx).1.event) :
    rh.ack = false ∧ rh.seg = false := by
  have hquiet := @rstRecvd_quiet_event cfg dt ctx hev
  rw [← hevent, connPollStateRstRecvd] at hquiet
  split_ifs at hquiet with h₁ h₂ h₃ <;> simp_all

theorem rstSent_inert (hev : ctx.event = .none)
    (hconn : (connPollStateRstSent cfg dt rh ctx).1.conn =
      (connPollStateRstSent cfg dt frameHdrInit ctx).1.conn)
    (hevent : (connPollStateRstSent cfg dt rh ctx).1.event =
      (connPollStateRstSent cfg dt frameHdrInit ctx).1.event) :
    rh.seg = false ∧ (rh.ack = true → rh.rst = true ∧ ctx.conn.u.rstAck = true) ∧
      (rh.rst = true → rh.ack = false → ctx.conn.u.simultaneous = true ∧
        (ctx.conn.u.rstAck = true ∨
          RetransmitIdle (ctx.sh.isSome = true) dt ctx.conn.u.tmr)) := by
  have hstep : ¬ (rh.seg = true ∨ (rh.ack = true ∧ ¬ rh.rst = true)) := by
    intro h
    refine @rstSent_quiet_event cfg dt ctx hev ?_
    rw [← hevent, connPollStateRstSent, if_pos h]
  -- Both polls note the same.
  have hnote : (connRstSentNote cfg dt rh ctx).conn.u =
      (connRstSentNote cfg dt frameHdrInit ctx).conn.u := by
    rw [← (connPollStateRstSent_noted hstep).1, hconn]
    exact (@connPollStateRstSent_noted cfg dt ctx frameHdrInit (by decide)).1
  rw [connRstSentNote_quiet] at hnote
  refine ⟨?_, ?_, ?_⟩
  · simp_all
  · intro hack
    have hrst : rh.rst = true := by
      by_contra hrst
      exact hstep (Or.inr ⟨hack, hrst⟩)
    refine ⟨hrst, ?_⟩
    by_contra hnot
    rw [connRstSentNote, if_pos ⟨hrst, hack⟩, if_neg hnot] at hnote
    have := congrArg ConnUnion.rstAck hnote
    rw [(connRetransmit_noted _).1] at this
    exact hnot this.symm
  · intro hrst hack
    rw [connRstSentNote, if_neg (by simp [hack]), if_pos hrst] at hnote
    split at hnote
    · rename_i hra
      exact ⟨(congrArg ConnUnion.simultaneous hnote).symm, Or.inl hra⟩
    · have hsim := congrArg ConnUnion.simultaneous hnote
      rw [(connRetransmit_noted _).2] at hsim
      have hsame : { ctx.conn.u with simultaneous := true } = ctx.conn.u :=
        congrArg (fun x => { ctx.conn.u with simultaneous := x }) hsim
      exact ⟨hsim.symm, Or.inr (connRetransmit_union _ (hnote.symm.trans hsame))⟩

/-- An inert header leaves the notes of `rst_sent` as they are. -/
theorem connRstSentNote_inert (hack : rh.ack = true → rh.rst = true ∧ ctx.conn.u.rstAck = true)
    (hrst : rh.rst = true → rh.ack = false → ctx.conn.u.simultaneous = true ∧
      (ctx.conn.u.rstAck = true ∨ RetransmitIdle (ctx.sh.isSome = true) dt ctx.conn.u.tmr)) :
    connRstSentNote cfg dt rh ctx = connRstSentNote cfg dt frameHdrInit ctx := by
  rw [connRstSentNote_quiet, connRstSentNote]
  cases hr : rh.rst with
  | false =>
    have hno : rh.ack ≠ true := by
      intro h
      rw [hr] at hack
      cases (hack h).1
    cases hu : ctx.conn.u.rstAck <;> simp [hno]
  | true =>
    cases ha : rh.ack with
    | true =>
      obtain ⟨-, hu⟩ := hack ha
      have hsame : { ctx.conn.u with rstAck := true } = ctx.conn.u :=
        congrArg (fun x => { ctx.conn.u with rstAck := x }) hu.symm
      simp [hu, hsame]
    | false =>
      obtain ⟨hsim, hidle⟩ := hrst hr ha
      have hsame : { ctx.conn.u with simultaneous := true } = ctx.conn.u :=
        congrArg (fun x => { ctx.conn.u with simultaneous := x }) hsim.symm
      rcases hidle with hu | hidle
      · rw [if_pos hu]
        simp [hsame]
      · rw [connRetransmit_idle _ hidle]
        simp [hsame]

theorem connPollGo_inert (h : ConnInert ctx.conn (ctx.sh.isSome = true) dt rh) :
    (connPollGo cfg dt rh 2 ctx).1 = (connPollGo cfg dt frameHdrInit 2 ctx).1 := by
  unfold ConnInert at h
  cases hstate : ctx.conn.state with
  | closed =>
    simp only [hstate] at h
    rw [connPollGo_closed hstate, connPollGo_closed hstate]
    simp [h, frameHdrInit]
  | rstSent =>
    simp only [hstate] at h
    obtain ⟨hseg, hack, hrst⟩ := h
    have hstep : ¬ (rh.seg = true ∨ (rh.ack = true ∧ ¬ rh.rst = true)) := by
      rintro (h | ⟨ha, hr⟩)
      · rw [hseg] at h
        cases h
      · exact hr (hack ha).1
    have hquiet : ¬ (frameHdrInit.seg = true ∨
        (frameHdrInit.ack = true ∧ ¬ frameHdrInit.rst = true)) := by decide
    rw [connPollGo_rstSent hstate, connPollGo_rstSent hstate, connPollStateRstSent,
      connPollStateRstSent, if_neg hstep, if_neg hquiet, connRstSentNote_inert hack hrst]
  | rstRecvd =>
    simp only [hstate] at h
    rw [connPollGo_rstRecvd hstate, connPollGo_rstRecvd hstate, connPollStateRstRecvd,
      connPollStateRstRecvd]
    simp [h, frameHdrInit]
  | established | closeWait | lastAck | finWait1 | finWait2 | closing | timeWait =>
    rw [connPollGo_other (by simp [hstate]) (by simp [hstate]) (by simp [hstate]),
      connPollGo_other (by simp [hstate]) (by simp [hstate]) (by simp [hstate])]

theorem ConnInert.of_eq (hev : ctx.event = .none)
    (hconn : (connPollGo cfg dt rh 2 ctx).1.conn = (connPollGo cfg dt frameHdrInit 2 ctx).1.conn)
    (hevent : (connPollGo cfg dt rh 2 ctx).1.event =
      (connPollGo cfg dt frameHdrInit 2 ctx).1.event) :
    ConnInert ctx.conn (ctx.sh.isSome = true) dt rh := by
  unfold ConnInert
  cases hstate : ctx.conn.state with
  | closed =>
    have hquiet : (connPollGo cfg dt frameHdrInit 2 ctx).1 = ctx := by
      rw [connPollGo_closed hstate]
      rfl
    rw [hquiet] at hconn hevent
    exact closed_inert hstate hev hconn hevent
  | rstSent =>
    rw [connPollGo_rstSent hstate, connPollGo_rstSent hstate] at hconn hevent
    exact rstSent_inert hev hconn hevent
  | rstRecvd =>
    rw [connPollGo_rstRecvd hstate, connPollGo_rstRecvd hstate] at hevent
    exact rstRecvd_inert hev hevent
  | established | closeWait | lastAck | finWait1 | finWait2 | closing | timeWait => trivial

end

/-- **A header has no effect on the connection exactly when it is inert.** -/
theorem connPoll_inert {b : Build} (hb : b.useConnections = true) (conn : Conn)
    (sh : Option FrameHdr) (rh : FrameHdr) (dt : Nat) (cfg : Cfg) :
    (ConnInert conn (sh.isSome = true) dt rh →
        connPoll b conn sh rh dt cfg = connPoll b conn sh frameHdrInit dt cfg) ∧
      ((connPoll b conn sh rh dt cfg).conn = (connPoll b conn sh frameHdrInit dt cfg).conn →
        (connPoll b conn sh rh dt cfg).event = (connPoll b conn sh frameHdrInit dt cfg).event →
        ConnInert conn (sh.isSome = true) dt rh) := by
  unfold connPoll
  rw [if_pos hb, if_pos hb]
  constructor
  · intro h
    have hgo := @connPollGo_inert cfg dt
      { conn := conn, sh := sh, emit := false, event := .none } rh h
    rw [hgo]
  · intro hconn hevent
    exact @ConnInert.of_eq cfg dt { conn := conn, sh := sh, emit := false, event := .none } rh rfl
      hconn hevent

end NanoArq
