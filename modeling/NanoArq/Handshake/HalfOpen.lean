import NanoArq.Handshake.Completion

/-!
# A confirmation that is lost

An established side sends nothing more for the handshake, so its last ACK is sent only once. While
it is on its way, or has arrived, the connection opens; once it is lost, no handshake frame can
establish the other side any more.

* `ConfirmationLost`: one side is established, the other is not, and no ACK is on its way to it.
* `Unconfirmed.move`: without data, that stays so.
* `confirmation_decides`: in every run in which one side connects, the connection can be opened
  exactly when the confirmation is not lost.
-/

namespace NanoArq.Handshake

open Lib

/-- The moves that send no data, where only the left side connects. -/
def PassiveMove (a : Side × LinkCall) : Prop :=
  (∀ data, a.2 ≠ .send data) ∧ (a.1 = .right → a.2 ≠ .connect)

/-- The left side is established, the right one is not, and no ACK is on its way to it. -/
def ConfirmationLost (checksum : Checksum) (p : Duplex) : Prop :=
  p.left.arq.conn.state = .established ∧ p.right.arq.conn.state ≠ .established ∧
    ∃ qr, InFlight checksum p.left.arq.sendFrame p.toRight p.right.arq.recvFrame qr ∧
      ∀ f ∈ qr, f.1.ack = false

/-! ## A side that waits -/

/-- The connection is closed, or waits to be confirmed. -/
def Waits (c : Conn) : Prop := c.state = .closed ∨ c.state = .rstRecvd

theorem Waits.retransmit {ctx : ConnCtx} (h : Waits ctx.conn) (cfg : Cfg) (dt : Nat)
    (flags : FrameHdr → FrameHdr) (mark : ConnUnion → ConnUnion) :
    Waits (connRetransmit cfg dt flags mark ctx).conn := by
  unfold connRetransmit
  dsimp only
  split
  · split_ifs
    · exact Or.inl rfl
    · exact h
    · exact h
  · exact h

/-- Without an ACK a side that waits does not get established. -/
theorem Waits.poll {b : Build} {c : Conn} {rh : FrameHdr} (h : Waits c) (hack : rh.ack = false)
    (sh : Option FrameHdr) (dt : Nat) (cfg : Cfg) : Waits (connPoll b c sh rh dt cfg).conn := by
  have hrecvd : ∀ ctx : ConnCtx, Waits ctx.conn → Waits (connPollStateRstRecvd cfg dt rh ctx).1.conn := by
    intro ctx hctx
    unfold connPollStateRstRecvd
    by_cases hseg : rh.seg = true
    · rw [if_pos hseg]
      exact Or.inl rfl
    · rw [if_neg hseg, if_neg (by rw [hack]; simp)]
      exact hctx.retransmit cfg dt _ _
  unfold connPoll
  split
  · rcases h with hs | hs
    · dsimp only
      rw [connPollGo_closed hs]
      split_ifs
      · exact Or.inl hs
      · exact hrecvd _ (Or.inr rfl)
      · exact Or.inl hs
    · dsimp only
      rw [connPollGo_rstRecvd hs]
      exact hrecvd _ (Or.inr hs)
  · exact h

section

variable {b : Build} {checksum : Checksum} {l₀ r₀ : Arq} {p : Duplex}
  {qr ql : List (FrameHdr × List UInt8)} {c : LinkCall}

/-! ## The other side is established -/

/-- The left side is established, the right one waits, and no ACK is among the frames in flight. -/
structure Unconfirmed (checksum : Checksum) (l₀ r₀ : Arq) (p : Duplex)
    (qr ql : List (FrameHdr × List UInt8)) : Prop where
  dataless : Dataless checksum l₀ r₀ p qr ql
  left : p.left.arq.conn.state = .established
  right : Waits p.right.arq.conn
  quiet : ∀ f ∈ qr, f.1.ack = false

/-- An established side without data writes no frame. -/
theorem idle_silent (hb : b.useConnections = true) {arq : Arq} (hi : Idle arq)
    (hest : arq.conn.state = .established) (hseg : (pollRh arq).seg = false) (dt : Nat) :
    pollFrame (pollWork b arq dt) = none := by
  obtain ⟨-, -, hsh, hemit, -, -, -⟩ := @Idle.pollWork b arq dt hi hseg
  rw [connPoll_established hb hest] at hsh hemit
  exact @pollFrame_writes _ ⟨arq.conn, connSh arq, false, .none⟩ none rfl hsh (by rw [hemit, Bool.and_false])

theorem Unconfirmed.move_left (hb : b.useConnections = true) (hl : Plays checksum l₀ .closed)
    (hr : Plays checksum r₀ .closed) (h : Unconfirmed checksum l₀ r₀ p qr ql)
    (hsend : ∀ data, c ≠ .send data) : ∃ qr' ql', Unconfirmed checksum l₀ r₀ (p.move b c) qr' ql' := by
  have hest := (@move_established b ⟨false⟩ p hb rfl h.left c).2
  by_cases hpoll : ∃ dt, c = .poll dt
  · obtain ⟨dt, rfl⟩ := hpoll
    obtain ⟨hseg, rest, -, hdata⟩ := h.dataless.poll hl hr b dt
    rw [idle_silent hb (h.dataless.left.idle hl.idle) h.left hseg, Option.toList_none,
      List.append_nil] at hdata
    exact ⟨qr, rest, hdata, hest, h.right, h.quiet⟩
  · obtain ⟨qr', hsub, -, hdata⟩ := h.dataless.call hl b hsend fun dt hdt => hpoll ⟨dt, hdt⟩
    exact ⟨qr', ql, hdata, hest, h.right, fun f hf => h.quiet f (hsub.subset hf)⟩

theorem Unconfirmed.move_right (hl : Plays checksum l₀ .closed) (hr : Plays checksum r₀ .closed)
    (h : Unconfirmed checksum l₀ r₀ p qr ql) (hsend : ∀ data, c ≠ .send data) (hconnect : c ≠ .connect) :
    ∃ qr' ql', Unconfirmed checksum l₀ r₀ (p.swap.move b c).swap qr' ql' := by
  have hidle : Idle p.right.arq := h.dataless.right.idle hr.idle
  by_cases hpoll : ∃ dt, c = .poll dt
  · obtain ⟨dt, rfl⟩ := hpoll
    obtain ⟨hseg, rest, htakes, hdata⟩ := h.dataless.swap.poll hr hl b dt
    have hack : (pollRh p.right.arq).ack = false ∧ ∀ f ∈ rest, f.1.ack = false := by
      obtain ⟨hnone, rfl⟩ | ⟨r, rfl, hread, -⟩ := htakes
      · change pollRead p.right.arq = none at hnone
        exact ⟨by rw [pollRh, hnone]; rfl, h.quiet⟩
      · change pollRead p.right.arq = some r at hread
        exact ⟨by rw [pollRh, hread]; exact h.quiet _ List.mem_cons_self,
          fun f hf => h.quiet f (List.mem_cons_of_mem _ hf)⟩
    have hconn : (p.swap.move b (.poll dt)).left.arq.conn =
        (connPoll b p.right.arq.conn (connSh p.right.arq) (pollRh p.right.arq) dt p.right.arq.cfg).conn := by
      obtain ⟨hconn, -⟩ := @Idle.pollWork b p.right.arq dt hidle hseg
      rw [← hconn]
      exact congrArg Arq.conn (sendHistStep_arq b _ _)
    refine ⟨rest, _, hdata.swap, h.left, ?_, hack.2⟩
    change Waits (p.swap.move b (.poll dt)).left.arq.conn
    rw [hconn]
    exact h.right.poll hack.1 _ _ _
  · have hnot : ∀ dt, c ≠ .poll dt := fun dt hdt => hpoll ⟨dt, hdt⟩
    obtain ⟨ql', -, -, hdata⟩ := h.dataless.swap.call hr b hsend hnot
    have hconn : (p.swap.move b c).left.arq.conn = p.right.arq.conn := by
      rw [show (p.swap.move b c).left.arq = perform b p.right.arq (c.call p.swap.pair) from
        sendHistStep_arq b _ _]
      cases c with
      | poll dt => exact absurd rfl (hnot dt)
      | connect => exact absurd rfl hconnect
      | send | flush | recv | get | release | deliver =>
        exact perform_conn b p.right.arq (by simp [LinkCall.call]) (by simp [LinkCall.call])
          (by simp [LinkCall.call])
    refine ⟨qr, ql', hdata.swap, h.left, ?_, h.quiet⟩
    change Waits (p.swap.move b c).left.arq.conn
    rw [hconn]
    exact h.right

/-- Without data the side that waits is never established. -/
theorem Unconfirmed.run (hb : b.useConnections = true) (hl : Plays checksum l₀ .closed)
    (hr : Plays checksum r₀ .closed) (h : Unconfirmed checksum l₀ r₀ p qr ql) {q : Duplex}
    (hrun : Run (duplexStep b) (fun _ => PassiveMove) p q) :
    ∃ qr' ql', Unconfirmed checksum l₀ r₀ q qr' ql' := by
  refine hrun.invariant (I := fun q => ∃ qr' ql', Unconfirmed checksum l₀ r₀ q qr' ql') ⟨qr, ql, h⟩ ?_
  rintro p ⟨x, c⟩ ⟨qr, ql, h⟩ ⟨hsend, hconnect⟩
  cases x with
  | left => exact h.move_left hb hl hr hsend
  | right => exact h.move_right hl hr hsend (hconnect rfl)

/-! ## The connection opens -/

theorem OneOpens.requests {x y : Party} {xy yx : List Flag} (h : OneOpens x y xy yx) {f : Flag}
    (hf : f ∈ xy) (hack : f ≠ .ack) : (flagItem f).1.ack = false := by
  have hrst : f = .rst := by
    cases h with
    | idle | completed => cases hf
    | asked | answered => exact (List.mem_replicate.mp hf).2
    | confirmed n m hlast =>
      rcases List.mem_append.mp hf with hf | hf
      · exact (List.mem_replicate.mp hf).2
      · rcases hlast with rfl | rfl
        · cases hf
        · exact absurd (List.mem_singleton.mp hf) hack
  rw [hrst]
  rfl

theorem OneOpens.asking {x y : Party} {xy yx : List Flag} {c : Conn} (h : OneOpens x y xy yx)
    (hc : Represents c x) (hclosed : x ≠ .closed) (hest : c.state ≠ .established) :
    c.state = .rstSent := by
  cases h with
  | idle => exact absurd rfl hclosed
  | asked | answered => exact (represents_opening hc).1
  | confirmed | completed =>
    cases hc with
    | established hs => exact absurd hs hest

theorem OneOpens.waits {x y : Party} {xy yx : List Flag} {c : Conn} (h : OneOpens x y xy yx)
    (hc : Represents c y) (hest : c.state ≠ .established) : Waits c := by
  cases h with
  | idle | asked =>
    cases hc with
    | closed hs => exact Or.inl hs
  | answered | confirmed => exact Or.inr (represents_answering hc).1
  | completed =>
    cases hc with
    | established hs => exact absurd hs hest

theorem Quietly.passive {q : Duplex} (h : Quietly b p q) : Run (duplexStep b) (fun _ => PassiveMove) p q :=
  Run.mono (fun _ _ hok => ⟨hok.2.1, fun _ => hok.2.2⟩) h

/-- Where the confirmation is on its way, or has arrived, the connection opens. -/
theorem Playing.completes (hs : Sides b checksum l₀ r₀) {x y : Party} {xy yx : List Flag}
    (h : Playing checksum l₀ r₀ p x y xy yx) (hopens : OneOpens x y xy yx)
    (hest : p.left.arq.conn.state = .established)
    (hkept : p.right.arq.conn.state = .established ∨ .ack ∈ xy)
    (hcntR : p.right.arq.conn.state = .rstRecvd → p.right.arq.conn.u.cnt < r₀.cfg.connectionRstAttempts) :
    ∃ q, Quietly b p q ∧ Opened q := by
  obtain ⟨p', hreach, htalk, hconnL, hconnR⟩ := h.talk hs.left hs.right b
  have hleft := h.left.party
  have hright := h.right.party
  rw [← hconnL] at hleft hest
  rw [← hconnR] at hright hkept hcntR
  cases hopens with
  | idle =>
    cases hleft with
    | closed hclosed => rw [hest] at hclosed; cases hclosed
  | asked | answered =>
    rw [(represents_opening hleft).1] at hest
    cases hest
  | confirmed n m hlast =>
    obtain ⟨hrecvd, hans⟩ := represents_answering hright
    obtain rfl := hlast.resolve_left (by
      rintro rfl
      rcases hkept with hkept | hkept
      · rw [hrecvd] at hkept
        cases hkept
      · simp at hkept)
    obtain ⟨p₁, m₁, hreach₁, h₁, hest₁, hsame₁⟩ := htalk.drain hs ⟨hrecvd, hans, Or.inr (hcntR hrecvd)⟩
    obtain ⟨q, hreach₂, -, hopen⟩ := h₁.close hs (by rw [hsame₁]; exact hest) hest₁
    exact ⟨q, (hreach.trans hreach₁).trans hreach₂, hopen⟩
  | completed m =>
    cases hright with
    | established hest' =>
      obtain ⟨q, hreach₁, -, hopen⟩ := htalk.close hs hest hest'
      exact ⟨q, hreach.trans hreach₁, hopen⟩

end

/-! ## The theorem -/

/-- **The confirmation decides**: after any run, with any losses, of two sides of which the left one
connects, in which neither has given up and both have attempts left, moves without data establish the right
side and open the connection if the confirmation of the left side is not lost, and never if it is. -/
theorem confirmation_decides (b : Build) (hb : b.useConnections = true) (cfgL cfgR : Cfg)
    (hsum : cfgL.checksum = cfgR.checksum) (hsegL : cfgL.segmentLengthInBytes < 65518)
    (hsegR : cfgR.segmentLengthInBytes < 65518) (seatL seatR l r : Arq)
    (hinitL : arqInit b cfgL seatL = .ok l) (hinitR : arqInit b cfgR seatR = .ok r) (p : Duplex)
    (hrun : Run (duplexStep b) (OpeningMove b) (.start l r) p)
    (hcntL : p.left.arq.conn.state = .rstSent → p.left.arq.conn.u.cnt < cfgL.connectionRstAttempts)
    (hcntR : p.right.arq.conn.state = .rstRecvd → p.right.arq.conn.u.cnt < cfgR.connectionRstAttempts) :
    (¬ ConfirmationLost cfgL.checksum p →
        ∃ q, Run (duplexStep b) (fun _ => PassiveMove) p q ∧ Opened q) ∧
      (ConfirmationLost cfgL.checksum p → ∀ q, Run (duplexStep b) (fun _ => PassiveMove) p q →
        q.right.arq.conn.state ≠ .established) := by
  obtain ⟨hl, hlacc⟩ := Plays.start hb hinitL hsegL
  obtain ⟨hr, hracc⟩ := Plays.start hb hinitR hsegR
  rw [← hsum] at hr
  have hcfgL : l.cfg = cfgL := by rw [arqInit_ok hinitL]; rfl
  have hcfgR : r.cfg = cfgR := by rw [arqInit_ok hinitR]; rfl
  have hlimits : ∀ {cfg : Cfg} {seat arq : Arq}, arqInit b cfg seat = .ok arq →
      0 < cfg.connectionRstAttempts ∧ 0 < cfg.connectionRstPeriod := by
    intro cfg seat arq hinit
    have hcheck := arqInit_check hinit
    unfold checkCfg at hcheck
    split_ifs at hcheck
    omega
  obtain ⟨hattempts, hperiod⟩ := hlimits hinitR
  have hs : Sides b cfgL.checksum l r :=
    ⟨hb, hl, hr, by rw [hcfgR]; exact hattempts, by rw [hcfgR]; exact hperiod⟩
  rw [← hcfgR] at hcntR
  obtain ⟨x, y, xy, yx, hplay, hopens⟩ := opening_run hb hl hr hlacc hracc hrun
  refine ⟨fun hkept => ?_, fun ⟨hest, hnot, qr, hflight, hquiet⟩ q hrun' => ?_⟩
  · by_cases hest : p.left.arq.conn.state = .established
    · obtain ⟨q, hreach, hopen⟩ := hplay.completes hs hopens hest (by
        by_contra hnone
        obtain ⟨hnot, hack⟩ := not_or.mp hnone
        refine hkept ⟨hest, hnot, _, hplay.dataless.toRight, fun f hf => ?_⟩
        obtain ⟨g, hg, rfl⟩ := List.mem_map.mp hf
        exact hopens.requests hg fun hga => hack (hga ▸ hg)) hcntR
      exact ⟨q, hreach.passive, hopen⟩
    · by_cases hclosed : x = .closed
      · -- The left side has not connected yet.
        obtain ⟨x', hplay', hopens', hconnected⟩ := hplay.connect hb hl hopens
        obtain ⟨hsent, hcnt⟩ := hconnected hclosed
        obtain ⟨q, hreach, -, hopen⟩ := hplay'.opens hs hopens' hsent
          (by rw [hcnt, hcfgL]; exact (hlimits hinitL).1) hcntR
        refine ⟨q, Run.trans ?_ hreach.passive, hopen⟩
        exact @Run.next _ _ (duplexStep b) (fun _ => PassiveMove) p p .start (.left, .connect)
          ⟨by simp, by simp⟩
      · have hsent : p.left.arq.conn.state = .rstSent := hopens.asking hplay.left.party hclosed hest
        obtain ⟨q, hreach, -, hopen⟩ := hplay.opens hs hopens hsent
          (by rw [hcfgL]; exact hcntL hsent) hcntR
        exact ⟨q, hreach.passive, hopen⟩
  · have hwaits : Waits p.right.arq.conn := hopens.waits hplay.right.party hnot
    rw [hflight.unique hplay.dataless.toRight] at hquiet
    obtain ⟨qr', ql', h⟩ := Unconfirmed.run hb hl hr ⟨hplay.dataless, hest, hwaits, hquiet⟩ hrun'
    intro hcontra
    rcases h.right with hstate | hstate
    · rw [hstate] at hcontra
      cases hcontra
    · rw [hstate] at hcontra
      cases hcontra

/-- The request and the answer arrive, and the confirmation is lost. -/
def lostConfirmation : Duplex :=
  [(.left, .connect), (.left, .poll 0), (.left, .get true), (.left, .release),
      (.right, .deliver 18), (.right, .poll 0), (.right, .get true), (.right, .release),
      (.left, .deliver 18), (.left, .poll 0), (.left, .get false), (.left, .release)].foldl
    (duplexStep ⟨true⟩) (.start (freshArq ⟨true⟩ (smallCfg 1 1 1)) (freshArq ⟨true⟩ (smallCfg 1 1 1)))

theorem confirmation_decides_sample :
    (∃ q, Run (duplexStep ⟨true⟩) (fun _ => PassiveMove) lostOpening q ∧ Opened q) ∧
      ∀ q, Run (duplexStep ⟨true⟩) (fun _ => PassiveMove) lostConfirmation q →
        q.right.arq.conn.state ≠ .established := by
  have hinit : arqInit ⟨true⟩ (smallCfg 1 1 1) (zeroSeat (smallCfg 1 1 1)) =
      .ok (freshArq ⟨true⟩ (smallCfg 1 1 1)) := arqInit_zeroSeat rfl
  refine ⟨(confirmation_decides ⟨true⟩ rfl (smallCfg 1 1 1) (smallCfg 1 1 1) rfl (by decide) (by decide) _ _
    _ _ hinit hinit lostOpening (.exec (by decide +kernel)) (by decide +kernel) (by decide +kernel)).1 ?_,
    (confirmation_decides ⟨true⟩ rfl (smallCfg 1 1 1) (smallCfg 1 1 1) rfl (by decide) (by decide) _ _
      _ _ hinit hinit lostConfirmation (.exec (by decide +kernel)) (by decide +kernel)
      (by decide +kernel)).2 ?_⟩
  · exact fun hlost => absurd hlost.1 (by decide +kernel)
  · refine ⟨by decide +kernel, by decide +kernel, [], .start (by decide +kernel) (by decide +kernel) ?_, by simp⟩
    exact ⟨by decide +kernel, by decide +kernel, rfl, by simp, Nat.zero_le _, by decide +kernel⟩

end NanoArq.Handshake
