import NanoArq.Handshake.Opening

/-!
# A connection opens and then delivers

As long as the asking side is not established and neither side has used up its attempts, turns
without loss open the connection whatever was lost before, and it then carries any data.

* `Talking.turn`: a turn of a side that has no data, with all its frames on their way.
* `Talking.answered`, `Talking.confirm`, `Talking.drain`, `Talking.settle`: the steps to an open pair.
* `Playing.opens`: the turns that open the connection.
* `connection_delivers`: the connection opens and the bytes arrive.
* `connected_bytes_arrive`: what holds in every run over an open connection.
-/

namespace NanoArq.Handshake

open Lib

/-! ## One poll with a free send frame -/

section

variable {b : Build} {cfg : Cfg} {c : Conn} {dt : Nat} {i : Option Flag}

/-- The retransmission that is due. -/
theorem connRetransmit_fires {ctx : ConnCtx} {sh : FrameHdr} (hsh : ctx.sh = some sh)
    (htmr : ctx.conn.u.tmr ≤ dt) (hcnt : ctx.conn.u.cnt < cfg.connectionRstAttempts)
    (flags : FrameHdr → FrameHdr) (mark : ConnUnion → ConnUnion) :
    connRetransmit cfg dt flags mark ctx = { ctx with
      conn := { ctx.conn with
        u := { mark { ctx.conn.u with tmr := 0 } with
          cnt := (ctx.conn.u.cnt + 1) % 4294967296
          tmr := cfg.connectionRstPeriod } }
      sh := some (flags sh)
      emit := true } := by
  obtain ⟨conn, _, emit, event⟩ := ctx
  subst hsh
  have hzero : conn.u.tmr - dt = 0 := Nat.sub_eq_zero_of_le htmr
  have hle := Nat.mod_le (conn.u.cnt + 1) 4294967296
  dsimp only at hcnt
  simp only [connRetransmit, subSat_eq, hzero, if_true]
  rw [if_neg (by omega)]

theorem connRetransmit_waits {ctx : ConnCtx} (htmr : dt < ctx.conn.u.tmr)
    (flags : FrameHdr → FrameHdr) (mark : ConnUnion → ConnUnion) :
    connRetransmit cfg dt flags mark ctx =
      { ctx with conn := { ctx.conn with u := { ctx.conn.u with tmr := ctx.conn.u.tmr - dt } } } := by
  obtain ⟨-, h⟩ | ⟨sh, hsh, -, -, -, -⟩ := @connRetransmit_cases cfg dt ctx flags mark
  · exact h
  · obtain ⟨conn, sh', emit, event⟩ := ctx
    obtain rfl : sh' = some sh := hsh
    have hne : ¬ conn.u.tmr - dt = 0 := Nat.sub_ne_zero_of_lt htmr
    simp only [connRetransmit, subSat_eq, if_neg hne]

theorem connPoll_eq (hb : b.useConnections = true) {r : ConnCtx} {rh : FrameHdr}
    (hr : (connPollGo cfg dt rh 2 ⟨c, some frameHdrInit, false, .none⟩).1 = r) :
    connPoll b c (some frameHdrInit) rh dt cfg = { r with emit := r.sh.isSome && r.emit } := by
  rw [connPoll, if_pos hb]
  dsimp only
  rw [hr]

/-- The request is sent when its timer has run out. -/
theorem connPoll_asks (hb : b.useConnections = true) (hs : c.state = .rstSent) (hack : c.u.rstAck = false)
    (hsim : c.u.simultaneous = false) (htmr : c.u.tmr ≤ dt) (hcnt : c.u.cnt < cfg.connectionRstAttempts) :
    let r := connPoll b c (some frameHdrInit) (seenHdr none) dt cfg
    r.conn.state = .rstSent ∧ r.conn.u.rstAck = false ∧ r.conn.u.simultaneous = false ∧
      Writes r (some .rst) := by
  have hfires := @connRetransmit_fires cfg dt ⟨c, some frameHdrInit, false, .none⟩ frameHdrInit rfl htmr hcnt
    (fun sh => { sh with rst := true }) id
  have hgo : (connPollGo cfg dt (seenHdr none) 2 ⟨c, some frameHdrInit, false, .none⟩).1 =
      connRetransmit cfg dt (fun sh => { sh with rst := true }) id ⟨c, some frameHdrInit, false, .none⟩ := by
    rw [connPollGo_rstSent hs, connPollStateRstSent_eq (by decide), seenHdr, connRstSentNote_quiet,
      if_neg (by simp [hack]), rstSentAnswer_unknown]
    rw [hfires]
    simp [hack, hsim]
  rw [connPoll_eq hb hgo, hfires]
  exact ⟨hs, hack, hsim, rfl, rfl⟩

/-- The party that has been answered confirms. -/
theorem connPoll_confirms (hb : b.useConnections = true) (hs : c.state = .rstSent)
    (hi : i = some .rstAck ∨ i = none ∧ c.u.rstAck = true) :
    let r := connPoll b c (some frameHdrInit) (seenHdr i) dt cfg
    r.conn.state = .established ∧ Writes r (some .ack) := by
  have hnote : ∃ u : ConnUnion, u.rstAck = true ∧
      connRstSentNote cfg dt (seenHdr i) ⟨c, some frameHdrInit, false, .none⟩ =
        ⟨{ c with u := u }, some frameHdrInit, false, .none⟩ := by
    obtain rfl | ⟨rfl, hack⟩ := hi
    · exact ⟨{ c.u with rstAck := true }, rfl, rfl⟩
    · refine ⟨c.u, hack, ?_⟩
      rw [seenHdr, connRstSentNote_quiet, if_pos hack]
  obtain ⟨u, hack, hnote⟩ := hnote
  have hgo : (connPollGo cfg dt (seenHdr i) 2 ⟨c, some frameHdrInit, false, .none⟩).1 =
      ⟨{ state := .established, u := u }, some (flagHdr .ack), true, .connEstablished⟩ := by
    rw [connPollGo_rstSent hs, connPollStateRstSent_eq (by obtain rfl | ⟨rfl, -⟩ := hi <;> decide), hnote,
      rstSentAnswer_free rfl, if_pos (Or.inr hack)]
    rfl
  rw [connPoll_eq hb hgo]
  exact ⟨rfl, rfl, rfl⟩

/-- The side has received a request, and will not give up when its timer runs out. -/
structure Answering (cfg : Cfg) (c : Conn) : Prop where
  state : c.state = .rstRecvd
  answered : c.u.rstAck = true
  patient : 0 < c.u.tmr ∨ c.u.cnt < cfg.connectionRstAttempts

theorem connPollGo_answer {ctx : ConnCtx} (hsh : ctx.sh = some frameHdrInit) (hs : ctx.conn.state = .rstRecvd)
    (hi : i = none ∨ i = some .rst) (htmr : ctx.conn.u.tmr ≤ dt)
    (hcnt : ctx.conn.u.cnt < cfg.connectionRstAttempts) (hperiod : 0 < cfg.connectionRstPeriod) :
    let r := (connPollStateRstRecvd cfg dt (seenHdr i) ctx).1
    Answering cfg r.conn ∧ r.sh = some (flagHdr .rstAck) ∧ r.emit = true := by
  have hquiet : (seenHdr i).seg = false ∧ (seenHdr i).ack = false := by
    obtain rfl | rfl := hi <;> exact ⟨rfl, rfl⟩
  have hgo : (connPollStateRstRecvd cfg dt (seenHdr i) ctx).1 =
      connRetransmit cfg dt (fun sh => { sh with rst := true, ack := true })
        (fun u => { u with rstAck := true }) ctx := by
    rw [connPollStateRstRecvd, if_neg (by simp [hquiet.1]), if_neg (by simp [hquiet.2])]
  rw [hgo, connRetransmit_fires hsh htmr hcnt]
  exact ⟨⟨hs, rfl, Or.inl hperiod⟩, rfl, rfl⟩

/-- A closed side answers the first request. -/
theorem connPoll_accepts (hb : b.useConnections = true) (hs : c.state = .closed)
    (hattempts : 0 < cfg.connectionRstAttempts) (hperiod : 0 < cfg.connectionRstPeriod) :
    let r := connPoll b c (some frameHdrInit) (seenHdr (some .rst)) dt cfg
    Answering cfg r.conn ∧ Writes r (some .rstAck) := by
  have hgo : (connPollGo cfg dt (seenHdr (some .rst)) 2 ⟨c, some frameHdrInit, false, .none⟩).1 =
      (connPollStateRstRecvd cfg dt (seenHdr (some .rst))
        (rstReceived ⟨c, some frameHdrInit, false, .none⟩)).1 := by
    rw [connPollGo_closed hs, if_neg (by decide),
      if_pos (show (seenHdr (some .rst)).rst = true from rfl)]
  obtain ⟨hanswering, hsh, hemit⟩ := @connPollGo_answer cfg dt (some .rst)
    (rstReceived ⟨c, some frameHdrInit, false, .none⟩) rfl rfl (Or.inr rfl) (Nat.zero_le dt) hattempts hperiod
  rw [connPoll_eq hb hgo]
  exact ⟨hanswering, by rw [Writes, hsh, hemit]; exact ⟨rfl, rfl⟩⟩

/-- The answer is sent again when its timer has run out. -/
theorem connPoll_answers (hb : b.useConnections = true) (hs : c.state = .rstRecvd)
    (hi : i = none ∨ i = some .rst) (htmr : c.u.tmr ≤ dt) (hcnt : c.u.cnt < cfg.connectionRstAttempts)
    (hperiod : 0 < cfg.connectionRstPeriod) :
    let r := connPoll b c (some frameHdrInit) (seenHdr i) dt cfg
    Answering cfg r.conn ∧ Writes r (some .rstAck) := by
  obtain ⟨hanswering, hsh, hemit⟩ := @connPollGo_answer cfg dt i ⟨c, some frameHdrInit, false, .none⟩ rfl hs hi
    htmr hcnt hperiod
  rw [connPoll_eq hb (connPollGo_rstRecvd hs)]
  exact ⟨hanswering, by rw [Writes, hsh, hemit]; exact ⟨rfl, rfl⟩⟩

/-- A request that was answered already is answered again, or not. -/
theorem Answering.hold (hb : b.useConnections = true) (h : Answering cfg c)
    (hperiod : 0 < cfg.connectionRstPeriod) :
    let r := connPoll b c (some frameHdrInit) (seenHdr (some .rst)) 0 cfg
    Answering cfg r.conn ∧ ∃ o : Option Flag, Writes r o ∧ ∃ k, o.toList = List.replicate k .rstAck := by
  by_cases htmr : 0 < c.u.tmr
  · have hgo : (connPollGo cfg 0 (seenHdr (some .rst)) 2 ⟨c, some frameHdrInit, false, .none⟩).1 =
        ⟨c, some frameHdrInit, false, .none⟩ := by
      rw [connPollGo_rstRecvd h.state, connPollStateRstRecvd, if_neg (by decide), if_neg (by decide),
        connRetransmit_waits htmr]
      rfl
    rw [connPoll_eq hb hgo]
    exact ⟨h, none, rfl, 0, rfl⟩
  · have hcnt := h.patient.resolve_left htmr
    obtain ⟨hanswering, hwrites⟩ := @connPoll_answers b cfg c 0 (some .rst) hb h.state (Or.inr rfl) (by omega)
      hcnt hperiod
    exact ⟨hanswering, some .rstAck, hwrites, 1, rfl⟩

/-- The last ACK completes the handshake. -/
theorem Answering.complete (hb : b.useConnections = true) (h : Answering cfg c) :
    let r := connPoll b c (some frameHdrInit) (seenHdr (some .ack)) dt cfg
    r.conn.state = .established ∧ Writes r none := by
  have hgo : (connPollGo cfg dt (seenHdr (some .ack)) 2 ⟨c, some frameHdrInit, false, .none⟩).1 =
      ⟨{ c with state := .established }, some frameHdrInit, false, .connEstablished⟩ := by
    rw [connPollGo_rstRecvd h.state, connPollStateRstRecvd, if_neg (by decide), if_pos (by decide),
      if_pos h.answered]
  rw [connPoll_eq hb hgo]
  exact ⟨rfl, rfl⟩

end

/-! ## Moves without data -/

/-- A move that loses no frame, sends no data and does not connect. -/
def QuietMove (p : Duplex) (a : Side × LinkCall) : Prop :=
  Lossless p a ∧ (∀ data, a.2 ≠ .send data) ∧ a.2 ≠ .connect

def Quietly (b : Build) (p q : Duplex) : Prop := Run (duplexStep b) QuietMove p q

section

variable {b : Build} {p q r : Duplex} {c : LinkCall} {dt : Nat}

theorem Quietly.trans (h : Quietly b p q) (h' : Quietly b q r) : Quietly b p r := Run.trans h h'

theorem Quietly.reaches (h : Quietly b p q) : Reaches b p q := Run.mono (fun _ _ hok => hok.1) h

theorem Quietly.move (hok : ReliableMove p.left c) (hget : c ≠ .get false)
    (hsend : ∀ data, c ≠ .send data) (hconnect : c ≠ .connect) : Quietly b p (p.move b c) :=
  @Run.next _ _ (duplexStep b) QuietMove p p .start (.left, c) ⟨⟨hok, hget⟩, hsend, hconnect⟩

theorem Quietly.swap (h : Quietly b p q) : Quietly b p.swap q.swap := by
  refine Run.map Duplex.swap ?_ h
  rintro p ⟨x, c⟩ hok
  cases x with
  | left => exact @Run.next _ _ (duplexStep b) QuietMove _ _ .start (.right, c) hok
  | right => exact @Run.next _ _ (duplexStep b) QuietMove _ _ .start (.left, c) hok

theorem Quietly.listen (b : Build) (p : Duplex) : Quietly b p (p.listen b) :=
  .move trivial (by simp) (by simp) (by simp)

theorem Quietly.speak (hok : ReliableMove p.left (.poll dt)) : Quietly b p (p.speak b dt) := by
  have hget : ∀ p : Duplex, Quietly b p (p.move b (.get true)) := fun _ =>
    .move trivial (by simp) (by simp) (by simp)
  have hrelease : ∀ p : Duplex, Quietly b p (p.move b .release) := fun _ =>
    .move trivial (by simp) (by simp) (by simp)
  exact ((Quietly.move hok (by simp) (by simp) (by simp)).trans (hget _)).trans (hrelease _)

end

/-! ## A turn -/

/-- Two sides without data that have passed on their frames. -/
structure Talking (checksum : Checksum) (l₀ r₀ : Arq) (p : Duplex) (xy yx : List Flag) : Prop where
  dataless : Dataless checksum l₀ r₀ p (xy.map flagItem) (yx.map flagItem)
  leftFree : sendFrameFree p.left.arq
  rightFree : sendFrameFree p.right.arq

section

variable {b : Build} {checksum : Checksum} {l₀ r₀ : Arq} {p : Duplex} {xy yx : List Flag}
  {i o : Option Flag} {dt : Nat}

theorem Talking.swap (h : Talking checksum l₀ r₀ p xy yx) : Talking checksum r₀ l₀ p.swap yx xy :=
  ⟨h.dataless.swap, h.rightFree, h.leftFree⟩

/-- A poll of an idle side that reads no segment is within the condition of a reliable move. -/
theorem idle_reliable {s : Station} (hi : Idle s.arq) (hseg : (pollRh s.arq).seg = false) :
    ReliableMove s (.poll dt) := by
  have hacks : ¬ pollAcks s.arq := fun h => h.2 (Or.inl hi.sendSize)
  refine ⟨⟨⟨fun h => absurd h hacks, fun _ hvalid => ?_⟩, fun f hf => ?_⟩, fun h => absurd h hacks⟩
  · rw [hi.ptr] at hvalid
    cases hvalid
  · obtain ⟨hread, hcond⟩ := Option.filter_eq_some_iff.mp hf
    have hsegment := (of_decide_eq_true hcond).2
    rw [pollRh, hread] at hseg
    exact absurd hsegment (by rw [show f.hdr.seg = false from hseg]; simp)

/-- The left side passes its frame to the wire. -/
def Duplex.give (b : Build) (p : Duplex) : Duplex := (p.move b (.get true)).move b .release

theorem give_arq (b : Build) (p : Duplex) : (Duplex.give b p).left.arq = takeFrame p.left.arq := rfl

theorem Dataless.give (hl : Plays checksum l₀ .closed)
    (h : Dataless checksum l₀ r₀ p (xy.map flagItem) (yx.map flagItem)) (b : Build) :
    Quietly b p (Duplex.give b p) ∧
      Dataless checksum l₀ r₀ (Duplex.give b p) (xy.map flagItem) (yx.map flagItem) ∧
      sendFrameFree (Duplex.give b p).left.arq ∧ (Duplex.give b p).left.arq.conn = p.left.arq.conn := by
  obtain ⟨qr, -, hsame, hget⟩ := h.call (c := .get true) hl b (by simp) (by simp)
  rw [hsame (by simp)] at hget
  obtain ⟨qr', -, hsame', hrelease⟩ := hget.call (c := .release) hl b (by simp) (by simp)
  rw [hsame' (by simp)] at hrelease
  have hreach : Quietly b p (p.move b (.get true)) := .move trivial (by simp) (by simp) (by simp)
  refine ⟨hreach.trans (.move trivial (by simp) (by simp) (by simp)), hrelease, ?_, ?_⟩
  · rw [give_arq]
    exact (takeFrame_spec _).1
  · rw [give_arq, takeFrame_eq]

/-- What an idle side with a free send frame writes for the connection. -/
theorem idle_writes {arq : Arq} (hi : Idle arq) (hfree : sendFrameFree arq) (hrh : pollRh arq = seenHdr i)
    (hw : Writes (connPoll b arq.conn (some frameHdrInit) (seenHdr i) dt arq.cfg) o) :
    pollFrame (pollWork b arq dt) = o.map flagItem ∧ (perform b arq (.poll dt)).conn =
      (connPoll b arq.conn (some frameHdrInit) (seenHdr i) dt arq.cfg).conn := by
  obtain ⟨hconn, -, hsh, hemit, -, -, -⟩ :=
    @Idle.pollWork b arq dt hi (by rw [hrh]; exact seenHdr_seg i)
  have hfreeSh : connSh arq = some frameHdrInit := if_pos hfree
  rw [hfreeSh, hrh] at hconn hsh hemit
  refine ⟨pollFrame_writes hw hsh ?_, hconn⟩
  rw [hemit]
  cases o with
  | none => rw [show ConnCtx.emit _ = false from hw, Bool.and_false]
  | some f => rw [hw.2]; rfl

/-- A turn of the left side, which takes the first flag on its way, if any. -/
theorem Talking.turn (hl : Plays checksum l₀ .closed)
    (hr : Plays checksum r₀ .closed) (h : Talking checksum l₀ r₀ p xy (i.toList ++ yx))
    (hi : i = none → yx = []) (dt : Nat)
    (hw : Writes (connPoll b p.left.arq.conn (some frameHdrInit) (seenHdr i) dt l₀.cfg) o) :
    ∃ q, Quietly b p q ∧ Talking checksum l₀ r₀ q (xy ++ o.toList) yx ∧ q.right = p.right ∧
      q.left.arq.conn = (connPoll b p.left.arq.conn (some frameHdrInit) (seenHdr i) dt l₀.cfg).conn ∧
      (o = none → q.left.arq.needPoll = false ∧ q.left.arq.sendFrame.state = .free) := by
  -- What is on the wire is delivered.
  obtain ⟨qr, -, hsame, hlisten⟩ :=
    h.dataless.call (c := .deliver p.toLeft.length) hl b (by simp) (by simp)
  rw [hsame (by simp)] at hlisten
  change Dataless checksum l₀ r₀ (p.listen b) _ _ at hlisten
  have hconn : (p.listen b).left.arq.conn = p.left.arq.conn := by
    change (perform b p.left.arq (.recvFill _)).conn = _
    rw [perform_recvFill]
  have hfree : sendFrameFree (p.listen b).left.arq := by
    change sendFrameFree (perform b p.left.arq (.recvFill _))
    rw [perform_recvFill]
    exact h.leftFree
  -- The poll reads the flag.
  obtain ⟨hseg, rest, htakes, hpolled⟩ := hlisten.poll hl hr b dt
  have hread : rest = yx.map flagItem ∧ pollRh (p.listen b).left.arq = seenHdr i := by
    obtain ⟨j, q, ht, rfl, hrh, hnone⟩ := takes_flags htakes
    cases i with
    | none =>
      obtain rfl := hi rfl
      cases ht
      exact ⟨rfl, hrh⟩
    | some f =>
      cases ht with
      | none =>
        have hfull : (p.listen b).left.arq.recvFrame.state = .fullFramePresent :=
          h.dataless.toLeft.deliver_all h.rightFree.1 (by simp)
        have hcontra := hnone rfl
        rw [pollRead_of_full hfull] at hcontra
        cases hcontra
      | some => exact ⟨rfl, hrh⟩
  obtain ⟨rfl, hrh⟩ := hread
  have hidle : Idle (p.listen b).left.arq := hlisten.left.idle hl.idle
  have hcfg : (p.listen b).left.arq.cfg = l₀.cfg := hlisten.left.cfg
  obtain ⟨hframe, hconn'⟩ := @idle_writes b i o dt (p.listen b).left.arq hidle hfree hrh
    (by rw [hconn, hcfg]; exact hw)
  rw [hconn, hcfg] at hconn'
  rw [hframe, ← flagItem_append] at hpolled
  obtain ⟨-, hgiven, hgone, hkept⟩ := hpolled.give hl b
  have hreach : Quietly b p ((p.listen b).speak b dt) :=
    (Quietly.listen b p).trans (.speak (idle_reliable hidle hseg))
  refine ⟨(p.listen b).speak b dt, hreach, ⟨hgiven, hgone, h.rightFree⟩, rfl, hkept.trans hconn', ?_⟩
  rintro rfl
  refine ⟨Duplex.speak_needPoll hfree hframe, ?_⟩
  have hsame' : (perform b (p.listen b).left.arq (.poll dt)).sendFrame = (p.listen b).left.arq.sendFrame := by
    simp only [perform, backendPoll, hframe, Option.map_none]
  rw [Duplex.speak_arq, takeFrame, backendSendPtrGet, hsame', if_neg (by rw [hfree.1]; simp)]
  rfl

end

/-! ## The handshake -/

/-- Two sides of a build with connections as `arq_init` makes them. -/
structure Sides (b : Build) (checksum : Checksum) (l₀ r₀ : Arq) : Prop where
  connections : b.useConnections = true
  left : Plays checksum l₀ .closed
  right : Plays checksum r₀ .closed
  attempts : 0 < r₀.cfg.connectionRstAttempts
  period : 0 < r₀.cfg.connectionRstPeriod

/-- Nothing is on its way when the queue is empty. -/
theorem inFlight_empty {checksum : Checksum} {out : SendFrame} {wire : List UInt8} {inn : RecvFrame}
    (h : InFlight checksum out wire inn []) :
    wire = [] ∧ inn.state = .accumulating ∧ inn.len = 0 := by
  obtain ⟨items, item, hq, ⟨-, -, hheld⟩, -, -⟩ := h
  obtain ⟨rfl, -⟩ := List.append_eq_nil_iff.mp hq.symm
  obtain ⟨pre, hacc, hstream⟩ | ⟨f, rest, hcons, -, -⟩ := hheld
  · obtain ⟨rfl, rfl⟩ := List.append_eq_nil_iff.mp hstream
    exact ⟨rfl, hacc.state, hacc.len⟩
  · cases hcons

section

variable {b : Build} {checksum : Checksum} {l₀ r₀ : Arq} {p : Duplex} {xy yx : List Flag} {n m : Nat}

/-- The right side comes to answer. -/
theorem Talking.answered (hs : Sides b checksum l₀ r₀)
    (h : Talking checksum l₀ r₀ p (List.replicate n .rst) []) (hleft : p.left.arq.conn.state = .rstSent)
    (hack : p.left.arq.conn.u.rstAck = false) (hsim : p.left.arq.conn.u.simultaneous = false)
    (hcnt : p.left.arq.conn.u.cnt < l₀.cfg.connectionRstAttempts)
    (hright : p.right.arq.conn.state = .closed ∨ p.right.arq.conn.state = .rstRecvd ∧
      p.right.arq.conn.u.cnt < r₀.cfg.connectionRstAttempts) :
    ∃ q n', Quietly b p q ∧ Talking checksum l₀ r₀ q (List.replicate n' .rst) [.rstAck] ∧
      Answering r₀.cfg q.right.arq.conn ∧ q.left.arq.conn.state = .rstSent := by
  have haccept : ∀ (p : Duplex) (n : Nat), Talking checksum l₀ r₀ p (List.replicate (n + 1) .rst) [] →
      p.right.arq.conn.state = .closed → p.left.arq.conn.state = .rstSent →
      ∃ q n', Quietly b p q ∧ Talking checksum l₀ r₀ q (List.replicate n' .rst) [.rstAck] ∧
        Answering r₀.cfg q.right.arq.conn ∧ q.left.arq.conn.state = .rstSent := by
    intro p n h hclosed hleft
    obtain ⟨hanswering, hw⟩ := @connPoll_accepts b r₀.cfg p.right.arq.conn 0 hs.connections hclosed hs.attempts
      hs.period
    obtain ⟨q, hreach, hq, hsame, hconn, -⟩ := h.swap.turn (i := some .rst) hs.right hs.left (by simp) 0 hw
    refine ⟨q.swap, n, hreach.swap, hq.swap, ?_, ?_⟩
    · rw [Duplex.swap]
      exact hconn ▸ hanswering
    · rw [Duplex.swap]
      exact hsame ▸ hleft
  obtain hclosed | ⟨hrecvd, hcntR⟩ := hright
  · cases n with
    | succ n => exact haccept p n h hclosed hleft
    | zero =>
      obtain ⟨hstate, -, -, hw⟩ := @connPoll_asks b l₀.cfg p.left.arq.conn _ hs.connections hleft hack hsim
        le_rfl hcnt
      obtain ⟨q, hreach, hq, hsame, hconn, -⟩ := h.turn (i := none) hs.left hs.right (fun _ => rfl) _ hw
      obtain ⟨q', n', hreach', h'⟩ := haccept q 0 hq (by rw [hsame]; exact hclosed) (by rw [hconn]; exact hstate)
      exact ⟨q', n', hreach.trans hreach', h'⟩
  · obtain ⟨i, n', hi, hq, hnone⟩ : ∃ (i : Option Flag) (n' : Nat), (i = none ∨ i = some .rst) ∧
        List.replicate n Flag.rst = i.toList ++ List.replicate n' .rst ∧
          (i = none → List.replicate n' Flag.rst = []) := by
      cases n with
      | zero => exact ⟨none, 0, Or.inl rfl, rfl, fun _ => rfl⟩
      | succ n => exact ⟨some .rst, n, Or.inr rfl, rfl, by simp⟩
    obtain ⟨hanswering, hw⟩ := @connPoll_answers b r₀.cfg p.right.arq.conn _ i hs.connections hrecvd hi le_rfl
      hcntR hs.period
    rw [hq] at h
    obtain ⟨q, hreach, hq, hsame, hconn, -⟩ := h.swap.turn hs.right hs.left hnone _ hw
    refine ⟨q.swap, n', hreach.swap, hq.swap, ?_, ?_⟩
    · rw [Duplex.swap]
      exact hconn ▸ hanswering
    · rw [Duplex.swap]
      exact hsame ▸ hleft

/-- The left side, which has been answered, confirms. -/
theorem Talking.confirm (hs : Sides b checksum l₀ r₀)
    (h : Talking checksum l₀ r₀ p xy (List.replicate m .rstAck)) (hleft : p.left.arq.conn.state = .rstSent)
    (hknown : m ≠ 0 ∨ p.left.arq.conn.u.rstAck = true) :
    ∃ q m', Quietly b p q ∧ Talking checksum l₀ r₀ q (xy ++ [.ack]) (List.replicate m' .rstAck) ∧
      q.left.arq.conn.state = .established ∧ q.right = p.right := by
  obtain ⟨i, m', hi, hq, hnone⟩ : ∃ (i : Option Flag) (m' : Nat),
      (i = some .rstAck ∨ i = none ∧ p.left.arq.conn.u.rstAck = true) ∧
        List.replicate m Flag.rstAck = i.toList ++ List.replicate m' .rstAck ∧
          (i = none → List.replicate m' Flag.rstAck = []) := by
    cases m with
    | zero => exact ⟨none, 0, Or.inr ⟨rfl, hknown.resolve_left (by simp)⟩, rfl, fun _ => rfl⟩
    | succ m => exact ⟨some .rstAck, m, Or.inl rfl, rfl, by simp⟩
  obtain ⟨hstate, hw⟩ := @connPoll_confirms b l₀.cfg p.left.arq.conn 0 i hs.connections hleft hi
  rw [hq] at h
  obtain ⟨q, hreach, hq, hsame, hconn, -⟩ := h.turn hs.left hs.right hnone 0 hw
  exact ⟨q, m', hreach, hq, by rw [hconn]; exact hstate, hsame⟩

/-- The right side takes the requests and then the last ACK. -/
theorem Talking.drain (hs : Sides b checksum l₀ r₀)
    (h : Talking checksum l₀ r₀ p (List.replicate n .rst ++ [.ack]) (List.replicate m .rstAck))
    (hright : Answering r₀.cfg p.right.arq.conn) :
    ∃ q m', Quietly b p q ∧ Talking checksum l₀ r₀ q [] (List.replicate m' .rstAck) ∧
      q.right.arq.conn.state = .established ∧ q.left = p.left := by
  induction n generalizing p m with
  | zero =>
    obtain ⟨hstate, hw⟩ := @Answering.complete b r₀.cfg p.right.arq.conn 0 hs.connections hright
    obtain ⟨q, hreach, hq, hsame, hconn, -⟩ := h.swap.turn (i := some .ack) hs.right hs.left (by simp) 0 hw
    refine ⟨q.swap, m, hreach.swap, ?_, ?_, hsame⟩
    · have hq' := hq.swap
      rw [Option.toList_none, List.append_nil] at hq'
      exact hq'
    · rw [Duplex.swap]
      exact hconn ▸ hstate
  | succ n ih =>
    obtain ⟨hanswering, o, hw, k, ho⟩ := @Answering.hold b r₀.cfg p.right.arq.conn hs.connections hright hs.period
    obtain ⟨q, hreach, hq, hsame, hconn, -⟩ := h.swap.turn (i := some .rst) hs.right hs.left (by simp) 0 hw
    have hq' := hq.swap
    rw [ho, List.replicate_append_replicate] at hq'
    have hright' : Answering r₀.cfg q.swap.right.arq.conn := by
      rw [Duplex.swap]
      exact hconn ▸ hanswering
    obtain ⟨q', m', hreach', hdone, hstate, hleft⟩ := ih hq' hright'
    exact ⟨q', m', hreach.swap.trans hreach', hdone, hstate, hleft.trans hsame⟩

/-- An established side takes what is left, and has then nothing more to do. -/
theorem Talking.settle (hb : b.useConnections = true) (hl : Plays checksum l₀ .closed)
    (hr : Plays checksum r₀ .closed)
    (h : Talking checksum l₀ r₀ p xy (List.replicate m .rstAck))
    (hleft : p.left.arq.conn.state = .established) :
    ∃ q, Quietly b p q ∧ Talking checksum l₀ r₀ q xy [] ∧ q.right = p.right ∧
      q.left.arq.conn.state = .established ∧ q.left.arq.needPoll = false ∧
      q.left.arq.sendFrame.state = .free := by
  have hquiet : ∀ (c : Conn), c.state = .established → ∀ i,
      (connPoll b c (some frameHdrInit) (seenHdr i) 0 l₀.cfg).conn = c ∧
        Writes (connPoll b c (some frameHdrInit) (seenHdr i) 0 l₀.cfg) none := by
    intro c hc i
    rw [connPoll_established hb hc]
    exact ⟨rfl, rfl⟩
  induction m generalizing p with
  | zero =>
    obtain ⟨hsame, hw⟩ := hquiet p.left.arq.conn hleft none
    obtain ⟨q, hreach, hq, hright, hconn, hdone⟩ := h.turn (i := none) hl hr (fun _ => rfl) 0 hw
    rw [Option.toList_none, List.append_nil] at hq
    obtain ⟨hpoll, hfree⟩ := hdone rfl
    exact ⟨q, hreach, hq, hright, by rw [hconn, hsame]; exact hleft, hpoll, hfree⟩
  | succ m ih =>
    obtain ⟨hsame, hw⟩ := hquiet p.left.arq.conn hleft (some .rstAck)
    obtain ⟨q, hreach, hq, hright, hconn, -⟩ := h.turn (i := some .rstAck) hl hr (by simp) 0 hw
    rw [Option.toList_none, List.append_nil] at hq
    obtain ⟨q', hreach', h', hright', hrest⟩ := ih hq (by rw [hconn, hsame]; exact hleft)
    exact ⟨q', hreach.trans hreach', h', hright'.trans hright, hrest⟩

/-- Two established sides take what is left, and the connection is open. -/
theorem Talking.close (hs : Sides b checksum l₀ r₀)
    (h : Talking checksum l₀ r₀ p [] (List.replicate m .rstAck))
    (hleft : p.left.arq.conn.state = .established) (hright : p.right.arq.conn.state = .established) :
    ∃ q, Quietly b p q ∧ Talking checksum l₀ r₀ q [] [] ∧ Opened q := by
  obtain ⟨p₁, hreach₁, h₁, hsame₁, hest₁, hpoll₁, hfree₁⟩ :=
    h.settle hs.connections hs.left hs.right hleft
  obtain ⟨q, hreach₂, h₂, hsame₂, hest₂, hpoll₂, hfree₂⟩ :=
    Talking.settle (m := 0) hs.connections hs.right hs.left h₁.swap (by
      change p₁.right.arq.conn.state = _
      rw [hsame₁]
      exact hright)
  have hq : Talking checksum l₀ r₀ q.swap [] [] := h₂.swap
  have hleft₂ : q.swap.left = p₁.left := hsame₂
  obtain ⟨htoRight, hinnRight⟩ := inFlight_empty hq.dataless.toRight
  obtain ⟨htoLeft, hinnLeft⟩ := inFlight_empty hq.dataless.toLeft
  have hclear : Clear q.swap.left.arq := by
    refine ⟨?_, hq.leftFree, hinnLeft, ?_⟩
    · rw [hleft₂]; exact hest₁
    · rw [hleft₂]; exact hpoll₁
  refine ⟨q.swap, hreach₁.trans hreach₂.swap, hq,
    ⟨⟨hclear, ⟨hest₂, hq.rightFree, hinnRight, hpoll₂⟩, htoRight, htoLeft⟩, ?_, hfree₂⟩⟩
  rw [hleft₂]
  exact hfree₁

/-- The turns that open the connection, when the left side has been answered. -/
theorem Talking.finish (hs : Sides b checksum l₀ r₀)
    (h : Talking checksum l₀ r₀ p (List.replicate n .rst) (List.replicate m .rstAck))
    (hleft : p.left.arq.conn.state = .rstSent) (hknown : m ≠ 0 ∨ p.left.arq.conn.u.rstAck = true)
    (hright : Answering r₀.cfg p.right.arq.conn) :
    ∃ q, Quietly b p q ∧ Talking checksum l₀ r₀ q [] [] ∧ Opened q := by
  obtain ⟨p₁, m₁, hreach₁, h₁, hest₁, hsame₁⟩ := h.confirm hs hleft hknown
  obtain ⟨p₂, m₂, hreach₂, h₂, hest₂, hsame₂⟩ := h₁.drain hs (by rw [hsame₁]; exact hright)
  obtain ⟨q, hreach₃, h₃, hopen⟩ := h₂.close hs (by rw [hsame₂]; exact hest₁) hest₂
  exact ⟨q, (hreach₁.trans hreach₂).trans hreach₃, h₃, hopen⟩

/-- Both sides pass on their frames. -/
theorem Playing.talk (hl : Plays checksum l₀ .closed) (hr : Plays checksum r₀ .closed) {x y : Party}
    (h : Playing checksum l₀ r₀ p x y xy yx) (b : Build) :
    ∃ q, Quietly b p q ∧ Talking checksum l₀ r₀ q xy yx ∧ q.left.arq.conn = p.left.arq.conn ∧
      q.right.arq.conn = p.right.arq.conn := by
  obtain ⟨hreach₁, h₁, hfree₁, hconn₁⟩ := h.dataless.give hl b
  obtain ⟨hreach₂, h₂, hfree₂, hconn₂⟩ := Dataless.give hr h₁.swap b
  exact ⟨(Duplex.give b (Duplex.give b p).swap).swap, hreach₁.trans hreach₂.swap,
    ⟨h₂.swap, hfree₁, hfree₂⟩, hconn₁, hconn₂⟩

theorem represents_opening {c : Conn} {a s r : Bool} (h : Represents c (.opening a s r)) :
    c.state = .rstSent ∧ c.u.simultaneous = s ∧ c.u.rstAck = r := by
  cases h with
  | opening hs _ => exact ⟨hs, rfl, rfl⟩

theorem represents_answering {c : Conn} (h : Represents c .answering) :
    c.state = .rstRecvd ∧ c.u.rstAck = true := by
  cases h with
  | answering hs ha => exact ⟨hs, ha⟩

/-- A side that asks, and is not established, comes to be connected. -/
theorem Playing.opens (hs : Sides b checksum l₀ r₀) {x y : Party} (h : Playing checksum l₀ r₀ p x y xy yx)
    (hopens : OneOpens x y xy yx) (hasking : p.left.arq.conn.state = .rstSent)
    (hcnt : p.left.arq.conn.u.cnt < l₀.cfg.connectionRstAttempts)
    (hcntR : p.right.arq.conn.state = .rstRecvd → p.right.arq.conn.u.cnt < r₀.cfg.connectionRstAttempts) :
    ∃ q, Quietly b p q ∧ Talking checksum l₀ r₀ q [] [] ∧ Opened q := by
  obtain ⟨p', hreach, htalk, hconnL, hconnR⟩ := h.talk hs.left hs.right b
  have hleft := h.left.party
  have hright := h.right.party
  rw [← hconnL] at hleft hasking hcnt
  rw [← hconnR] at hright hcntR
  -- The right side has nothing to confirm yet: it comes to answer first.
  have hunanswered : ∀ n, Talking checksum l₀ r₀ p' (List.replicate n .rst) [] →
      p'.left.arq.conn.u.rstAck = false → p'.left.arq.conn.u.simultaneous = false →
      (p'.right.arq.conn.state = .closed ∨ p'.right.arq.conn.state = .rstRecvd ∧
        p'.right.arq.conn.u.cnt < r₀.cfg.connectionRstAttempts) →
      ∃ q, Quietly b p q ∧ Talking checksum l₀ r₀ q [] [] ∧ Opened q := by
    intro n htalk hack hsim hstate
    obtain ⟨q₁, n', hreach₁, h₁, hanswering, hleft₁⟩ := htalk.answered hs hasking hack hsim hcnt hstate
    obtain ⟨q, hreach₂, hq⟩ := Talking.finish (m := 1) hs h₁ hleft₁ (Or.inl (by simp)) hanswering
    exact ⟨q, (hreach.trans hreach₁).trans hreach₂, hq⟩
  cases hopens with
  | idle =>
    cases hleft with
    | closed hclosed => rw [hasking] at hclosed; cases hclosed
  | confirmed | completed =>
    cases hleft with
    | established hest => rw [hasking] at hest; cases hest
  | asked a n =>
    obtain ⟨-, hsim, hack⟩ := represents_opening hleft
    cases hright with
    | closed hclosed => exact hunanswered n htalk hack hsim (Or.inl hclosed)
  | answered a r n m =>
    obtain ⟨-, hsim, hack⟩ := represents_opening hleft
    obtain ⟨hrecvd, hans⟩ := represents_answering hright
    by_cases hknown : m ≠ 0 ∨ r = true
    · obtain ⟨q, hreach', hq⟩ := htalk.finish hs hasking (by rw [hack]; exact hknown)
        ⟨hrecvd, hans, Or.inr (hcntR hrecvd)⟩
      exact ⟨q, hreach.trans hreach', hq⟩
    · obtain ⟨hm, hr⟩ := not_or.mp hknown
      obtain rfl : m = 0 := not_not.mp hm
      rw [Bool.not_eq_true] at hr
      exact hunanswered n htalk (hack.trans hr) hsim (Or.inr ⟨hrecvd, hcntR hrecvd⟩)

end

/-! ## The theorem -/

/-- The first RST is lost, and the answer to the second. -/
def lostOpeningMoves : List (Side × LinkCall) :=
  [(.left, .connect), (.left, .poll 0), (.left, .get false), (.left, .release), (.left, .poll 10),
    (.left, .get true), (.right, .deliver 18), (.right, .poll 0), (.right, .get false)]

def lostOpening : Duplex :=
  lostOpeningMoves.foldl (duplexStep ⟨true⟩)
    (.start (freshArq ⟨true⟩ (smallCfg 1 1 1)) (freshArq ⟨true⟩ (smallCfg 1 1 1)))

/-- **An open connection loses nothing**: once two sides that have sent no data have opened, with any
losses, every run of moves that meet the condition keeps what one side reads to a beginning of what the
other has accepted, and a read of everything reaches all bytes but those that the other side's window still
holds. -/
theorem connected_bytes_arrive (b : Build) (hb : b.useConnections = true) (cfg : Cfg) (hcfg : cfg.Symmetric)
    (seat arq₀ : Side → Arq) (hinit : ∀ x, arqInit b cfg (seat x) = .ok (arq₀ x)) (p q : Duplex)
    (hopening : Run (duplexStep b) (fun _ => SendsNothing) (.start (arq₀ .left) (arq₀ .right)) p)
    (hopen : Connected p)
    (hrun : Run (duplexStep b) (fun p a => ReliableMove (p.view a.1).left a.2) p q) (x : Side) (n : Nat)
    (hn : (q.view x).left.accepted.length ≤ n) :
    let sender := (q.view x).left
    let receiver := (q.view x).right
    let read := receiver.returned ++ (recvWndRecv receiver.arq.recvWnd n).2
    read <+: sender.accepted ∧ sender.accepted.length ≤ read.length + sender.hist.content.length := by
  have hseg : cfg.segmentLengthInBytes < 65518 := hcfg.segLen.trans_lt (by decide)
  obtain ⟨hl, hlacc⟩ := Plays.start hb (hinit .left) hseg
  obtain ⟨hr, hracc⟩ := Plays.start hb (hinit .right) hseg
  obtain ⟨d, hd⟩ := hcfg.regular.dims (hinit .left)
  have hcap : d.cap ≤ 2048 := by
    rw [← hd.cap]
    exact (pow_window hcfg.cap).1
  -- Up to released frames the pair is one of the build without connections, and so is the run from there.
  obtain ⟨qr, ql, hdata⟩ := dataless_run hl hr hlacc hracc hopening
  obtain ⟨hleft, hright, hstart⟩ :=
    @Dataless.connected b ⟨false⟩ rfl _ _ _ _ _ _ _ (hinit .left) (hinit .right) _ _ _ hdata hopen
  have hinit' : ∀ x, arqInit ⟨false⟩ cfg (p.view x).left.arq = .ok (p.view x).left.arq.reclaimed := fun x => by
    cases x with
    | left => exact hleft
    | right => exact hright
  have hrun' := (@run_established b ⟨false⟩ p q hb rfl _ hopen.established).mp hrun
  obtain ⟨fresh, hfresh, hsame⟩ := reliable_reclaimed hrun'
  rw [hstart] at hfresh
  obtain ⟨qr', ql', h⟩ := ferried_run hcap rfl hcfg hd hinit' hfresh
  have harrived : ∀ x, (fresh.view x).left.accepted.length ≤ n →
      let sender := (fresh.view x).left
      let receiver := (fresh.view x).right
      let read := receiver.returned ++ (recvWndRecv receiver.arq.recvWnd n).2
      read <+: sender.accepted ∧ sender.accepted.length ≤ read.length + sender.hist.content.length := by
    intro x hn
    cases x with
    | left =>
      obtain ⟨M, got, low, read, hacross⟩ := h.across
      exact hacross.arrived hn
    | right =>
      obtain ⟨M, got, low, read, hback⟩ := h.back
      exact hback.arrived hn
  have hview : (q.view x).reclaimed = (fresh.view x).reclaimed := by
    rw [← Duplex.view_reclaimed, ← Duplex.view_reclaimed, hsame]
  obtain ⟨hleft', hright', -, -⟩ := Duplex.mk.inj hview
  obtain ⟨haccepted, -, hcontent, -⟩ := Station.seen_reclaimed hleft'
  obtain ⟨-, hreturned, -, hrecvWnd⟩ := Station.seen_reclaimed hright'
  dsimp only
  rw [haccepted] at hn
  rw [haccepted, hcontent, hreturned, hrecvWnd]
  exact harrived x hn

/-- A byte after the ordinary handshake; its ACK is lost. -/
def carriedSample : Duplex :=
  [(.left, .send [7]), (.left, .poll 0), (.left, .get true), (.left, .release),
      (.right, .deliver 19), (.right, .poll 0), (.right, .get false)].foldl (duplexStep ⟨true⟩) connectedSample

theorem connected_bytes_arrive_sample :
    carriedSample.left.accepted = [7] ∧
      (let sender := (carriedSample.view .left).left
        let receiver := (carriedSample.view .left).right
        let read := receiver.returned ++ (recvWndRecv receiver.arq.recvWnd 1).2
        read <+: sender.accepted ∧ sender.accepted.length ≤ read.length + sender.hist.content.length) := by
  refine ⟨by decide +kernel, ?_⟩
  exact connected_bytes_arrive ⟨true⟩ rfl (smallCfg 1 1 1) ⟨rfl, ⟨0, by decide, rfl⟩, by decide, by decide⟩
    (fun _ => zeroSeat (smallCfg 1 1 1)) (fun _ => freshArq ⟨true⟩ (smallCfg 1 1 1))
    (fun _ => arqInit_zeroSeat rfl) connectedSample carriedSample (.exec (by decide +kernel)) connectedSample_connected
    (.exec (by decide +kernel)) .left 1 (by decide +kernel)

end NanoArq.Handshake
