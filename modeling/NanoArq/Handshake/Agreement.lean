import NanoArq.Handshake.Local
import NanoArq.Lib.Runs
import NanoArq.Link.Pair
import NanoArq.Poll.Outgoing
import NanoArq.Receiver.Ops
import NanoArq.Sender.Poll

/-!
# The handshake of two instances

Two linked instances without application data are the two parties of the protocol, and the frames
in flight are its queues (`PairAgrees`). A move of one side is a step of its party, unless a poll
meets one of the two situations that `InStep` excludes: an RST that arrives before the own one has
been sent, which is then answered by the ACK of a crossing that the peer knows nothing of; and an
ACK that arrives while the own one still waits for the send frame.

* `PairAgrees.move`: the invariant is kept.
* `handshake_agreement`: no side is ever desynchronised.
-/

namespace NanoArq.Handshake

open Lib

/-! ## Instances without data -/

/-- The instance has no data to send or to acknowledge. -/
structure Idle (arq : Arq) : Prop where
  sendSize : arq.sendWnd.w.size = 0
  tinyOn : arq.sendWnd.tinyOn = false
  ptr : arq.sendWndPtr.valid = false
  recvSize : arq.recvWnd.w.size = 0
  timerOn : arq.recvWnd.interSegAckOn = false

section

variable {b : Build} {arq : Arq} {dt : Nat}

/-- The header with which the connection poll of an idle instance starts. -/
def connSh (arq : Arq) : Option FrameHdr := if sendFrameFree arq then some frameHdrInit else none

theorem sendPollTimers_idle {sw : SendWnd} (hsize : sw.w.size = 0) (htiny : sw.tinyOn = false)
    (rh : FrameHdr) (dt : Nat) : sendPollTimers sw rh dt = sw := by
  have hack : (if rh.ack then sendWndAck sw rh.ackNum rh.curAckVec else sw) = sw := by
    split
    · exact if_neg fun h => h (Or.inl hsize)
    · rfl
  have hstep : sendWndStep sw dt = sw := by
    obtain ⟨w, rtx, tiny, tinyOn⟩ := sw
    obtain rfl : tinyOn = false := htiny
    simp [sendWndStep, show w.size = 0 from hsize]
  unfold sendPollTimers
  rw [hack]
  dsimp only
  rw [hstep, htiny]
  exact if_neg (by simp)

theorem sendPoll_idle {sw : SendWnd} {sp : SendWndPtr} (hsize : sw.w.size = 0)
    (htiny : sw.tinyOn = false) (hptr : sp.valid = false) {sh : Option FrameHdr}
    (hsh : ∀ h, sh = some h → h.seg = false) (rh : FrameHdr) (dt rtx : Nat) :
    sendPoll sw sp sh rh dt rtx = (sw, sp, sh, false) := by
  have hnext : sendWndPtrNext sp sw = (sp, .insideMsg) := by
    obtain ⟨seq, seg, valid⟩ := sp
    obtain rfl : valid = false := hptr
    simp [sendWndPtrNext, sendWndPtrSearch, hsize]
  cases sh with
  | none =>
    unfold sendPoll
    rw [sendPollTimers_idle hsize htiny]
  | some h =>
    unfold sendPoll
    rw [sendPollTimers_idle hsize htiny]
    dsimp only
    rw [hnext]
    simp [sendPollHdr, hptr, hsh h rfl]

theorem recvPoll_idle {rw : RecvWnd} {rf : RecvFrame} {checksum : Checksum} {rh : FrameHdr}
    (hsize : rw.w.size = 0) (htimer : rw.interSegAckOn = false) (interSegAck : Nat)
    (hseg : (recvPollFrame rw rf checksum rh interSegAck).2.2.seg = false)
    {sh : Option FrameHdr} (hsh : sh = none ∨ sh = some frameHdrInit) (dt : Nat) :
    (recvPoll rw rf checksum sh rh dt interSegAck).recvWnd = rw ∧
      (recvPoll rw rf checksum sh rh dt interSegAck).sh = sh ∧
      (recvPoll rw rf checksum sh rh dt interSegAck).emit = false := by
  have hframe : (recvPollFrame rw rf checksum rh interSegAck).1 = rw := by
    unfold recvPollFrame at hseg ⊢
    split
    · rename_i hfull
      rw [if_pos hfull] at hseg
      exact if_neg fun h => by rw [hseg] at h; cases h.2
    · rfl
  have htimer' : recvPollTimer rw dt = rw := if_neg (by simp [htimer])
  have hnone : recvPollAck rw frameHdrInit = (rw, frameHdrInit) := by
    simp [recvPollAck, recvWndAck, hsize, frameHdrInit]
  unfold recvPoll
  dsimp only
  rw [hframe, htimer']
  rcases hsh with rfl | rfl
  · exact ⟨rfl, rfl, rfl⟩
  · dsimp only
    rw [hnone]
    exact ⟨rfl, rfl, rfl⟩

/-- A poll of an idle instance that receives no segment is a poll of its connection. -/
theorem Idle.pollWork (hi : Idle arq) (hseg : (pollRh arq).seg = false) :
    let c := connPoll b arq.conn (connSh arq) (pollRh arq) dt arq.cfg
    let p := pollWork b arq dt
    p.conn = c.conn ∧ p.event = c.event ∧ p.sh = c.sh ∧ p.emit = c.emit ∧
      p.sendWnd = arq.sendWnd ∧ p.sendWndPtr = arq.sendWndPtr ∧ p.recvWnd = arq.recvWnd := by
  have hrh : (recvPollFrame arq.recvWnd arq.recvFrame arq.cfg.checksum frameHdrInit
      arq.cfg.interSegmentTimeout).2.2 = pollRh arq := by
    rw [← @pollWork_rh b arq dt, ← recvPoll_rh]
    rfl
  have hsh : connSh arq = none ∨ connSh arq = some frameHdrInit := by
    unfold connSh
    split
    · exact Or.inr rfl
    · exact Or.inl rfl
  obtain ⟨hrw, hrsh, hremit⟩ := @recvPoll_idle arq.recvWnd arq.recvFrame arq.cfg.checksum
    frameHdrInit hi.recvSize hi.timerOn arq.cfg.interSegmentTimeout (by rw [hrh]; exact hseg) _ hsh
    dt
  have hrrh : (recvPoll arq.recvWnd arq.recvFrame arq.cfg.checksum (connSh arq) frameHdrInit dt
      arq.cfg.interSegmentTimeout).rh = pollRh arq := by
    rw [recvPoll_rh, hrh]
  have hsend := @sendPoll_idle arq.sendWnd arq.sendWndPtr hi.sendSize hi.tinyOn hi.ptr (connSh arq)
    (by rcases hsh with h | h <;> simp [h, frameHdrInit]) (pollRh arq) dt
    arq.cfg.retransmissionTimeout
  unfold NanoArq.pollWork
  dsimp only
  unfold connSh at *
  rw [hrsh, hrrh, hsend, hrw, hremit]
  simp

/-! ## The invariant -/

/-- The frame that carries the flag. -/
def flagItem (f : Flag) : FrameHdr × List UInt8 := (flagHdr f, [])

theorem flagItem_append (q : List Flag) (o : Option Flag) :
    (q ++ o.toList).map flagItem = q.map flagItem ++ (o.map flagItem).toList := by
  rw [List.map_append]
  cases o <;> rfl

/-- One side: it is idle, its connection is that of the party, and its send frame is free while it
is closed. -/
structure Plays (checksum : Checksum) (arq : Arq) (x : Party) : Prop where
  idle : Idle arq
  party : Represents arq.conn x
  free : x = .closed → sendFrameFree arq
  checksum : arq.cfg.checksum = checksum
  cap : 18 ≤ arq.recvFrame.cap

theorem receivable_flag {cap : Nat} (h : 18 ≤ cap) (f : Flag) : Receivable cap (flagItem f) := by
  refine ⟨⟨?_, ?_, ?_⟩, ?_⟩
  · cases f <;> exact ⟨by decide, by decide, by decide, by decide, by decide, by decide, by decide,
      by decide⟩
  · cases f <;> rfl
  · cases f <;> exact Nat.zero_le _
  · rw [frameLen_eq]
    cases f <;> exact h

end

/-- The two sides are the parties `x` and `y` that agree, with what is in flight between them. -/
structure Agrees (checksum : Checksum) (p : Pair) (x y : Party) (xy yx : List Flag) : Prop where
  left : Plays checksum p.left x
  right : Plays checksum p.right y
  toRight : InFlight checksum p.left.sendFrame p.toRight p.right.recvFrame (xy.map flagItem)
  toLeft : InFlight checksum p.right.sendFrame p.toLeft p.left.recvFrame (yx.map flagItem)
  agree : Agree x y xy yx

def PairAgrees (checksum : Checksum) (p : Pair) : Prop := ∃ x y xy yx, Agrees checksum p x y xy yx

theorem PairAgrees.swap {checksum : Checksum} {p : Pair} (h : PairAgrees checksum p) :
    PairAgrees checksum p.swap := by
  obtain ⟨x, y, xy, yx, hl, hr, hxy, hyx, ha⟩ := h
  exact ⟨y, x, yx, xy, hr, hl, hyx, hxy, ha.swap⟩

/-! ## The condition -/

/-- The poll meets neither the peer's RST before it has sent its own, nor the peer's ACK while its
own still waits for the send frame. -/
def InStep (arq : Arq) : Prop :=
  arq.conn.state = .rstSent →
    ((pollRh arq).rst = true → (pollRh arq).ack = false → arq.conn.u.cnt ≠ 0) ∧
      ((pollRh arq).ack = true → (pollRh arq).rst = false → arq.conn.u.simultaneous = false)

instance (arq : Arq) : Decidable (InStep arq) := inferInstanceAs (Decidable (_ → _ ∧ _))

/-- The moves of a handshake without data over a reliable link: polls that are in step and do not
give up for lack of a response, and everything but sending data and losing frames. -/
def HandshakeMove (b : Build) (arq : Arq) : LinkCall → Prop
  | .poll dt => InStep arq ∧ (backendPoll b arq dt).2.event ≠ .connFailedNoResponse
  | .send _ => False
  | .get keep => keep = true
  | _ => True

instance (b : Build) (arq : Arq) : (c : LinkCall) → Decidable (HandshakeMove b arq c)
  | .poll _ => inferInstanceAs (Decidable (_ ∧ _))
  | .send _ => inferInstanceAs (Decidable False)
  | .get keep => inferInstanceAs (Decidable (keep = true))
  | .connect | .flush | .recv _ | .release | .deliver _ => inferInstanceAs (Decidable True)

/-! ## The moves -/

section

variable {b : Build} {checksum : Checksum} {p : Pair}

theorem Plays.congr {arq arq' : Arq} {x : Party} (h : Plays checksum arq x)
    (hsend : arq'.sendWnd = arq.sendWnd) (hptr : arq'.sendWndPtr = arq.sendWndPtr)
    (hrecv : arq'.recvWnd = arq.recvWnd) (hconn : arq'.conn = arq.conn)
    (hcfg : arq'.cfg = arq.cfg) (hcap : arq'.recvFrame.cap = arq.recvFrame.cap)
    (hfree : x = .closed → sendFrameFree arq') : Plays checksum arq' x := by
  obtain ⟨⟨h₁, h₂, h₃, h₄, h₅⟩, hparty, -, hsum, hroom⟩ := h
  refine ⟨⟨?_, ?_, ?_, ?_, ?_⟩, ?_, hfree, ?_, ?_⟩
  · rw [hsend]; exact h₁
  · rw [hsend]; exact h₂
  · rw [hptr]; exact h₃
  · rw [hrecv]; exact h₄
  · rw [hrecv]; exact h₅
  · rw [hconn]; exact hparty
  · rw [hcfg]; exact hsum
  · rw [hcap]; exact hroom

/-- No call but `arq_send` and a poll touches the windows of an idle instance. -/
theorem Idle.windows {arq : Arq} (hi : Idle arq) {c : Call} (hsend : ∀ data, c ≠ .send data)
    (hpoll : ∀ dt, c ≠ .poll dt) (hreset : c ≠ .reset) :
    (perform b arq c).sendWnd = arq.sendWnd ∧ (perform b arq c).sendWndPtr = arq.sendWndPtr ∧
      (perform b arq c).recvWnd = arq.recvWnd := by
  cases c with
  | send data => exact absurd rfl (hsend data)
  | poll dt => exact absurd rfl (hpoll dt)
  | reset => exact absurd rfl hreset
  | flush => exact ⟨if_pos hi.sendSize, rfl, rfl⟩
  | recv n =>
    have hread : recvWndRecv arq.recvWnd n = (arq.recvWnd, []) := by
      rw [recvWndRecv, hi.recvSize]
      rfl
    simp only [perform, arqRecv]
    split
    · exact ⟨rfl, rfl, rfl⟩
    · exact ⟨rfl, rfl, congrArg Prod.fst hread⟩
  | sendPtrGet | sendPtrRelease | recvFill | connect =>
    obtain ⟨hsw, hsp⟩ := perform_sendWnd b arq hsend (by simp) hpoll hreset
    exact ⟨hsw, hsp, perform_recvWnd b arq (by simp) hpoll hreset⟩

/-- The calls that send no data, other than a poll and `arq_connect`, leave the party as it is. -/
theorem Plays.keeps {arq : Arq} {x : Party} (h : Plays checksum arq x) {c : Call}
    (hsend : ∀ data, c ≠ .send data) (hpoll : ∀ dt, c ≠ .poll dt) (hconnect : c ≠ .connect)
    (hreset : c ≠ .reset) : Plays checksum (perform b arq c) x := by
  have hfree : sendFrameFree arq → sendFrameFree (perform b arq c) := by
    rintro ⟨hlen, hstate⟩
    by_cases hget : c = .sendPtrGet
    · subst hget
      simp only [perform, backendSendPtrGet]
      rw [if_neg (not_not_intro hlen)]
      exact ⟨hlen, by simp⟩
    by_cases hrelease : c = .sendPtrRelease
    · subst hrelease
      simp only [perform, backendSendPtrRelease]
      rw [if_pos hstate]
      exact ⟨hlen, hstate⟩
    rw [sendFrameFree, perform_sendFrame hpoll hget hrelease hreset]
    exact ⟨hlen, hstate⟩
  obtain ⟨hsw, hsp, hrw⟩ := @Idle.windows b arq h.idle c hsend hpoll hreset
  exact h.congr hsw hsp hrw (perform_conn b arq hpoll hconnect hreset) (perform_cfg b arq c)
    (perform_frameCap b arq c) fun hx => hfree (h.free hx)

theorem seenHdr_seg (i : Option Flag) : (seenHdr i).seg = false := by
  cases i with
  | none => rfl
  | some f => cases f <;> rfl

/-- What a poll reads is the flag that its party takes from the queue. -/
theorem Agrees.read {x y : Party} {xy yx : List Flag} (h : Agrees checksum p x y xy yx) (dt : Nat) :
    ∃ i yx', Takes yx i yx' ∧ pollRh p.left = seenHdr i ∧
      InFlight checksum p.right.sendFrame p.toLeft (backendPoll b p.left dt).1.recvFrame
        (yx'.map flagItem) := by
  rcases h.toLeft.read b dt h.left.checksum with ⟨hnone, hflight⟩ | ⟨q, rest, r, hq, hr, hout, hflight⟩
  · exact ⟨none, yx, .none _, by rw [pollRh, hnone]; rfl, hflight⟩
  · cases yx with
    | nil => cases hq
    | cons f yx' =>
      obtain ⟨rfl, rfl⟩ := List.cons.inj hq
      refine ⟨some f, yx', .some f yx', ?_, hflight⟩
      rw [pollRh, hr]
      exact congrArg (fun o : FrameReadResult × FrameHdr × List UInt8 => o.2.1) hout

/-- What a connection poll writes is the frame of a flag. -/
theorem pollFrame_writes {w : Polled} {c : ConnCtx} {o : Option Flag} (hw : Writes c o)
    (hsh : w.sh = c.sh) (hemit : w.emit = (c.sh.isSome && c.emit)) :
    pollFrame w = o.map flagItem := by
  cases o with
  | none =>
    have hemit' : w.emit = false := by
      rw [hemit, show c.emit = false from hw, Bool.and_false]
    unfold pollFrame
    rw [hemit']
    cases w.sh <;> rfl
  | some f =>
    obtain ⟨hce, hcsh⟩ := hw
    rw [hcsh, hce] at hemit
    unfold pollFrame
    rw [hsh, hcsh, hemit]
    cases f <;> rfl

/-- A poll of an instance is a step of its party, when the party has a step for the flag that is read,
asks before it lets itself be crossed, and does not give up. -/
theorem Plays.poll (hb : b.useConnections = true) {arq : Arq} {x : Party} {i : Option Flag} {dt : Nat}
    (h : Plays checksum arq x) (hrh : pollRh arq = seenHdr i)
    (hclosed : x = .closed → ∀ f, i = some f → f = .rst)
    (hack : ∀ a c r, x = .opening a c r → i ≠ some .ack)
    (hasked : arq.conn.state = .rstSent → i = some .rst → arq.conn.u.cnt ≠ 0)
    (hev : (backendPoll b arq dt).2.event ≠ .connFailedNoResponse) :
    ∃ x' o, Party.Step x i x' o ∧ Plays checksum (backendPoll b arq dt).1 x' ∧
      pollFrame (pollWork b arq dt) = o.map flagItem ∧
      (backendPoll b arq dt).2.event ≠ .connFailedDesync := by
  obtain ⟨hidle, hparty, hfree, hsum, hcap⟩ := h
  obtain ⟨hconn, hevent, hsh, hemit, hsw, hsp, hrw⟩ :=
    @Idle.pollWork b arq dt hidle (by rw [hrh]; exact seenHdr_seg i)
  -- The connection poll is a step of the party.
  obtain ⟨ctx, hctx⟩ : ∃ ctx : ConnCtx, ctx =
    { conn := arq.conn, sh := connSh arq, emit := false, event := .none } := ⟨_, rfl⟩
  have hpoll : connPoll b arq.conn (connSh arq) (pollRh arq) dt arq.cfg =
      { (connPollGo arq.cfg dt (seenHdr i) 2 ctx).1 with
        emit := (connPollGo arq.cfg dt (seenHdr i) 2 ctx).1.sh.isSome &&
          (connPollGo arq.cfg dt (seenHdr i) 2 ctx).1.emit } := by
    rw [connPoll, if_pos hb, hctx, hrh]
  have hfresh : Fresh ctx := by
    rw [hctx]
    refine ⟨?_, rfl, rfl⟩
    dsimp only [connSh]
    split
    · exact Or.inr rfl
    · exact Or.inl rfl
  have hstepped : Stepped x i (connPollGo arq.cfg dt (seenHdr i) 2 ctx).1 := by
    refine connPollGo_step hfresh (by rw [hctx]; exact hparty) ⟨?_, hack⟩ ?_ ?_
    · rintro hx f rfl
      refine ⟨hclosed hx f rfl, ?_⟩
      rw [hctx]
      dsimp only [connSh]
      rw [if_pos (hfree hx)]
      rfl
    · rintro hs hi
      rw [hctx] at hs ⊢
      exact hasked hs hi
    · have hev' : (pollWork b arq dt).event ≠ .connFailedNoResponse := hev
      rw [hevent, hpoll] at hev'
      exact hev'
  obtain ⟨hstep_in, x', o, hstep, hrep, hwrites, -⟩ := hstepped
  have hframe : pollFrame (pollWork b arq dt) = o.map flagItem := by
    refine pollFrame_writes hwrites ?_ ?_
    · rw [hsh, hpoll]
    · rw [hemit, hpoll]
  refine ⟨x', o, hstep, ?_, hframe, ?_⟩
  · have hcap' : (backendPoll b arq dt).1.recvFrame.cap = arq.recvFrame.cap := by
      rw [backendPoll_recvFrame, pollWork_recvFrame]
      split <;> rfl
    refine ⟨⟨?_, ?_, ?_, ?_, ?_⟩, ?_, ?_, hsum, by rw [hcap']; exact hcap⟩
    · exact (congrArg (fun sw : SendWnd => sw.w.size) hsw).trans hidle.sendSize
    · exact (congrArg SendWnd.tinyOn hsw).trans hidle.tinyOn
    · exact (congrArg SendWndPtr.valid hsp).trans hidle.ptr
    · exact (congrArg (fun rw : RecvWnd => rw.w.size) hrw).trans hidle.recvSize
    · exact (congrArg RecvWnd.interSegAckOn hrw).trans hidle.timerOn
    · have hconn' : (backendPoll b arq dt).1.conn = _ := hconn
      rw [hconn', hpoll]
      exact hrep
    · rintro rfl
      -- A party that is closed afterwards was closed before, and nothing was written.
      have hwait : x = .closed ∧ o = none := by
        cases hstep
        exact ⟨rfl, rfl⟩
      obtain ⟨hx, rfl⟩ := hwait
      have hsame : (backendPoll b arq dt).1.sendFrame = arq.sendFrame := by
        simp only [backendPoll, hframe, Option.map_none]
      have := hfree hx
      unfold sendFrameFree at this ⊢
      rwa [hsame]
  · have hev' : (backendPoll b arq dt).2.event = (pollWork b arq dt).event := rfl
    rw [hev', hevent, hpoll]
    exact hstep_in

/-- The flag of a poll goes behind those in flight. -/
theorem inFlight_write_flag {arq : Arq} {wire : List UInt8} {inn : RecvFrame} {q : List Flag}
    {o : Option Flag} (b : Build) (dt : Nat)
    (h : InFlight checksum arq.sendFrame wire inn (q.map flagItem))
    (hsum : arq.cfg.checksum = checksum) (hcap : 18 ≤ inn.cap)
    (hframe : pollFrame (pollWork b arq dt) = o.map flagItem) :
    InFlight checksum (backendPoll b arq dt).1.sendFrame wire inn ((q ++ o.toList).map flagItem) := by
  have hflight := h.write b dt hsum (fun hne => by_contra fun hbusy => hne (pollFrame_busy hbusy)) (by
    intro f hf
    rw [hframe] at hf
    obtain ⟨flag, -, rfl⟩ := Option.map_eq_some_iff.mp hf
    exact receivable_flag hcap flag)
  rw [flagItem_append, ← hframe]
  exact hflight

theorem Agrees.poll (hb : b.useConnections = true) {x y : Party} {xy yx : List Flag}
    (h : Agrees checksum p x y xy yx) {dt : Nat} (hok : InStep p.left)
    (hev : (backendPoll b p.left dt).2.event ≠ .connFailedNoResponse) :
    PairAgrees checksum (p.move b (.poll dt)) ∧
      (backendPoll b p.left dt).2.event ≠ .connFailedDesync := by
  obtain ⟨i, yx', htakes, hrh, hread⟩ := @Agrees.read b checksum p x y xy yx h dt
  obtain ⟨x', o, hstep, hplays, hframe, hdesync⟩ := @Plays.poll b checksum hb p.left x i dt h.left hrh
    (fun hx f hi => (h.agree.in_step (hi ▸ htakes)).1 hx) (by
      rintro a c r rfl rfl
      have hc := (h.agree.in_step htakes).2 a c r rfl rfl
      cases h.left.party with
      | opening hs _ =>
        have := (hok hs).2 (by rw [hrh]; rfl) (by rw [hrh]; rfl)
        rw [hc] at this
        cases this) (by
      rintro hs rfl
      exact (hok hs).1 (by rw [hrh]; rfl) (by rw [hrh]; rfl)) hev
  exact ⟨⟨x', y, xy ++ o.toList, yx', hplays, h.right,
    inFlight_write_flag b dt h.toRight h.left.checksum h.right.cap hframe, hread,
    h.agree.poll htakes hstep⟩, hdesync⟩

theorem Agrees.connect {x y : Party} {xy yx : List Flag} (h : Agrees checksum p x y xy yx) :
    PairAgrees checksum (p.move b .connect) := by
  have hmove : (p.move b .connect).left = (arqConnect b p.left).1 := rfl
  obtain ⟨hl, hr, hxy, hyx, ha⟩ := h
  by_cases hclosed : b.useConnections = true ∧ p.left.conn.state = .closed
  · obtain ⟨hb, hs⟩ := hclosed
    have hconnect : (arqConnect b p.left).1 = { p.left with
        conn := { state := .rstSent
                  u := { cnt := 0, tmr := 0, rstAck := false, simultaneous := false } } } := by
      rw [arqConnect, if_pos hb, if_neg (not_not_intro hs)]
    rw [hconnect] at hmove
    have hx : x = .closed := by
      cases hl.party with
      | closed => rfl
      | opening h | answering h | established h => rw [hs] at h; cases h
    subst hx
    refine ⟨.opening false false false, y, xy, yx, ?_, hr, ?_, ?_, ha.connect⟩
    · rw [hmove]
      obtain ⟨⟨h₁, h₂, h₃, h₄, h₅⟩, -, -, hsum, hcap⟩ := hl
      exact ⟨⟨h₁, h₂, h₃, h₄, h₅⟩, .opening rfl (fun h => absurd rfl h), by simp, hsum, hcap⟩
    · rw [hmove]
      exact hxy
    · rw [hmove]
      exact hyx
  · have hsame : (arqConnect b p.left).1 = p.left := by
      unfold arqConnect
      split
      · rename_i hb
        rw [if_pos (fun hs => hclosed ⟨hb, hs⟩)]
      · rfl
    rw [hsame] at hmove
    have hp : p.move b .connect = p := by
      obtain ⟨l, r, lr, rl⟩ := p
      exact congrArg (fun a => (⟨a, r, lr, rl⟩ : Pair)) hmove
    rw [hp]
    exact ⟨x, y, xy, yx, hl, hr, hxy, hyx, ha⟩

/-- The moves that neither poll nor connect. -/
theorem Agrees.other {x y : Party} {xy yx : List Flag} (h : Agrees checksum p x y xy yx)
    {c : LinkCall} (hok : HandshakeMove b p.left c) (hpoll : ∀ dt, c ≠ .poll dt)
    (hconnect : c ≠ .connect) : PairAgrees checksum (p.move b c) := by
  obtain ⟨hl, hr, hxy, hyx, ha⟩ := h
  have hplays : Plays checksum (p.move b c).left x := by
    rw [Pair.move_left]
    cases c with
    | poll dt => exact absurd rfl (hpoll dt)
    | connect => exact absurd rfl hconnect
    | send data => exact hok.elim
    | flush | recv | get | release | deliver =>
      exact hl.keeps (by simp [LinkCall.call]) (by simp [LinkCall.call]) (by simp [LinkCall.call])
        (by simp [LinkCall.call])
  have hkept : c ≠ .get false := by
    rintro rfl
    exact Bool.false_ne_true hok
  obtain ⟨_, -, hsame, hxy', hyx'⟩ := Pair.move_inFlight b hpoll hxy hyx
  obtain rfl := hsame hkept
  refine ⟨x, y, xy, yx, hplays, ?_, ?_, ?_, ha⟩
  · rw [Pair.move_right]
    exact hr
  · rw [Pair.move_right]
    exact hxy'
  · rw [Pair.move_right]
    exact hyx'

theorem PairAgrees.move (hb : b.useConnections = true) (h : PairAgrees checksum p) (c : LinkCall)
    (hok : HandshakeMove b p.left c) : PairAgrees checksum (p.move b c) := by
  obtain ⟨x, y, xy, yx, h⟩ := h
  cases c with
  | poll dt => exact (h.poll hb hok.1 hok.2).1
  | connect => exact h.connect
  | send | flush | recv | get | release | deliver => exact h.other hok (by simp) (by simp)

end

/-! ## The theorem -/

theorem Plays.start {b : Build} (hb : b.useConnections = true) {cfg : Cfg} {seat arq : Arq}
    (hinit : arqInit b cfg seat = .ok arq) (hseg : cfg.segmentLengthInBytes < 65518) :
    Plays cfg.checksum arq .closed ∧ Accumulating arq.recvFrame [] := by
  have harq : arq = rstArq b (initArq { seat with cfg := cfg }) := by
    unfold arqInit at hinit
    split at hinit
    · exact (Except.ok.inj hinit).symm
    · cases hinit
  have hcap : arq.recvFrame.cap = 18 + cfg.segmentLengthInBytes := by
    rw [harq]
    change u16 (frameLen cfg.segmentLengthInBytes) = _
    rw [frameLen_eq, u16_of_lt (by omega)]
  subst harq
  refine ⟨⟨⟨rfl, rfl, rfl, rfl, rfl⟩, .closed ?_, fun _ => ⟨rfl, by simp [rstArq, sendFrameRst]⟩,
    rfl, by omega⟩, ⟨rfl, rfl, rfl, by simp, Nat.zero_le _, by omega⟩⟩
  simp only [rstArq, if_pos hb]

theorem PairAgrees.start {checksum : Checksum} {l r : Arq} (hl : Plays checksum l .closed)
    (hr : Plays checksum r .closed) (hlacc : Accumulating l.recvFrame [])
    (hracc : Accumulating r.recvFrame []) : PairAgrees checksum (.start l r) := by
  obtain ⟨hllen, hlstate⟩ := hl.free rfl
  obtain ⟨hrlen, hrstate⟩ := hr.free rfl
  exact ⟨.closed, .closed, [], [], hl, hr, .start hllen hlstate hracc, .start hrlen hrstate hlacc,
    .start⟩

/-- What the handshake promises: the next poll of a side raises no desynchronisation, and no side
is established while the other is closed. -/
structure HandshakeSound (b : Build) (p : Pair) : Prop where
  in_step : ∀ s dt, InStep (p.view s).left →
    (backendPoll b (p.view s).left dt).2.event ≠ .connFailedNoResponse →
      (backendPoll b (p.view s).left dt).2.event ≠ .connFailedDesync
  agreed : ∀ s, ¬ ((p.view s).left.conn.state = .established ∧
    (p.view s).right.conn.state = .closed)

theorem PairAgrees.sound {b : Build} (hb : b.useConnections = true) {checksum : Checksum} {p : Pair}
    (h : PairAgrees checksum p) : HandshakeSound b p := by
  have hview : ∀ s, PairAgrees checksum (p.view s) := by
    intro s
    cases s with
    | left => exact h
    | right => exact h.swap
  refine ⟨?_, ?_⟩
  · intro s dt hok hev
    obtain ⟨x, y, xy, yx, h⟩ := hview s
    exact (h.poll hb hok hev).2
  · rintro s ⟨hleft, hright⟩
    obtain ⟨x, y, xy, yx, h⟩ := hview s
    refine h.agree.not_half_open ⟨?_, ?_⟩
    · cases h.left.party with
      | established => rfl
      | closed hs | opening hs | answering hs => rw [hleft] at hs; cases hs
    · cases h.right.party with
      | closed => rfl
      | opening hs | answering hs | established hs => rw [hright] at hs; cases hs

/-- **Handshake agreement on a reliable link**, in every run in which the polls are in step. -/
theorem handshake_agreement (b : Build) (hb : b.useConnections = true) (cfgL cfgR : Cfg)
    (hsum : cfgL.checksum = cfgR.checksum) (hsegL : cfgL.segmentLengthInBytes < 65518)
    (hsegR : cfgR.segmentLengthInBytes < 65518) (seatL seatR l r : Arq)
    (hinitL : arqInit b cfgL seatL = .ok l) (hinitR : arqInit b cfgR seatR = .ok r) (p : Pair)
    (hrun : Run (pairStep b) (fun p a => HandshakeMove b (p.view a.1).left a.2) (.start l r) p) :
    HandshakeSound b p := by
  have h : PairAgrees cfgL.checksum p := by
    refine hrun.invariant ?_ ?_
    · obtain ⟨hl, hlacc⟩ := Plays.start hb hinitL hsegL
      obtain ⟨hr, hracc⟩ := Plays.start hb hinitR hsegR
      rw [← hsum] at hr
      exact .start hl hr hlacc hracc
    · rintro p ⟨s, c⟩ hp hok
      cases s with
      | left => exact hp.move hb c hok
      | right => exact (hp.swap.move hb c hok).swap
  exact h.sound hb

/-- An active and a passive open, with every frame delivered. -/
def openingMoves : List (Side × LinkCall) :=
  [(.left, .connect), (.left, .poll 0), (.left, .get true), (.left, .release),
    (.right, .deliver 18), (.right, .poll 0), (.right, .get true), (.right, .release),
    (.left, .deliver 18), (.left, .poll 0), (.left, .get true), (.left, .release),
    (.right, .deliver 18), (.right, .poll 0)]

theorem handshake_agreement_sample :
    HandshakeSound ⟨true⟩ (openingMoves.foldl (pairStep ⟨true⟩)
      (.start (freshArq ⟨true⟩ (smallCfg 1 1 1)) (freshArq ⟨true⟩ (smallCfg 1 1 1)))) :=
  handshake_agreement ⟨true⟩ rfl (smallCfg 1 1 1) (smallCfg 1 1 1) rfl (by decide) (by decide)
    (zeroSeat _) (zeroSeat _) _ _ (arqInit_zeroSeat rfl) (arqInit_zeroSeat rfl) _
    (.exec (by decide +kernel))

/-- The right side connects when the RST of the left side is already on its way. -/
def lateConnectMoves : List (Side × LinkCall) :=
  [(.left, .connect), (.left, .poll 0), (.left, .get true), (.left, .release),
    (.right, .connect), (.right, .deliver 18), (.right, .poll 0), (.right, .get true),
    (.left, .deliver 18)]

/-- The right side answers with the ACK of a crossing, which the left side knows nothing of. -/
theorem late_connect_desync :
    let p := lateConnectMoves.foldl (pairStep ⟨true⟩)
      (.start (freshArq ⟨true⟩ (smallCfg 1 1 1)) (freshArq ⟨true⟩ (smallCfg 1 1 1)))
    (backendPoll ⟨true⟩ p.left 0).2.event = .connFailedDesync ∧
      (p.move ⟨true⟩ (.poll 0)).left.conn.state = .closed ∧
      (p.move ⟨true⟩ (.poll 0)).right.conn.state = .established := by
  decide +kernel

end NanoArq.Handshake
