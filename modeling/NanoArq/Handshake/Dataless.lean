import NanoArq.Handshake.Agreement
import NanoArq.Link.Reclaimed
import NanoArq.Poll.Timers

/-!
# Before the first byte

Two linked instances that have sent no data hold the windows with which they started, whatever frames of
the handshake cross and whichever are lost. An established instance behaves as one of a build without
connections.

* `Dataless.move`: the invariant of a run in which nothing is sent.
* `perform_established`: a call in a build with connections and in one without.
* `connection_transparent`: a pair whose connection is open is the pair with which the build without
  connections starts, but that its send frames may be released, and the two builds then go the same way.
-/

namespace NanoArq.Handshake

open Lib

/-! ## Untouched windows -/

/-- The instance has the windows and the sizes of `arq₀`. -/
structure Untouched (arq₀ arq : Arq) : Prop where
  sendWnd : arq.sendWnd = arq₀.sendWnd
  ptr : arq.sendWndPtr = arq₀.sendWndPtr
  recvWnd : arq.recvWnd = arq₀.recvWnd
  cfg : arq.cfg = arq₀.cfg
  sendCap : arq.sendFrame.cap = arq₀.sendFrame.cap
  recvCap : arq.recvFrame.cap = arq₀.recvFrame.cap

section

variable {b : Build} {arq₀ arq : Arq} {c : Call} {dt : Nat}

theorem Untouched.refl (arq : Arq) : Untouched arq arq := ⟨rfl, rfl, rfl, rfl, rfl, rfl⟩

theorem Untouched.idle (h : Untouched arq₀ arq) (hi : Idle arq₀) : Idle arq := by
  obtain ⟨h₁, h₂, h₃, h₄, h₅⟩ := hi
  refine ⟨?_, ?_, ?_, ?_, ?_⟩
  · rw [h.sendWnd]; exact h₁
  · rw [h.sendWnd]; exact h₂
  · rw [h.ptr]; exact h₃
  · rw [h.recvWnd]; exact h₄
  · rw [h.recvWnd]; exact h₅

theorem perform_sendCap (b : Build) (arq : Arq) (c : Call) :
    (perform b arq c).sendFrame.cap = arq.sendFrame.cap := by
  cases c <;> simp only [perform]
  case send => unfold arqSend; split <;> rfl
  case flush => rfl
  case recv => unfold arqRecv; split <;> rfl
  case poll =>
    rw [backendPoll_sendFrame]
    split <;> rfl
  case sendPtrGet => unfold backendSendPtrGet; split <;> rfl
  case sendPtrRelease => unfold backendSendPtrRelease; split <;> rfl
  case recvFill => simp only [backendRecvFill]; split <;> rfl
  case connect => unfold arqConnect; split_ifs <;> rfl
  case reset => rfl

/-- No call but `arq_send` touches the windows of an idle instance that receives no segment. -/
theorem Untouched.call (h : Untouched arq₀ arq) (hi : Idle arq₀) (hsend : ∀ data, c ≠ .send data)
    (hpoll : ∀ dt, c = .poll dt → (pollRh arq).seg = false) (hreset : c ≠ .reset) :
    Untouched arq₀ (perform b arq c) := by
  have hidle := h.idle hi
  have hwindows : (perform b arq c).sendWnd = arq.sendWnd ∧
      (perform b arq c).sendWndPtr = arq.sendWndPtr ∧ (perform b arq c).recvWnd = arq.recvWnd := by
    by_cases hcase : ∃ dt, c = .poll dt
    · obtain ⟨dt, rfl⟩ := hcase
      obtain ⟨-, -, -, -, hsw, hsp, hrw⟩ := @Idle.pollWork b arq dt hidle (hpoll dt rfl)
      exact ⟨hsw, hsp, hrw⟩
    · exact hidle.windows hsend (fun dt hdt => hcase ⟨dt, hdt⟩) hreset
  obtain ⟨hsw, hsp, hrw⟩ := hwindows
  exact ⟨hsw.trans h.sendWnd, hsp.trans h.ptr, hrw.trans h.recvWnd, (perform_cfg b arq c).trans h.cfg,
    (perform_sendCap b arq c).trans h.sendCap, (perform_frameCap b arq c).trans h.recvCap⟩

/-- The frame of an idle poll that reads no segment carries flags and nothing else. -/
theorem idle_frame (hi : Idle arq) (hseg : (pollRh arq).seg = false) {f : FrameHdr × List UInt8}
    (hf : pollFrame (pollWork b arq dt) = some f) :
    ∃ r a, f = ({ frameHdrInit with rst := r, ack := a }, []) := by
  obtain ⟨-, -, hsh, -, -, -, -⟩ := @Idle.pollWork b arq dt hi hseg
  obtain ⟨r, a, hflags⟩ := connPoll_flags b arq.conn (connSh arq) (pollRh arq) dt arq.cfg
  rw [hflags] at hsh
  refine ⟨r, a, ?_⟩
  unfold pollFrame at hf
  unfold connSh at hsh
  split at hsh
  · rw [hsh] at hf
    dsimp only [Option.map_some] at hf
    split at hf
    · exact (Option.some.inj hf).symm
    · cases hf
  · rw [hsh] at hf
    cases hf

theorem receivable_flags {cap : Nat} (h : 18 ≤ cap) (r a : Bool) :
    Receivable cap ({ frameHdrInit with rst := r, ack := a }, []) := by
  refine ⟨⟨?_, rfl, Nat.zero_le _⟩, ?_⟩
  · have hseq : 0 < seqSpace := by decide
    exact ⟨by simp [frameHdrInit], by simp [frameHdrInit], by simp [frameHdrInit],
      by simp [frameHdrInit], hseq, hseq, hseq, hseq⟩
  · rw [frameLen_eq]
    exact h

end

/-! ## Two sides -/

/-- Two sides that have sent no data, with the windows of `l₀` and `r₀`, and the frames in flight. -/
structure Dataless (checksum : Checksum) (l₀ r₀ : Arq) (p : Duplex)
    (qr ql : List (FrameHdr × List UInt8)) : Prop where
  left : Untouched l₀ p.left.arq
  right : Untouched r₀ p.right.arq
  leftStart : p.left = .start p.left.arq
  rightStart : p.right = .start p.right.arq
  toRight : InFlight checksum p.left.arq.sendFrame p.toRight p.right.arq.recvFrame qr
  toLeft : InFlight checksum p.right.arq.sendFrame p.toLeft p.left.arq.recvFrame ql
  plainRight : ∀ f ∈ qr, f.1.seg = false
  plainLeft : ∀ f ∈ ql, f.1.seg = false

section

variable {b : Build} {checksum : Checksum} {l₀ r₀ : Arq} {p : Duplex}
  {qr ql : List (FrameHdr × List UInt8)} {c : LinkCall} {dt : Nat}

theorem Dataless.swap (h : Dataless checksum l₀ r₀ p qr ql) : Dataless checksum r₀ l₀ p.swap ql qr :=
  ⟨h.right, h.left, h.rightStart, h.leftStart, h.toLeft, h.toRight, h.plainLeft, h.plainRight⟩

/-- A station without data that does not send stays one. -/
theorem stationStep_start {arq : Arq} {c : Call} (hsend : ∀ data, c ≠ .send data)
    (hsize : arq.sendWnd.w.size = 0) (hsent : ∀ dt, c = .poll dt → transmitted (pollWork b arq dt) 0 = [])
    (hrecv : ∀ n, (arqRecv arq n).2.2 = []) :
    stationStep b (.start arq) c = .start (perform b arq c) := by
  cases c with
  | send data => exact absurd rfl (hsend data)
  | poll dt =>
    have hnone := hsent dt rfl
    simp only [stationStep, Station.start, sendHistStep, SendHist.start, hsize, Nat.zero_sub, Nat.zero_mul,
      Nat.add_zero, List.drop_nil, List.nil_append, hnone]
  | recv n =>
    have hnone := hrecv n
    simp only [stationStep, Station.start, Station.arq, sendHistStep, SendHist.start, hnone,
      List.append_nil]
  | flush | reset | sendPtrGet | sendPtrRelease | recvFill | connect => rfl

/-- A poll reads the first frame in flight, and no segment. -/
theorem Dataless.read (h : Dataless checksum l₀ r₀ p qr ql) (hsum : l₀.cfg.checksum = checksum) (b : Build)
    (dt : Nat) : (pollRh p.left.arq).seg = false ∧ ∃ rest, NanoArq.Takes p.left.arq ql rest ∧
      rest.Sublist ql ∧
      InFlight checksum p.right.arq.sendFrame p.toLeft (backendPoll b p.left.arq dt).1.recvFrame rest := by
  obtain ⟨hnone, hflight⟩ | ⟨f, rest, r, rfl, hr, hout, hflight⟩ :=
    h.toLeft.read b dt ((congrArg Cfg.checksum h.left.cfg).trans hsum)
  · exact ⟨by rw [pollRh, hnone]; rfl, ql, Or.inl ⟨hnone, rfl⟩, .refl ql, hflight⟩
  · obtain ⟨hresult, rfl⟩ := Prod.mk.inj hout
    exact ⟨by rw [pollRh, hr]; exact h.plainLeft _ List.mem_cons_self, rest,
      Or.inr ⟨r, rfl, hr, hresult⟩, List.sublist_cons_self _ _, hflight⟩

theorem Dataless.station (h : Dataless checksum l₀ r₀ p qr ql) (hl : Idle l₀)
    (hseg : (pollRh p.left.arq).seg = false) (hc : ∀ data, c ≠ .send data) :
    (p.move b c).left = .start (perform b p.left.arq (c.call p.pair)) ∧
      Untouched l₀ (perform b p.left.arq (c.call p.pair)) := by
  have hidle := h.left.idle hl
  have hcall : (∀ data, c.call p.pair ≠ .send data) ∧ c.call p.pair ≠ .reset := by
    cases c with
    | send data => exact absurd rfl (hc data)
    | poll | connect | flush | recv | get | release | deliver =>
      exact ⟨by simp [LinkCall.call], by simp [LinkCall.call]⟩
  refine ⟨?_, h.left.call hl hcall.1 (fun _ _ => hseg) hcall.2⟩
  change stationStep b p.left _ = _
  rw [h.leftStart]
  refine stationStep_start hcall.1 hidle.sendSize (fun dt _ => ?_) fun n => ?_
  · by_contra hne
    obtain ⟨s, hs⟩ := List.exists_mem_of_ne_nil _ hne
    obtain ⟨hd, payload, hframe, hseg', -⟩ := mem_transmitted.mp hs
    obtain ⟨r, a, hf⟩ := idle_frame hidle hseg hframe
    obtain ⟨rfl, -⟩ := Prod.mk.inj hf
    cases hseg'
  · unfold arqRecv
    split
    · rfl
    · change (recvWndRecv p.left.arq.recvWnd n).2 = []
      rw [recvWndRecv, hidle.recvSize]
      rfl

theorem Dataless.poll (hl : Plays checksum l₀ .closed) (hr : Plays checksum r₀ .closed)
    (h : Dataless checksum l₀ r₀ p qr ql) (b : Build) (dt : Nat) :
    (pollRh p.left.arq).seg = false ∧ ∃ rest, NanoArq.Takes p.left.arq ql rest ∧
      Dataless checksum l₀ r₀ (p.move b (.poll dt)) (qr ++ (pollFrame (pollWork b p.left.arq dt)).toList)
        rest := by
  have hidle := h.left.idle hl.idle
  obtain ⟨hseg, rest, htakes, hrest, hread⟩ := h.read hl.checksum b dt
  obtain ⟨hstation, hleft⟩ := h.station (b := b) (c := .poll dt) hl.idle hseg (by simp)
  have harq : (p.move b (.poll dt)).left.arq = perform b p.left.arq (.poll dt) := by rw [hstation]; rfl
  have hcap : 18 ≤ p.right.arq.recvFrame.cap := by rw [h.right.recvCap]; exact hr.cap
  have hwrite := h.toRight.write b dt ((congrArg Cfg.checksum h.left.cfg).trans hl.checksum)
    (fun hne => by_contra fun hbusy => hne (pollFrame_busy hbusy)) (by
      intro f hf
      obtain ⟨r, a, rfl⟩ := idle_frame hidle hseg hf
      exact receivable_flags hcap r a)
  refine ⟨hseg, rest, htakes, ?_, h.right, ?_, h.rightStart, ?_, ?_, ?_,
    fun f hf => h.plainLeft f (hrest.subset hf)⟩
  · rw [harq]; exact hleft
  · rw [harq]; exact hstation
  · rw [harq]; exact hwrite
  · rw [harq]; exact hread
  · intro f hf
    rcases List.mem_append.mp hf with hold | hnew
    · exact h.plainRight f hold
    · obtain ⟨r, a, rfl⟩ := idle_frame hidle hseg (Option.mem_toList.mp hnew)
      rfl

theorem Dataless.call (hl : Plays checksum l₀ .closed) (h : Dataless checksum l₀ r₀ p qr ql) (b : Build)
    (hsend : ∀ data, c ≠ .send data) (hpoll : ∀ dt, c ≠ .poll dt) :
    ∃ qr', qr'.Sublist qr ∧ (c ≠ .get false → qr' = qr) ∧ Dataless checksum l₀ r₀ (p.move b c) qr' ql := by
  obtain ⟨hstation, hleft⟩ := h.station (b := b) hl.idle (h.read hl.checksum b 0).1 hsend
  have harq : (p.move b c).left.arq = perform b p.left.arq (c.call p.pair) := by rw [hstation]; rfl
  obtain ⟨qr', hsub, hsame, htoRight, htoLeft⟩ :=
    Pair.move_inFlight b (p := p.pair) hpoll h.toRight h.toLeft
  rw [Pair.move_left] at htoRight htoLeft
  refine ⟨qr', hsub, hsame, ?_, h.right, ?_, h.rightStart, ?_, ?_,
    fun f hf => h.plainRight f (hsub.subset hf), h.plainLeft⟩
  · rw [harq]; exact hleft
  · rw [harq]; exact hstation
  · rw [harq]; exact htoRight
  · rw [harq]; exact htoLeft

/-- A move that sends no data. -/
theorem Dataless.move (hl : Plays checksum l₀ .closed) (hr : Plays checksum r₀ .closed)
    (h : Dataless checksum l₀ r₀ p qr ql) (hc : ∀ data, c ≠ .send data) :
    ∃ qr' ql', Dataless checksum l₀ r₀ (p.move b c) qr' ql' := by
  by_cases hpoll : ∃ dt, c = .poll dt
  · obtain ⟨dt, rfl⟩ := hpoll
    obtain ⟨-, rest, -, h'⟩ := h.poll hl hr b dt
    exact ⟨_, rest, h'⟩
  · obtain ⟨qr', -, -, h'⟩ := h.call hl b hc fun dt hdt => hpoll ⟨dt, hdt⟩
    exact ⟨qr', ql, h'⟩

theorem Dataless.start (hl : Plays checksum l₀ .closed) (hr : Plays checksum r₀ .closed)
    (hlacc : Accumulating l₀.recvFrame []) (hracc : Accumulating r₀.recvFrame []) :
    Dataless checksum l₀ r₀ (.start l₀ r₀) [] [] :=
  ⟨.refl _, .refl _, rfl, rfl, .start (hl.free rfl).1 (hl.free rfl).2 hracc,
    .start (hr.free rfl).1 (hr.free rfl).2 hlacc, by simp, by simp⟩

end

/-! ## An established connection -/

section

variable {b plain : Build} {arq : Arq} {dt : Nat}

theorem connPoll_established (hb : b.useConnections = true) {c : Conn} (hc : c.state = .established)
    (sh : Option FrameHdr) (rh : FrameHdr) (dt : Nat) (cfg : Cfg) :
    connPoll b c sh rh dt cfg = { conn := c, sh := sh, emit := false, event := .none } := by
  rw [connPoll, if_pos hb]
  dsimp only
  rw [connPollGo_other (by simp [hc]) (by simp [hc]) (by simp [hc])]
  simp

theorem pollWork_established (hb : b.useConnections = true) (hplain : plain.useConnections = false)
    (h : arq.conn.state = .established) (dt : Nat) :
    pollWork b arq dt = pollWork plain arq dt ∧ (pollWork b arq dt).conn = arq.conn := by
  have hconn : ∀ sh rh, connPoll b arq.conn sh rh dt arq.cfg = connPoll plain arq.conn sh rh dt arq.cfg := by
    intro sh rh
    rw [connPoll_established hb h, connPoll, hplain]
    rfl
  constructor
  · unfold pollWork
    dsimp only
    rw [hconn]
  · rw [(pollWork_conn b arq dt).1, connPoll_established hb h]

/-- A poll of an established instance, with all that it returns, is a poll of the build without
connections. -/
theorem backendPoll_established (hb : b.useConnections = true) (hplain : plain.useConnections = false)
    (h : arq.conn.state = .established) (dt : Nat) : backendPoll b arq dt = backendPoll plain arq dt := by
  obtain ⟨hwork, hconn⟩ := pollWork_established hb hplain h dt
  have hnext : ∀ sw rw, nextPoll b sw rw arq.conn = nextPoll plain sw rw arq.conn := by
    intro sw rw
    have htimers : connTimers arq.conn = [] := by
      unfold connTimers
      rw [h]
    rw [nextPoll_eq, nextPoll_eq, runningTimers, runningTimers, htimers]
    simp
  unfold backendPoll
  dsimp only
  rw [hconn, hnext, hwork, ← hwork, hconn, hwork]

/-- Every call but a reset does the same in both builds, and leaves the connection established. -/
theorem perform_established (hb : b.useConnections = true) (hplain : plain.useConnections = false)
    (h : arq.conn.state = .established) {c : Call} (hreset : c ≠ .reset) :
    perform b arq c = perform plain arq c ∧ (perform b arq c).conn.state = .established := by
  cases c with
  | reset => exact absurd rfl hreset
  | poll dt =>
    obtain ⟨-, hconn⟩ := pollWork_established hb hplain h dt
    exact ⟨congrArg Prod.fst (backendPoll_established hb hplain h dt), (congrArg Conn.state hconn).trans h⟩
  | connect =>
    have hsame : perform b arq .connect = arq := by
      simp only [perform, arqConnect, hb, if_true, h]
      rfl
    refine ⟨?_, by rw [hsame, h]⟩
    rw [hsame]
    simp only [perform, arqConnect, hplain, Bool.false_eq_true, if_false]
  | send | flush | recv | sendPtrGet | sendPtrRelease | recvFill =>
    exact ⟨rfl, by rw [perform_conn b arq (by simp) (by simp) (by simp), h]⟩

/-- Every call but a connect and a reset returns the same in both builds. -/
theorem callResult_established (hb : b.useConnections = true) (hplain : plain.useConnections = false)
    (h : arq.conn.state = .established) {c : Call} (hconnect : c ≠ .connect) (hreset : c ≠ .reset) :
    callResult b arq c = callResult plain arq c := by
  cases c with
  | connect => exact absurd rfl hconnect
  | reset => exact absurd rfl hreset
  | poll dt => exact congrArg (fun r => CallResult.polled r.2) (backendPoll_established hb hplain h dt)
  | send | flush | recv | sendPtrGet | sendPtrRelease | recvFill => rfl

end

/-! ## Two builds -/

/-- The side is established, and no frame is under way in it. -/
structure Clear (arq : Arq) : Prop where
  state : arq.conn.state = .established
  out : sendFrameFree arq
  inn : arq.recvFrame.state = .accumulating ∧ arq.recvFrame.len = 0
  polled : arq.needPoll = false

/-- Both sides are established, and nothing is on its way. -/
structure Connected (p : Duplex) : Prop where
  left : Clear p.left.arq
  right : Clear p.right.arq
  toRight : p.toRight = []
  toLeft : p.toLeft = []

/-- Besides, no send frame is left released. -/
structure Opened (p : Duplex) : Prop extends Connected p where
  leftFree : p.left.arq.sendFrame.state = .free
  rightFree : p.right.arq.sendFrame.state = .free

theorem Opened.reclaimed {p : Duplex} (h : Opened p) : p.reclaimed = p := by
  have hside : ∀ s : Station, s.arq.sendFrame.state = .free → s.reclaimed = s := fun s hs => by
    rw [Station.reclaimed, s.hist.arq.reclaimed_of_free hs]
  rw [Duplex.reclaimed, hside _ h.leftFree, hside _ h.rightFree]

section

variable {b plain : Build} {cfg : Cfg} {arq₀ arq seat : Arq} {p q : Duplex}

theorem foldl_update_again {α : Type*} (n : Nat) (v : α) (f : Nat → α) :
    (List.range n).foldl (fun f i => Function.update f i v)
        ((List.range n).foldl (fun f i => Function.update f i v) f) =
      (List.range n).foldl (fun f i => Function.update f i v) f := by
  funext j
  rw [foldl_update_const, foldl_update_const]
  split <;> rfl

theorem sendWndRst_again (sw : SendWnd) (cap msgLen segLen : Nat) :
    let opened := sendWndRst { sw with w := wndInit sw.w cap msgLen segLen }
    sendWndRst { opened with w := wndInit opened.w cap msgLen segLen } = opened := by
  intro opened
  have hw : wndInit opened.w cap msgLen segLen = opened.w := by
    have hdims : WndDims cap msgLen segLen opened.w := ⟨rfl, rfl, rfl, rfl⟩
    rw [hdims.init]
    exact wndRst_wndRst _
  have hrst : wndRst opened.w = opened.w := wndRst_wndRst _
  have hrtx : (List.range opened.w.cap).foldl (fun rtx i => Function.update rtx i 0) opened.rtx =
      opened.rtx := foldl_update_again _ _ _
  rw [sendWndRst, hw, hrst, hrtx]
  rfl

theorem recvWndRst_again (rw : RecvWnd) (cap msgLen segLen : Nat) :
    let opened := recvWndRst { rw with w := wndInit rw.w cap msgLen segLen }
    recvWndRst { opened with w := wndInit opened.w cap msgLen segLen } = opened := by
  intro opened
  have hw : wndInit opened.w cap msgLen segLen = opened.w := by
    have hdims : WndDims cap msgLen segLen opened.w := ⟨rfl, rfl, rfl, rfl⟩
    rw [hdims.init]
    exact wndRst_wndRst _
  have hrst : wndRst opened.w = opened.w := wndRst_wndRst _
  have hack : (List.range opened.w.cap).foldl (fun ack i => Function.update ack i false) opened.ack =
      opened.ack := foldl_update_again _ _ _
  rw [recvWndRst, hw, hrst, hack]
  rfl

/-- `arq_init` of the build without connections leaves an untouched instance as it is, but for a released
send frame. -/
theorem Untouched.init (hinit : arqInit b cfg seat = .ok arq₀) (hplain : plain.useConnections = false)
    (h : Untouched arq₀ arq) (hc : Clear arq) : arqInit plain cfg arq = .ok arq.reclaimed := by
  have harq := arqInit_ok hinit
  obtain ⟨hsend, hptr, hrecv, hcfg, hsendCap, hrecvCap⟩ := h
  obtain ⟨hstate, ⟨hlen, hnotHeld⟩, ⟨hacc, hin⟩, hpoll⟩ := hc
  rw [harq] at hsend hptr hrecv hcfg hsendCap hrecvCap
  have hsend' := sendWndRst_again seat.sendWnd cfg.sendWindowSizeInMessages
    (cfg.messageLengthInSegments * cfg.segmentLengthInBytes) cfg.segmentLengthInBytes
  have hrecv' := recvWndRst_again seat.recvWnd cfg.recvWindowSizeInMessages
    (cfg.messageLengthInSegments * cfg.segmentLengthInBytes) cfg.segmentLengthInBytes
  obtain ⟨cfg', sendWnd, sendWndPtr, ⟨sbuf, sstate, scap, slen⟩, recvWnd, ⟨rbuf, rstate, rcap, rlen⟩,
    needPoll, ⟨state, u⟩⟩ := arq
  dsimp only at hstate hlen hnotHeld hacc hin hpoll
  have hfree : sstate.reclaimed = .free := by
    cases sstate with
    | free | released => rfl
    | held => exact absurd rfl hnotHeld
  obtain rfl : cfg' = cfg := hcfg
  obtain rfl : sendWnd = _ := hsend
  obtain rfl : recvWnd = _ := hrecv
  obtain rfl : sendWndPtr = _ := hptr
  obtain rfl : scap = _ := hsendCap
  obtain rfl : rcap = _ := hrecvCap
  subst hstate hlen hacc hin hpoll
  rw [arqInit, if_pos (arqInit_check hinit), Arq.reclaimed]
  dsimp only
  rw [hfree]
  refine congrArg Except.ok ?_
  rw [rstArq, hplain, Arq.mk.injEq]
  exact ⟨rfl, hsend', rfl, rfl, hrecv', rfl, rfl, rfl⟩

/-- A move of an established side is the same in both builds. -/
theorem move_established (hb : b.useConnections = true) (hplain : plain.useConnections = false)
    (h : p.left.arq.conn.state = .established) (c : LinkCall) :
    p.move b c = p.move plain c ∧ (p.move b c).left.arq.conn.state = .established := by
  have hreset : c.call p.pair ≠ .reset := by cases c <;> simp [LinkCall.call]
  obtain ⟨hsame, hstate⟩ := perform_established hb hplain h hreset
  have hhist : sendHistStep b p.left.hist (c.call p.pair) = sendHistStep plain p.left.hist (c.call p.pair) := by
    have hwork : ∀ dt, pollWork b p.left.hist.arq dt = pollWork plain p.left.hist.arq dt := fun dt =>
      (pollWork_established hb hplain h dt).1
    unfold sendHistStep
    rw [show perform b p.left.hist.arq _ = perform plain p.left.hist.arq _ from hsame]
    simp only [hwork]
  have hstation : stationStep b p.left (c.call p.pair) = stationStep plain p.left (c.call p.pair) := by
    unfold stationStep
    rw [hhist]
  constructor
  · unfold Duplex.move
    rw [hstation]
    cases c <;> rfl
  · have harq : (p.move b c).left.arq = perform b p.left.arq (c.call p.pair) := sendHistStep_arq b _ _
    rw [harq]
    exact hstate

/-- Both sides are established. -/
def Established (p : Duplex) : Prop := ∀ x, (p.view x).left.arq.conn.state = .established

theorem step_established (hb : b.useConnections = true) (hplain : plain.useConnections = false)
    (h : Established p) (a : Side × LinkCall) :
    duplexStep b p a = duplexStep plain p a ∧ Established (duplexStep b p a) := by
  obtain ⟨x, c⟩ := a
  obtain ⟨hsame, hstate⟩ := move_established hb hplain (h x) c
  refine ⟨congrArg (fun q : Duplex => q.view x) hsame, fun y => ?_⟩
  cases x with
  | left =>
    cases y with
    | left => exact hstate
    | right => exact h .right
  | right =>
    cases y with
    | left => exact h .left
    | right => exact hstate

/-- The runs of the two builds from a pair that is established. -/
theorem run_established (hb : b.useConnections = true) (hplain : plain.useConnections = false)
    {ok : Duplex → Side × LinkCall → Prop} (h : Established p) :
    Run (duplexStep b) ok p q ↔ Run (duplexStep plain) ok p q := by
  constructor
  · intro hrun
    obtain ⟨r, hrun', rfl, -⟩ : ∃ r, Run (duplexStep plain) ok p r ∧ q = r ∧ Established q :=
      hrun.related (fun s t => s = t ∧ Established s) ⟨rfl, h⟩ (by
        rintro s t a ⟨rfl, hest⟩ hok
        exact ⟨hok, step_established hb hplain hest a⟩)
    exact hrun'
  · intro hrun
    obtain ⟨r, hrun', rfl, -⟩ : ∃ r, Run (duplexStep b) ok p r ∧ q = r ∧ Established q :=
      hrun.related (fun s t => s = t ∧ Established s) ⟨rfl, h⟩ (by
        rintro s t a ⟨rfl, hest⟩ hok
        obtain ⟨hsame, hnext⟩ := step_established hb hplain hest a
        exact ⟨hok, hsame.symm, hsame ▸ hnext⟩)
    exact hrun'

end

/-! ## The theorem -/

/-- Every move but `arq_send`. -/
def SendsNothing (a : Side × LinkCall) : Prop := ∀ data, a.2 ≠ .send data

instance : (a : Side × LinkCall) → Decidable (SendsNothing a)
  | (_, .send data) => isFalse fun h => h data rfl
  | (_, .connect) | (_, .poll _) | (_, .flush) | (_, .recv _) | (_, .get _) | (_, .release)
  | (_, .deliver _) => isTrue fun _ h => by cases h

theorem dataless_run {b : Build} {checksum : Checksum} {l r : Arq} (hl : Plays checksum l .closed)
    (hr : Plays checksum r .closed) (hlacc : Accumulating l.recvFrame []) (hracc : Accumulating r.recvFrame [])
    {p : Duplex} (hrun : Run (duplexStep b) (fun _ => SendsNothing) (.start l r) p) :
    ∃ qr ql, Dataless checksum l r p qr ql := by
  refine hrun.invariant (I := fun p => ∃ qr ql, Dataless checksum l r p qr ql)
    ⟨[], [], .start hl hr hlacc hracc⟩ ?_
  rintro p ⟨x, c⟩ ⟨qr, ql, h⟩ hok
  cases x with
  | left => exact h.move hl hr hok
  | right =>
    obtain ⟨ql', qr', h'⟩ := h.swap.move hr hl hok
    exact ⟨qr', ql', h'.swap⟩

/-- A connected pair is one that `arq_init` of the build without connections has just made, but for
released send frames. -/
theorem Dataless.connected {b plain : Build} (hplain : plain.useConnections = false) {checksum : Checksum}
    {cfgL cfgR : Cfg} {seatL seatR l r : Arq} (hinitL : arqInit b cfgL seatL = .ok l)
    (hinitR : arqInit b cfgR seatR = .ok r) {p : Duplex} {qr ql : List (FrameHdr × List UInt8)}
    (h : Dataless checksum l r p qr ql) (hopen : Connected p) :
    arqInit plain cfgL p.left.arq = .ok p.left.arq.reclaimed ∧
      arqInit plain cfgR p.right.arq = .ok p.right.arq.reclaimed ∧
      p.reclaimed = .start p.left.arq.reclaimed p.right.arq.reclaimed := by
  refine ⟨h.left.init hinitL hplain hopen.left, h.right.init hinitR hplain hopen.right, ?_⟩
  obtain ⟨left, right, toRight, toLeft⟩ := p
  obtain rfl : toRight = [] := hopen.toRight
  obtain rfl : toLeft = [] := hopen.toLeft
  have hleft : left.reclaimed = .start left.arq.reclaimed := congrArg Station.reclaimed h.leftStart
  have hright : right.reclaimed = .start right.arq.reclaimed := congrArg Station.reclaimed h.rightStart
  rw [Duplex.start, Duplex.reclaimed]
  dsimp only
  rw [← hleft, ← hright]

theorem Connected.established {p : Duplex} (h : Connected p) : Established p := fun x => by
  cases x with
  | left => exact h.left.state
  | right => exact h.right.state

/-- **The connection is transparent once it is open**: after any run without data, with any losses, two
connected sides with nothing under way are, but for released send frames, the pair that `arq_init` of the
build without connections makes; the two builds have the same runs from there, and whatever the sides do,
their calls return what those of that fresh pair return. -/
theorem connection_transparent (b plain : Build) (hb : b.useConnections = true)
    (hplain : plain.useConnections = false) (cfgL cfgR : Cfg) (hsum : cfgL.checksum = cfgR.checksum)
    (hsegL : cfgL.segmentLengthInBytes < 65518) (hsegR : cfgR.segmentLengthInBytes < 65518)
    (seatL seatR l r : Arq) (hinitL : arqInit b cfgL seatL = .ok l) (hinitR : arqInit b cfgR seatR = .ok r)
    (p : Duplex) (hrun : Run (duplexStep b) (fun _ => SendsNothing) (.start l r) p) (hopen : Connected p) :
    ∃ l' r', arqInit plain cfgL p.left.arq = .ok l' ∧ arqInit plain cfgR p.right.arq = .ok r' ∧
      p.reclaimed = .start l' r' ∧
      (∀ ok q, Run (duplexStep b) ok p q ↔ Run (duplexStep plain) ok p q) ∧
      ∀ moves : List (Side × LinkCall),
        let q := moves.foldl (duplexStep b) p
        let fresh := moves.foldl (duplexStep plain) (.start l' r')
        q.reclaimed = fresh.reclaimed ∧ ∀ x c, c ≠ .connect → c ≠ .reset →
          callResult b (q.view x).left.arq c = callResult plain (fresh.view x).left.arq c := by
  obtain ⟨hl, hlacc⟩ := Plays.start hb hinitL hsegL
  obtain ⟨hr, hracc⟩ := Plays.start hb hinitR hsegR
  rw [← hsum] at hr
  obtain ⟨qr, ql, h⟩ := dataless_run hl hr hlacc hracc hrun
  obtain ⟨hleft, hright, hstart⟩ := h.connected hplain hinitL hinitR hopen
  refine ⟨_, _, hleft, hright, hstart, fun ok q => run_established hb hplain hopen.established,
    fun moves => ?_⟩
  -- Both builds keep the pairs equal up to released frames, and the first one keeps its sides established.
  obtain ⟨hest, hsame⟩ := List.foldl_rel (l := moves) (f := duplexStep b) (g := duplexStep plain)
    (r := fun q q' => Established q ∧ q.reclaimed = q'.reclaimed) (a := p)
    (b := .start p.left.arq.reclaimed p.right.arq.reclaimed)
    ⟨hopen.established, by rw [← hstart, Duplex.reclaimed_reclaimed]⟩ (by
      rintro a - q q' ⟨hest, hsame⟩
      obtain ⟨hstep, hnext⟩ := step_established hb hplain hest a
      refine ⟨hnext, ?_⟩
      rw [hstep, ← duplexStep_reclaimed, hsame, duplexStep_reclaimed])
  refine ⟨hsame, fun x c hconnect hreset => ?_⟩
  rw [callResult_established hb hplain (hest x) hconnect hreset, ← (perform_reclaimed plain _ c).1,
    Duplex.view_arq_reclaimed, hsame, ← Duplex.view_arq_reclaimed, (perform_reclaimed plain _ c).1]

/-- An ordinary handshake: each side gives back its frames. -/
def handshakeMoves : List (Side × LinkCall) :=
  [(.left, .connect), (.left, .poll 0), (.left, .get true), (.left, .release),
    (.right, .deliver 18), (.right, .poll 0), (.right, .get true), (.right, .release),
    (.left, .deliver 18), (.left, .poll 0), (.left, .get true), (.left, .release), (.left, .poll 0),
    (.right, .deliver 18), (.right, .poll 0)]

def connectedSample : Duplex :=
  handshakeMoves.foldl (duplexStep ⟨true⟩)
    (.start (freshArq ⟨true⟩ (smallCfg 1 1 1)) (freshArq ⟨true⟩ (smallCfg 1 1 1)))

theorem connectedSample_connected : Connected connectedSample where
  left := ⟨by decide +kernel, by decide +kernel, by decide +kernel, by decide +kernel⟩
  right := ⟨by decide +kernel, by decide +kernel, by decide +kernel, by decide +kernel⟩
  toRight := by decide +kernel
  toLeft := by decide +kernel

theorem connection_transparent_sample :
    ∃ l' r', arqInit ⟨false⟩ (smallCfg 1 1 1) connectedSample.left.arq = .ok l' ∧
      arqInit ⟨false⟩ (smallCfg 1 1 1) connectedSample.right.arq = .ok r' ∧
      connectedSample.reclaimed = .start l' r' ∧
      (∀ ok q, Run (duplexStep ⟨true⟩) ok connectedSample q ↔ Run (duplexStep ⟨false⟩) ok connectedSample q) ∧
      ∀ moves : List (Side × LinkCall),
        let q := moves.foldl (duplexStep ⟨true⟩) connectedSample
        let fresh := moves.foldl (duplexStep ⟨false⟩) (.start l' r')
        q.reclaimed = fresh.reclaimed ∧ ∀ x c, c ≠ .connect → c ≠ .reset →
          callResult ⟨true⟩ (q.view x).left.arq c = callResult ⟨false⟩ (fresh.view x).left.arq c :=
  connection_transparent ⟨true⟩ ⟨false⟩ rfl rfl (smallCfg 1 1 1) (smallCfg 1 1 1) rfl (by decide) (by decide)
    (zeroSeat _) (zeroSeat _) _ _ (arqInit_zeroSeat rfl) (arqInit_zeroSeat rfl) _ (.exec (by decide +kernel))
    connectedSample_connected

end NanoArq.Handshake
