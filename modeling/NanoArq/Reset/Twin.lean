import NanoArq.Codec.Accumulate
import NanoArq.Poll.ConnStep
import NanoArq.Poll.HandOff
import NanoArq.Poll.Resync
import NanoArq.Reset.RecvSide

/-!
# Two instances that differ in stale bytes

An instance is followed with a mark on every cell of its buffers whose content is known, and compared
with one that agrees with it on the marked cells: `Twin`. A call that reads marked cells only returns
the same on both and keeps the relation, `Twin.step`.
-/

namespace NanoArq

open Lib

/-! ## The connection -/

/-- Connections that differ in what their states do not read. -/
structure ConnTwin (c c' : Conn) : Prop where
  state : c'.state = c.state
  rstSent : c.state = .rstSent → c' = c
  rstRecvd : c.state = .rstRecvd → ∃ x, c' = { c with u := { c.u with simultaneous := x } }

structure CtxTwin (ctx ctx' : ConnCtx) : Prop where
  conn : ConnTwin ctx.conn ctx'.conn
  sh : ctx.sh = ctx'.sh
  emit : ctx.emit = ctx'.emit
  event : ctx.event = ctx'.event

theorem ConnTwin.refl (c : Conn) : ConnTwin c c := ⟨rfl, fun _ => rfl, fun _ => ⟨_, rfl⟩⟩

theorem ConnTwin.of_state {c c' : Conn} (h : c'.state = c.state) (hsent : c.state ≠ .rstSent)
    (hrecvd : c.state ≠ .rstRecvd) : ConnTwin c c' :=
  ⟨h, fun hc => absurd hc hsent, fun hc => absurd hc hrecvd⟩

section

variable {cfg : Cfg} {dt : Nat} {rh : FrameHdr}

theorem rstRecvd_twin {ctx : ConnCtx} (hstate : ctx.conn.state = .rstRecvd) (x : Bool) :
    CtxTwin (connPollStateRstRecvd cfg dt rh ctx).1
      (connPollStateRstRecvd cfg dt rh
        { ctx with conn := { ctx.conn with u := { ctx.conn.u with simultaneous := x } } }).1 := by
  obtain ⟨⟨state, u⟩, sh, emit, event⟩ := ctx
  obtain rfl : state = .rstRecvd := hstate
  have hother : ∀ {st : ConnState} {v v' : ConnUnion}, st ≠ .rstSent → st ≠ .rstRecvd →
      ConnTwin ⟨st, v⟩ ⟨st, v'⟩ := fun h₁ h₂ => .of_state rfl h₁ h₂
  have hsame : ∀ v : ConnUnion, ConnTwin ⟨.rstRecvd, v⟩ ⟨.rstRecvd, { v with simultaneous := x }⟩ :=
    fun v => ⟨rfl, fun h => ConnState.noConfusion h, fun _ => ⟨x, rfl⟩⟩
  unfold connPollStateRstRecvd
  by_cases hseg : rh.seg = true
  · rw [if_pos hseg, if_pos hseg]
    exact ⟨hother (by decide) (by decide), rfl, rfl, rfl⟩
  · rw [if_neg hseg, if_neg hseg]
    by_cases hack : rh.ack = true
    · rw [if_pos hack, if_pos hack]
      by_cases hnoted : u.rstAck = true
      · rw [if_pos hnoted, if_pos hnoted]
        exact ⟨hother (by decide) (by decide), rfl, rfl, rfl⟩
      · rw [if_neg hnoted, if_neg hnoted]
        exact ⟨hother (by decide) (by decide), rfl, rfl, rfl⟩
    · rw [if_neg hack, if_neg hack]
      unfold connRetransmit
      cases sh with
      | none => exact ⟨hsame _, rfl, rfl, rfl⟩
      | some sh =>
        dsimp only
        by_cases htmr : subSat u.tmr dt = 0
        · rw [if_pos htmr, if_pos htmr]
          by_cases hcnt : (u.cnt + 1) % 4294967296 > cfg.connectionRstAttempts
          · rw [if_pos hcnt, if_pos hcnt]
            exact ⟨hother (by decide) (by decide), rfl, rfl, rfl⟩
          · rw [if_neg hcnt, if_neg hcnt]
            exact ⟨hsame _, rfl, rfl, rfl⟩
        · rw [if_neg htmr, if_neg htmr]
          exact ⟨hsame _, rfl, rfl, rfl⟩

theorem connPollGo_twin {ctx ctx' : ConnCtx} (h : CtxTwin ctx ctx') :
    CtxTwin (connPollGo cfg dt rh 2 ctx).1 (connPollGo cfg dt rh 2 ctx').1 := by
  obtain ⟨⟨state, u⟩, sh, emit, event⟩ := ctx
  obtain ⟨⟨state', u'⟩, sh', emit', event'⟩ := ctx'
  obtain ⟨hconn, hsh, hemit, hevent⟩ := h
  obtain rfl : state = state' := hconn.state.symm
  obtain rfl : sh = sh' := hsh
  obtain rfl : emit = emit' := hemit
  obtain rfl : event = event' := hevent
  by_cases hclosed : state = .closed
  · subst hclosed
    rw [connPollGo_closed rfl, connPollGo_closed rfl]
    have hother : ∀ {v v' : ConnUnion}, ConnTwin ⟨.closed, v⟩ ⟨.closed, v'⟩ :=
      .of_state rfl (fun h => ConnState.noConfusion h) (fun h => ConnState.noConfusion h)
    split_ifs
    · exact ⟨hother, rfl, rfl, rfl⟩
    · exact rstRecvd_twin rfl u'.simultaneous
    · exact ⟨hother, rfl, rfl, rfl⟩
  · by_cases hsent : state = .rstSent
    · obtain rfl : u' = u := congrArg Conn.u (hconn.rstSent hsent)
      exact ⟨.refl _, rfl, rfl, rfl⟩
    · by_cases hrecvd : state = .rstRecvd
      · obtain ⟨x, hx⟩ := hconn.rstRecvd hrecvd
        cases hx
        rw [connPollGo_rstRecvd hrecvd, connPollGo_rstRecvd hrecvd]
        exact rstRecvd_twin hrecvd x
      · rw [connPollGo_other hclosed hsent hrecvd, connPollGo_other hclosed hsent hrecvd]
        exact ⟨hconn, rfl, rfl, rfl⟩

theorem connPoll_twin {c c' : Conn} (h : ConnTwin c c') (b : Build) (sh : Option FrameHdr) :
    CtxTwin (connPoll b c sh rh dt cfg) (connPoll b c' sh rh dt cfg) := by
  unfold connPoll
  split
  · have hgo := @connPollGo_twin cfg dt rh ⟨c, sh, false, .none⟩ ⟨c', sh, false, .none⟩
      ⟨h, rfl, rfl, rfl⟩
    dsimp only
    rw [← hgo.sh, ← hgo.emit]
    exact ⟨hgo.conn, rfl, rfl, hgo.event⟩
  · exact ⟨h, rfl, rfl, rfl⟩

theorem connNextPoll_twin {c c' : Conn} (h : ConnTwin c c') : connNextPoll c' = connNextPoll c := by
  obtain ⟨state, u⟩ := c
  obtain ⟨state', u'⟩ := c'
  obtain rfl : state' = state := h.state
  cases state' with
  | rstSent => rw [h.rstSent rfl]
  | rstRecvd =>
    obtain ⟨x, hx⟩ := h.rstRecvd rfl
    rw [hx]
    rfl
  | _ => rfl

end

/-! ## Calls and their results -/

/-- What a call returns to its caller. -/
inductive CallResult where
  | plain (err : Err)
  | counted (err : Err) (n : Nat)
  | bytes (err : Err) (read : List UInt8)
  | frame (exposed : Option (List UInt8))
  | polled (out : PollOut)
deriving DecidableEq, Repr

def callResult (b : Build) (arq : Arq) : Call → CallResult
  | .send data => .counted (arqSend arq data).2.1 (arqSend arq data).2.2
  | .flush => .plain (arqFlush arq).2
  | .recv recvMax => .bytes (arqRecv arq recvMax).2.1 (arqRecv arq recvMax).2.2
  | .poll dt => .polled (backendPoll b arq dt).2
  | .sendPtrGet => .frame (backendSendPtrGet arq).2
  | .sendPtrRelease => .plain (backendSendPtrRelease arq).2
  | .recvFill data => .counted (backendRecvFill arq data).2.1 (backendRecvFill arq data).2.2
  | .connect => .plain (arqConnect b arq).2
  | .reset => .plain (arqReset b arq).2

/-- The marks on the buffers of the send window, the receive window and the receive frame. -/
structure Marks where
  sendBuf : Mem Bool
  recvBuf : Mem Bool
  frameBuf : Mem Bool

/-- The marks after a call: what it copies into a buffer is marked. -/
def marksAfter (arq : Arq) (m : Marks) : Call → Marks
  | .send data =>
    if arq.needPoll then m
    else { m with sendBuf := sendMarks m.sendBuf arq.sendWnd.w data.length }
  | .poll _ =>
    let stored := recvPollStored arq.recvWnd arq.recvFrame arq.cfg.checksum
    { m with recvBuf := paint m.recvBuf stored.1 stored.2 }
  | .recvFill data =>
    { m with
      frameBuf := paint m.frameBuf arq.recvFrame.len (recvFrameFill arq.recvFrame data).2 }
  | _ => m

/-- An instance with its marks. -/
structure MarkedArq where
  arq : Arq
  marks : Marks

/-- The cells that a call reads are marked: the header of a frame that a poll handles, the segment
that it sends, and the bytes that `arq_recv` copies. -/
def ReadsMarked (x : MarkedArq) : Call → Prop
  | .poll dt =>
    let sp := (sendWndPtrNext x.arq.sendWndPtr (pollTimers x.arq dt)).1
    let seg := wndSeg (pollTimers x.arq dt).w sp.seq sp.seg
    (x.arq.recvFrame.state = .fullFramePresent → Marked x.marks.frameBuf 1 frameHeaderSize) ∧
      (sendFrameFree x.arq ∧ sp.valid = true → Marked x.marks.sendBuf seg.1 seg.2)
  | .recv recvMax =>
    x.arq.needPoll = false → ∀ r ∈ recvReads x.arq.recvWnd recvMax, Marked x.marks.recvBuf r.1 r.2
  | _ => True

instance (x : MarkedArq) (c : Call) : Decidable (ReadsMarked x c) :=
  match c with
  | .poll _ => inferInstanceAs (Decidable (_ ∧ _))
  | .recv _ => inferInstanceAs (Decidable (_ → ∀ r ∈ _, _))
  | .send _ => .isTrue trivial
  | .flush => .isTrue trivial
  | .sendPtrGet => .isTrue trivial
  | .sendPtrRelease => .isTrue trivial
  | .recvFill _ => .isTrue trivial
  | .connect => .isTrue trivial
  | .reset => .isTrue trivial

/-! ## Two instances -/

/-- The instances differ only in cells without a mark and in what no state of theirs reads. -/
structure Twin (m : Marks) (a a' : Arq) : Prop where
  cfg : a'.cfg = a.cfg
  needPoll : a'.needPoll = a.needPoll
  ptr : a'.sendWndPtr = a.sendWndPtr
  send : SendTwin m.sendBuf a.sendWnd a'.sendWnd
  recv : RecvTwin m.recvBuf a.recvWnd a'.recvWnd
  frame : FrameTwin m.frameBuf a.recvFrame a'.recvFrame
  outLen : a'.sendFrame.len = a.sendFrame.len
  outState : a'.sendFrame.state = a.sendFrame.state
  outBytes : slice a.sendFrame.buf 0 a.sendFrame.len = slice a'.sendFrame.buf 0 a.sendFrame.len
  conn : ConnTwin a.conn a'.conn

section

variable {b : Build} {m : Marks} {a a' : Arq} {dt : Nat}

theorem Twin.free (h : Twin m a a') : sendFrameFree a' ↔ sendFrameFree a := by
  unfold sendFrameFree
  rw [h.outLen, h.outState]

/-- The states of a poll before it writes its frame. -/
structure PolledTwin (m : Marks) (p p' : Polled) : Prop where
  recv : RecvTwin m.recvBuf p.recvWnd p'.recvWnd
  frame : FrameTwin m.frameBuf p.recvFrame p'.recvFrame
  send : SendTwin m.sendBuf p.sendWnd p'.sendWnd
  ptr : p.sendWndPtr = p'.sendWndPtr
  ctx : CtxTwin ⟨p.conn, p.sh, p.emit, p.event⟩ ⟨p'.conn, p'.sh, p'.emit, p'.event⟩

theorem Twin.polled (h : Twin m a a')
    (hhdr : a.recvFrame.state = .fullFramePresent → Marked m.frameBuf 1 frameHeaderSize) :
    PolledTwin (marksAfter a m (.poll dt)) (pollWork b a dt) (pollWork b a' dt) := by
  have hfree : (if sendFrameFree a' then some frameHdrInit else none) =
      if sendFrameFree a then some frameHdrInit else none := by
    simp only [h.free]
  unfold pollWork
  dsimp only
  rw [h.cfg, h.ptr, hfree]
  generalize (if sendFrameFree a then some frameHdrInit else none) = sh
  obtain ⟨hrecv, hframe, hsh, hrh, hemit⟩ := recvPoll_twin h.recv h.frame hhdr a.cfg.checksum sh
    frameHdrInit dt a.cfg.interSegmentTimeout rfl rfl
  generalize recvPoll a.recvWnd a.recvFrame a.cfg.checksum sh frameHdrInit dt
    a.cfg.interSegmentTimeout = r at *
  generalize recvPoll a'.recvWnd a'.recvFrame a.cfg.checksum sh frameHdrInit dt
    a.cfg.interSegmentTimeout = r' at *
  obtain ⟨hsend, hsent⟩ :=
    sendPoll_twin h.send a.sendWndPtr r.sh r.rh dt a.cfg.retransmissionTimeout
  have hconn := @connPoll_twin a.cfg dt r.rh _ _ h.conn b
    (sendPoll a.sendWnd a.sendWndPtr r.sh r.rh dt a.cfg.retransmissionTimeout).2.2.1
  rw [← hsh, ← hrh, ← hemit, ← hsent]
  refine ⟨hrecv, hframe, hsend, rfl, hconn.conn, hconn.sh, ?_, hconn.event⟩
  dsimp only
  rw [hconn.emit]

/-- A segment whose cells are marked is sent with the same bytes. -/
theorem PolledTwin.frame_eq {m' : Marks} (hp : PolledTwin m' (pollWork b a dt) (pollWork b a' dt))
    (hseg : ∀ sp, sp = (sendWndPtrNext a.sendWndPtr (pollTimers a dt)).1 →
      sendFrameFree a ∧ sp.valid = true →
      Marked m'.sendBuf (wndSeg (pollTimers a dt).w sp.seq sp.seg).1
        (wndSeg (pollTimers a dt).w sp.seq sp.seg).2) :
    pollFrame (pollWork b a' dt) = pollFrame (pollWork b a dt) := by
  have hwnd := pollWork_sendWnd_w b a dt
  have hdata := (pollFrame_data b a dt).2
  obtain ⟨-, -, hsend, -, -, hsh, hemit, -⟩ := hp
  dsimp only at hsh hemit
  generalize pollWork b a dt = p at *
  generalize pollWork b a' dt = p' at *
  unfold pollFrame at hdata ⊢
  rw [← hsh, ← hemit]
  cases hcase : p.sh with
  | none => rfl
  | some sh =>
    rw [hcase] at hdata
    dsimp only at hdata ⊢
    by_cases hsent : p.emit = true
    · rw [if_pos hsent] at hdata
      rw [if_pos hsent, if_pos hsent]
      by_cases hseg' : sh.seg = true
      · rw [if_pos hseg'] at hdata
        rw [if_pos hseg', if_pos hseg']
        obtain ⟨hfree, hvalid, hd⟩ := hdata _ _ rfl hseg'
        have hmarked := hseg _ rfl ⟨hfree, hvalid⟩
        have hnum := hd.seqNum
        have hid := hd.segId
        dsimp only at hnum hid
        rw [← hnum, ← hid, ← hwnd] at hmarked
        obtain ⟨msg, buf, rtx, heq, hw, -⟩ := hsend
        rw [heq]
        dsimp only
        rw [hw.wndSeg, hw.buf.slice_eq hmarked]
      · rw [if_neg hseg', if_neg hseg']
    · rw [if_neg hsent, if_neg hsent]

theorem nextPoll_twin {sb rb : Mem Bool} {sw sw' : SendWnd} {rw rw' : RecvWnd} {c c' : Conn}
    (hsend : SendTwin sb sw sw') (hrecv : RecvTwin rb rw rw') (hconn : ConnTwin c c') :
    nextPoll b sw' rw' c' = nextPoll b sw rw c := by
  obtain ⟨msg, buf, rtx, rfl, hw, hrtx⟩ := hsend
  obtain ⟨msg', buf', ack, rfl, -⟩ := hrecv
  unfold nextPoll
  simp only [connNextPoll_twin hconn, ← hrtx.mod hw.cap_pos]

/-- A poll that reads marked cells returns the same and leaves the instances related. -/
theorem Twin.poll (h : Twin m a a') (hclean : ReadsMarked ⟨a, m⟩ (.poll dt)) :
    (backendPoll b a dt).2 = (backendPoll b a' dt).2 ∧
      Twin (marksAfter a m (.poll dt)) (backendPoll b a dt).1 (backendPoll b a' dt).1 := by
  have hp := @Twin.polled b m a a' dt h hclean.1
  have hframe := hp.frame_eq fun sp hsp hsent => by
    subst hsp
    exact hclean.2 hsent
  have hnext := @nextPoll_twin b _ _ _ _ _ _ _ _ hp.send hp.recv hp.ctx.conn
  have hpending := recvWndPending_twin hp.recv
  have hout : (backendPoll b a' dt).1.sendFrame.len = (backendPoll b a dt).1.sendFrame.len ∧
      (backendPoll b a' dt).1.sendFrame.state = (backendPoll b a dt).1.sendFrame.state ∧
      slice (backendPoll b a dt).1.sendFrame.buf 0 (backendPoll b a dt).1.sendFrame.len =
        slice (backendPoll b a' dt).1.sendFrame.buf 0 (backendPoll b a dt).1.sendFrame.len := by
    rw [backendPoll_sendFrame, backendPoll_sendFrame, hframe, h.cfg]
    cases hwritten : pollFrame (pollWork b a dt) with
    | none => exact ⟨h.outLen, h.outState, h.outBytes⟩
    | some f =>
      obtain ⟨hd, payload⟩ := f
      have hbytes := frameWrite_agree a.cfg.checksum (pollFrame_length hwritten)
        a.sendFrame.buf a'.sendFrame.buf
      have hle : u16 (frameLen hd.segLen) ≤ frameLen hd.segLen := Nat.mod_le _ _
      have hshort := congrArg (List.take (u16 (frameLen hd.segLen))) hbytes
      rw [take_slice _ _ hle, take_slice _ _ hle] at hshort
      dsimp only
      rw [frameWrite_snd, frameWrite_snd]
      exact ⟨rfl, rfl, hshort⟩
  refine ⟨?_, ⟨h.cfg, rfl, hp.ptr.symm, hp.send, hp.recv, hp.frame, hout.1, hout.2.1, hout.2.2,
    hp.ctx.conn⟩⟩
  have hfields : ∀ x, (backendPoll b x dt).2 =
      { event := (pollWork b x dt).event
        sendReady := decide ((backendPoll b x dt).1.sendFrame.len > 0)
        recvReady := recvWndPending (pollWork b x dt).recvWnd
        nextPoll := nextPoll b (pollWork b x dt).sendWnd (pollWork b x dt).recvWnd
          (pollWork b x dt).conn } := fun _ => rfl
  have hevent : (pollWork b a dt).event = (pollWork b a' dt).event := hp.ctx.event
  rw [hfields, hfields, hout.1, hevent, hpending, hnext]

theorem sendWndRst_twin {sb : Mem Bool} {sw sw' : SendWnd} (h : SendTwin sb sw sw') :
    SendTwin sb (sendWndRst sw) (sendWndRst sw') := by
  obtain ⟨msg, buf, rtx, rfl, hw, hrtx⟩ := h
  exact ⟨_, buf, _, rfl, ⟨hw.cap_pos, foldl_keeps (fun _ _ _ hm => hm.update _ _) _ hw.msg, hw.buf⟩,
    foldl_keeps (fun _ _ _ ht => ht.update _ _) _ hrtx⟩

theorem recvWndRst_twin {rb : Mem Bool} {rw rw' : RecvWnd} (h : RecvTwin rb rw rw') :
    RecvTwin rb (recvWndRst rw) (recvWndRst rw') := by
  obtain ⟨msg, buf, ack, rfl, hw, hack⟩ := h
  exact ⟨_, buf, _, rfl, ⟨hw.cap_pos, foldl_keeps (fun _ _ _ hm => hm.update _ _) _ hw.msg, hw.buf⟩,
    foldl_keeps (fun _ _ _ ht => ht.update _ _) _ hack⟩

/-- A call that reads marked cells returns the same and leaves the instances related. -/
theorem Twin.step (h : Twin m a a') (c : Call) (hclean : ReadsMarked ⟨a, m⟩ c) :
    callResult b a c = callResult b a' c ∧
      Twin (marksAfter a m c) (perform b a c) (perform b a' c) := by
  cases c with
  | send data =>
    obtain ⟨htaken, hsend⟩ := sendWndSend_twin h.send data a.cfg.tinygramSendDelay
    simp only [callResult, perform, marksAfter, arqSend]
    rw [h.needPoll, h.cfg]
    cases hneed : a.needPoll with
    | true => exact ⟨rfl, h⟩
    | false =>
      simp only [Bool.false_eq_true, if_false]
      rw [← htaken]
      exact ⟨rfl, ⟨rfl, rfl, h.ptr, hsend, h.recv, h.frame, h.outLen, h.outState, h.outBytes,
        h.conn⟩⟩
  | flush =>
    exact ⟨rfl, ⟨h.cfg, h.needPoll, h.ptr, sendWndFlush_twin h.send, h.recv, h.frame, h.outLen,
      h.outState, h.outBytes, h.conn⟩⟩
  | recv recvMax =>
    simp only [callResult, perform, marksAfter, arqRecv]
    rw [h.needPoll]
    cases hneed : a.needPoll with
    | true => exact ⟨rfl, h⟩
    | false =>
      obtain ⟨hread, hrest⟩ := recvWndRecv_twin h.recv (hclean hneed)
      simp only [Bool.false_eq_true, if_false]
      rw [← hread]
      exact ⟨rfl, ⟨h.cfg, rfl, h.ptr, h.send, hrest, h.frame, h.outLen, h.outState, h.outBytes,
        h.conn⟩⟩
  | poll dt =>
    obtain ⟨hout, hnext⟩ := @Twin.poll b m a a' dt h hclean
    exact ⟨congrArg CallResult.polled hout, hnext⟩
  | sendPtrGet =>
    simp only [callResult, perform, marksAfter, backendSendPtrGet]
    rw [h.outLen, ← h.outBytes]
    split
    · exact ⟨rfl, ⟨h.cfg, h.needPoll, h.ptr, h.send, h.recv, h.frame, rfl, rfl, h.outBytes, h.conn⟩⟩
    · exact ⟨rfl, ⟨h.cfg, h.needPoll, h.ptr, h.send, h.recv, h.frame, rfl, rfl, h.outBytes, h.conn⟩⟩
  | sendPtrRelease =>
    simp only [callResult, perform, marksAfter, backendSendPtrRelease]
    rw [h.outState]
    split
    · exact ⟨rfl, h⟩
    · exact ⟨rfl, ⟨h.cfg, rfl, h.ptr, h.send, h.recv, h.frame, rfl, rfl, rfl, h.conn⟩⟩
  | recvFill data =>
    obtain ⟨htaken, hframe⟩ := recvFrameFill_twin h.frame data
    have hstate : (recvFrameFill a'.recvFrame data).1.state =
        (recvFrameFill a.recvFrame data).1.state := by
      obtain ⟨buf, heq, -⟩ := hframe
      rw [heq]
    simp only [callResult, perform, marksAfter, backendRecvFill]
    rw [hstate, ← htaken]
    split
    · exact ⟨rfl, ⟨h.cfg, rfl, h.ptr, h.send, h.recv, hframe, h.outLen, h.outState, h.outBytes,
        h.conn⟩⟩
    · exact ⟨rfl, ⟨h.cfg, h.needPoll, h.ptr, h.send, h.recv, hframe, h.outLen, h.outState, h.outBytes,
        h.conn⟩⟩
  | connect =>
    simp only [callResult, perform, marksAfter, arqConnect]
    rw [h.conn.state]
    split_ifs
    · exact ⟨rfl, h⟩
    · exact ⟨rfl, ⟨h.cfg, h.needPoll, h.ptr, h.send, h.recv, h.frame, h.outLen, h.outState,
        h.outBytes, .refl _⟩⟩
    · exact ⟨rfl, h⟩
  | reset =>
    obtain ⟨buf, hframe, hbuf, -⟩ := h.frame
    have hopen : ∀ {v v' : ConnUnion},
        ConnTwin ⟨if b.useConnections then .closed else .established, v⟩
          ⟨if b.useConnections then .closed else .established, v'⟩ := by
      intro v v'
      split <;> exact .of_state rfl (fun h => ConnState.noConfusion h)
        (fun h => ConnState.noConfusion h)
    refine ⟨rfl, ⟨h.cfg, rfl, rfl, sendWndRst_twin h.send, recvWndRst_twin h.recv, ?_, rfl, rfl, rfl,
      hopen⟩⟩
    refine ⟨buf, ?_, hbuf, fun j hj => absurd hj (Nat.not_lt_zero j)⟩
    simp only [perform, arqReset, rstArq]
    rw [hframe]
    rfl

end

end NanoArq
