import NanoArq.Link.Reliable
import NanoArq.Reset.Twin

/-!
# A frame that was given back

`arq_backend_send_ptr_release` leaves the send frame released, and nothing asks whether a frame is
released or free: only whether it is held. So an instance acts as the one whose released frame is free.

* `perform_reclaimed`: a call returns the same on both, and leaves two such instances.
* `duplexStep_reclaimed`: so does a move of two linked sides.
-/

namespace NanoArq

open Lib

def SendFrameState.reclaimed : SendFrameState → SendFrameState
  | .released => .free
  | s => s

/-- The instance with its send frame free where it was released. -/
def Arq.reclaimed (arq : Arq) : Arq :=
  { arq with sendFrame := { arq.sendFrame with state := arq.sendFrame.state.reclaimed } }

/-! ## A call -/

section

variable {b : Build} {arq : Arq} {c : Call} {dt : Nat}

theorem SendFrameState.reclaimed_held (s : SendFrameState) : s.reclaimed = .held ↔ s = .held := by
  cases s <;> simp [SendFrameState.reclaimed]

@[simp] theorem SendFrameState.reclaimed_reclaimed (s : SendFrameState) :
    s.reclaimed.reclaimed = s.reclaimed := by cases s <;> rfl

@[simp] theorem Arq.reclaimed_reclaimed (arq : Arq) : arq.reclaimed.reclaimed = arq.reclaimed := by
  simp [Arq.reclaimed]

theorem Arq.reclaimed_of_free (h : arq.sendFrame.state = .free) : arq.reclaimed = arq := by
  rw [Arq.reclaimed, h]
  obtain ⟨_, _, _, ⟨_, _, _, _⟩, _, _, _, _⟩ := arq
  obtain rfl := h
  rfl

theorem sendFrameFree_reclaimed (arq : Arq) : sendFrameFree arq.reclaimed ↔ sendFrameFree arq :=
  and_congr Iff.rfl (not_congr (SendFrameState.reclaimed_held _))

theorem pollWork_reclaimed (b : Build) (arq : Arq) (dt : Nat) :
    pollWork b arq.reclaimed dt = pollWork b arq dt := by
  unfold pollWork
  simp only [sendFrameFree_reclaimed]
  rfl

theorem exposed_reclaimed (arq : Arq) : exposed arq.reclaimed = exposed arq := by
  have hget : backendSendPtrGet arq.reclaimed = backendSendPtrGet arq := rfl
  unfold exposed
  rw [hget]
  exact if_congr (SendFrameState.reclaimed_held _) rfl rfl

theorem backendPoll_reclaimed (b : Build) (arq : Arq) (dt : Nat) :
    (backendPoll b arq.reclaimed dt).2 = (backendPoll b arq dt).2 ∧
      (backendPoll b arq.reclaimed dt).1.reclaimed = (backendPoll b arq dt).1.reclaimed := by
  unfold backendPoll
  simp only [pollWork_reclaimed]
  cases pollFrame (pollWork b arq dt) with
  | some f => exact ⟨rfl, rfl⟩
  | none =>
    refine ⟨rfl, ?_⟩
    simp [Arq.reclaimed]

theorem arqSend_reclaimed (arq : Arq) (data : List UInt8) :
    arqSend arq.reclaimed data = ((arqSend arq data).1.reclaimed, (arqSend arq data).2) := by
  change (if arq.needPoll then _ else _) = _
  unfold arqSend
  split_ifs <;> rfl

theorem arqRecv_reclaimed (arq : Arq) (n : Nat) :
    arqRecv arq.reclaimed n = ((arqRecv arq n).1.reclaimed, (arqRecv arq n).2) := by
  change (if arq.needPoll then _ else _) = _
  unfold arqRecv
  split_ifs <;> rfl

theorem backendRecvFill_reclaimed (arq : Arq) (data : List UInt8) :
    backendRecvFill arq.reclaimed data =
      ((backendRecvFill arq data).1.reclaimed, (backendRecvFill arq data).2) := by
  change (if (recvFrameFill arq.recvFrame data).1.state = .fullFramePresent then _ else _) = _
  simp only [backendRecvFill]
  split_ifs <;> rfl

theorem arqConnect_reclaimed (b : Build) (arq : Arq) :
    arqConnect b arq.reclaimed = ((arqConnect b arq).1.reclaimed, (arqConnect b arq).2) := by
  change (if b.useConnections then if arq.conn.state ≠ .closed then _ else _ else _) = _
  unfold arqConnect
  split_ifs <;> rfl

theorem backendSendPtrRelease_reclaimed (arq : Arq) :
    (backendSendPtrRelease arq.reclaimed).2 = (backendSendPtrRelease arq).2 ∧
      (backendSendPtrRelease arq.reclaimed).1.reclaimed = (backendSendPtrRelease arq).1.reclaimed := by
  have hheld : arq.reclaimed.sendFrame.state ≠ .held ↔ arq.sendFrame.state ≠ .held :=
    not_congr (SendFrameState.reclaimed_held _)
  unfold backendSendPtrRelease
  simp only [hheld]
  split_ifs
  · exact ⟨rfl, arq.reclaimed_reclaimed⟩
  · exact ⟨rfl, rfl⟩

/-- A call returns the same, and leaves instances that are the same in the same sense. -/
theorem perform_reclaimed (b : Build) (arq : Arq) (c : Call) :
    callResult b arq.reclaimed c = callResult b arq c ∧
      (perform b arq.reclaimed c).reclaimed = (perform b arq c).reclaimed := by
  cases c with
  | poll dt =>
    obtain ⟨hout, hnext⟩ := backendPoll_reclaimed b arq dt
    exact ⟨congrArg CallResult.polled hout, hnext⟩
  | sendPtrRelease =>
    obtain ⟨hout, hnext⟩ := backendSendPtrRelease_reclaimed arq
    exact ⟨congrArg CallResult.plain hout, hnext⟩
  | sendPtrGet | reset => exact ⟨rfl, rfl⟩
  | send data => simp only [callResult, perform, arqSend_reclaimed, Arq.reclaimed_reclaimed, and_self]
  | recv n => simp only [callResult, perform, arqRecv_reclaimed, Arq.reclaimed_reclaimed, and_self]
  | flush => exact ⟨rfl, (perform b arq .flush).reclaimed_reclaimed⟩
  | recvFill data =>
    simp only [callResult, perform, backendRecvFill_reclaimed, Arq.reclaimed_reclaimed, and_self]
  | connect => simp only [callResult, perform, arqConnect_reclaimed, Arq.reclaimed_reclaimed, and_self]

end

/-! ## Two linked sides -/

def Station.reclaimed (s : Station) : Station :=
  { s with hist := { s.hist with arq := s.hist.arq.reclaimed } }

def Duplex.reclaimed (p : Duplex) : Duplex :=
  { p with left := p.left.reclaimed, right := p.right.reclaimed }

section

variable {b : Build} {s : Station} {p q : Duplex}

theorem Duplex.view_reclaimed (p : Duplex) (x : Side) : p.reclaimed.view x = (p.view x).reclaimed := by
  cases x <;> rfl

theorem Duplex.view_arq_reclaimed (p : Duplex) (x : Side) :
    (p.view x).left.arq.reclaimed = (p.reclaimed.view x).left.arq := by cases x <;> rfl

@[simp] theorem Duplex.reclaimed_reclaimed (p : Duplex) : p.reclaimed.reclaimed = p.reclaimed := by
  simp [Duplex.reclaimed, Station.reclaimed]

theorem sendHistStep_reclaimed (b : Build) (h : SendHist) (c : Call) :
    ({ sendHistStep b { h with arq := h.arq.reclaimed } c with
        arq := (perform b h.arq.reclaimed c).reclaimed } : SendHist) =
      { sendHistStep b h c with arq := (perform b h.arq c).reclaimed } := by
  have hnext := (perform_reclaimed b h.arq c).2
  have hwnd : (perform b h.arq.reclaimed c).sendWnd = (perform b h.arq c).sendWnd := by
    have hfield := congrArg Arq.sendWnd hnext
    exact hfield
  rw [hnext]
  cases c with
  | poll dt =>
    dsimp only [sendHistStep]
    rw [hwnd, pollWork_reclaimed]
    rfl
  | send data =>
    dsimp only [sendHistStep]
    rw [arqSend_reclaimed]
  | flush | recv | sendPtrGet | sendPtrRelease | recvFill | connect | reset => rfl

/-- What the application has seen does not depend on a released frame. -/
theorem Station.seen_reclaimed {s t : Station} (h : s.reclaimed = t.reclaimed) :
    s.accepted = t.accepted ∧ s.returned = t.returned ∧ s.hist.content = t.hist.content ∧
      s.arq.recvWnd = t.arq.recvWnd := by
  obtain ⟨hhist, haccepted, hreturned⟩ := Station.mk.inj h
  obtain ⟨harq, -, hcontent, -⟩ := SendHist.mk.inj hhist
  obtain ⟨-, -, -, -, hrecv, -⟩ := Arq.mk.inj harq
  exact ⟨haccepted, hreturned, hcontent, hrecv⟩

theorem stationStep_reclaimed (b : Build) (s : Station) (c : Call) :
    (stationStep b s.reclaimed c).reclaimed = (stationStep b s c).reclaimed := by
  have hhist := sendHistStep_reclaimed b s.hist c
  have hsend : ∀ data, (arqSend s.reclaimed.arq data).2 = (arqSend s.arq data).2 := fun data => by
    have h := congrArg Prod.snd (arqSend_reclaimed s.arq data)
    exact h
  have hrecv : ∀ n, (arqRecv s.reclaimed.arq n).2 = (arqRecv s.arq n).2 := fun n => by
    have h := congrArg Prod.snd (arqRecv_reclaimed s.arq n)
    exact h
  simp only [Station.reclaimed, stationStep, sendHistStep_arq, Station.mk.injEq]
  refine ⟨hhist, ?_, ?_⟩
  · cases c with
    | send data => exact congrArg (fun r => s.accepted ++ data.take r.2) (hsend data)
    | _ => rfl
  · cases c with
    | recv n => exact congrArg (fun r => s.returned ++ r.2) (hrecv n)
    | _ => rfl

theorem Duplex.move_reclaimed (b : Build) (p : Duplex) (c : LinkCall) :
    (p.reclaimed.move b c).reclaimed = (p.move b c).reclaimed := by
  have hcall : c.call p.reclaimed.pair = c.call p.pair := by cases c <;> rfl
  have hwires : (p.reclaimed.pair.move b c).toRight = (p.pair.move b c).toRight ∧
      (p.reclaimed.pair.move b c).toLeft = (p.pair.move b c).toLeft := by
    cases c with
    | get keep =>
      refine ⟨?_, rfl⟩
      exact congrArg (fun xs => if keep then p.toRight ++ xs else p.toRight) (exposed_reclaimed p.left.arq)
    | deliver n =>
      refine ⟨rfl, ?_⟩
      exact congrArg (fun r => p.toLeft.drop r.2.2) (backendRecvFill_reclaimed p.left.arq (p.toLeft.take n))
    | _ => exact ⟨rfl, rfl⟩
  simp only [Duplex.reclaimed, Duplex.move, Duplex.mk.injEq]
  refine ⟨?_, ?_, hwires.1, hwires.2⟩
  · change (stationStep b p.left.reclaimed (c.call p.reclaimed.pair)).reclaimed = _
    rw [hcall]
    exact stationStep_reclaimed b p.left _
  · simp [Station.reclaimed]

theorem duplexStep_reclaimed (b : Build) (p : Duplex) (a : Side × LinkCall) :
    (duplexStep b p.reclaimed a).reclaimed = (duplexStep b p a).reclaimed := by
  obtain ⟨x, c⟩ := a
  rw [duplexStep, duplexStep, ← Duplex.view_reclaimed, ← Duplex.view_reclaimed, Duplex.view_reclaimed p,
    Duplex.move_reclaimed]

/-- The condition on a move reads the windows and the frame received, not the state of the send frame. -/
theorem reliableMove_reclaimed (s : Station) (c : LinkCall) : ReliableMove s.reclaimed c ↔ ReliableMove s c := by
  cases c with
  | poll dt =>
    have hclean : CleanPoll s.reclaimed.arq dt ↔ CleanPoll s.arq dt :=
      and_congr Iff.rfl (imp_congr (sendFrameFree_reclaimed s.arq) Iff.rfl)
    exact and_congr (and_congr hclean Iff.rfl) Iff.rfl
  | _ => exact Iff.rfl

/-- A run within the condition is followed by one from the pair whose released frames are free. -/
theorem reliable_reclaimed (hrun : Run (duplexStep b) (fun p a => ReliableMove (p.view a.1).left a.2) p q) :
    ∃ q', Run (duplexStep b) (fun p a => ReliableMove (p.view a.1).left a.2) p.reclaimed q' ∧
      q.reclaimed = q'.reclaimed := by
  refine hrun.related (fun q q' : Duplex => q.reclaimed = q'.reclaimed) (by simp) ?_
  intro s t a hsame hok
  constructor
  · have hside : (s.view a.1).left.reclaimed = (t.view a.1).left.reclaimed := by
      have h := congrArg (fun p : Duplex => (p.view a.1).left) hsame
      rw [Duplex.view_reclaimed, Duplex.view_reclaimed] at h
      exact h
    rw [← reliableMove_reclaimed, ← hside, reliableMove_reclaimed]
    exact hok
  · rw [← duplexStep_reclaimed, hsame, duplexStep_reclaimed]

end

end NanoArq
