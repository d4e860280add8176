import NanoArq.Rejected.Ack
import NanoArq.Rejected.Conn
import NanoArq.Sender.History

/-!
# What a rejected frame does

`arq__recv_poll` drops the segment of a frame that `arq__frame_read` rejects, but hands its header
to `arq__send_poll` and `arq__conn_poll` all the same. `rejected_frame_inert` says exactly when
this makes no difference.
-/

namespace NanoArq

/-- The instance before any byte of a frame has arrived. -/
def emptyRecvFrame (arq : Arq) : Arq := { arq with recvFrame := recvFrameRst arq.recvFrame }

/-- Two polls leave the same instance, the receive frame aside, and return the same. -/
def SameEffect (r r' : Arq × PollOut) : Prop :=
  { r.1 with recvFrame := r'.1.recvFrame } = r'.1 ∧ r.2 = r'.2

theorem SameEffect.sendWnd {r r' : Arq × PollOut} (h : SameEffect r r') :
    r.1.sendWnd = r'.1.sendWnd := by
  rw [← h.1]

/-- The header of the received frame has no effect, neither as an ACK nor on the connection. -/
def HeaderInert (b : Build) (arq : Arq) (dt : Nat) : Prop :=
  AckInert arq.sendWnd arq.sendWndPtr (sendFrameFree arq) (pollRh arq) dt ∧
    (b.useConnections = true → ConnInert arq.conn (sendFrameFree arq) dt (pollRh arq))

/-- A complete frame that `arq__frame_read` rejects has arrived. -/
def FrameRejected (arq : Arq) : Prop :=
  arq.recvFrame.state = .fullFramePresent ∧
    (frameRead arq.recvFrame.buf arq.recvFrame.len arq.cfg.checksum).result ≠ .success

instance (arq : Arq) : Decidable (FrameRejected arq) := inferInstanceAs (Decidable (_ ∧ _))

section

variable {b : Build} {arq : Arq} {dt : Nat} {rh : FrameHdr}

/-- A poll that has received no frame, but runs its send and connection stages with the header
`rh`. -/
def pollWith (b : Build) (arq : Arq) (dt : Nat) (rh : FrameHdr) : Polled :=
  let sh := if sendFrameFree arq then some frameHdrInit else none
  let r := recvPoll arq.recvWnd (recvFrameRst arq.recvFrame) arq.cfg.checksum sh frameHdrInit dt
    arq.cfg.interSegmentTimeout
  let s := sendPoll arq.sendWnd arq.sendWndPtr r.sh rh dt arq.cfg.retransmissionTimeout
  let c := connPoll b arq.conn s.2.2.1 rh dt arq.cfg
  { recvWnd := r.recvWnd
    recvFrame := r.recvFrame
    sendWnd := s.1
    sendWndPtr := s.2.1
    conn := c.conn
    event := c.event
    rh := rh
    sh := c.sh
    emit := r.emit || s.2.2.2 || c.emit }

theorem pollWork_empty :
    pollWork b (emptyRecvFrame arq) dt = pollWith b arq dt frameHdrInit := by
  have hrh : ∀ sh, (recvPoll arq.recvWnd (recvFrameRst arq.recvFrame) arq.cfg.checksum sh
      frameHdrInit dt arq.cfg.interSegmentTimeout).rh = frameHdrInit := by
    intro sh
    cases sh <;> rfl
  unfold pollWork pollWith emptyRecvFrame
  dsimp only
  rw [hrh]
  rfl

/-- `arq__recv_poll` drops a rejected frame, except for its header. -/
theorem recvPoll_rejected (hrej : FrameRejected arq) (sh : Option FrameHdr) :
    recvPoll arq.recvWnd arq.recvFrame arq.cfg.checksum sh frameHdrInit dt
        arq.cfg.interSegmentTimeout =
      { recvPoll arq.recvWnd (recvFrameRst arq.recvFrame) arq.cfg.checksum sh frameHdrInit dt
          arq.cfg.interSegmentTimeout with
        recvFrame := (pollWork b arq dt).recvFrame
        rh := pollRh arq } := by
  obtain ⟨hfull, hresult⟩ := hrej
  have hempty : ¬ (recvFrameRst arq.recvFrame).state = .fullFramePresent := by
    intro h
    cases h
  rw [pollWork_recvFrame, if_pos hfull, pollRh, pollRead_of_full hfull]
  unfold recvPoll recvPollFrame
  rw [if_pos hfull, if_neg hempty]
  dsimp only
  rw [if_neg (fun h => hresult h.1)]
  cases sh <;> rfl

theorem pollWork_rejected (hrej : FrameRejected arq) :
    pollWork b arq dt =
      { pollWith b arq dt (pollRh arq) with recvFrame := (pollWork b arq dt).recvFrame } := by
  have hrecv := @recvPoll_rejected b arq dt hrej (if sendFrameFree arq then some frameHdrInit else none)
  generalize hframe : (pollWork b arq dt).recvFrame = rf at hrecv ⊢
  unfold pollWork pollWith
  dsimp only
  rw [hrecv]

theorem sendPoll_isSome (sw : SendWnd) (sp : SendWndPtr) (sh : Option FrameHdr) (rh : FrameHdr)
    (dt rtx : Nat) : (sendPoll sw sp sh rh dt rtx).2.2.1.isSome = sh.isSome := by
  cases sh <;> rfl

/-- The header makes no difference to the stages exactly when it is inert. -/
theorem pollWith_inert (hrh : pollRh arq = rh) :
    (HeaderInert b arq dt → pollWith b arq dt rh = { pollWith b arq dt frameHdrInit with rh := rh }) ∧
      ((pollWith b arq dt rh).sendWnd = (pollWith b arq dt frameHdrInit).sendWnd →
        (pollWith b arq dt rh).sendWndPtr = (pollWith b arq dt frameHdrInit).sendWndPtr →
        (pollWith b arq dt rh).conn = (pollWith b arq dt frameHdrInit).conn →
        (pollWith b arq dt rh).event = (pollWith b arq dt frameHdrInit).event →
        HeaderInert b arq dt) := by
  obtain ⟨r, hr⟩ : ∃ r, r = recvPoll arq.recvWnd (recvFrameRst arq.recvFrame) arq.cfg.checksum
    (if sendFrameFree arq then some frameHdrInit else none) frameHdrInit dt
    arq.cfg.interSegmentTimeout := ⟨_, rfl⟩
  have hfree : (r.sh.isSome = true) = sendFrameFree arq := by
    rw [hr]
    split
    · rename_i h
      exact propext (iff_of_true rfl h)
    · rename_i h
      exact propext (iff_of_false Bool.false_ne_true h)
  unfold HeaderInert pollWith
  dsimp only
  rw [hrh, ← hr, ← hfree]
  obtain ⟨hsend, hsend'⟩ := sendPoll_inert arq.sendWnd arq.sendWndPtr r.sh rh dt
    arq.cfg.retransmissionTimeout
  constructor
  · rintro ⟨hack, hconn⟩
    rw [hsend hack]
    cases hb : b.useConnections with
    | false =>
      unfold connPoll
      rw [hb]
      rfl
    | true =>
      rw [(connPoll_inert hb _ _ rh dt _).1]
      rw [sendPoll_isSome]
      exact hconn hb
  · intro hsw hp hconn hevent
    have hack := hsend' hsw hp
    refine ⟨hack, ?_⟩
    intro hb
    rw [hsend hack] at hconn hevent
    have := (connPoll_inert hb _ _ rh dt _).2 hconn hevent
    rwa [sendPoll_isSome] at this

end

/-- **A rejected frame is inert exactly when its header is**: the poll has the same effect on
everything but the receive frame, and the same outputs, as a poll without a frame. -/
theorem rejected_frame_inert (b : Build) (arq : Arq) (dt : Nat) (hrej : FrameRejected arq) :
    SameEffect (backendPoll b arq dt) (backendPoll b (emptyRecvFrame arq) dt) ↔
      HeaderInert b arq dt := by
  have hwork := @pollWork_rejected b arq dt hrej
  have hempty := @pollWork_empty b arq dt
  obtain ⟨hinert, hinert'⟩ := @pollWith_inert b arq dt (pollRh arq) rfl
  constructor
  · rintro ⟨harq, hout⟩
    have hsw : (pollWork b arq dt).sendWnd = (pollWork b (emptyRecvFrame arq) dt).sendWnd :=
      congrArg Arq.sendWnd harq
    have hp : (pollWork b arq dt).sendWndPtr = (pollWork b (emptyRecvFrame arq) dt).sendWndPtr :=
      congrArg Arq.sendWndPtr harq
    have hconn : (pollWork b arq dt).conn = (pollWork b (emptyRecvFrame arq) dt).conn :=
      congrArg Arq.conn harq
    have hevent : (pollWork b arq dt).event = (pollWork b (emptyRecvFrame arq) dt).event :=
      congrArg PollOut.event hout
    rw [hwork, hempty] at hsw hp hconn hevent
    exact hinert' hsw hp hconn hevent
  · intro h
    rw [hinert h, ← hempty] at hwork
    unfold SameEffect backendPoll
    rw [hwork]
    exact ⟨rfl, rfl⟩

/-- A sender with one unacknowledged message has received an ACK whose checksum is wrong. -/
def corruptAckArq (ackNum : Nat) : Arq :=
  [.send [7], .poll 0, .sendPtrGet, .sendPtrRelease,
    .recvFill (ackBytes { smallCfg 1 1 1 with checksum := fun _ => 99 } ackNum 1)].foldl
    (perform ⟨false⟩) (freshArq ⟨false⟩ (smallCfg 1 1 1))

theorem rejected_frame_inert_sample :
    SameEffect (backendPoll ⟨false⟩ (corruptAckArq 1) 0)
      (backendPoll ⟨false⟩ (emptyRecvFrame (corruptAckArq 1)) 0) := by
  refine (rejected_frame_inert ⟨false⟩ (corruptAckArq 1) 0 (by decide +kernel)).mpr ⟨?_, ?_⟩
  · intro _ hwnd
    exact absurd hwnd (by decide +kernel)
  · intro hb
    cases hb

/-- The rejected ACK removes the message. -/
theorem rejected_ack_handled :
    FrameRejected (corruptAckArq 0) ∧
      (frameRead (corruptAckArq 0).recvFrame.buf (corruptAckArq 0).recvFrame.len
        (corruptAckArq 0).cfg.checksum).result = .errChecksum ∧
      (backendPoll ⟨false⟩ (corruptAckArq 0) 0).1.sendWnd.w.size = 0 ∧
      (backendPoll ⟨false⟩ (emptyRecvFrame (corruptAckArq 0)) 0).1.sendWnd.w.size = 1 ∧
      ¬ SameEffect (backendPoll ⟨false⟩ (corruptAckArq 0) 0)
        (backendPoll ⟨false⟩ (emptyRecvFrame (corruptAckArq 0)) 0) := by
  have hread : (backendPoll ⟨false⟩ (corruptAckArq 0) 0).1.sendWnd.w.size = 0 := by decide +kernel
  have hempty : (backendPoll ⟨false⟩ (emptyRecvFrame (corruptAckArq 0)) 0).1.sendWnd.w.size = 1 := by
    decide +kernel
  refine ⟨by decide +kernel, by decide +kernel, hread, hempty, ?_⟩
  intro hsame
  rw [hsame.sendWnd, hempty] at hread
  cases hread

end NanoArq
