import NanoArq.Link.Reliable

/-!
# Turns

A side takes a turn when it polls, passes the frame that it has written to the wire, and gives the
frame back: `Duplex.speak`. Before its turn it may take the next frame from the wire: `Duplex.listen`.
No frame is lost. `Reaches` says that such moves lead from one state to another, within the condition.
-/

namespace NanoArq

open Lib

/-! ## A frame is taken from the wire -/

section

variable {checksum : Checksum} {f : RecvFrame} {wire : List UInt8}
  {items : List (FrameHdr × List UInt8)}

/-- Where a frame is on its way, the receive frame is full when it was offered the whole wire. -/
theorem Incoming.fill_all (h : Incoming checksum f wire items) (hne : items ≠ []) :
    (recvFrameFill f (wire.take wire.length)).1.state = .fullFramePresent := by
  rw [List.take_length]
  obtain ⟨-, hitems, ⟨pre, hacc, hstream⟩ | ⟨p, rest, -, hfull, -⟩⟩ := h
  · cases items with
    | nil => exact absurd rfl hne
    | cons p items =>
      have hroom := (hitems p List.mem_cons_self).room
      obtain ⟨body, hbody, -, hhead⟩ := streamOf_cons checksum items (hitems p List.mem_cons_self)
      rw [hhead] at hstream
      obtain ⟨hacc', -⟩ | ⟨a, c, -, -, -, hfull, -⟩ | ⟨a, c, hchunk, -, hlen, hacc', -⟩ :=
        recvFrameFill_cases hacc wire
      · -- All was taken, the zero at the end of the first frame too.
        rw [hstream] at hacc'
        exact absurd rfl (hacc'.nonzero 0 (by simp))
      · exact hfull.state
      · rw [hchunk, ← List.append_assoc] at hstream
        obtain ⟨b', rfl, -⟩ := split_before_zero hacc'.nonzero hstream
        have hlen' := length_encodeFrame checksum p.1 p.2
        rw [hbody] at hlen'
        simp only [List.length_append, List.length_cons, List.length_nil] at hlen hlen'
        omega
  · rw [recvFrameFill, if_pos hfull.state]
    exact hfull.state

theorem InFlight.deliver_all {out : SendFrame} {arq : Arq} {q : List (FrameHdr × List UInt8)}
    (h : InFlight checksum out wire arq.recvFrame q) (hlen : out.len = 0) (hne : q ≠ []) :
    (backendRecvFill arq (wire.take wire.length)).1.recvFrame.state = .fullFramePresent := by
  obtain ⟨items, item, rfl, hin, hout, -⟩ := h
  rw [backendRecvFill_recvFrame]
  cases hout with
  | ready _ hlen' =>
    rw [hlen, frameLen_eq] at hlen'
    omega
  | idle | taken => exact hin.fill_all (by simpa using hne)

/-- Nothing is in flight when the wire and both frames are empty. -/
theorem InFlight.nil {out : SendFrame} {inn : RecvFrame} {q : List (FrameHdr × List UInt8)}
    (h : InFlight checksum out [] inn q) (hlen : out.len = 0) (hstate : inn.state = .accumulating)
    (hinn : inn.len = 0) : q = [] := by
  obtain ⟨items, item, rfl, ⟨-, hitems, hheld⟩, hout, -⟩ := h
  have hitem : item = none := by
    cases hout with
    | ready _ hlen' =>
      rw [hlen, frameLen_eq] at hlen'
      omega
    | idle | taken => rfl
  rw [hitem, Option.toList_none, List.append_nil]
  obtain ⟨pre, hacc, hstream⟩ | ⟨p, rest, -, hfull, -⟩ := hheld
  · cases items with
    | nil => rfl
    | cons p items =>
      have hpre : pre = [] := List.eq_nil_of_length_eq_zero (hacc.len.symm.trans hinn)
      have hlen' := congrArg List.length hstream
      rw [hpre, streamOf, List.map_cons, List.flatten_cons] at hlen'
      simp only [List.length_append, List.length_nil, length_encodeFrame, frameLen_eq] at hlen'
      omega
  · rw [hfull.state] at hstate
    cases hstate

end

/-! ## Moves without loss -/

def Lossless (p : Duplex) (a : Side × LinkCall) : Prop :=
  ReliableMove (p.view a.1).left a.2 ∧ a.2 ≠ .get false

/-- Moves within the condition lead from one state to the other, and no frame is lost. -/
def Reaches (b : Build) (p q : Duplex) : Prop := Run (duplexStep b) Lossless p q

/-- The left side polls, passes its frame to the wire and gives it back. -/
def Duplex.speak (b : Build) (p : Duplex) (dt : Nat) : Duplex :=
  ((p.move b (.poll dt)).move b (.get true)).move b .release

/-- The left side takes what the wire holds, up to the end of a frame. -/
def Duplex.listen (b : Build) (p : Duplex) : Duplex := p.move b (.deliver p.toLeft.length)

section

variable {b : Build} {p q r : Duplex} {c : LinkCall} {dt : Nat}

theorem Reaches.refl : Reaches b p p := .start

theorem Reaches.trans (h : Reaches b p q) (h' : Reaches b q r) : Reaches b p r := Run.trans h h'

theorem Reaches.move (hok : ReliableMove p.left c) (hc : c ≠ .get false) : Reaches b p (p.move b c) :=
  @Run.next _ _ (duplexStep b) Lossless p p .start (.left, c) ⟨hok, hc⟩

theorem Reaches.swap (h : Reaches b p q) : Reaches b p.swap q.swap := by
  refine Run.map Duplex.swap ?_ h
  rintro p ⟨x, c⟩ hok
  cases x with
  | left => exact @Run.next _ _ (duplexStep b) Lossless _ _ .start (.right, c) hok
  | right => exact @Run.next _ _ (duplexStep b) Lossless _ _ .start (.left, c) hok

theorem Reaches.speak (hok : ReliableMove p.left (.poll dt)) : Reaches b p (p.speak b dt) := by
  have hget : ∀ p : Duplex, Reaches b p (p.move b (.get true)) := fun _ => .move trivial (by simp)
  have hrelease : ∀ p : Duplex, Reaches b p (p.move b .release) := fun _ => .move trivial (by simp)
  exact ((Reaches.move hok (by simp)).trans (hget _)).trans (hrelease _)

theorem Reaches.listen (b : Build) (p : Duplex) : Reaches b p (p.listen b) :=
  .move trivial (by simp)

/-- What a turn leaves of the side that takes it. -/
theorem Duplex.speak_left (b : Build) (p : Duplex) (dt : Nat) :
    (p.speak b dt).left =
      { hist := { sendHistStep b p.left.hist (.poll dt) with arq := takeFrame (perform b p.left.arq (.poll dt)) }
        accepted := p.left.accepted
        returned := p.left.returned } := rfl

@[simp] theorem Duplex.speak_right (b : Build) (p : Duplex) (dt : Nat) : (p.speak b dt).right = p.right :=
  rfl

@[simp] theorem Duplex.listen_right (b : Build) (p : Duplex) : (p.listen b).right = p.right := rfl

theorem Duplex.speak_arq (b : Build) (p : Duplex) (dt : Nat) :
    (p.speak b dt).left.arq = takeFrame (perform b p.left.arq (.poll dt)) := rfl

/-- Taking from the wire changes nothing but the receive frame and what is left to do. -/
theorem Duplex.listen_left (b : Build) (p : Duplex) :
    (p.listen b).left =
      { hist := { p.left.hist with arq := perform b p.left.arq (.recvFill (p.toLeft.take p.toLeft.length)) }
        accepted := p.left.accepted
        returned := p.left.returned } := rfl

theorem perform_recvFill (b : Build) (arq : Arq) (bytes : List UInt8) :
    perform b arq (.recvFill bytes) = { arq with
      recvFrame := (perform b arq (.recvFill bytes)).recvFrame
      needPoll := (perform b arq (.recvFill bytes)).needPoll } := by
  simp only [perform, backendRecvFill]
  split <;> rfl

theorem takeFrame_eq (arq : Arq) : takeFrame arq = { arq with
    sendFrame := (takeFrame arq).sendFrame
    needPoll := (takeFrame arq).needPoll } := by
  unfold takeFrame backendSendPtrGet backendSendPtrRelease
  by_cases hlen : arq.sendFrame.len = 0
  · simp [hlen]
  · simp [hlen]

/-- A turn in which nothing is written leaves no poll to do. -/
theorem Duplex.speak_needPoll (hfree : sendFrameFree p.left.arq)
    (hframe : pollFrame (pollWork b p.left.arq dt) = none) : (p.speak b dt).left.arq.needPoll = false := by
  have hlen : (perform b p.left.arq (.poll dt)).sendFrame.len = 0 := by
    simp only [perform, backendPoll, hframe]
    exact hfree.1
  rw [Duplex.speak_arq, takeFrame, backendSendPtrGet, if_neg (by rw [hlen]; simp)]
  rfl

end

/-! ## What a turn keeps -/

section

variable {b : Build} {cfg : Cfg} {p : Duplex} {qr ql rest : List (FrameHdr × List UInt8)} {dt : Nat}

theorem Wired.speak (h : Wired b cfg p qr ql) (hcfg : cfg.Symmetric) (dt : Nat)
    (hread : ∀ rest, Takes p.left.arq ql rest → ReadFits cfg.messageLengthInSegments p.left.arq) :
    ∃ rest, Takes p.left.arq ql rest ∧
      (∀ f, pollFrame (pollWork b p.left.arq dt) = some f → f.1.seqNum < seqSpace) ∧
      Wired b cfg (p.speak b dt) (qr ++ (pollFrame (pollWork b p.left.arq dt)).toList) rest := by
  obtain ⟨rest, htakes, hseq, hwired⟩ := h.poll hcfg dt hread
  obtain ⟨qr', -, hqr, hget⟩ := hwired.call hcfg (c := .get true) (by simp)
  obtain ⟨qr'', -, hqr', hrelease⟩ := hget.call hcfg (c := .release) (by simp)
  rw [hqr' (by simp), hqr (by simp)] at hrelease
  exact ⟨rest, htakes, hseq, hrelease⟩

theorem Wired.listen (h : Wired b cfg p qr ql) (hcfg : cfg.Symmetric) : Wired b cfg (p.listen b) qr ql := by
  obtain ⟨qr', -, hqr, hlisten⟩ := h.call hcfg (c := .deliver p.toLeft.length) (by simp)
  rw [hqr (by simp)] at hlisten
  exact hlisten

/-- The next poll of the left side reads the first frame that is on its way. -/
theorem Wired.heard (h : Wired b cfg p qr ql) (hfree : sendFrameFree p.right.arq) (hne : ql ≠ []) :
    pollRead (p.listen b).left.arq ≠ none := by
  have hfull : (p.listen b).left.arq.recvFrame.state = .fullFramePresent :=
    h.toLeft.deliver_all hfree.1 hne
  rw [pollRead_of_full hfull]
  simp

end

section

variable {b : Build} {d : Dims} {hcap : d.cap ≤ 2048} {M : Nat → List UInt8} {p : Duplex}
  {x y : Station} {data acks rest : List (FrameHdr × List UInt8)} {got : List (Nat × Nat)}
  {low read dt : Nat}

theorem Crossing.speak_sender (h : Crossing d hcap M p.left y data acks got low read)
    (hok : ReliableMove p.left (.poll dt)) (htakes : Takes p.left.arq acks rest)
    (htarget : ∀ j, j < p.left.arq.sendWnd.w.cap → (p.left.arq.sendWnd.w.msg j).fullAckVec ≠ 0)
    (hseq : ∀ f, pollFrame (pollWork b p.left.arq dt) = some f → f.1.seqNum < seqSpace) :
    Crossing d hcap M (p.speak b dt).left y (data ++ (pollFrame (pollWork b p.left.arq dt)).toList) rest
      got low read := by
  have hpolled := h.poll_sender hok.1.1 hok.2 htakes htarget hseq
  have hgot := hpolled.of_sender (b := b) (c := .sendPtrGet) (by simp) (by simp) (by simp)
  exact hgot.of_sender (b := b) (c := .sendPtrRelease) (by simp) (by simp) (by simp)

theorem Crossing.speak_receiver (hb : b.useConnections = false)
    (h : Crossing d hcap M x p.left data acks got low read) (hok : ReliableMove p.left (.poll dt))
    (htakes : Takes p.left.arq data rest) :
    ∃ got' low', Gains (d.recv hcap) M x.hist p.left.arq got got' low low' ∧
      Assembled (d.recv hcap) M ⟨pollReceived p.left.arq dt, got', p.left.returned⟩ read ∧
      Crossing d hcap M x (p.speak b dt).left rest
        (acks ++ (pollFrame (pollWork b p.left.arq dt)).toList) got' low' read := by
  obtain ⟨got', low', hchange, hwindow, hpolled⟩ := h.poll_receiver dt hb htakes hok.1.2
  have hgot := hpolled.of_receiver (b := b) (c := .sendPtrGet) (by simp) (by simp) (by simp)
  exact ⟨got', low', hchange, hwindow,
    hgot.of_receiver (b := b) (c := .sendPtrRelease) (by simp) (by simp) (by simp)⟩

theorem Crossing.listen_sender (h : Crossing d hcap M p.left y data acks got low read) :
    Crossing d hcap M (p.listen b).left y data acks got low read :=
  h.of_sender (b := b) (c := .recvFill _) (by simp) (by simp) (by simp)

theorem Crossing.listen_receiver (h : Crossing d hcap M x p.left data acks got low read) :
    Crossing d hcap M x (p.listen b).left data acks got low read :=
  h.of_receiver (b := b) (c := .recvFill _) (by simp) (by simp) (by simp)

end

end NanoArq
