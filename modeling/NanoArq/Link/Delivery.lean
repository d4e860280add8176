import NanoArq.Link.Pair
import NanoArq.Link.Transfer
import NanoArq.Poll.Resync

/-!
# In-order delivery

Two instances of one configuration are linked by wires that may lose frames. What the application of one
side has read is then the beginning of what the other side has accepted, in every run of calls in which

* no frame of a message handed over is taken by the receive window,
* no data is added to a message of which a segment was transmitted,
* the polls are clean: no ACK is handled for a message that awaits its flush, and the send pointer is not
  left in a message that is gone.

The invariant is that of each direction (`Transfer`), with the frames in flight (`InFlight`):
`Linked.move` for the moves of one side, and `delivery_exact`. `message_delivered_twice` is a run of one
message and a late ACK.
-/

namespace NanoArq

open Lib

/-! ## Runs -/

/-- An instance with its history, the bytes that it has accepted, and those that were read from it. -/
structure Station where
  hist : SendHist
  accepted : List UInt8
  returned : List UInt8

def Station.arq (s : Station) : Arq := s.hist.arq

def Station.start (arq : Arq) : Station := ⟨.start arq, [], []⟩

def stationStep (b : Build) (s : Station) (c : Call) : Station where
  hist := sendHistStep b s.hist c
  accepted :=
    match c with
    | .send data => s.accepted ++ data.take (arqSend s.arq data).2.2
    | _ => s.accepted
  returned :=
    match c with
    | .recv recvMax => s.returned ++ (arqRecv s.arq recvMax).2.2
    | _ => s.returned

/-- Two stations, and the bytes on the wires between them. -/
structure Duplex where
  left : Station
  right : Station
  toRight : List UInt8
  toLeft : List UInt8

def Duplex.pair (p : Duplex) : Pair := ⟨p.left.arq, p.right.arq, p.toRight, p.toLeft⟩

def Duplex.swap (p : Duplex) : Duplex := ⟨p.right, p.left, p.toLeft, p.toRight⟩

/-- A move of the left side. -/
def Duplex.move (b : Build) (p : Duplex) (c : LinkCall) : Duplex where
  left := stationStep b p.left (c.call p.pair)
  right := p.right
  toRight := (p.pair.move b c).toRight
  toLeft := (p.pair.move b c).toLeft

/-- The pair of stations as the side sees it, with itself on the left. -/
def Duplex.view (p : Duplex) : Side → Duplex
  | .left => p
  | .right => p.swap

/-- A move of either side. -/
def duplexStep (b : Build) (p : Duplex) (a : Side × LinkCall) : Duplex :=
  ((p.view a.1).move b a.2).view a.1

def Duplex.start (left right : Arq) : Duplex := ⟨.start left, .start right, [], []⟩

/-! ## The condition -/

/-- What a side must not do for the bytes to arrive once and in order. -/
def DeliveryMove (s : Station) : LinkCall → Prop
  | .poll dt => CleanPoll s.arq dt ∧
      ∀ f ∈ pollSegment s.arq, NotHandedOver s.arq.recvWnd f.hdr.seqNum
  | .send data => s.arq.needPoll = false → AddsToUntouched s.hist data
  | _ => True

instance (s : Station) : (c : LinkCall) → Decidable (DeliveryMove s c)
  | .poll dt => inferInstanceAs (Decidable (CleanPoll s.arq dt ∧ ∀ f ∈ pollSegment s.arq, _))
  | .send data => inferInstanceAs (Decidable (_ → AddsToUntouched s.hist data))
  | .connect | .flush | .recv _ | .get _ | .release | .deliver _ => inferInstanceAs (Decidable True)

/-- One configuration for both sides: send and receive windows of one power of two of messages, at most
`2048`, with at most twelve segments of at most `238` bytes each. -/
structure Cfg.Symmetric (cfg : Cfg) : Prop where
  window : cfg.recvWindowSizeInMessages = cfg.sendWindowSizeInMessages
  cap : ∃ k, k ≤ 11 ∧ cfg.sendWindowSizeInMessages = 2 ^ k
  segs : cfg.messageLengthInSegments ≤ 12
  segLen : cfg.segmentLengthInBytes ≤ 238

theorem Cfg.Symmetric.regular {cfg : Cfg} (h : cfg.Symmetric) : cfg.SendRegular :=
  ⟨h.cap, h.segs, h.segLen.trans (by decide)⟩

theorem Cfg.Symmetric.representable {cfg : Cfg} (h : cfg.Symmetric) : Representable cfg := by
  have hsmall : 0 < u16 cfg.sendWindowSizeInMessages := by
    obtain ⟨k, hk, hcap⟩ := h.cap
    have hle : cfg.sendWindowSizeInMessages ≤ 2048 := (pow_window h.cap).1
    rw [u16_of_lt (by omega), hcap]
    exact Nat.two_pow_pos k
  refine ⟨h.segs, Or.inl (h.segLen.trans (by decide)), hsmall, ?_⟩
  rw [h.window]
  exact hsmall

/-! ## One side -/

/-- What every call keeps of a side, whatever it receives. -/
structure Endpoint (b : Build) (cfg : Cfg) (arq : Arq) : Prop where
  run : ∃ seat arq₀, arqInit b cfg seat = .ok arq₀ ∧ Run (perform b) (fun _ _ => True) arq₀ arq
  ptr : arq.sendWndPtr.seq < seqSpace
  vecs : RecvFits cfg.messageLengthInSegments arq.recvWnd

section

variable {b : Build} {cfg : Cfg} {arq : Arq} {dt : Nat}

theorem Endpoint.sound (h : Endpoint b cfg arq) (hcfg : cfg.Symmetric) : SideSound cfg arq := by
  obtain ⟨seat, arq₀, hinit, hrun⟩ := h.run
  exact .of_run hinit hcfg.representable hrun h.ptr h.vecs

theorem Endpoint.target (h : Endpoint b cfg arq) (hcfg : cfg.Symmetric) {j : Nat}
    (hj : j < arq.sendWnd.w.cap) : (arq.sendWnd.w.msg j).fullAckVec ≠ 0 := by
  obtain ⟨seat, arq₀, hinit, hrun⟩ := h.run
  obtain ⟨hsegs, hsegLen, -, -⟩ := checkCfg_pos (arqInit_check hinit)
  obtain ⟨seat', hsend⟩ := instance_sendRun hinit hrun
  exact sendRun_target hsegs hsegLen hcfg.representable.segLen_lt hsend j hj

theorem Endpoint.frame_cap (h : Endpoint b cfg arq) (hcfg : cfg.Symmetric) :
    arq.recvFrame.cap = frameLen cfg.segmentLengthInBytes := by
  obtain ⟨seat, arq₀, hinit, hrun⟩ := h.run
  refine hrun.invariant (I := fun a => a.recvFrame.cap = frameLen cfg.segmentLengthInBytes)
    (arqInit_recvFrame hinit hcfg.segLen).2.1 ?_
  intro arq c hcap _
  rw [perform_frameCap, hcap]

theorem Endpoint.perform (h : Endpoint b cfg arq) (hcfg : cfg.Symmetric) (c : Call)
    (hread : ∀ dt, c = .poll dt → ReadFits cfg.messageLengthInSegments arq) :
    Endpoint b cfg (perform b arq c) := by
  obtain ⟨hptr, hvecs, -⟩ := (h.sound hcfg).perform (b := b) hcfg.representable c hread
  obtain ⟨seat, arq₀, hinit, hrun⟩ := h.run
  exact ⟨⟨seat, arq₀, hinit, hrun.next c trivial⟩, hptr, hvecs⟩

/-- The frame that a poll writes has a number of the sequence space and fits the peer's receive frame. -/
theorem Endpoint.frame (h : Endpoint b cfg arq) (hcfg : cfg.Symmetric)
    (hread : ReadFits cfg.messageLengthInSegments arq) {p : FrameHdr × List UInt8}
    (hframe : pollFrame (pollWork b arq dt) = some p) :
    p.1.seqNum < seqSpace ∧ Receivable (frameLen cfg.segmentLengthInBytes) p := by
  obtain ⟨hbounds, hfits⟩ := (h.sound hcfg).frame hcfg.representable hread hframe
  have hlen := @pollFrame_length b arq dt p.1 p.2 hframe
  have hsegLen : p.1.segLen ≤ cfg.segmentLengthInBytes := by
    have hle := @pollFrame_segLen b arq dt p.1 p.2 hframe
    rw [((h.sound hcfg).timers hcfg.representable dt).bounded.dims.segLen_eq] at hle
    exact hle.trans (Nat.mod_le _ _)
  refine ⟨hbounds.seqNum, ⟨hfits.hdr, hlen, hsegLen.trans hcfg.segLen⟩, ?_⟩
  rw [frameLen_eq, frameLen_eq]
  omega

end

/-! ## One direction -/

/-- The direction from the station `x` to the station `y`, with the frames in flight there and back. -/
def Across (d : Dims) (hcap : d.cap ≤ 2048) (x y : Station) (data acks : List (FrameHdr × List UInt8)) :
    Prop :=
  ∃ past got low told read, Transfer d hcap x.hist x.accepted ⟨y.arq.recvWnd, got, y.returned⟩ data acks
    past low told read

section

variable {b : Build} {d : Dims} {hcap : d.cap ≤ 2048} {x y : Station}
  {data acks : List (FrameHdr × List UInt8)} {c : Call} {dt : Nat}

@[simp] theorem stationStep_arq (b : Build) (s : Station) (c : Call) :
    (stationStep b s c).arq = perform b s.arq c := sendHistStep_arq b s.hist c

theorem Across.sender_call (h : Across d hcap x y data acks) (hpoll : ∀ dt, c ≠ .poll dt)
    (hreset : c ≠ .reset)
    (hsend : ∀ xs, c = .send xs → x.arq.needPoll = false → AddsToUntouched x.hist xs) :
    Across d hcap (stationStep b x c) y data acks := by
  obtain ⟨past, got, low, told, read, ht⟩ := h
  have hother : (∀ xs, c ≠ .send xs) → c ≠ .flush → sendHistStep b x.hist c =
      { x.hist with arq := perform b x.hist.arq c } →
        Transfer d hcap (sendHistStep b x.hist c) x.accepted ⟨y.arq.recvWnd, got, y.returned⟩ data acks
          past low told read := by
    intro hsend hflush hstep
    obtain ⟨hwnd, -⟩ := perform_sendWnd b x.hist.arq hsend hflush hpoll hreset
    refine ht.of_sender (ht.sender.step b c ?_) ?_ ?_ ?_ ?_ ?_
    · cases c <;> first | trivial | exact absurd rfl (hpoll _)
    · rw [hstep]
    · rw [hstep]
    · rw [hstep]
    · rw [sendHistStep_arq, hwnd]
    · intro j
      rw [sendHistStep_arq, hwnd]
  refine ⟨past, got, low, told, read, ?_⟩
  cases c with
  | send xs => exact ht.send b (hsend xs rfl)
  | flush => exact ht.flush b
  | poll dt => exact absurd rfl (hpoll dt)
  | reset => exact absurd rfl hreset
  | recv | sendPtrGet | sendPtrRelease | recvFill | connect => exact hother (by simp) (by simp) rfl

theorem Across.receiver_call (h : Across d hcap x y data acks) (hpoll : ∀ dt, c ≠ .poll dt)
    (hreset : c ≠ .reset) : Across d hcap x (stationStep b y c) data acks := by
  obtain ⟨past, got, low, told, read, ht⟩ := h
  have hother : (∀ n, c ≠ .recv n) → (stationStep b y c).returned = y.returned →
      Across d hcap x (stationStep b y c) data acks := by
    intro hrecv hreturned
    refine ⟨past, got, low, told, read, ?_⟩
    rw [stationStep_arq, perform_recvWnd b y.arq hrecv hpoll hreset, hreturned]
    exact ht
  cases c with
  | recv recvMax =>
    unfold Across
    rw [stationStep_arq]
    simp only [stationStep, perform, arqRecv]
    split
    · rw [List.append_nil]
      exact ⟨past, got, low, told, read, ht⟩
    · obtain ⟨read', hread⟩ := ht.recv recvMax
      exact ⟨past, got, low, told, read', hread⟩
  | poll dt => exact absurd rfl (hpoll dt)
  | reset => exact absurd rfl hreset
  | send | flush | sendPtrGet | sendPtrRelease | recvFill | connect => exact hother (by simp) rfl

end

/-! ## Both directions -/

/-- The invariant of a linked pair with the frames `qr` and `ql` in flight. -/
structure Linked (b : Build) (cfg : Cfg) (d : Dims) (hcap : d.cap ≤ 2048) (p : Duplex)
    (qr ql : List (FrameHdr × List UInt8)) : Prop where
  left : Endpoint b cfg p.left.arq
  right : Endpoint b cfg p.right.arq
  toRight : InFlight cfg.checksum p.left.arq.sendFrame p.toRight p.right.arq.recvFrame qr
  toLeft : InFlight cfg.checksum p.right.arq.sendFrame p.toLeft p.left.arq.recvFrame ql
  across : Across d hcap p.left p.right qr ql
  back : Across d hcap p.right p.left ql qr

section

variable {b : Build} {cfg : Cfg} {d : Dims} {hcap : d.cap ≤ 2048} {p : Duplex}
  {qr ql : List (FrameHdr × List UInt8)} {c : LinkCall} {dt : Nat}

theorem Linked.swap (h : Linked b cfg d hcap p qr ql) : Linked b cfg d hcap p.swap ql qr :=
  ⟨h.right, h.left, h.toLeft, h.toRight, h.back, h.across⟩

/-- The poll of the left side takes the first frame that is in flight to it. -/
theorem Linked.takes (h : Linked b cfg d hcap p qr ql) (hcfg : cfg.Symmetric) (dt : Nat) :
    ∃ ql', Takes p.left.arq ql ql' ∧ InFlight cfg.checksum p.right.arq.sendFrame p.toLeft
      (perform b p.left.arq (.poll dt)).recvFrame ql' := by
  obtain ⟨hnone, hflight⟩ | ⟨f, rest, r, rfl, hread, hout, hflight⟩ :=
    h.toLeft.read b dt (congrArg Cfg.checksum (h.left.sound hcfg).cfg_eq)
  · exact ⟨ql, Or.inl ⟨hnone, rfl⟩, hflight⟩
  · obtain ⟨hd, seg⟩ := f
    obtain ⟨hresult, hrest⟩ := Prod.mk.inj hout
    obtain ⟨rfl, rfl⟩ := Prod.mk.inj hrest
    exact ⟨rest, Or.inr ⟨r, rfl, hread, hresult⟩, hflight⟩

theorem Linked.poll (hb : b.useConnections = false) (hcfg : cfg.Symmetric)
    (hd : cfg.Has d cfg.sendWindowSizeInMessages) (h : Linked b cfg d hcap p qr ql)
    (hok : DeliveryMove p.left (.poll dt)) :
    ∃ qr' ql', Linked b cfg d hcap (p.move b (.poll dt)) qr' ql' := by
  obtain ⟨ql', htakes, htoLeft⟩ := h.takes hcfg dt
  obtain ⟨past, got, low, told, read, hback⟩ := h.back
  have hread : ReadFits cfg.messageLengthInSegments p.left.arq := by
    rw [hd.segs]
    exact hback.read_fits htakes
  have hframe := fun f hf => @Endpoint.frame b cfg p.left.arq dt h.left hcfg hread f hf
  obtain ⟨past', got', low', told', read', hacross⟩ := h.across
  refine ⟨qr ++ (pollFrame (pollWork b p.left.arq dt)).toList, ql', ?_, h.right, ?_, ?_, ?_, ?_⟩
  · change Endpoint b cfg (stationStep b p.left (.poll dt)).arq
    rw [stationStep_arq]
    exact h.left.perform hcfg (.poll dt) fun _ _ => hread
  · change InFlight cfg.checksum (stationStep b p.left (.poll dt)).arq.sendFrame p.toRight _ _
    rw [stationStep_arq]
    refine h.toRight.write b dt (congrArg Cfg.checksum (h.left.sound hcfg).cfg_eq) ?_ ?_
    · intro hne
      by_contra hbusy
      exact hne (pollFrame_busy hbusy)
    · intro f hf
      rw [h.right.frame_cap hcfg]
      exact (hframe f hf).2
  · change InFlight cfg.checksum _ p.toLeft (stationStep b p.left (.poll dt)).arq.recvFrame _
    rw [stationStep_arq]
    exact htoLeft
  · obtain ⟨past'', told'', hsent⟩ := hacross.poll_sender b hok.1 htakes
      (fun j hj => h.left.target hcfg hj) (fun f hf => (hframe f hf).1)
    exact ⟨past'', got', low', told'', read', hsent⟩
  · obtain ⟨got'', low'', hreceived⟩ := hback.poll_receiver b hb rfl htakes hok.2
    refine ⟨past, got'', low'', told, read, ?_⟩
    change Transfer d hcap p.right.hist p.right.accepted
      ⟨(stationStep b p.left (.poll dt)).arq.recvWnd, got'', p.left.returned⟩ _ _ _ _ _ _
    rw [stationStep_arq]
    exact hreceived

theorem Linked.move (hb : b.useConnections = false) (hcfg : cfg.Symmetric)
    (hd : cfg.Has d cfg.sendWindowSizeInMessages) (h : Linked b cfg d hcap p qr ql)
    (hok : DeliveryMove p.left c) : ∃ qr' ql', Linked b cfg d hcap (p.move b c) qr' ql' := by
  by_cases hpoll : ∃ dt, c = .poll dt
  · obtain ⟨dt, rfl⟩ := hpoll
    exact h.poll hb hcfg hd hok
  have hne : ∀ dt, c ≠ .poll dt := fun dt hc => hpoll ⟨dt, hc⟩
  have hcall : (∀ dt, c.call p.pair ≠ .poll dt) ∧ c.call p.pair ≠ .reset := by
    cases c with
    | poll dt => exact absurd rfl (hne dt)
    | connect | send | flush | recv | get | release | deliver =>
      exact ⟨by simp [LinkCall.call], by simp [LinkCall.call]⟩
  have hsend : ∀ xs, c.call p.pair = .send xs → p.left.arq.needPoll = false →
      AddsToUntouched p.left.hist xs := by
    intro xs hxs
    cases c with
    | send data =>
      obtain rfl : data = xs := Call.send.inj hxs
      exact hok
    | connect | poll | flush | recv | get | release | deliver => cases hxs
  obtain ⟨qr', hsub, -, htoRight, htoLeft⟩ := Pair.move_inFlight b (p := p.pair) hne h.toRight h.toLeft
  have hleft : (p.move b c).left.arq = (p.pair.move b c).left := by
    rw [Pair.move_left]
    exact stationStep_arq b p.left (c.call p.pair)
  refine ⟨qr', ql, ?_, h.right, ?_, ?_, ?_, ?_⟩
  · rw [hleft, Pair.move_left]
    exact h.left.perform hcfg _ fun dt hdt => absurd hdt (hcall.1 dt)
  · rw [hleft]
    exact htoRight
  · rw [hleft]
    exact htoLeft
  · obtain ⟨past, got, low, told, read, ht⟩ := h.across.sender_call hcall.1 hcall.2 hsend
    exact ⟨past, got, low, told, read, ht.sublist hsub (.refl ql)⟩
  · obtain ⟨past, got, low, told, read, ht⟩ := h.back.receiver_call hcall.1 hcall.2
    exact ⟨past, got, low, told, read, ht.sublist (.refl ql) hsub⟩

end

/-! ## The theorem -/

theorem Linked.start {b : Build} {cfg : Cfg} {d : Dims} {hcap : d.cap ≤ 2048} (hcfg : cfg.Symmetric)
    (hd : cfg.Has d cfg.sendWindowSizeInMessages) {seat arq₀ : Side → Arq}
    (hinit : ∀ x, arqInit b cfg (seat x) = .ok (arq₀ x)) :
    Linked b cfg d hcap (.start (arq₀ .left) (arq₀ .right)) [] [] := by
  have hok : ∀ x, arq₀ x = rstArq b (initArq { seat x with cfg := cfg }) := fun x => arqInit_ok (hinit x)
  have hside : ∀ x, Endpoint b cfg (arq₀ x) := by
    intro x
    refine ⟨⟨seat x, arq₀ x, hinit x, .start⟩, ?_, ?_⟩
    · rw [hok x]
      exact show 0 < seqSpace by decide
    · rw [hok x]
      exact recvWndRst_fits _
  have hflight : ∀ x y, InFlight cfg.checksum (arq₀ x).sendFrame [] (arq₀ y).recvFrame [] := by
    intro x y
    refine .start ?_ ?_ (arqInit_recvFrame (hinit y) hcfg.segLen).1
    · rw [hok x]
      rfl
    · rw [hok x]
      simp [rstArq, sendFrameRst]
  have hacross : ∀ x y, Across d hcap (.start (arq₀ x)) (.start (arq₀ y)) [] [] := fun x y =>
    ⟨[], [], 0, 0, 0, .start (hinit x) (hinit y) hd hcfg.window⟩
  exact ⟨hside .left, hside .right, hflight .left .right, hflight .right .left, hacross .left .right,
    hacross .right .left⟩

/-- **In-order delivery, once**: in every run of moves that meet the condition, what was read from one
side is the beginning of what the other side has accepted. -/
theorem delivery_exact (b : Build) (hb : b.useConnections = false) (cfg : Cfg) (hcfg : cfg.Symmetric)
    (seat arq₀ : Side → Arq) (hinit : ∀ x, arqInit b cfg (seat x) = .ok (arq₀ x)) (p : Duplex)
    (hrun : Run (duplexStep b) (fun p a => DeliveryMove (p.view a.1).left a.2)
      (.start (arq₀ .left) (arq₀ .right)) p) (x : Side) :
    (p.view x).right.returned <+: (p.view x).left.accepted := by
  obtain ⟨d, hd⟩ := hcfg.regular.dims (hinit .left)
  have hcap : d.cap ≤ 2048 := by
    rw [← hd.cap]
    exact (pow_window hcfg.cap).1
  have hlinked : ∃ qr ql, Linked b cfg d hcap p qr ql := by
    refine hrun.invariant (I := fun p => ∃ qr ql, Linked b cfg d hcap p qr ql)
      ⟨[], [], .start hcfg hd hinit⟩ ?_
    rintro p ⟨y, c⟩ ⟨qr, ql, h⟩ hok
    cases y with
    | left => exact h.move hb hcfg hd hok
    | right =>
      obtain ⟨ql', qr', h'⟩ := h.swap.move hb hcfg hd hok
      exact ⟨qr', ql', h'.swap⟩
  obtain ⟨qr, ql, h⟩ := hlinked
  cases x with
  | left =>
    obtain ⟨past, got, low, told, read, ht⟩ := h.across
    exact ht.delivered
  | right =>
    obtain ⟨past, got, low, told, read, ht⟩ := h.back
    exact ht.delivered

/-- Moves of two sides with messages of `segs` segments of one byte, and windows of `cap` messages. -/
def deliverySample (segs cap : Nat) (as : List (Side × LinkCall)) : Duplex :=
  as.foldl (duplexStep ⟨false⟩)
    (.start (freshArq ⟨false⟩ (smallCfg 1 segs cap)) (freshArq ⟨false⟩ (smallCfg 1 segs cap)))

/-- A message of one byte crosses and is read, and its ACK leaves. -/
def deliveredMoves : List (Side × LinkCall) :=
  [(.left, .send [7]), (.left, .poll 0), (.left, .get true), (.left, .release), (.left, .poll 0),
    (.right, .deliver 19), (.right, .poll 0), (.right, .recv 1), (.right, .get true), (.right, .release)]

theorem delivery_exact_sample :
    (deliverySample 1 1 deliveredMoves).right.returned = [7] ∧
      ((deliverySample 1 1 deliveredMoves).view .left).right.returned <+:
        ((deliverySample 1 1 deliveredMoves).view .left).left.accepted :=
  ⟨by decide +kernel, delivery_exact ⟨false⟩ rfl (smallCfg 1 1 1)
    ⟨rfl, ⟨0, by decide, rfl⟩, by decide, by decide⟩ (fun _ => zeroSeat _) _
    (fun _ => arqInit_zeroSeat rfl) _ (.exec (by decide +kernel)) .left⟩

/-- A byte that is added to a message in transmission is skipped. -/
example :
    (deliverySample 2 2
      [(.left, .send [7]), (.left, .flush), (.left, .poll 0), (.left, .get true), (.left, .release),
        (.left, .poll 0), (.left, .send [8]), (.right, .deliver 19), (.right, .poll 0), (.right, .poll 4),
        (.right, .recv 1), (.right, .get true), (.right, .release), (.left, .deliver 18), (.left, .poll 0),
        (.left, .send [9]), (.left, .flush), (.left, .poll 0), (.left, .get true), (.left, .release),
        (.right, .deliver 19), (.right, .poll 0), (.right, .recv 1)]).right.returned = [7, 9] := by
  decide +kernel

/-- So is one that the send pointer passes in the slot of a message that is gone. -/
example :
    (deliverySample 2 1
      [(.left, .send [7]), (.left, .flush), (.left, .poll 0), (.left, .get true), (.right, .deliver 19),
        (.right, .poll 0), (.right, .get true), (.right, .release), (.left, .deliver 18), (.left, .poll 0),
        (.left, .send [8, 9]), (.left, .release), (.left, .poll 0), (.left, .get true), (.left, .release),
        (.right, .deliver 19), (.right, .poll 0), (.right, .recv 2)]).right.returned = [7, 9] := by
  decide +kernel

/-- The ACK is late, so that the message is retransmitted and read again. -/
def lateAckMoves : List (Side × LinkCall) :=
  deliveredMoves ++ [(.left, .poll 5), (.left, .get true), (.left, .release), (.right, .deliver 19),
    (.right, .poll 0), (.right, .recv 1)]

theorem message_delivered_twice :
    (smallCfg 1 1 1).Symmetric ∧
      arqInit ⟨false⟩ (smallCfg 1 1 1) (zeroSeat (smallCfg 1 1 1)) = .ok (freshArq ⟨false⟩ (smallCfg 1 1 1)) ∧
      Run (duplexStep ⟨false⟩) (fun _ _ => True)
        (.start (freshArq ⟨false⟩ (smallCfg 1 1 1)) (freshArq ⟨false⟩ (smallCfg 1 1 1)))
        (deliverySample 1 1 lateAckMoves) ∧
      (deliverySample 1 1 lateAckMoves).left.accepted = [7] ∧
      (deliverySample 1 1 lateAckMoves).right.returned = [7, 7] ∧
      ¬ (deliverySample 1 1 lateAckMoves).right.returned <+: (deliverySample 1 1 lateAckMoves).left.accepted := by
  have haccepted : (deliverySample 1 1 lateAckMoves).left.accepted = [7] := by decide +kernel
  have hreturned : (deliverySample 1 1 lateAckMoves).right.returned = [7, 7] := by decide +kernel
  refine ⟨⟨rfl, ⟨0, by decide, rfl⟩, by decide, by decide⟩, arqInit_zeroSeat rfl, .exec ?_, haccepted,
    hreturned, ?_⟩
  · simp [Guarded, lateAckMoves, deliveredMoves]
  · rw [haccepted, hreturned]
    decide

end NanoArq
